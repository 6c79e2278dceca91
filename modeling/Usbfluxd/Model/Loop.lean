import Usbfluxd.Model.Handle

/-!
# Runs of the daemon

The initial state, one event of `main_loop` or of the mDNS thread, and runs.
An event comes with the results of the system calls made while it is handled,
so a step is a function; a run is any sequence of events, in any order and
with any results. Which descriptors are ready is part of the event, and so is
the descriptor a new connection gets: the runs of the model include those
`poll` and the kernel would not produce.
-/

namespace Usbfluxd

open Lib

/-- The globals before `usbmux_remote_init`. -/
def emptyDaemon : Daemon :=
  { clients := fun _ => none
    remotes := fun _ => none
    clientList := Collection.init
    remoteList := Collection.init
    clientNumber := 0
    remoteDeviceList := OMap.empty
    remoteIdMap := fun _ => 0
    nextClient := 0
    nextRemote := 0
    log := []
    remoteListLocked := false
    clientListLocked := false }

/-- `client_init` and `usbmux_remote_init`: the local listener is there when
the renamed socket can be connected to. -/
def usbmuxRemoteInit (plat : Platform) (sys : Sys) : Except Fault Daemon :=
  match remoteMuxNewWithUnixSocket sys with
  | none => .ok emptyDaemon
  | some x => do
      let s ← emptyDaemon.lockRemoteList
      let r : RemotePtr := ⟨s.nextRemote⟩
      let s := s.update fun s =>
        { s.addRemote { x with id := 0, isListener := true } with
          remoteIdMap := setRemoteIdUsed s.remoteIdMap 0 true }
      let (_, s) ← remoteSendListenPacket plat sys s r
      pure s.unlockRemoteList

/-- The part of `usbmux_remote_get_fds` that changes a remote: a TCP remote
that was silent for ten seconds is checked, and counts as active again. -/
def usbmuxRemoteGetFds (s : Daemon) (now : Nat) : Except Fault Daemon := do
  let s ← s.lockRemoteList
  let s ← forRemotes (fun s r => do
    let x ← s.remote r
    if ¬ x.isUnix ∧ now - x.lastActive > 10000 then
      s.modifyRemote r fun x => { x with lastActive := now }
    else pure s) s
  pure s.unlockRemoteList

/-- The `FOREACH` of `client_get_fds`. -/
def clientFds (s : Daemon) : List ClientPtr → Except Fault (List (Nat × PollEvents))
  | [] => .ok []
  | c :: rest => do
      let x ← s.client c
      let fds ← clientFds s rest
      pure ((x.fd, x.events) :: fds)

def clientGetFds (s : Daemon) : Except Fault (List (Nat × PollEvents) × Daemon) := do
  let s ← s.lockClientList
  let fds ← clientFds s s.clientList.elems
  pure (fds, s.unlockClientList)

/-- `client_shutdown` up to freeing the list: it walks the list without its
mutex. -/
def clientShutdown (s : Daemon) : Except Fault Daemon :=
  slotLoop (fun s i => s.clientList.slot i) clientClose (List.range s.clientList.capacity) s

/-- `usbmux_remote_shutdown` once the mDNS thread is gone, up to freeing the
list. -/
def usbmuxRemoteShutdown (plat : Platform) (sys : Sys) (s : Daemon) : Except Fault Daemon := do
  let s ← s.lockRemoteList
  let s ← forRemotes (usbmuxRemoteDispose plat sys) s
  pure s.unlockRemoteList

/-- What can happen next. -/
inductive Event where
  /-- A connection on the listening socket; `none` when `accept` fails. -/
  | accept (cfd : Option Nat)
  /-- `client_process`. -/
  | client (fd : Nat) (revents : PollEvents) (sys : Sys)
  /-- `usbmux_remote_process`. -/
  | remote (fd : Nat) (revents : PollEvents) (sys : Sys)
  /-- The poll set is built at this time. -/
  | getFds (now : Nat)
  /-- The `-r` option: a remote added before the main loop. -/
  | addRemote (hostName : String) (port : UInt16) (sys : Sys)
  /-- The mDNS thread found a service. -/
  | mdnsAdd (serviceName hostName : String) (port : UInt16) (sys : Sys)
  /-- The mDNS thread lost a service. -/
  | mdnsRemove (serviceName : String) (sys : Sys)

/-- The event is the main thread's. -/
def Event.singleThreaded : Event → Prop
  | .mdnsAdd .. | .mdnsRemove .. => False
  | _ => True

def step (plat : Platform) (s : Daemon) : Event → Except Fault Daemon
  | .accept cfd => clientAccept s cfd
  | .client fd revents sys => clientProcess plat sys s fd revents
  | .remote fd revents sys => usbmuxRemoteProcess plat sys s fd revents
  | .getFds now => usbmuxRemoteGetFds s now
  | .addRemote hostName port sys => do
      let (_, s) ← usbmuxRemoteAddRemote plat sys s hostName port
      pure s
  | .mdnsAdd serviceName hostName port sys => do
      let (_, s) ← remoteMuxServiceAdd plat sys s serviceName hostName port
      pure s
  | .mdnsRemove serviceName sys => do
      let (_, s) ← remoteMuxServiceRemove plat sys s (some serviceName) none 0
      pure s

/-- One event that meets a condition and is handled without a fault. -/
def Step (plat : Platform) (C : Daemon → Event → Prop) (s s' : Daemon) : Prop :=
  ∃ e, C s e ∧ step plat s e = .ok s'

/-- A run from one state to another. -/
def Steps (plat : Platform) (C : Daemon → Event → Prop) : Daemon → Daemon → Prop :=
  Relation.ReflTransGen (Step plat C)

/-- A state reached from an initial one by events that all meet a condition. -/
def ReachableBy (plat : Platform) (C : Daemon → Event → Prop) (s : Daemon) : Prop :=
  ∃ sys s₀, usbmuxRemoteInit plat sys = .ok s₀ ∧ Steps plat C s₀ s

/-- A reachable state: any events. -/
def Reachable (plat : Platform) (s : Daemon) : Prop :=
  ReachableBy plat (fun _ _ => True) s

/-- The invariant rule for runs. -/
theorem reachableBy_inv {plat : Platform} {C : Daemon → Event → Prop} {P : Daemon → Prop}
    (hinit : ∀ {sys s}, usbmuxRemoteInit plat sys = .ok s → P s)
    (hstep : ∀ {s s' e}, P s → C s e → step plat s e = .ok s' → P s')
    {s : Daemon} (h : ReachableBy plat C s) : P s := by
  obtain ⟨sys, s₀, h₀, hrun⟩ := h
  refine invariant_of_step ?_ hrun (hinit h₀)
  rintro a b ⟨e, hC, he⟩ ha
  exact hstep ha hC he

theorem ReachableBy.step {plat : Platform} {C : Daemon → Event → Prop} {s s' : Daemon} {e : Event}
    (h : ReachableBy plat C s) (hC : C s e) (hs : Usbfluxd.step plat s e = .ok s') :
    ReachableBy plat C s' := by
  obtain ⟨sys, s₀, h₀, hrun⟩ := h
  exact ⟨sys, s₀, h₀, hrun.tail ⟨e, hC, hs⟩⟩

theorem ReachableBy.reachable {plat : Platform} {C : Daemon → Event → Prop} {s : Daemon}
    (h : ReachableBy plat C s) : Reachable plat s := by
  obtain ⟨sys, s₀, h₀, hrun⟩ := h
  have hmono : ∀ a b, Step plat C a b → Step plat (fun _ _ => True) a b := by
    rintro a b ⟨e, _, he⟩
    exact ⟨e, trivial, he⟩
  exact ⟨sys, s₀, h₀, Relation.ReflTransGen.mono hmono _ _ hrun⟩

/-- The invariant rule with what is known of every reachable state at hand. -/
theorem reachableBy_induct {plat : Platform} {C : Daemon → Event → Prop} {P : Daemon → Prop}
    (hinit : ∀ {sys s}, usbmuxRemoteInit plat sys = .ok s → P s)
    (hstep : ∀ {s s' e}, Reachable plat s → P s → C s e → step plat s e = .ok s' → P s')
    {s : Daemon} (h : ReachableBy plat C s) : P s := by
  refine (reachableBy_inv (P := fun s => Reachable plat s ∧ P s) (fun {sys s} h₀ => ?_) ?_ h).2
  · exact ⟨⟨sys, s, h₀, .refl⟩, hinit h₀⟩
  · rintro s s' e ⟨hr, hs⟩ hC he
    exact ⟨hr.step trivial he, hstep hr hs hC he⟩

end Usbfluxd
