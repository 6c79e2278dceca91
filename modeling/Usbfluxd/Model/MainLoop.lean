import Usbfluxd.Model.Loop

/-!
# The main loop

`main_loop` with its poll set. An iteration collects descriptors (the
listening socket, the clients, the remotes), waits in `poll` and hands every
entry that has something to report to the function of its owner, by descriptor
number. While the entries are handled, connections are closed and opened, so
an entry may be older than the object that has its number.

What the handlers do is a step of the daemon; what is added here is the list
of entries and where in it the main thread is. The mDNS thread adds and
removes services at any time, also between the two halves of the poll set. The
threads that check a silent remote are not part of these runs.
-/

namespace Usbfluxd

open Lib

/-! ## The poll set -/

/-- `enum fdowner`, and whose descriptor it is. `fdlist` keeps the kind only:
nothing in the loop reads the pointer. -/
inductive FdOwner where
  | listen
  | client (c : ClientPtr)
  | remote (r : RemotePtr)
deriving DecidableEq

/-- An entry of `struct fdlist`. -/
structure PollFd where
  owner : FdOwner
  fd : Nat
  events : PollEvents
  revents : PollEvents := {}
deriving DecidableEq

/-- `poll` reports of what is ready only what was requested, and errors. -/
def PollEvents.reported (requested ready : PollEvents) : PollEvents :=
  { ready with
    pollin := requested.pollin && ready.pollin
    pollout := requested.pollout && ready.pollout }

/-- What `client_get_fds` adds. -/
def clientEntries (s : Core) : List PollFd :=
  s.clientList.elems.filterMap fun c => (s.clients c).map fun x =>
    { owner := .client c, fd := x.fd, events := x.events }

/-- What `usbmux_remote_get_fds` adds. -/
def remoteEntries (s : Core) : List PollFd :=
  s.remoteList.elems.filterMap fun r => (s.remotes r).map fun y =>
    { owner := .remote r, fd := y.fd, events := y.events }

/-- What the main loop does with an entry. -/
def PollFd.event (p : PollFd) (cfd : Option Nat) (sys : Sys) : Option Event :=
  if p.revents = {} then none
  else match p.owner with
    | .listen => some (.accept cfd)
    | .client _ => some (.client p.fd p.revents sys)
    | .remote _ => some (.remote p.fd p.revents sys)

/-! ## Iterations -/

inductive LoopPhase where
  /-- The clients are in the poll set, the remotes are not. -/
  | collecting
  /-- `poll` has returned. -/
  | dispatching
  /-- The loop has returned, because a connection could not be accepted. -/
  | left
deriving DecidableEq

structure LoopState where
  daemon : Daemon
  phase : LoopPhase
  /-- The poll set that is being built, or what is left of it. -/
  fds : List PollFd
  listenfd : Nat

inductive LoopEvent where
  /-- A new iteration, up to `client_get_fds`. -/
  | getClientFds
  /-- `usbmux_remote_get_fds` and `poll`, with what is ready. -/
  | poll (now : Nat) (ready : PollFd → PollEvents)
  /-- The next entry of the poll set. `cfd` is what `accept` returns. -/
  | dispatch (cfd : Option Nat) (sys : Sys)
  | mdnsAdd (serviceName hostName : String) (port : UInt16) (sys : Sys)
  | mdnsRemove (serviceName : String) (sys : Sys)

namespace LoopState

/-- What can happen where the main thread is. -/
def enabled (L : LoopState) : LoopEvent → Bool
  | .getClientFds => L.phase = .dispatching ∧ L.fds.isEmpty
  | .poll _ _ => L.phase = .collecting
  | .dispatch _ _ => L.phase = .dispatching ∧ ¬ L.fds.isEmpty
  | .mdnsAdd .. | .mdnsRemove .. => true

/-- What happens to the daemon. -/
def event (L : LoopState) : LoopEvent → Option Event
  | .getClientFds => none
  | .poll now _ => some (.getFds now)
  | .dispatch cfd sys => L.fds.head?.bind fun p => p.event cfd sys
  | .mdnsAdd serviceName hostName port sys => some (.mdnsAdd serviceName hostName port sys)
  | .mdnsRemove serviceName sys => some (.mdnsRemove serviceName sys)

/-- The main thread is through with an entry; it leaves the loop when
`client_accept` fails. -/
def afterDispatch (L : LoopState) (cfd : Option Nat) : LoopPhase :=
  if L.fds.head?.any fun p => p.owner = .listen ∧ p.revents ≠ {} ∧ cfd = none then .left
  else L.phase

/-- The loop's own state after an event that took the daemon to `s`. -/
def next (L : LoopState) (s : Daemon) : LoopEvent → LoopState
  | .getClientFds =>
      { L with
        daemon := s
        phase := .collecting
        fds := { owner := .listen, fd := L.listenfd, events := { pollin := true } } ::
          clientEntries s.toCore }
  | .poll _ ready =>
      { L with
        daemon := s
        phase := .dispatching
        fds := (L.fds ++ remoteEntries s.toCore).map fun p =>
          { p with revents := p.events.reported (ready p) } }
  | .dispatch cfd _ =>
      { L with daemon := s, phase := L.afterDispatch cfd, fds := L.fds.tail }
  | .mdnsAdd .. | .mdnsRemove .. => { L with daemon := s }

end LoopState

def LoopState.handle (plat : Platform) (L : LoopState) (ev : LoopEvent) : Except Fault Daemon :=
  match L.event ev with
  | none => .ok L.daemon
  | some e => step plat L.daemon e

def loopStep (plat : Platform) (L : LoopState) (ev : LoopEvent) : Except Fault LoopState := do
  let s ← L.handle plat ev
  pure (L.next s ev)

/-! ## Descriptors -/

/-- The descriptors of the clients and the remotes. -/
def usedFds (s : Core) : List Nat :=
  s.clientList.elems.filterMap (fun c => (s.clients c).map MuxClient.fd) ++
    s.remoteList.elems.filterMap (fun r => (s.remotes r).map RemoteMux.fd)

/-- The kernel's choice of a descriptor when the process has others open
besides: the lowest free number. -/
def LowestFree (others : List Nat) (s : Core) (fd : Nat) : Prop :=
  fd ∉ others ++ usedFds s ∧ ∀ n < fd, n ∈ others ++ usedFds s

instance {others : List Nat} {s : Core} {fd : Nat} : Decidable (LowestFree others s fd) :=
  inferInstanceAs (Decidable (_ ∧ _))

namespace LoopState

/-- The descriptor of the connection that an event accepts, if it accepts
one. -/
def accepted (L : LoopState) : LoopEvent → Option Nat
  | .dispatch cfd _ => L.fds.head?.bind fun p => if p.owner = .listen then cfd else none
  | _ => none

/-- The descriptor of the connection that an event opens, if it opens one. -/
def connected (L : LoopState) : LoopEvent → Option Nat
  | .dispatch _ sys => L.fds.head?.bind fun p => match p.owner with
      | .client _ => sys.connect
      | _ => none
  | .mdnsAdd _ _ _ sys => sys.connect
  | _ => none

end LoopState

/-- Descriptors are what the kernel hands out. Which others are open may
change at any time. -/
def Kernel (L : LoopState) (ev : LoopEvent) : Prop :=
  ∀ fd, L.accepted ev = some fd ∨ L.connected ev = some fd →
    ∃ others, LowestFree others L.daemon.toCore fd

/-- The same with certain others open. -/
def KernelBeside (others : List Nat) (L : LoopState) (ev : LoopEvent) : Prop :=
  ∀ fd ∈ (L.accepted ev).toList ++ (L.connected ev).toList,
    LowestFree others L.daemon.toCore fd

instance {others : List Nat} {L : LoopState} {ev : LoopEvent} :
    Decidable (KernelBeside others L ev) :=
  inferInstanceAs (Decidable (∀ fd ∈ _, _))

theorem KernelBeside.kernel {others : List Nat} {L : LoopState} {ev : LoopEvent}
    (h : KernelBeside others L ev) : Kernel L ev := by
  intro fd hfd
  refine ⟨others, h fd (List.mem_append.mpr (hfd.imp ?_ ?_))⟩
  · exact Option.mem_toList.mpr
  · exact Option.mem_toList.mpr

/-! ## Runs -/

/-- The loop is entered after `usbmux_remote_init` and, with the `-r` option,
`usbmux_remote_add_remote`. -/
inductive LoopStart (plat : Platform) : LoopState → Prop where
  | init {sys : Sys} {s : Daemon} {listenfd : Nat} (h : usbmuxRemoteInit plat sys = .ok s) :
      LoopStart plat ⟨s, .dispatching, [], listenfd⟩
  | addRemote {sys sys' : Sys} {s s' : Daemon} {hostName : String} {port : UInt16}
      {listenfd : Nat} (h : usbmuxRemoteInit plat sys = .ok s)
      (hfd : ∀ fd, sys'.connect = some fd → ∃ others, LowestFree others s.toCore fd)
      (hadd : step plat s (.addRemote hostName port sys') = .ok s') :
      LoopStart plat ⟨s', .dispatching, [], listenfd⟩

def LoopStep (plat : Platform) (C : LoopState → LoopEvent → Prop) (L L' : LoopState) : Prop :=
  ∃ ev, L.enabled ev = true ∧ Kernel L ev ∧ C L ev ∧ loopStep plat L ev = .ok L'

/-- A state of the loop reached by events that all meet a condition. -/
def LoopReachableBy (plat : Platform) (C : LoopState → LoopEvent → Prop) (L : LoopState) : Prop :=
  ∃ L₀, LoopStart plat L₀ ∧ Relation.ReflTransGen (LoopStep plat C) L₀ L

/-- A reachable state of the loop: any clients and remotes, any readiness. -/
def LoopReachable (plat : Platform) (L : LoopState) : Prop :=
  LoopReachableBy plat (fun _ _ => True) L

/-- The main thread is between two iterations. -/
def LoopState.BetweenIterations (L : LoopState) : Prop := L.phase = .dispatching ∧ L.fds = []

section Reach

variable {plat : Platform} {C : LoopState → LoopEvent → Prop} {L L' : LoopState} {ev : LoopEvent}

/-- The daemon does nothing, or one event. -/
theorem loopStep_daemon (h : loopStep plat L ev = .ok L') :
    (∃ s, L' = L.next s ev ∧ L'.daemon = s) ∧
      ((L.event ev = none ∧ L'.daemon = L.daemon) ∨
        ∃ e, L.event ev = some e ∧ step plat L.daemon e = .ok L'.daemon) := by
  obtain ⟨s, hs, hL⟩ := bind_eq_ok.mp h
  cases hL
  rw [LoopState.handle] at hs
  have hdaemon : (L.next s ev).daemon = s := by cases ev <;> rfl
  refine ⟨⟨s, rfl, hdaemon⟩, ?_⟩
  rw [hdaemon]
  cases hev : L.event ev with
  | none =>
      rw [hev] at hs
      cases hs
      exact Or.inl ⟨rfl, rfl⟩
  | some e =>
      rw [hev] at hs
      exact Or.inr ⟨e, rfl, hs⟩

/-- The invariant rule for runs of the loop. -/
theorem loopReachableBy_inv {P : LoopState → Prop} (hstart : ∀ {L}, LoopStart plat L → P L)
    (hstep : ∀ {L L' ev}, P L → L.enabled ev = true → Kernel L ev → C L ev →
      loopStep plat L ev = .ok L' → P L')
    (h : LoopReachableBy plat C L) : P L := by
  obtain ⟨L₀, h₀, hrun⟩ := h
  refine invariant_of_step ?_ hrun (hstart h₀)
  intro a b hab ha
  obtain ⟨ev, hen, hk, hC, hs⟩ := hab
  exact hstep ha hen hk hC hs

theorem LoopReachableBy.reachable (h : LoopReachableBy plat C L) : LoopReachable plat L := by
  obtain ⟨L₀, h₀, hrun⟩ := h
  refine ⟨L₀, h₀, Relation.ReflTransGen.mono ?_ _ _ hrun⟩
  intro a b hab
  obtain ⟨ev, hen, hk, _, hs⟩ := hab
  exact ⟨ev, hen, hk, trivial, hs⟩

/-- The daemon of a run of the loop is in a reachable state. -/
theorem LoopReachable.daemon (h : LoopReachable plat L) : Reachable plat L.daemon := by
  refine loopReachableBy_inv (P := fun L => Reachable plat L.daemon) (fun h₀ => ?_)
    (fun hr _ _ _ hs => ?_) h
  · cases h₀ with
    | init h => exact ⟨_, _, h, .refl⟩
    | addRemote h _ hadd => exact ⟨_, _, h, .single ⟨_, trivial, hadd⟩⟩
  · rcases (loopStep_daemon hs).2 with ⟨_, heq⟩ | ⟨e, _, he⟩
    · rw [heq]
      exact hr
    · exact hr.step trivial he

theorem LoopReachableBy.step (h : LoopReachableBy plat C L) (hen : L.enabled ev = true)
    (hk : Kernel L ev) (hC : C L ev) (hs : loopStep plat L ev = .ok L') :
    LoopReachableBy plat C L' := by
  obtain ⟨L₀, h₀, hrun⟩ := h
  exact ⟨L₀, h₀, hrun.tail ⟨ev, hen, hk, hC, hs⟩⟩

/-- The invariant rule with what is known of every reachable state at hand. -/
theorem loopReachableBy_induct {P : LoopState → Prop} (hstart : ∀ {L}, LoopStart plat L → P L)
    (hstep : ∀ {L L' ev}, LoopReachable plat L → P L → L.enabled ev = true → Kernel L ev →
      C L ev → loopStep plat L ev = .ok L' → P L')
    (h : LoopReachableBy plat C L) : P L := by
  refine (loopReachableBy_inv (P := fun L => LoopReachable plat L ∧ P L)
    (fun {L} h₀ => ⟨⟨L, h₀, .refl⟩, hstart h₀⟩) ?_ h).2
  intro L L' ev hL hen hk hC hs
  exact ⟨hL.1.step hen hk trivial hs, hstep hL.1 hL.2 hen hk hC hs⟩

end Reach

end Usbfluxd
