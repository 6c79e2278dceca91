import Usbfluxd.Model.Loop

/-!
# The threads that check silent remotes

`usbmux_remote_get_fds` starts a thread for every TCP remote that was silent
for ten seconds. The thread reads the descriptor of the remote, tries to
connect to the same host, and closes one of two descriptors: its own new
connection, or the remote's, so that the main loop finds that one invalid. It
takes no lock and keeps nothing alive: the main loop goes on in the meantime.

A state is the daemon, the threads that were started and the descriptors the
kernel has given out to either. What a descriptor belongs to is settled when
it is given out; what the program closes it closes by number.
-/

namespace Usbfluxd

open Lib

/-- What an open descriptor belongs to. -/
inductive FdUser where
  | client (c : ClientPtr)
  | remote (r : RemotePtr)
  /-- The test connection of a thread. -/
  | check (i : Nat)
deriving DecidableEq

/-- Where in `check_remote_func` a thread is. -/
inductive CheckState where
  | started
  /-- `remote->fd` was read, and `socket_connect_timeout` is running. -/
  | testing (openfd : Nat)
  /-- The test connection is made, or has failed. -/
  | tested (openfd : Nat) (checkfd : Option Nat)
  | finished
deriving DecidableEq

structure CheckThread where
  remote : RemotePtr
  /-- How its test connection is going to end. -/
  fails : Bool
  state : CheckState

structure Checked where
  daemon : Daemon
  threads : List CheckThread
  fds : Nat → Option FdUser

/-! ## Starting threads -/

/-- The remote is checked when the poll set is built at this time. -/
def RemoteMux.toCheck (y : RemoteMux) (now : Nat) : Bool :=
  ¬ y.isUnix ∧ now - y.lastActive > 10000 ∧ y.host.isSome ∧ y.port ≠ 0

/-- The threads that `usbmux_remote_get_fds` starts. `created` says for which
remotes `pthread_create` succeeds, and how the test is going to end. -/
def startChecks (s : Core) (now : Nat) (created : RemotePtr → Option Bool) : List CheckThread :=
  s.remoteList.elems.filterMap fun r => (s.remotes r).bind fun y =>
    if y.toCheck now then
      (created r).map fun fails => { remote := r, fails := fails, state := .started }
    else none

/-! ## Descriptors -/

/-- The descriptor of the connection that an event accepts or opens. -/
def Event.opens : Event → Option Nat
  | .accept cfd => cfd
  | .client _ _ sys | .addRemote _ _ sys | .mdnsAdd _ _ _ sys => sys.connect
  | .remote .. | .getFds _ | .mdnsRemove .. => none

/-- The descriptors of the objects that are new. -/
def openedFds (s s' : Core) : List (Nat × FdUser) :=
  (s'.clientList.elems.filterMap fun c =>
      if (s.clients c).isNone then (s'.clients c).map fun x => (x.fd, .client c) else none) ++
    s'.remoteList.elems.filterMap fun r =>
      if (s.remotes r).isNone then (s'.remotes r).map fun y => (y.fd, .remote r) else none

/-- The descriptors of the objects that are gone. -/
def closedFds (s s' : Core) : List Nat :=
  (s.clientList.elems.filterMap fun c =>
      if (s'.clients c).isNone then (s.clients c).map MuxClient.fd else none) ++
    s.remoteList.elems.filterMap fun r =>
      if (s'.remotes r).isNone then (s.remotes r).map RemoteMux.fd else none

/-- An event opens its connection before it closes any. -/
def daemonFds (s s' : Core) (fds : Nat → Option FdUser) (n : Nat) : Option FdUser :=
  if n ∈ closedFds s s' then none else ((openedFds s s').lookup n).or (fds n)

/-- The kernel's choice of a descriptor when the process has others open
besides: the lowest free number. -/
def LowestFreeFd (others : List Nat) (fds : Nat → Option FdUser) (fd : Nat) : Prop :=
  (fd ∉ others ∧ fds fd = none) ∧ ∀ n < fd, n ∈ others ∨ (fds n).isSome

instance {others : List Nat} {fds : Nat → Option FdUser} {fd : Nat} :
    Decidable (LowestFreeFd others fds fd) :=
  inferInstanceAs (Decidable (_ ∧ _))

/-! ## Steps -/

inductive CheckEvent where
  /-- The daemon handles an event. -/
  | daemon (e : Event) (created : RemotePtr → Option Bool)
  /-- A thread reads `remote->fd`. `freed` is what is found there when the
  remote is gone. -/
  | read (i : Nat) (freed : Nat)
  /-- The test connection ends; `checkfd` is its descriptor if it was made. -/
  | finish (i : Nat) (checkfd : Nat)
  | close (i : Nat)

namespace CheckThread

def read (s : Core) (freed : Nat) (t : CheckThread) : CheckThread :=
  { t with state := .testing (((s.remotes t.remote).map RemoteMux.fd).getD freed) }

def finish (checkfd : Nat) (t : CheckThread) : CheckThread :=
  match t.state with
  | .testing openfd =>
      { t with state := .tested openfd (if t.fails then none else some checkfd) }
  | _ => t

/-- The descriptor that `check_remote_func` closes. -/
def closes (t : CheckThread) : Option Nat :=
  match t.state with
  | .tested openfd none => some openfd
  | .tested _ (some checkfd) => some checkfd
  | _ => none

def close (t : CheckThread) : CheckThread := { t with state := .finished }

end CheckThread

namespace Checked

def enabled (W : Checked) : CheckEvent → Bool
  | .daemon .. => true
  | .read i _ => W.threads[i]?.any fun t => t.state = .started
  | .finish i _ => W.threads[i]?.any fun t => match t.state with
      | .testing _ => true
      | _ => false
  | .close i => W.threads[i]?.any fun t => t.closes.isSome

/-- The descriptor that the kernel is asked for. -/
def opens (W : Checked) : CheckEvent → Option Nat
  | .daemon e _ => e.opens
  | .finish i checkfd => W.threads[i]?.bind fun t => if t.fails then none else some checkfd
  | .read .. | .close _ => none

/-- The threads that an event starts. -/
def starts (W : Checked) : CheckEvent → List CheckThread
  | .daemon (.getFds now) created => startChecks W.daemon.toCore now created
  | _ => []

end Checked

def checkStep (plat : Platform) (W : Checked) : CheckEvent → Except Fault Checked
  | .daemon e created => do
      let s ← step plat W.daemon e
      pure {
        daemon := s
        threads := W.threads ++ W.starts (.daemon e created)
        fds := daemonFds W.daemon.toCore s.toCore W.fds }
  | .read i freed =>
      pure { W with threads := W.threads.modify i (.read W.daemon.toCore freed) }
  | .finish i checkfd =>
      pure { W with
        threads := W.threads.modify i (.finish checkfd)
        fds := fun n => if W.opens (.finish i checkfd) = some n then some (.check i) else W.fds n }
  | .close i =>
      pure { W with
        threads := W.threads.modify i .close
        fds := fun n => if W.threads[i]?.bind CheckThread.closes = some n then none else W.fds n }

/-! ## Runs -/

/-- Descriptors are what the kernel hands out. Which others are open may
change at any time. -/
def CheckKernel (W : Checked) (ev : CheckEvent) : Prop :=
  ∀ fd, W.opens ev = some fd → ∃ others, LowestFreeFd others W.fds fd

/-- The same with certain others open. -/
def CheckKernelBeside (others : List Nat) (W : Checked) (ev : CheckEvent) : Prop :=
  ∀ fd ∈ (W.opens ev).toList, LowestFreeFd others W.fds fd

instance {others : List Nat} {W : Checked} {ev : CheckEvent} :
    Decidable (CheckKernelBeside others W ev) :=
  inferInstanceAs (Decidable (∀ fd ∈ _, _))

theorem CheckKernelBeside.kernel {others : List Nat} {W : Checked} {ev : CheckEvent}
    (h : CheckKernelBeside others W ev) : CheckKernel W ev :=
  fun fd hfd => ⟨others, h fd (Option.mem_toList.mpr hfd)⟩

/-- The daemon starts without a thread. -/
def CheckStart (plat : Platform) (W : Checked) : Prop :=
  ∃ sys, usbmuxRemoteInit plat sys = .ok W.daemon ∧ W.threads = [] ∧
    W.fds = daemonFds emptyDaemon.toCore W.daemon.toCore fun _ => none

def CheckedStep (plat : Platform) (C : Checked → CheckEvent → Prop) (W W' : Checked) : Prop :=
  ∃ ev, W.enabled ev = true ∧ CheckKernel W ev ∧ C W ev ∧ checkStep plat W ev = .ok W'

/-- A state reached by events of the daemon and steps of the threads in any
order, all of which meet a condition. -/
def CheckedBy (plat : Platform) (C : Checked → CheckEvent → Prop) (W : Checked) : Prop :=
  ∃ W₀, CheckStart plat W₀ ∧ Relation.ReflTransGen (CheckedStep plat C) W₀ W

section Reach

variable {plat : Platform} {C : Checked → CheckEvent → Prop} {W W' : Checked} {ev : CheckEvent}

theorem CheckedBy.step (h : CheckedBy plat C W) (hen : W.enabled ev = true)
    (hk : CheckKernel W ev) (hC : C W ev) (hs : checkStep plat W ev = .ok W') :
    CheckedBy plat C W' := by
  obtain ⟨W₀, h₀, hrun⟩ := h
  exact ⟨W₀, h₀, hrun.tail ⟨ev, hen, hk, hC, hs⟩⟩

/-- The daemon of such a run is in a reachable state. -/
theorem CheckedBy.daemon (h : CheckedBy plat C W) : Reachable plat W.daemon := by
  obtain ⟨W₀, ⟨sys, hinit, -, -⟩, hrun⟩ := h
  have h₀ : Reachable plat W₀.daemon := ⟨sys, W₀.daemon, hinit, Relation.ReflTransGen.refl⟩
  refine invariant_of_step (P := fun W => Reachable plat W.daemon) ?_ hrun h₀
  rintro W W' ⟨ev, _, _, _, hs⟩ hr
  cases ev with
  | daemon e created =>
      obtain ⟨s, he, hW⟩ := bind_eq_ok.mp hs
      cases hW
      exact hr.step trivial he
  | read | finish | close =>
      cases hs
      exact hr

/-- The invariant rule with what is known of every reachable daemon at
hand. -/
theorem checkedBy_induct {P : Checked → Prop} (hstart : ∀ {W}, CheckStart plat W → P W)
    (hstep : ∀ {W W' ev}, Reachable plat W.daemon → P W → W.enabled ev = true →
      CheckKernel W ev → C W ev → checkStep plat W ev = .ok W' → P W')
    (h : CheckedBy plat C W) : P W := by
  obtain ⟨W₀, h₀, hrun⟩ := h
  refine (invariant_of_step (R := CheckedStep plat C)
    (P := fun W => CheckedBy plat C W ∧ P W) ?_ hrun ⟨⟨W₀, h₀, .refl⟩, hstart h₀⟩).2
  rintro W W' ⟨ev, hen, hk, hC, hs⟩ ⟨hr, hP⟩
  exact ⟨hr.step hen hk hC hs, hstep hr.daemon hP hen hk hC hs⟩

end Reach

end Usbfluxd
