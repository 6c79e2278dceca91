import Usbfluxd.Lib.Refine
import Usbfluxd.Model.MainLoop

/-!
# The main loop with its arrays

`struct fdlist` as it is in memory: the owners and the `pollfd`s in two arrays
that grow together, of which the cells behind `count` hold what they held in
an earlier iteration. The pointers are not checked for `NULL`, so a failed
allocation is a crash at the next store.

`main_loop` fills the list, has `poll` write to it, and walks it by index.
Nothing else is different from the loop whose poll set is a list of entries
with the objects they belong to.
-/

namespace Usbfluxd

open Lib

/-! ## `struct fdlist` -/

/-- `enum fdowner`. -/
inductive FdKind where
  | listen | client | usb | usbmux | remote
deriving DecidableEq

/-- `struct pollfd`. -/
structure PollCell where
  fd : Nat
  events : PollEvents
  revents : PollEvents
deriving DecidableEq

structure FdList where
  count : Nat
  capacity : Nat
  owners : Cells FdKind
  fds : Cells PollCell

/-- What `malloc` and `realloc` come back with: whether there is memory for so
many bytes, and what is in new cells. -/
structure Heap where
  succeeds : Nat → Bool := fun _ => true
  owner : Nat → FdKind := fun _ => .listen
  cell : Nat → PollCell := fun _ => ⟨0, {}, {}⟩

/-- `sizeof(enum fdowner)`. -/
def fdownerSize : Nat := 4

/-- `sizeof(struct pollfd)`. -/
def pollfdSize : Nat := 8

/-- Give both arrays the current capacity. -/
def FdList.realloc (heap : Heap) (list : FdList) : FdList :=
  { list with
    owners := list.owners.realloc (heap.succeeds (fdownerSize * list.capacity)) heap.owner
      list.capacity
    fds := list.fds.realloc (heap.succeeds (pollfdSize * list.capacity)) heap.cell
      list.capacity }

def fdlistCreate (heap : Heap) : FdList :=
  { count := 0, capacity := 4, owners := none, fds := none : FdList }.realloc heap

/-- The enlarging in `fdlist_add`. -/
def FdList.enlarge (heap : Heap) (list : FdList) : Except Fault FdList :=
  if list.count = list.capacity then
    if list.capacity * 2 < 2 ^ 31 then
      .ok ({ list with capacity := list.capacity * 2 }.realloc heap)
    else .error .intOverflow
  else .ok list

def fdlistAdd (heap : Heap) (list : FdList) (owner : FdKind) (fd : Nat) (events : PollEvents) :
    Except Fault FdList := do
  let list ← list.enlarge heap
  let owners ← list.owners.store Fault.nullBuffer .outOfBounds list.count owner
  let fds ← list.fds.store Fault.nullBuffer .outOfBounds list.count ⟨fd, events, {}⟩
  pure { list with owners := owners, fds := fds, count := list.count + 1 }

def fdlistReset (list : FdList) : FdList := { list with count := 0 }

def fdlistFree (_ : FdList) : FdList := { count := 0, capacity := 0, owners := none, fds := none }

/-- `poll` writes what is ready, as far as it was requested. -/
def FdList.poll (list : FdList) (ready : Nat → PollEvents) : FdList :=
  { list with fds := list.fds.rewrite list.count fun i p =>
      { p with revents := p.events.reported (ready i) } }

/-! ## Filling it -/

def addClientFd (heap : Heap) (s : Daemon) (list : FdList) (c : ClientPtr) :
    Except Fault FdList := do
  let x ← s.client c
  fdlistAdd heap list .client x.fd x.events

def clientGetFdsInto (heap : Heap) (s : Daemon) (list : FdList) :
    Except Fault (Daemon × FdList) := do
  let s ← s.lockClientList
  let list ← slotLoop (fun _ i => s.clientList.slot i) (addClientFd heap s)
    (List.range s.clientList.capacity) list
  pure (s.unlockClientList, list)

/-- What `usbmux_remote_get_fds` does to a TCP remote that was silent for ten
seconds. -/
def remoteSeenActive (s : Daemon) (now : Nat) (r : RemotePtr) (x : RemoteMux) :
    Except Fault Daemon :=
  if ¬ x.isUnix ∧ now - x.lastActive > 10000 then
    s.modifyRemote r fun x => { x with lastActive := now }
  else pure s

def addRemoteFd (heap : Heap) (now : Nat) (p : Daemon × FdList) (r : RemotePtr) :
    Except Fault (Daemon × FdList) := do
  let x ← p.1.remote r
  let s ← remoteSeenActive p.1 now r x
  let list ← fdlistAdd heap p.2 .remote x.fd x.events
  pure (s, list)

/-- `usbmux_remote_get_fds` as a whole. -/
def usbmuxRemoteGetFdsInto (heap : Heap) (s : Daemon) (now : Nat) (list : FdList) :
    Except Fault (Daemon × FdList) := do
  let s ← s.lockRemoteList
  let p ← slotLoop (fun (p : Daemon × FdList) i => p.1.remoteList.slot i) (addRemoteFd heap now)
    (List.range s.remoteList.capacity) (s, list)
  pure (p.1.unlockRemoteList, p.2)

/-! ## The loop -/

/-- `main_loop`: `i` is the index of the entry it comes to next. -/
structure FdLoop where
  daemon : Daemon
  phase : LoopPhase
  pollfds : FdList
  i : Nat
  listenfd : Nat

inductive FdLoopEvent where
  /-- A new iteration, up to `client_get_fds`. -/
  | getClientFds (heap : Heap)
  /-- `usbmux_remote_get_fds` and `poll`, with what is ready by index. -/
  | poll (heap : Heap) (now : Nat) (ready : Nat → PollEvents)
  /-- The next index. `cfd` is what `accept` returns. -/
  | dispatch (cfd : Option Nat) (sys : Sys)
  | mdnsAdd (serviceName hostName : String) (port : UInt16) (sys : Sys)
  | mdnsRemove (serviceName : String) (sys : Sys)

namespace FdLoop

/-- What can happen where the main thread is. -/
def enabled (K : FdLoop) : FdLoopEvent → Bool
  | .getClientFds _ => K.phase = .dispatching ∧ K.pollfds.count ≤ K.i
  | .poll _ _ _ => K.phase = .collecting
  | .dispatch _ _ => K.phase = .dispatching ∧ K.i < K.pollfds.count
  | .mdnsAdd .. | .mdnsRemove .. => true

/-- What the main loop does with an entry that has something to report. The
other kinds of owners are never added. -/
def serve (plat : Platform) (s : Daemon) (owner : FdKind) (p : PollCell) (cfd : Option Nat)
    (sys : Sys) : Except Fault Daemon :=
  match owner with
  | .listen => step plat s (.accept cfd)
  | .client => step plat s (.client p.fd p.revents sys)
  | .remote => step plat s (.remote p.fd p.revents sys)
  | .usb | .usbmux => .ok s

/-- One turn of the inner loop. -/
def dispatch (plat : Platform) (K : FdLoop) (cfd : Option Nat) (sys : Sys) :
    Except Fault FdLoop := do
  let p ← K.pollfds.fds.load Fault.nullBuffer .outOfBounds K.i
  if p.revents = {} then pure { K with i := K.i + 1 }
  else
    let owner ← K.pollfds.owners.load Fault.nullBuffer .outOfBounds K.i
    let s ← serve plat K.daemon owner p cfd sys
    if owner = .listen ∧ cfd = none then
      pure { K with daemon := s, phase := .left, pollfds := fdlistFree K.pollfds }
    else pure { K with daemon := s, i := K.i + 1 }

end FdLoop

def fdLoopStep (plat : Platform) (K : FdLoop) : FdLoopEvent → Except Fault FdLoop
  | .getClientFds heap => do
      let list ← fdlistAdd heap (fdlistReset K.pollfds) .listen K.listenfd { pollin := true }
      let (s, list) ← clientGetFdsInto heap K.daemon list
      pure { K with daemon := s, phase := .collecting, pollfds := list }
  | .poll heap now ready => do
      let (s, list) ← usbmuxRemoteGetFdsInto heap K.daemon now K.pollfds
      pure { K with daemon := s, phase := .dispatching, pollfds := list.poll ready, i := 0 }
  | .dispatch cfd sys => K.dispatch plat cfd sys
  | .mdnsAdd serviceName hostName port sys => do
      let s ← step plat K.daemon (.mdnsAdd serviceName hostName port sys)
      pure { K with daemon := s }
  | .mdnsRemove serviceName sys => do
      let s ← step plat K.daemon (.mdnsRemove serviceName sys)
      pure { K with daemon := s }

/-! ## Runs -/

namespace FdLoop

/-- The kind of the entry that is next. -/
def nextKind (K : FdLoop) : Option FdKind := (K.pollfds.owners.getD [])[K.i]?

/-- The descriptor of the connection that an event accepts, if it accepts
one. -/
def accepted (K : FdLoop) : FdLoopEvent → Option Nat
  | .dispatch cfd _ => if K.nextKind = some .listen then cfd else none
  | _ => none

/-- The descriptor of the connection that an event opens, if it opens one. -/
def connected (K : FdLoop) : FdLoopEvent → Option Nat
  | .dispatch _ sys => if K.nextKind = some .client then sys.connect else none
  | .mdnsAdd _ _ _ sys => sys.connect
  | _ => none

end FdLoop

/-- Descriptors are what the kernel hands out. -/
def FdKernel (K : FdLoop) (ev : FdLoopEvent) : Prop :=
  ∀ fd, K.accepted ev = some fd ∨ K.connected ev = some fd →
    ∃ others, LowestFree others K.daemon.toCore fd

/-- `main_loop` is entered and has created its list. -/
inductive FdLoopStart (plat : Platform) : FdLoop → Prop where
  | create {L : LoopState} (heap : Heap) (h : LoopStart plat L) :
      FdLoopStart plat ⟨L.daemon, .dispatching, fdlistCreate heap, 0, L.listenfd⟩

def FdLoopStep (plat : Platform) (K K' : FdLoop) : Prop :=
  ∃ ev, K.enabled ev = true ∧ FdKernel K ev ∧ fdLoopStep plat K ev = .ok K'

/-- A state of the loop that is reached with the arrays in memory. -/
def FdLoopReachable (plat : Platform) (K : FdLoop) : Prop :=
  ∃ K₀, FdLoopStart plat K₀ ∧ Relation.ReflTransGen (FdLoopStep plat) K₀ K

end Usbfluxd
