import Usbfluxd.Alike.Watch
import Usbfluxd.Proofs.Runs

/-!
# The list mutexes

Every operation of the main thread and of the mDNS thread gives back both
list mutexes, never locks one it holds, and never asks for
`remote_list_mutex` while it holds `client_list_mutex`. The model ends a run
with a fault where an operation would do the latter two, so the statement is
that these faults do not occur, in any state and with any results of the
system calls.

The argument is the pass over the functions in `Alike`, with a watch that
demands nothing of the buffers. The one place where it depends on data is
`usbmux_remote_dispose`: it closes a client with `remote_list_mutex` held,
and gets away with it because it clears the client's link first
(`disposeClient_agree`).
-/

namespace Usbfluxd

open Lib

/-- The watch that demands nothing. -/
def Watch.none : Watch where
  client _ _ := True
  remote _ _ := True
  log _ := True
  bound := 0
  free _ := trivial
  fresh _ := trivial
  emit _ _ := trivial

/-- Neither list mutex is held. -/
def Daemon.Unlocked (s : Daemon) : Prop :=
  s.remoteListLocked = false ∧ s.clientListLocked = false

theorem Daemon.Unlocked.watched {s : Daemon} (h : s.Unlocked) : Watched Watch.none false false s :=
  ⟨fun _ _ _ => trivial, fun _ _ _ => trivial, trivial, Nat.zero_le _, h.1, h.2⟩

theorem Keeps.unlocked {m : Except Fault Daemon} (h : Keeps (Watched Watch.none false false) m) :
    Keeps Daemon.Unlocked m :=
  Post.imp h (fun _ hf => hf) fun _ ha => ⟨ha.remoteLock, ha.clientLock⟩

/-- An event gives back what it takes. -/
theorem step_unlocked {plat : Platform} {s : Daemon} (e : Event) (h : s.Unlocked) :
    Keeps Daemon.Unlocked (step plat s e) :=
  Keeps.unlocked (step_keeps (fun _ => trivial) (fun _ => ⟨fun _ _ => trivial, fun _ => trivial,
    fun _ => trivial⟩) (fun _ => ⟨fun _ _ => trivial, fun _ => trivial, fun _ => trivial,
    fun _ => trivial⟩) h.watched)

/-! ## Operations -/

/-- Everything the two threads do: the events of a run, building the poll set
and shutting down. -/
inductive Operation where
  | event (e : Event)
  | clientGetFds
  | clientShutdown
  | remoteShutdown (sys : Sys)

def Operation.run (plat : Platform) (s : Daemon) : Operation → Except Fault Daemon
  | .event e => step plat s e
  | .clientGetFds => do
      let (_, s) ← Usbfluxd.clientGetFds s
      pure s
  | .clientShutdown => Usbfluxd.clientShutdown s
  | .remoteShutdown sys => usbmuxRemoteShutdown plat sys s

theorem Operation.run_unlocked {plat : Platform} {s : Daemon} (op : Operation)
    (h : s.Unlocked) : Keeps Daemon.Unlocked (op.run plat s) := by
  have hw := h.watched
  cases op with
  | event e => exact step_unlocked e h
  | clientGetFds => exact Keeps.unlocked (Post.bind (clientGetFds_keeps hw) fun _ hp => hp)
  | clientShutdown => exact Keeps.unlocked (clientShutdown_keeps hw)
  | remoteShutdown sys => exact Keeps.unlocked (usbmuxRemoteShutdown_keeps hw)

/-- Both mutexes are free between the events of a run. -/
theorem reachable_unlocked {plat : Platform} {C : Daemon → Event → Prop} {s : Daemon}
    (h : ReachableBy plat C s) : s.Unlocked := by
  refine reachableBy_inv (P := Daemon.Unlocked) ?_ ?_ h
  · intro sys s h₀
    have hinit : Keeps Daemon.Unlocked (usbmuxRemoteInit plat sys) :=
      Keeps.unlocked (usbmuxRemoteInit_keeps (W := Watch.none) rfl trivial)
    exact hinit.of_ok h₀
  · intro s s' e hs _ hstep
    exact (step_unlocked e hs).of_ok hstep

/-- The discipline of the list mutexes, for every operation that starts
without them: it returns without them, it never locks one that it holds, and
it never requests `remote_list_mutex` while it holds `client_list_mutex`. -/
theorem operation_lockDiscipline (plat : Platform) (s : Daemon) (op : Operation)
    (hremote : s.remoteListLocked = false) (hclient : s.clientListLocked = false) :
    (∀ s', op.run plat s = .ok s' →
      s'.remoteListLocked = false ∧ s'.clientListLocked = false) ∧
    op.run plat s ≠ .error .relock ∧ op.run plat s ≠ .error .lockOrder := by
  have h : Keeps Daemon.Unlocked (op.run plat s) := op.run_unlocked ⟨hremote, hclient⟩
  refine ⟨fun s' hs => h.of_ok hs, fun he => ?_, fun he => ?_⟩
  · exact absurd (h.of_error he) (by decide)
  · exact absurd (h.of_error he) (by decide)

/-- Removing the only listener, which disposes of it with the mutex held. -/
theorem operation_lockDiscipline_remove :
    ∃ s s', Reachable (platformWith []) s ∧ s.remoteList.elems = [⟨0⟩] ∧
      Operation.run (platformWith []) s (.event (.mdnsRemove "mux" {})) = .ok s' ∧
      s'.remoteListLocked = false ∧ s'.clientListLocked = false := by
  let op : Operation := .event (.mdnsRemove "mux" {})
  let test : Daemon → Bool := fun s => decide (s.remoteList.elems = [⟨0⟩]) &&
    !s.remoteListLocked && !s.clientListLocked && (op.run (platformWith []) s).toBool
  obtain ⟨s, hrun, htest⟩ : ∃ s, runFrom (platformWith []) {} (fun _ _ => true)
      [.mdnsAdd "mux" "host" 27015 { connect := some 5 }] = some s ∧ test s = true :=
    exists_of_runFrom (by decide +kernel)
  simp only [test, Bool.and_eq_true, decide_eq_true_eq, Bool.not_eq_true'] at htest
  obtain ⟨⟨⟨hlist, hremote⟩, hclient⟩, hop⟩ := htest
  obtain ⟨s', hs'⟩ : ∃ s', op.run (platformWith []) s = .ok s' := by
    cases hres : op.run (platformWith []) s with
    | ok s' => exact ⟨s', rfl⟩
    | error f =>
        rw [hres] at hop
        cases hop
  exact ⟨s, s', reachable_of_runFrom hrun, hlist, hs',
    (operation_lockDiscipline (platformWith []) s op hremote hclient).1 s' hs'⟩

end Usbfluxd
