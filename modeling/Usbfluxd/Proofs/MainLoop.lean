import Usbfluxd.Model.MainLoop
import Usbfluxd.Moves.Shape
import Usbfluxd.Proofs.Runs

/-!
# Descriptors in a run of the loop

A step of the loop is a chain of moves in which new connections have numbers
that no object of their kind has, so the numbers of the clients are pairwise
different, and so are those of the remotes. What else is known of the new
numbers, and whether a client may be told that it is connected, is left open:
`Allow.fds` carries it from the event to the moves.
-/

namespace Usbfluxd

open Lib

/-- New connections have new numbers, of which more may be known, and nothing
else is restricted but the notification of a client. -/
def Allow.fds (accept remote : Nat → Prop) (notify : Prop) : Allow :=
  { Allow.all with
    acceptOk := fun s fd => (∀ c x, s.clients c = some x → x.fd ≠ fd) ∧ accept fd
    remoteFdOk := fun s fd => (∀ r y, s.remotes r = some y → y.fd ≠ fd) ∧ remote fd
    remoteOk := notify }

section Free

variable {s : Core} {others : List Nat} {fd : Nat}

theorem LowestFree.client (hwf : WF s) (h : LowestFree others s fd) :
    ∀ c x, s.clients c = some x → x.fd ≠ fd := by
  intro c x hx hfd
  refine h.1 (List.mem_append_right _ (List.mem_append_left _ ?_))
  refine List.mem_filterMap.mpr ⟨c, (hwf.clients c).mpr ?_, ?_⟩
  · rw [hx]
    rfl
  · rw [hx, Option.map_some, hfd]

theorem LowestFree.remote (hwf : WF s) (h : LowestFree others s fd) :
    ∀ r y, s.remotes r = some y → y.fd ≠ fd := by
  intro r y hy hfd
  refine h.1 (List.mem_append_right _ (List.mem_append_right _ ?_))
  refine List.mem_filterMap.mpr ⟨r, (hwf.remotes r).mpr ?_, ?_⟩
  · rw [hy]
    rfl
  · rw [hy, Option.map_some, hfd]

end Free

/-! ## Steps of the loop -/

section Step

variable {plat : Platform} {L L' : LoopState} {ev : LoopEvent} {e : Event}
  {accept remote : Nat → Prop} {notify : Prop}

/-- The event of an entry that has something to report. -/
theorem LoopState.event_dispatch {cfd : Option Nat} {sys : Sys}
    (h : L.event (.dispatch cfd sys) = some e) :
    ∃ p rest, L.fds = p :: rest ∧ p.event cfd sys = some e := by
  obtain ⟨p, hp, he⟩ := Option.bind_eq_some_iff.mp h
  obtain ⟨rest, hrest⟩ := List.head?_eq_some_iff.mp hp
  exact ⟨p, rest, hrest, he⟩

/-- An event on a remote is the dispatch of a remote's entry. -/
theorem LoopState.event_remote {fd : Nat} {revents : PollEvents} {sys : Sys}
    (h : L.event ev = some (.remote fd revents sys)) :
    ∃ cfd p rest r, ev = .dispatch cfd sys ∧ L.fds = p :: rest ∧ p.owner = .remote r := by
  cases ev with
  | dispatch cfd sys' =>
      obtain ⟨p, rest, hfds, he⟩ := LoopState.event_dispatch h
      rw [PollFd.event] at he
      split at he
      · cases he
      · split at he
        · cases he
        · cases he
        · next r hr =>
            cases he
            exact ⟨cfd, p, rest, r, rfl, hfds, hr⟩
  | getClientFds | poll | mdnsAdd | mdnsRemove => cases h

/-- What the kernel hands out in an event is what the handler gets. -/
theorem LoopState.allows (hwf : WF L.daemon.toCore) (h : L.event ev = some e)
    (hk : Kernel L ev) (haccept : ∀ fd, L.accepted ev = some fd → accept fd)
    (hremote : ∀ fd, L.connected ev = some fd → remote fd)
    (hnotify : (∃ p rest r, L.fds = p :: rest ∧ p.owner = .remote r) → notify) :
    Allows (.fds accept remote notify) plat L.daemon e := by
  have hconnect : ∀ {sys : Sys}, (∀ fd, sys.connect = some fd → L.connected ev = some fd) →
      MayConnect (.fds accept remote notify) sys L.daemon.toCore := by
    intro sys hsys t fd hfd ht
    obtain ⟨others, hfree⟩ := hk fd (Or.inr (hsys fd hfd))
    refine ⟨fun r y hy => ?_, hremote fd (hsys fd hfd)⟩
    rw [ht] at hy
    exact hfree.remote hwf r y hy
  cases ev with
  | getClientFds => cases h
  | poll now ready =>
      cases h
      exact trivial
  | mdnsAdd serviceName hostName port sys =>
      cases h
      exact ⟨⟨trivial, hconnect fun _ hfd => hfd⟩, Or.inr trivial⟩
  | mdnsRemove serviceName sys =>
      cases h
      exact ⟨fun _ => trivial, trivial, trivial⟩
  | dispatch cfd sys =>
      obtain ⟨p, rest, hfds, he⟩ := LoopState.event_dispatch h
      rw [PollFd.event] at he
      split at he
      · cases he
      split at he
      · next howner =>
          cases he
          intro fd hfd
          have hacc : L.accepted (.dispatch cfd sys) = some fd := by
            rw [LoopState.accepted, hfds, List.head?_cons, Option.bind_some, if_pos howner, hfd]
          obtain ⟨others, hfree⟩ := hk fd (Or.inl hacc)
          exact ⟨hfree.client hwf, haccept fd hacc⟩
      · next c howner =>
          cases he
          refine ⟨fun _ => trivial, ⟨⟨trivial, trivial⟩, trivial, hconnect fun fd hfd => ?_,
            fun _ _ _ _ _ _ _ _ _ => trivial⟩, fun _ _ _ _ _ _ _ _ _ _ _ _ _ _ _ => trivial⟩
          rw [LoopState.connected, hfds, List.head?_cons, Option.bind_some, howner]
          exact hfd
      · next r howner =>
          cases he
          exact ⟨fun _ => trivial,
            ⟨⟨trivial, trivial⟩, hnotify ⟨p, rest, r, hfds, howner⟩, fun _ _ _ => trivial⟩,
            fun _ _ _ _ _ => ⟨fun _ _ _ => trivial, fun _ _ _ => trivial,
              fun _ _ _ _ _ => trivial, fun _ _ => trivial⟩⟩

/-- A step of the loop is a chain of moves. -/
theorem loopStep_moves (hwf : WF L.daemon.toCore) (hk : Kernel L ev)
    (haccept : ∀ fd, L.accepted ev = some fd → accept fd)
    (hremote : ∀ fd, L.connected ev = some fd → remote fd)
    (hnotify : (∃ p rest r, L.fds = p :: rest ∧ p.owner = .remote r) → notify)
    (hs : loopStep plat L ev = .ok L') :
    Moves (.fds accept remote notify) L.daemon.toCore L'.daemon.toCore := by
  rcases (loopStep_daemon hs).2 with ⟨_, heq⟩ | ⟨e, he, hstep⟩
  · rw [heq]
    exact Moves.refl
  · exact step_moves hwf (LoopState.allows hwf he hk haccept hremote hnotify) hstep

end Step

/-! ## Entries -/

theorem mem_clientEntries {s : Core} {p : PollFd} (h : p ∈ clientEntries s) :
    ∃ c x, s.clients c = some x ∧
      p = { owner := .client c, fd := x.fd, events := x.events } := by
  obtain ⟨c, _, hp⟩ := List.mem_filterMap.mp h
  obtain ⟨x, hx, rfl⟩ := Option.map_eq_some_iff.mp hp
  exact ⟨c, x, hx, rfl⟩

theorem mem_remoteEntries {s : Core} {p : PollFd} (h : p ∈ remoteEntries s) :
    ∃ r y, s.remotes r = some y ∧
      p = { owner := .remote r, fd := y.fd, events := y.events } := by
  obtain ⟨r, _, hp⟩ := List.mem_filterMap.mp h
  obtain ⟨y, hy, rfl⟩ := Option.map_eq_some_iff.mp hp
  exact ⟨r, y, hy, rfl⟩

/-! ## Different objects have different descriptors -/

structure DistinctFds (s : Core) : Prop where
  client : ∀ {c c' x x'}, s.clients c = some x → s.clients c' = some x' → x.fd = x'.fd → c = c'
  remote : ∀ {r r' y y'}, s.remotes r = some y → s.remotes r' = some y' → y.fd = y'.fd → r = r'

section Distinct

variable {s s' : Core} {accept remote : Nat → Prop} {notify : Prop}

theorem DistinctFds.inPlace (h : DistinctFds s) (hp : InPlace s s') : DistinctFds s' where
  client hx hx' hfd := by
    obtain ⟨x₀, hx₀, he⟩ := hp.client_before hx
    obtain ⟨x₁, hx₁, he'⟩ := hp.client_before hx'
    exact h.client hx₀ hx₁ (he.fd.symm.trans (hfd.trans he'.fd))
  remote hy hy' hfd := by
    obtain ⟨y₀, hy₀, he⟩ := hp.remote_before hy
    obtain ⟨y₁, hy₁, he'⟩ := hp.remote_before hy'
    exact h.remote hy₀ hy₁ (he.fd.symm.trans (hfd.trans he'.fd))

theorem DistinctFds.leaves (h : DistinctFds s) (hl : Leaves s s') : DistinctFds s' :=
  ⟨fun hx hx' => h.client (hl.client hx) (hl.client hx'),
    fun hy hy' => h.remote (hl.remote hy) (hl.remote hy')⟩

theorem DistinctFds.addRemote {y : RemoteMux} (h : DistinctFds s)
    (hfresh : ∀ r z, s.remotes r = some z → z.fd ≠ y.fd)
    (hclients : ∀ c x', s'.clients c = some x' → ∃ x, s.clients c = some x ∧ x'.fd = x.fd)
    (hremotes : s'.remotes = (s.addRemote y).remotes) : DistinctFds s' where
  client hx hx' hfd := by
    obtain ⟨x₀, hx₀, he⟩ := hclients _ _ hx
    obtain ⟨x₁, hx₁, he'⟩ := hclients _ _ hx'
    exact h.client hx₀ hx₁ (he.symm.trans (hfd.trans he'))
  remote hy hy' hfd := by
    rw [hremotes] at hy hy'
    rcases Core.remotes_addRemote_cases hy with ⟨hr, hz⟩ | hz
    · rcases Core.remotes_addRemote_cases hy' with ⟨hr', _⟩ | hz'
      · exact hr.trans hr'.symm
      · rw [hz] at hfd
        exact absurd hfd.symm (hfresh _ _ hz')
    · rcases Core.remotes_addRemote_cases hy' with ⟨_, hz'⟩ | hz'
      · rw [hz'] at hfd
        exact absurd hfd (hfresh _ _ hz)
      · exact h.remote hz hz' hfd

theorem DistinctFds.move (hm : Move (.fds accept remote notify) s s') (h : DistinctFds s) :
    DistinctFds s' := by
  cases hm.shape with
  | inPlace hp => exact h.inPlace hp
  | accept hfd heq =>
      rw [heq]
      refine ⟨fun hx hx' hnum => ?_, fun hy hy' => h.remote hy hy'⟩
      rcases Core.clients_addClient_cases hx with ⟨hc, hz⟩ | hz
      · rcases Core.clients_addClient_cases hx' with ⟨hc', _⟩ | hz'
        · exact hc.trans hc'.symm
        · rw [hz] at hnum
          exact absurd hnum.symm (hfd.1 _ _ hz')
      · rcases Core.clients_addClient_cases hx' with ⟨_, hz'⟩ | hz'
        · rw [hz'] at hnum
          exact absurd hnum (hfd.1 _ _ hz)
        · exact h.client hz hz' hnum
  | opens ho =>
      refine h.addRemote ho.descriptor.2.1 (fun c x' hx' => ?_) ?_
      · rcases ho.clients_cases hx' with ⟨rfl, rfl⟩ | hx
        · exact ⟨_, ho.client, ho.descriptor.1⟩
        · exact ⟨x', hx, rfl⟩
      · rw [ho.result]
        rfl
  | addListener hnew heq _ _ _ hfd =>
      refine h.addRemote hfd.1 (fun c x' hx' => ⟨x', ?_, rfl⟩) ?_
      · rw [heq] at hx'
        exact hx'
      · rw [heq]
        rfl
  | closeClient _ heq => exact heq ▸ h.leaves .closeClient
  | closeRemote _ _ _ heq => exact heq ▸ h.leaves .dropRemote
  | dispose _ _ heq => exact heq ▸ h.leaves .dispose

theorem DistinctFds.initial (h : Initial s) : DistinctFds s := by
  cases h with
  | empty => exact ⟨fun hx => (nomatch hx), fun hy => (nomatch hy)⟩
  | @listener y =>
      refine ⟨fun hx => (nomatch hx), fun hy hy' _ => ?_⟩
      have hone : ∀ {r z}, (emptyDaemon.toCore.addRemote y).remotes r = some z → r = ⟨0⟩ := by
        intro r z hz
        rcases Core.remotes_addRemote_cases hz with ⟨hr, _⟩ | hz
        · exact hr
        · cases hz
      exact (hone hy).trans (hone hy').symm

theorem DistinctFds.moves (hm : Moves (.fds accept remote notify) s s') (h : DistinctFds s) :
    DistinctFds s' :=
  invariant_of_step (R := Move (.fds accept remote notify)) DistinctFds.move hm h

/-- The remote of the `-r` option has a new number. -/
theorem allows_addRemote {plat : Platform} {s : Daemon} {hostName : String} {port : UInt16}
    {sys : Sys} (hwf : WF s.toCore)
    (hfd : ∀ fd, sys.connect = some fd → ∃ others, LowestFree others s.toCore fd) :
    Allows (.fds (fun _ => True) (fun _ => True) True) plat s (.addRemote hostName port sys) := by
  refine ⟨trivial, fun t fd hc ht => ⟨fun r y hy => ?_, trivial⟩⟩
  obtain ⟨others, hfree⟩ := hfd fd hc
  rw [ht] at hy
  exact hfree.remote hwf r y hy

theorem LoopStart.distinct {plat : Platform} {L : LoopState} (h : LoopStart plat L) :
    DistinctFds L.daemon.toCore := by
  cases h with
  | init h => exact .initial (usbmuxRemoteInit_initial h)
  | addRemote h hfd hadd =>
      have hinit := usbmuxRemoteInit_initial h
      have hwf := WF.initial hinit
      exact (DistinctFds.initial hinit).moves (step_moves hwf (allows_addRemote hwf hfd) hadd)

/-- In every state of a run no two clients share a number, and no two
remotes. -/
theorem loopReachable_distinct {plat : Platform} {L : LoopState} (h : LoopReachable plat L) :
    DistinctFds L.daemon.toCore := by
  refine loopReachableBy_induct (P := fun L => DistinctFds L.daemon.toCore)
    LoopStart.distinct ?_ h
  intro L L' ev hr hd _ hk _ hs
  have hm : Moves (.fds (fun _ => True) (fun _ => True) True) L.daemon.toCore L'.daemon.toCore :=
    loopStep_moves (reachable_wf hr.daemon) hk (fun _ _ => trivial) (fun _ _ => trivial)
      (fun _ => trivial) hs
  exact hd.moves hm

end Distinct

/-! ## Evaluating a run of the loop -/

/-- One iteration: what is ready on which descriptors, and for each entry of
the poll set what `accept` and the other system calls return. -/
def iteration (ready : List (Nat × PollEvents)) (calls : List (Option Nat × Sys)) :
    List LoopEvent :=
  .getClientFds :: .poll 0 (fun p => (ready.lookup p.fd).getD {}) ::
    calls.map fun call => .dispatch call.1 call.2

/-- Nothing is asked of the system for an entry. -/
def noCall : Option Nat × Sys := (none, {})

section Runs

variable {plat : Platform} {others : List Nat} {ok : LoopState → LoopEvent → Bool}
  {C : LoopState → LoopEvent → Prop} {L L' : LoopState} {evs : List LoopEvent}

/-- Handle events of the loop one after the other. -/
def runLoop (plat : Platform) (others : List Nat) (ok : LoopState → LoopEvent → Bool) :
    List LoopEvent → LoopState → Option LoopState
  | [], L => some L
  | ev :: evs, L =>
      if L.enabled ev ∧ KernelBeside others L ev ∧ ok L ev then
        match loopStep plat L ev with
        | .ok L => runLoop plat others ok evs L
        | .error _ => none
      else none

/-- A run of a daemon that listens on descriptor 3 and found no renamed
socket. -/
def runLoopFrom (plat : Platform) (others : List Nat) (ok : LoopState → LoopEvent → Bool)
    (evs : List LoopEvent) : Option LoopState :=
  runLoop plat others ok evs ⟨emptyDaemon, .dispatching, [], 3⟩

theorem loopReachableBy_of_runLoop
    (hC : ∀ L, LoopReachable plat L → ∀ ev ∈ evs, KernelBeside others L ev → ok L ev = true →
      C L ev)
    (hL : LoopReachableBy plat C L) (h : runLoop plat others ok evs L = some L') :
    LoopReachableBy plat C L' := by
  induction evs generalizing L with
  | nil =>
      cases h
      exact hL
  | cons ev evs ih =>
      rw [runLoop] at h
      split at h
      · next htest =>
          obtain ⟨hen, hk, hok⟩ := htest
          split at h
          · next L₁ hs =>
              exact ih (fun L hr ev' hev' => hC L hr ev' (List.mem_cons_of_mem _ hev'))
                (hL.step hen hk.kernel (hC L hL.reachable ev List.mem_cons_self hk hok) hs) h
          · cases h
      · cases h

/-- A run that passes its tests reaches its last state. -/
theorem loopReachableBy_of_runLoopFrom
    (hC : ∀ L, LoopReachable plat L → ∀ ev ∈ evs, KernelBeside others L ev → ok L ev = true →
      C L ev)
    (h : runLoopFrom plat others ok evs = some L) : LoopReachableBy plat C L := by
  have hinit : usbmuxRemoteInit plat {} = .ok emptyDaemon := rfl
  exact loopReachableBy_of_runLoop hC ⟨_, .init hinit, .refl⟩ h

/-- Evaluate a test in the last state of a run. -/
theorem exists_of_runLoopFrom {p : LoopState → Bool}
    (h : (runLoopFrom plat others ok evs).any p = true) :
    ∃ L, runLoopFrom plat others ok evs = some L ∧ p L = true := by
  exact (Option.any_eq_true _ _).mp h

end Runs

end Usbfluxd
