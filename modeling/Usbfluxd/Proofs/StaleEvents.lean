import Usbfluxd.Proofs.MainLoop

/-!
# Events that reach the wrong connection

The main loop hands the results of `poll` over by descriptor number. While it
does so a client that goes away frees two numbers, its own and its remote's,
and the requests of the clients after it in the poll set open connections that
get them. The entry of the remote that is gone is still in the set: its event
is taken for one on the new remote, where nothing can be read, and the new
remote counts as dead.

That is all that can go wrong. As long as no connection gets the number of an
entry of its kind that is still to be handled, an event reaches the object it
was polled for, or nobody.
-/

namespace Usbfluxd

open Lib

/-- The entries that are still to be handled. -/
def LoopState.pending (L : LoopState) : List PollFd :=
  if L.phase = .collecting then L.fds else L.fds.filter fun p => p.revents ≠ {}

/-- No connection is given the number of an entry of its kind that is still to
be handled. -/
def NumberNotPending (L : LoopState) (ev : LoopEvent) : Prop :=
  (∀ fd, L.accepted ev = some fd → ∀ p ∈ L.pending, ∀ c, p.owner = .client c → p.fd ≠ fd) ∧
    ∀ fd, L.connected ev = some fd → ∀ p ∈ L.pending, ∀ r, p.owner = .remote r → p.fd ≠ fd

/-- When the next entry is handled, the client that `client_process` finds and
the remotes that `usbmux_remote_process` takes for the ones in question are
the owner of the entry. -/
def PolledFor (L : LoopState) : Prop :=
  L.phase = .dispatching → ∀ p rest, L.fds = p :: rest → p.revents ≠ {} →
    (∀ c₀, p.owner = .client c₀ → ∀ c x,
      findClient L.daemon p.fd L.daemon.clientList.elems = .ok (some (c, x)) → c = c₀) ∧
    ∀ r₀, p.owner = .remote r₀ → ∀ r ∈ L.daemon.remoteList.elems, ∀ y,
      L.daemon.remotes r = some y → y.fd = p.fd → y.state ≠ .dead → r = r₀

/-! ## Numbers and their owners -/

/-- Whoever has the number of an entry is its owner, if it is of its kind. -/
structure OwnNumbers (ps : List PollFd) (s : Core) : Prop where
  client : ∀ p ∈ ps, ∀ c₀, p.owner = .client c₀ →
    ∀ c x, s.clients c = some x → x.fd = p.fd → c = c₀
  remote : ∀ p ∈ ps, ∀ r₀, p.owner = .remote r₀ →
    ∀ r y, s.remotes r = some y → y.fd = p.fd → r = r₀

/-- New numbers are not those of entries. -/
def Allow.apartFrom (ps : List PollFd) : Allow :=
  .fds (fun fd => ∀ p ∈ ps, ∀ c, p.owner = .client c → p.fd ≠ fd)
    (fun fd => ∀ p ∈ ps, ∀ r, p.owner = .remote r → p.fd ≠ fd) True

section OwnNumbers

variable {s s' : Core} {ps ps' : List PollFd}

theorem OwnNumbers.sub (h : OwnNumbers ps s) (hsub : ∀ p ∈ ps', p ∈ ps) : OwnNumbers ps' s :=
  ⟨fun p hp => h.client p (hsub p hp), fun p hp => h.remote p (hsub p hp)⟩

theorem OwnNumbers.leaves (h : OwnNumbers ps s) (hl : Leaves s s') : OwnNumbers ps s' where
  client p hp c₀ howner c x hx := h.client p hp c₀ howner c x (hl.client hx)
  remote p hp r₀ howner r y hy := h.remote p hp r₀ howner r y (hl.remote hy)

theorem OwnNumbers.inPlace (h : OwnNumbers ps s) (hp : InPlace s s') : OwnNumbers ps s' where
  client p hmem c₀ howner c x' hx' hfd := by
    obtain ⟨x, hx, he⟩ := hp.client_before hx'
    exact h.client p hmem c₀ howner c x hx (he.fd.symm.trans hfd)
  remote p hmem r₀ howner r y' hy' hfd := by
    obtain ⟨y, hy, he⟩ := hp.remote_before hy'
    exact h.remote p hmem r₀ howner r y hy (he.fd.symm.trans hfd)

theorem OwnNumbers.addRemote {y : RemoteMux} (h : OwnNumbers ps s)
    (hfresh : ∀ p ∈ ps, ∀ r, p.owner = .remote r → p.fd ≠ y.fd)
    (hclients : ∀ c x', s'.clients c = some x' → ∃ x, s.clients c = some x ∧ x'.fd = x.fd)
    (hremotes : s'.remotes = (s.addRemote y).remotes) : OwnNumbers ps s' where
  client p hp c₀ howner c x' hx' hfd := by
    obtain ⟨x, hx, he⟩ := hclients c x' hx'
    exact h.client p hp c₀ howner c x hx (he.symm.trans hfd)
  remote p hp r₀ howner r z hz hfd := by
    rw [hremotes] at hz
    rcases Core.remotes_addRemote_cases hz with ⟨_, rfl⟩ | hz
    · exact absurd hfd.symm (hfresh p hp r₀ howner)
    · exact h.remote p hp r₀ howner r z hz hfd

theorem OwnNumbers.move (hm : Move (.apartFrom ps) s s') (h : OwnNumbers ps s) :
    OwnNumbers ps s' := by
  cases hm.shape with
  | inPlace hp => exact h.inPlace hp
  | accept hfd heq =>
      rw [heq]
      refine ⟨fun p hp c₀ howner c x hx hnum => ?_, h.remote⟩
      rcases Core.clients_addClient_cases hx with ⟨_, rfl⟩ | hx
      · exact absurd hnum.symm (hfd.2 p hp c₀ howner)
      · exact h.client p hp c₀ howner c x hx hnum
  | opens ho =>
      refine h.addRemote ho.descriptor.2.2 (fun c x' hx' => ?_) ?_
      · rcases ho.clients_cases hx' with ⟨rfl, rfl⟩ | hx
        · exact ⟨_, ho.client, ho.descriptor.1⟩
        · exact ⟨x', hx, rfl⟩
      · rw [ho.result]
        rfl
  | addListener _ heq _ _ _ hfd =>
      rw [heq]
      exact h.addRemote hfd.2 (fun c x' hx' => ⟨x', hx', rfl⟩) rfl
  | closeClient _ heq =>
      rw [heq]
      exact h.leaves .closeClient
  | closeRemote _ _ _ heq =>
      rw [heq]
      exact h.leaves .dropRemote
  | dispose _ _ heq =>
      rw [heq]
      exact h.leaves .dispose

theorem OwnNumbers.moves (hm : Moves (.apartFrom ps) s s') (h : OwnNumbers ps s) :
    OwnNumbers ps s' :=
  invariant_of_step (R := Move (.apartFrom ps)) OwnNumbers.move hm h

theorem DistinctFds.clientEntries (h : DistinctFds s) : OwnNumbers (clientEntries s) s where
  client p hp c₀ howner c x hx hfd := by
    obtain ⟨c₁, x₁, hx₁, rfl⟩ := mem_clientEntries hp
    cases howner
    exact h.client hx hx₁ hfd
  remote p hp r₀ howner := by
    obtain ⟨c₁, x₁, _, rfl⟩ := mem_clientEntries hp
    cases howner

theorem DistinctFds.remoteEntries (h : DistinctFds s) : OwnNumbers (remoteEntries s) s where
  client p hp c₀ howner := by
    obtain ⟨r₁, y₁, _, rfl⟩ := mem_remoteEntries hp
    cases howner
  remote p hp r₀ howner r y hy hfd := by
    obtain ⟨r₁, y₁, hy₁, rfl⟩ := mem_remoteEntries hp
    cases howner
    exact h.remote hy hy₁ hfd

end OwnNumbers

/-! ## Runs -/

section Runs

variable {plat : Platform} {L L' : LoopState} {ev : LoopEvent}

/-- What an event leaves to be handled was to be handled before, unless it is
one of the two that make the poll set. -/
theorem LoopState.pending_next {s : Daemon} (hen : L.enabled ev = true)
    (hget : ev ≠ .getClientFds) (hpoll : ∀ now ready, ev ≠ .poll now ready) :
    ∀ p ∈ (L.next s ev).pending, p ∈ L.pending := by
  intro p hp
  cases ev with
  | getClientFds => exact absurd rfl hget
  | poll now ready => exact absurd rfl (hpoll now ready)
  | mdnsAdd | mdnsRemove => exact hp
  | dispatch cfd sys =>
      obtain ⟨hphase, _⟩ := of_decide_eq_true hen
      have hfds : p ∈ L.fds.tail.filter fun p => p.revents ≠ {} := by
        rw [LoopState.pending, if_neg] at hp
        · exact hp
        · show ¬ L.afterDispatch cfd = .collecting
          rw [LoopState.afterDispatch, hphase]
          split <;> decide
      rw [LoopState.pending, if_neg (by rw [hphase]; decide)]
      exact ((List.tail_sublist L.fds).filter _).subset hfds

/-- After `poll` an entry to handle is an old one or that of a remote. -/
theorem LoopState.pending_poll {s : Daemon} {now : Nat} {ready : PollFd → PollEvents}
    {p : PollFd} (hphase : L.phase = .collecting)
    (hp : p ∈ (L.next s (.poll now ready)).pending) :
    ∃ q, (q ∈ L.pending ∨ q ∈ remoteEntries s.toCore) ∧ q.owner = p.owner ∧ q.fd = p.fd := by
  obtain ⟨hmem, _⟩ := List.mem_filter.mp hp
  obtain ⟨q, hq, rfl⟩ := List.mem_map.mp hmem
  refine ⟨q, ?_, rfl, rfl⟩
  rw [LoopState.pending, if_pos hphase]
  exact List.mem_append.mp hq

theorem OwnNumbers.step (hr : LoopReachable plat L) (h : OwnNumbers L.pending L.daemon.toCore)
    (hen : L.enabled ev = true) (hk : Kernel L ev) (hC : NumberNotPending L ev)
    (hs : loopStep plat L ev = .ok L') : OwnNumbers L'.pending L'.daemon.toCore := by
  have hkept : OwnNumbers L.pending L'.daemon.toCore :=
    h.moves (loopStep_moves (reachable_wf hr.daemon) hk hC.1 hC.2 (fun _ => trivial) hs)
  have hdist := loopReachable_distinct (hr.step hen hk trivial hs)
  obtain ⟨⟨s, hnext, hdaemon⟩, -⟩ := loopStep_daemon hs
  rw [hdaemon] at hkept hdist ⊢
  rw [hnext]
  cases ev with
  | getClientFds =>
      have hfds := hdist.clientEntries
      refine ⟨fun p hp c₀ howner => ?_, fun p hp r₀ howner => ?_⟩
      · rcases List.mem_cons.mp hp with rfl | hp
        · cases howner
        · exact hfds.client p hp c₀ howner
      · rcases List.mem_cons.mp hp with rfl | hp
        · cases howner
        · exact hfds.remote p hp r₀ howner
  | poll now ready =>
      have hremotes := hdist.remoteEntries
      have hphase := of_decide_eq_true hen
      refine ⟨fun p hp c₀ howner => ?_, fun p hp r₀ howner => ?_⟩
      · obtain ⟨q, hq | hq, ho, hfd⟩ := LoopState.pending_poll hphase hp
        · rw [← hfd]
          exact hkept.client q hq c₀ (ho.trans howner)
        · rw [← hfd]
          exact hremotes.client q hq c₀ (ho.trans howner)
      · obtain ⟨q, hq | hq, ho, hfd⟩ := LoopState.pending_poll hphase hp
        · rw [← hfd]
          exact hkept.remote q hq r₀ (ho.trans howner)
        · rw [← hfd]
          exact hremotes.remote q hq r₀ (ho.trans howner)
  | dispatch | mdnsAdd | mdnsRemove =>
      exact hkept.sub (LoopState.pending_next hen (fun h => nomatch h) fun _ _ h => nomatch h)

theorem loopReachable_ownNumbers (h : LoopReachableBy plat NumberNotPending L) :
    OwnNumbers L.pending L.daemon.toCore :=
  loopReachableBy_induct (P := fun L => OwnNumbers L.pending L.daemon.toCore)
    (fun h₀ => by cases h₀ <;> exact ⟨fun _ hp => (nomatch hp), fun _ hp => (nomatch hp)⟩)
    (fun hr hi hen hk hC hs => hi.step hr hen hk hC hs) h

/-- In a run in which no connection gets the number of an entry of its kind
that is still to be handled, every event reaches whom it was polled for. -/
theorem loopReachable_polledFor (h : LoopReachableBy plat NumberNotPending L) : PolledFor L := by
  intro hphase p rest hfds hne
  have hown := loopReachable_ownNumbers h
  have hp : p ∈ L.pending := by
    rw [LoopState.pending, if_neg (by rw [hphase]; decide), hfds]
    exact List.mem_filter.mpr ⟨List.mem_cons_self, decide_eq_true hne⟩
  constructor
  · intro c₀ howner c x hfind
    have hfound : Runs Allow.all L.daemon.toCore _
        (findClient L.daemon p.fd L.daemon.clientList.elems) := findClient_runs
    obtain ⟨hx, hfd⟩ := hfound.of_ok hfind _ rfl
    exact hown.client p hp c₀ howner c x hx hfd
  · intro r₀ howner r _ y hy hfd _
    exact hown.remote p hp r₀ howner r y hy hfd

/-- Three clients are accepted and send the header of a connect request. The
first one's is completed and its remote has descriptor 7. -/
def threeClients : List LoopEvent :=
  iteration [(3, { pollin := true })] [(some 4, {})] ++
    iteration [(3, { pollin := true })] [(some 5, {}), noCall] ++
    iteration [(3, { pollin := true })] [(some 6, {}), noCall, noCall] ++
    iteration [(4, { pollin := true }), (5, { pollin := true }), (6, { pollin := true })]
      (noCall :: List.replicate 3 (none, { recv := some ((connectFrame 7 3 80).take 16) })) ++
    iteration [(4, { pollin := true })]
      [noCall, (none, { recv := some ((connectFrame 7 3 80).drop 16), connect := some 7 }),
        noCall, noCall]

/-- The remote is the first to report something in the next iteration. -/
theorem loopReachable_polledFor_threeClients :
    ∃ L p, LoopReachableBy (platformWith []) NumberNotPending L ∧ L.phase = .dispatching ∧
      L.fds = [p] ∧ p.owner = .remote ⟨0⟩ ∧ p.revents ≠ {} ∧ PolledFor L := by
  let p : PollFd := { owner := .remote ⟨0⟩, fd := 7,
                      events := { pollin := true, pollout := true },
                      revents := { pollout := true } }
  -- no number is handed out that is in the poll set
  let ok : LoopState → LoopEvent → Bool := fun L ev =>
    (L.accepted ev).all (fun fd => L.pending.all fun p => p.fd ≠ fd) &&
      (L.connected ev).all fun fd => L.pending.all fun p => p.fd ≠ fd
  obtain ⟨L, hrun, htest⟩ : ∃ L, runLoopFrom (platformWith []) [0, 1, 2, 3] ok (threeClients ++
      iteration [(7, { pollout := true })] (List.replicate 4 noCall)) = some L ∧
      decide (L.phase = .dispatching ∧ L.fds = [p]) = true :=
    exists_of_runLoopFrom (by decide +kernel)
  obtain ⟨hphase, hfds⟩ := of_decide_eq_true htest
  have hreach : LoopReachableBy (platformWith []) NumberNotPending L := by
    refine loopReachableBy_of_runLoopFrom (fun L _ ev _ _ hok => ?_) hrun
    obtain ⟨haccepted, hconnected⟩ := Bool.and_eq_true_iff.mp hok
    constructor
    · intro fd hfd p hp _ _
      rw [hfd] at haccepted
      exact of_decide_eq_true (List.all_eq_true.mp haccepted p hp)
    · intro fd hfd p hp _ _
      rw [hfd] at hconnected
      exact of_decide_eq_true (List.all_eq_true.mp hconnected p hp)
  exact ⟨L, p, hreach, hphase, hfds, rfl, by decide, loopReachable_polledFor hreach⟩

/-- In one iteration the first client closes its connection and the other two
requests are completed. The last one's remote gets the number of the first
one's, whose event is next: it takes the new remotes for dead, and their
clients with them. -/
theorem stale_event_kills_remotes :
    ∃ L L' p, LoopReachableBy (platformWith []) (KernelBeside [0, 1, 2, 3]) L ∧
      ¬ PolledFor L ∧ L.fds = [p] ∧ p.owner = .remote ⟨0⟩ ∧
      L.daemon.remoteList.elems = [⟨1⟩, ⟨2⟩] ∧ L.daemon.clientList.elems = [⟨1⟩, ⟨2⟩] ∧
      loopStep (platformWith []) L (.dispatch none {}) = .ok L' ∧
      L'.daemon.remoteList.elems = [] ∧ L'.daemon.clientList.elems = [] := by
  let p : PollFd := { owner := .remote ⟨0⟩, fd := 7,
                      events := { pollin := true, pollout := true },
                      revents := { pollin := true } }
  let request : List UInt8 := (connectFrame 7 3 80).drop 16
  let after : LoopState → Bool := fun L =>
    okAnd (fun L' => decide (L'.daemon.remoteList.elems = [] ∧ L'.daemon.clientList.elems = []))
      (loopStep (platformWith []) L (.dispatch none {}))
  obtain ⟨L, hrun, htest⟩ : ∃ L, runLoopFrom (platformWith []) [0, 1, 2, 3] (fun _ _ => true)
      (threeClients ++ iteration [(4, { pollin := true }), (5, { pollin := true }),
          (6, { pollin := true }), (7, { pollin := true })]
        [noCall, (none, { recv := some [] }), (none, { recv := some request, connect := some 4 }),
          (none, { recv := some request, connect := some 7 })]) = some L ∧
      (decide (L.phase = .dispatching ∧ L.fds = [p] ∧
        L.daemon.remoteList.elems = [⟨1⟩, ⟨2⟩] ∧ L.daemon.clientList.elems = [⟨1⟩, ⟨2⟩]) &&
        (L.daemon.remotes ⟨2⟩).any (fun y => decide (y.fd = 7 ∧ y.state ≠ .dead)) &&
        after L) = true := exists_of_runLoopFrom (by decide +kernel)
  rw [Bool.and_eq_true, Bool.and_eq_true, decide_eq_true_eq] at htest
  obtain ⟨⟨⟨hphase, hfds, hremotes, hclients⟩, hnew⟩, hafter⟩ := htest
  obtain ⟨y, hy, hnew⟩ := (Option.any_eq_true _ _).mp hnew
  obtain ⟨hfd, hlive⟩ := of_decide_eq_true hnew
  have hstale : ¬ PolledFor L := by
    intro h
    have hr := (h hphase p [] hfds (by decide)).2 ⟨0⟩ rfl ⟨2⟩
      (by rw [hremotes]; decide) y hy hfd hlive
    cases hr
  obtain ⟨L', hL', hafter⟩ := exists_of_okAnd hafter
  obtain ⟨hgone, hgone'⟩ := of_decide_eq_true hafter
  exact ⟨L, L', p, loopReachableBy_of_runLoopFrom (fun _ _ _ _ hk _ => hk) hrun, hstale,
    hfds, rfl, hremotes, hclients, hL', hgone, hgone'⟩

end Runs

end Usbfluxd
