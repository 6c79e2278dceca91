import Usbfluxd.Model.FdList
import Usbfluxd.Moves.Step
import Usbfluxd.Proofs.Commands
import Usbfluxd.Proofs.Locks
import Usbfluxd.Proofs.MainLoop

/-!
# The arrays of the main loop hold the poll set

What `main_loop` does with `struct fdlist` comes to the same as a list of
entries: whatever an earlier iteration left behind the count, and wherever
`realloc` moved the arrays, a run of the loop with its arrays is a run of the
loop with the list (`fdLoop_refines`). What is said of the runs of the latter
then holds of the former.
-/

namespace Usbfluxd

open Lib

/-! ## The list the arrays stand for -/

/-- `FD_LISTEN`, `FD_CLIENT` or `FD_REMOTE`. -/
def FdOwner.kind : FdOwner → FdKind
  | .listen => .listen
  | .client _ => .client
  | .remote _ => .remote

/-- What is stored of an entry. -/
def PollFd.stored (p : PollFd) : FdKind × PollCell := (p.owner.kind, ⟨p.fd, p.events, p.revents⟩)

/-- The arrays hold these entries. -/
structure FdList.Holds (list : FdList) (es : List (FdKind × PollCell)) : Prop where
  count : list.count = es.length
  owners : list.owners.Begins list.capacity (es.map Prod.fst)
  fds : list.fds.Begins list.capacity (es.map Prod.snd)

section FdList

variable {heap : Heap} {list list' : FdList} {es : List (FdKind × PollCell)} {s s' : Daemon}

theorem fdlistCreate_holds : (fdlistCreate heap).Holds [] := by
  have hnull : ∀ {α : Type}, Cells.Begins (none : Cells α) 0 [] := Cells.Begins.empty
  refine ⟨rfl, ?_, ?_⟩
  · exact hnull.realloc (Nat.zero_le _) fun h => absurd rfl h
  · exact hnull.realloc (Nat.zero_le _) fun h => absurd rfl h

theorem FdList.Holds.reset (h : list.Holds es) : (fdlistReset list).Holds [] where
  count := rfl
  owners := h.owners.nil
  fds := h.fds.nil

/-- `fdlist_add` appends, whether or not it enlarges the arrays. -/
theorem fdlistAdd_holds {k : FdKind} {fd : Nat} {events : PollEvents} (h : list.Holds es)
    (hadd : fdlistAdd heap list k fd events = .ok list') :
    list'.Holds (es ++ [(k, ⟨fd, events, {}⟩)]) := by
  obtain ⟨l, hl, hadd⟩ := bind_eq_ok.mp hadd
  obtain ⟨owners, howners, hadd⟩ := bind_eq_ok.mp hadd
  obtain ⟨fds, hfds, hadd⟩ := bind_eq_ok.mp hadd
  cases hadd
  have hlen : list.count = (es.map Prod.fst).length := by rw [List.length_map, h.count]
  have hlen' : list.count = (es.map Prod.snd).length := by rw [List.length_map, h.count]
  rw [FdList.enlarge] at hl
  split at hl
  · split at hl
    · cases hl
      have hle : list.capacity ≤ list.capacity * 2 := by omega
      refine ⟨?_, ?_, ?_⟩
      · simp [FdList.realloc, h.count]
      · rw [List.map_append]
        exact h.owners.realloc_store hle hlen howners
      · rw [List.map_append]
        exact h.fds.realloc_store hle hlen' hfds
    · cases hl
  · cases hl
    refine ⟨?_, ?_, ?_⟩
    · simp [h.count]
    · rw [List.map_append]
      exact h.owners.store hlen howners
    · rw [List.map_append]
      exact h.fds.store hlen' hfds

/-- `poll` writes to the entries and to nothing else. -/
theorem FdList.Holds.poll (h : list.Holds es) (ready : Nat → PollEvents) :
    (list.poll ready).Holds (es.mapIdx fun i p =>
      (p.1, { p.2 with revents := p.2.events.reported (ready i) })) where
  count := by rw [List.length_mapIdx]; exact h.count
  owners := by
    have hmap : (es.mapIdx fun i p => (p.1, { p.2 with
        revents := p.2.events.reported (ready i) })).map Prod.fst = es.map Prod.fst :=
      List.ext_getElem? fun i => by simp [List.getElem?_mapIdx, Function.comp_def]
    rw [hmap]
    exact h.owners
  fds := by
    have hmap : (es.mapIdx fun i p => (p.1, { p.2 with
        revents := p.2.events.reported (ready i) })).map Prod.snd =
        (es.map Prod.snd).mapIdx fun i p =>
          { p with revents := p.events.reported (ready i) } :=
      List.ext_getElem? fun i => by simp [List.getElem?_mapIdx, Function.comp_def]
    have hrewrite := h.fds.rewrite (f := fun i p =>
      { p with revents := p.events.reported (ready i) })
    rw [List.length_map, ← h.count] at hrewrite
    rw [hmap]
    exact hrewrite

end FdList

/-! ## Filling the list -/

/-- What is stored of a client, if there is one. -/
def clientStored (s : Core) (c : ClientPtr) : Option (FdKind × PollCell) :=
  (s.clients c).map fun x => (.client, ⟨x.fd, x.events, {}⟩)

def remoteStored (s : Core) (r : RemotePtr) : Option (FdKind × PollCell) :=
  (s.remotes r).map fun y => (.remote, ⟨y.fd, y.events, {}⟩)

section Fill

variable {heap : Heap} {list list' : FdList} {es : List (FdKind × PollCell)} {s s' : Daemon}
  {now : Nat}

theorem stored_clientEntries {s : Core} :
    (clientEntries s).map PollFd.stored = s.clientList.elems.filterMap (clientStored s) := by
  rw [clientEntries, List.map_filterMap]
  simp only [Option.map_map]
  rfl

theorem stored_remoteEntries {s : Core} :
    (remoteEntries s).map PollFd.stored = s.remoteList.elems.filterMap (remoteStored s) := by
  rw [remoteEntries, List.map_filterMap]
  simp only [Option.map_map]
  rfl

theorem addClientFd_holds {c : ClientPtr} {xs : List ClientPtr}
    (h : list.Holds (es ++ xs.filterMap (clientStored s.toCore)))
    (hadd : addClientFd heap s list c = .ok list') :
    list'.Holds (es ++ (xs ++ [c]).filterMap (clientStored s.toCore)) := by
  obtain ⟨x, hx, hadd⟩ := bind_eq_ok.mp hadd
  have hstored : clientStored s.toCore c = some (.client, ⟨x.fd, x.events, {}⟩) := by
    rw [clientStored, client_runs.returns.of_ok hx, Option.map_some]
  rw [List.filterMap_append, List.filterMap_cons, hstored, List.filterMap_nil,
    ← List.append_assoc]
  exact fdlistAdd_holds h hadd

theorem clientGetFdsInto_holds (h : list.Holds es)
    (hget : clientGetFdsInto heap s list = .ok (s', list')) :
    s' = s ∧ list'.Holds (es ++ (clientEntries s.toCore).map PollFd.stored) := by
  obtain ⟨t, ht, hget⟩ := bind_eq_ok.mp hget
  obtain ⟨l, hl, hget⟩ := bind_eq_ok.mp hget
  cases hget
  have htc : t.toCore = s.toCore := lockClientList_runs.returns.of_ok ht
  constructor
  · rw [Daemon.lockClientList] at ht
    split at ht
    · cases ht
    · next hfree =>
        cases ht
        rw [Bool.not_eq_true] at hfree
        rw [Daemon.unlockClientList, ← hfree]
  · rw [stored_clientEntries, ← htc, ← Collection.filterMap_slot_range]
    refine slotLoop_visits (P := fun xs (l : FdList) =>
      l.Holds (es ++ xs.filterMap (clientStored t.toCore))) hl ?_ (fun _ => rfl)
      addClientFd_holds
    rw [List.filterMap_nil, List.append_nil]
    exact h

/-- What is stored of the remotes does not depend on when they were active. -/
theorem remoteSeenActive_stored {r : RemotePtr} {y : RemoteMux} (hy : s.remotes r = some y)
    (h : remoteSeenActive s now r y = .ok s') :
    s'.remoteList = s.remoteList ∧ remoteStored s'.toCore = remoteStored s.toCore := by
  rw [remoteSeenActive] at h
  split at h
  · obtain ⟨z, hz, rfl⟩ := modifyRemote_runs.returns.of_ok h
    cases hy.symm.trans hz
    refine ⟨rfl, funext fun r' => ?_⟩
    rw [remoteStored, toCore_update, Core.remotes_setRemote]
    split
    · next heq =>
        rw [remoteStored, heq, hy]
        rfl
    · rfl
  · cases h
    exact ⟨rfl, rfl⟩

/-- The remotes visited so far are stored, and the others are as they were. -/
structure StoredRemotes (s : Core) (es : List (FdKind × PollCell)) (xs : List RemotePtr)
    (p : Daemon × FdList) : Prop where
  remoteList : p.1.remoteList = s.remoteList
  stored : remoteStored p.1.toCore = remoteStored s
  holds : p.2.Holds (es ++ xs.filterMap (remoteStored s))

theorem StoredRemotes.start (h : list.Holds es) : StoredRemotes s.toCore es [] (s, list) := by
  refine ⟨rfl, rfl, ?_⟩
  rw [List.filterMap_nil, List.append_nil]
  exact h

theorem addRemoteFd_stored {r : RemotePtr} {xs : List RemotePtr} {p p' : Daemon × FdList}
    (h : StoredRemotes s.toCore es xs p) (hadd : addRemoteFd heap now p r = .ok p') :
    StoredRemotes s.toCore es (xs ++ [r]) p' := by
  obtain ⟨y, hy, hadd⟩ := bind_eq_ok.mp hadd
  obtain ⟨t, ht, hadd⟩ := bind_eq_ok.mp hadd
  obtain ⟨l, hl, hadd⟩ := bind_eq_ok.mp hadd
  cases hadd
  have hy : p.1.remotes r = some y := remote_runs.returns.of_ok hy
  obtain ⟨hlist, hstored⟩ := remoteSeenActive_stored hy ht
  have hentry : remoteStored s.toCore r = some (.remote, ⟨y.fd, y.events, {}⟩) := by
    rw [← h.stored, remoteStored, hy, Option.map_some]
  refine ⟨hlist.trans h.remoteList, hstored.trans h.stored, ?_⟩
  rw [List.filterMap_append, List.filterMap_cons, hentry, List.filterMap_nil,
    ← List.append_assoc]
  exact fdlistAdd_holds h.holds hl

theorem usbmuxRemoteGetFdsInto_holds (h : list.Holds es)
    (hget : usbmuxRemoteGetFdsInto heap s now list = .ok (s', list')) :
    usbmuxRemoteGetFds s now = .ok s' ∧
      list'.Holds (es ++ (remoteEntries s'.toCore).map PollFd.stored) := by
  obtain ⟨t, ht, hget⟩ := bind_eq_ok.mp hget
  obtain ⟨p, hp, hget⟩ := bind_eq_ok.mp hget
  cases hget
  constructor
  · refine bind_eq_ok.mpr ⟨t, ht, bind_eq_ok.mpr ⟨p.1, ?_, rfl⟩⟩
    refine slotLoop_forget (g := Prod.fst) (u := (t, list)) (fun _ _ => rfl) ?_ hp
    intro u r u' hu
    obtain ⟨y, hy, hu⟩ := bind_eq_ok.mp hu
    obtain ⟨v, hv, hu⟩ := bind_eq_ok.mp hu
    obtain ⟨l, hl, hu⟩ := bind_eq_ok.mp hu
    cases hu
    exact bind_eq_ok.mpr ⟨y, hy, hv⟩
  · have hloop := slotLoop_visits (P := StoredRemotes t.toCore es) hp (.start h)
      (fun hP => by rw [hP.remoteList]) addRemoteFd_stored
    rw [Collection.filterMap_slot_range] at hloop
    rw [stored_remoteEntries]
    show p.2.Holds (es ++ p.1.remoteList.elems.filterMap (remoteStored p.1.toCore))
    rw [hloop.remoteList, hloop.stored]
    exact hloop.holds

end Fill

/-! ## The loop -/

/-- The loop with its arrays stands where the loop with the list stands. What
it has been through in this iteration is still in the arrays. -/
structure FdLoop.Refines (K : FdLoop) (L : LoopState) : Prop where
  daemon : K.daemon = L.daemon
  phase : K.phase = L.phase
  listenfd : K.listenfd = L.listenfd
  collecting : K.phase = .collecting → K.pollfds.Holds (L.fds.map PollFd.stored)
  dispatching : K.phase = .dispatching → ∃ done, done.length = K.i ∧
    K.pollfds.Holds (done ++ L.fds.map PollFd.stored)

/-- A poll set that is being built has no object twice, and no remote yet. -/
def LoopState.Collected (L : LoopState) : Prop :=
  L.phase = .collecting → (L.fds.map PollFd.owner).Nodup ∧
    ∀ p ∈ L.fds, ∀ r, p.owner ≠ .remote r

section Loop

variable {plat : Platform} {K K' : FdLoop} {L L' : LoopState}

theorem nodup_clientEntries {s : Core} (h : WF s) :
    ((clientEntries s).map PollFd.owner).Nodup := by
  rw [clientEntries, List.map_filterMap]
  refine h.clientsNodup.filterMap fun c c' o ho ho' => ?_
  obtain ⟨p, hp, rfl⟩ := Option.map_eq_some_iff.mp (Option.mem_def.mp ho)
  obtain ⟨p', hp', heq⟩ := Option.map_eq_some_iff.mp (Option.mem_def.mp ho')
  obtain ⟨_, _, rfl⟩ := Option.map_eq_some_iff.mp hp
  obtain ⟨_, _, rfl⟩ := Option.map_eq_some_iff.mp hp'
  exact (FdOwner.client.inj heq).symm

theorem nodup_remoteEntries {s : Core} (h : WF s) :
    ((remoteEntries s).map PollFd.owner).Nodup := by
  rw [remoteEntries, List.map_filterMap]
  refine h.remotesNodup.filterMap fun r r' o ho ho' => ?_
  obtain ⟨p, hp, rfl⟩ := Option.map_eq_some_iff.mp (Option.mem_def.mp ho)
  obtain ⟨p', hp', heq⟩ := Option.map_eq_some_iff.mp (Option.mem_def.mp ho')
  obtain ⟨_, _, rfl⟩ := Option.map_eq_some_iff.mp hp
  obtain ⟨_, _, rfl⟩ := Option.map_eq_some_iff.mp hp'
  exact (FdOwner.remote.inj heq).symm

theorem owner_clientEntries {s : Core} {p : PollFd} (h : p ∈ clientEntries s) :
    ∃ c, p.owner = .client c := by
  obtain ⟨c, _, hp⟩ := List.mem_filterMap.mp h
  obtain ⟨x, _, rfl⟩ := Option.map_eq_some_iff.mp hp
  exact ⟨c, rfl⟩

theorem owner_remoteEntries {s : Core} {p : PollFd} (h : p ∈ remoteEntries s) :
    ∃ r, p.owner = .remote r := by
  obtain ⟨r, _, hp⟩ := List.mem_filterMap.mp h
  obtain ⟨y, _, rfl⟩ := Option.map_eq_some_iff.mp hp
  exact ⟨r, rfl⟩

theorem loopReachable_collected (h : LoopReachable plat L) : L.Collected := by
  refine loopReachableBy_induct (P := LoopState.Collected) (fun h₀ hcoll => ?_) ?_ h
  · cases h₀ <;> cases hcoll
  · intro L L' ev hL hP hen _ _ hs
    obtain ⟨⟨s, rfl, hs⟩, hdaemon⟩ := loopStep_daemon hs
    intro hcoll
    cases ev with
    | getClientFds =>
        have hwf : WF s.toCore := by
          rcases hdaemon with ⟨_, heq⟩ | ⟨e, he, _⟩
          · rw [← hs, heq]
            exact reachable_wf hL.daemon
          · cases he
        show ((_ :: (clientEntries s.toCore).map PollFd.owner).Nodup) ∧ _
        refine ⟨List.nodup_cons.mpr ⟨fun hmem => ?_, nodup_clientEntries hwf⟩, ?_⟩
        · obtain ⟨p, hp, hlisten⟩ := List.mem_map.mp hmem
          obtain ⟨c, hc⟩ := owner_clientEntries hp
          cases hc.symm.trans hlisten
        · intro p hp r hr
          rcases List.mem_cons.mp hp with rfl | hp
          · cases hr
          · obtain ⟨c, hc⟩ := owner_clientEntries hp
            cases hc.symm.trans hr
    | poll now ready => cases hcoll
    | dispatch cfd sys =>
        have hphase : L.afterDispatch cfd = .collecting := hcoll
        rw [LoopState.afterDispatch] at hphase
        split at hphase
        · cases hphase
        · rw [LoopState.enabled, decide_eq_true_eq] at hen
          cases hphase.symm.trans hen.1
    | mdnsAdd | mdnsRemove => exact hP hcoll

/-- What `poll` writes by index is what it reports of each entry, when no entry
is there twice. -/
theorem stored_reported {es : List PollFd} (hnodup : es.Nodup) (ready : Nat → PollEvents) :
    (es.map fun p => { p with
        revents := p.events.reported (ready (es.idxOf p)) }).map PollFd.stored =
      (es.map PollFd.stored).mapIdx fun i q =>
        (q.1, { q.2 with revents := q.2.events.reported (ready i) }) := by
  refine List.ext_getElem (by simp) fun i hi hi' => ?_
  have hlt : i < es.length := by simpa using hi
  simp only [List.getElem_map, List.getElem_mapIdx, PollFd.stored, hnodup.idxOf_getElem i hlt]

theorem LoopState.Collected.nodup (h : L.Collected) (hcoll : L.phase = .collecting) {s : Core}
    (hwf : WF s) : (L.fds ++ remoteEntries s).Nodup := by
  obtain ⟨hfds, hnone⟩ := h hcoll
  refine List.Nodup.append hfds.of_map (nodup_remoteEntries hwf).of_map ?_
  intro p hp hp'
  obtain ⟨r, hr⟩ := owner_remoteEntries hp'
  exact hnone p hp r hr

theorem loopStep_of_handle {ev : LoopEvent} {s : Daemon} (hen : L.enabled ev = true)
    (hk : Kernel L ev) (hs : L.handle plat ev = .ok s) :
    LoopStep plat (fun _ _ => True) L (L.next s ev) :=
  ⟨ev, hen, hk, trivial, bind_eq_ok.mpr ⟨s, hs, rfl⟩⟩

section Dispatch

variable {done : List (FdKind × PollCell)} {p : PollFd} {rest : List PollFd}

/-- Before the count there is an entry left. -/
theorem FdList.Holds.more {i : Nat} (h : K.pollfds.Holds (done ++ L.fds.map PollFd.stored))
    (hi : done.length = i) (hlt : i < K.pollfds.count) : ∃ p rest, L.fds = p :: rest := by
  cases hfds : L.fds with
  | nil =>
      have hcount := h.count
      rw [hfds] at hcount
      simp at hcount
      omega
  | cons p rest => exact ⟨p, rest, rfl⟩

/-- The next entry of the arrays is the next one of the list. -/
theorem FdLoop.Refines.next (hi : done.length = K.i)
    (hholds : K.pollfds.Holds (done ++ (p :: rest).map PollFd.stored)) :
    K.nextKind = some p.owner.kind ∧
      K.pollfds.fds.load Fault.nullBuffer .outOfBounds K.i =
        .ok ⟨p.fd, p.events, p.revents⟩ ∧
      K.pollfds.owners.load Fault.nullBuffer .outOfBounds K.i = .ok p.owner.kind := by
  have howner : ((done ++ (p :: rest).map PollFd.stored).map Prod.fst)[K.i]? =
      some p.owner.kind := by
    simp [← hi, PollFd.stored]
  have hcell : ((done ++ (p :: rest).map PollFd.stored).map Prod.snd)[K.i]? =
      some ⟨p.fd, p.events, p.revents⟩ := by
    simp [← hi, PollFd.stored]
  exact ⟨hholds.owners.getElem? howner, hholds.fds.load hcell, hholds.owners.load howner⟩

/-- What is done for an entry that has something to report. -/
theorem FdLoop.serve_event (plat : Platform) (s : Daemon) (cfd : Option Nat) (sys : Sys) (hne : p.revents ≠ {}) :
    ∃ e, p.event cfd sys = some e ∧
      FdLoop.serve plat s p.owner.kind ⟨p.fd, p.events, p.revents⟩ cfd sys = step plat s e := by
  rw [PollFd.event, if_neg hne]
  cases p.owner with
  | listen | client | remote => exact ⟨_, rfl, rfl⟩

theorem FdOwner.kind_eq_listen {o : FdOwner} : o.kind = .listen ↔ o = .listen := by
  cases o <;> simp [FdOwner.kind]

/-- A turn of the inner loop is the dispatch of the entry. -/
theorem FdLoop.Refines.dispatch {cfd : Option Nat} {sys : Sys} (h : K.Refines L)
    (hphase : K.phase = .dispatching) (hlt : K.i < K.pollfds.count)
    (hk : FdKernel K (.dispatch cfd sys)) (hs : K.dispatch plat cfd sys = .ok K') :
    ∃ L', LoopStep plat (fun _ _ => True) L L' ∧ K'.Refines L' := by
  obtain ⟨done, hi, hholds⟩ := h.dispatching hphase
  obtain ⟨p, rest, hfds⟩ := hholds.more hi hlt
  rw [hfds] at hholds
  obtain ⟨hkind, hcell, howner⟩ := FdLoop.Refines.next hi hholds
  have hen : L.enabled (.dispatch cfd sys) = true := by
    simp [LoopState.enabled, ← h.phase, hphase, hfds]
  have hkernel : Kernel L (.dispatch cfd sys) := by
    intro fd hfd
    rw [← h.daemon]
    refine hk fd (hfd.imp (fun hacc => ?_) fun hconn => ?_)
    · rw [LoopState.accepted, hfds, List.head?_cons, Option.bind_some] at hacc
      split at hacc
      · next hlisten =>
          rw [FdLoop.accepted, hkind, hlisten]
          exact hacc
      · cases hacc
    · rw [LoopState.connected, hfds, List.head?_cons, Option.bind_some] at hconn
      split at hconn
      · next c hclient =>
          rw [FdLoop.connected, hkind, hclient]
          exact hconn
      · cases hconn
  -- the entry stays in the arrays, behind the index
  have hdone : (done ++ [p.stored]) ++ rest.map PollFd.stored =
      done ++ (p :: rest).map PollFd.stored := by
    simp
  have hnext : ∀ s, L.handle plat (.dispatch cfd sys) = .ok s →
      LoopStep plat (fun _ _ => True) L (L.next s (.dispatch cfd sys)) :=
    fun _ hs => loopStep_of_handle hen hkernel hs
  have hafter : L.afterDispatch cfd =
      if p.owner = .listen ∧ p.revents ≠ {} ∧ cfd = none then .left else L.phase := by
    simp [LoopState.afterDispatch, hfds]
  have hmoved : ∀ s, L.afterDispatch cfd = L.phase →
      FdLoop.Refines { K with daemon := s, i := K.i + 1 } (L.next s (.dispatch cfd sys)) := by
    intro s hstay
    refine ⟨rfl, h.phase.trans hstay.symm, h.listenfd, fun hc => ?_, fun _ => ?_⟩
    · cases hphase.symm.trans hc
    · refine ⟨done ++ [p.stored], by simp [hi], ?_⟩
      show K.pollfds.Holds (_ ++ L.fds.tail.map PollFd.stored)
      rw [hfds, List.tail_cons, hdone]
      exact hholds
  have hevent : L.event (.dispatch cfd sys) = p.event cfd sys := by
    simp [LoopState.event, hfds]
  rw [FdLoop.dispatch, hcell, ok_bind] at hs
  split at hs
  · next hquiet =>
      cases hs
      have hquiet : p.revents = {} := hquiet
      refine ⟨_, hnext L.daemon ?_, ?_⟩
      · rw [LoopState.handle, hevent, PollFd.event, if_pos hquiet]
      · rw [← h.daemon]
        exact hmoved _ (by rw [hafter, if_neg (by simp [hquiet])])
  · next hne =>
      have hne : p.revents ≠ {} := hne
      rw [howner, ok_bind] at hs
      obtain ⟨s, hserve, hs⟩ := bind_eq_ok.mp hs
      obtain ⟨e, he, hstep⟩ := FdLoop.serve_event plat K.daemon cfd sys hne
      have hhandle : L.handle plat (.dispatch cfd sys) = .ok s := by
        rw [LoopState.handle, hevent, he, ← h.daemon]
        exact hstep.symm.trans hserve
      refine ⟨_, hnext s hhandle, ?_⟩
      split at hs
      · next hleft =>
          cases hs
          refine ⟨rfl, ?_, h.listenfd, fun hc => ?_, fun hc => ?_⟩
          · show LoopPhase.left = L.afterDispatch cfd
            rw [hafter, if_pos ⟨FdOwner.kind_eq_listen.mp hleft.1, hne, hleft.2⟩]
          · cases hc
          · cases hc
      · next hstay =>
          cases hs
          refine hmoved s ?_
          rw [hafter, if_neg fun hl => hstay ⟨FdOwner.kind_eq_listen.mpr hl.1, hl.2.2⟩]

end Dispatch

/-- A step of the loop with its arrays is one of the loop with the list. -/
theorem fdLoopStep_refines {ev : FdLoopEvent} (h : K.Refines L) (hL : LoopReachable plat L)
    (hen : K.enabled ev = true) (hk : FdKernel K ev) (hs : fdLoopStep plat K ev = .ok K') :
    ∃ L', LoopStep plat (fun _ _ => True) L L' ∧ K'.Refines L' := by
  cases ev with
  | getClientFds heap =>
      rw [FdLoop.enabled, decide_eq_true_eq] at hen
      obtain ⟨done, hi, hholds⟩ := h.dispatching hen.1
      have hfds : L.fds = [] := by
        have hcount := hholds.count
        rw [List.length_append, List.length_map] at hcount
        exact List.eq_nil_of_length_eq_zero (by omega)
      obtain ⟨list, hadd, hs⟩ := bind_eq_ok.mp hs
      obtain ⟨p, hget, hs⟩ := bind_eq_ok.mp hs
      obtain ⟨s, list'⟩ := p
      cases hs
      obtain ⟨rfl, hlist⟩ := clientGetFdsInto_holds (fdlistAdd_holds hholds.reset hadd) hget
      refine ⟨L.next L.daemon .getClientFds, loopStep_of_handle ?_ ?_ rfl, ?_⟩
      · simp [LoopState.enabled, ← h.phase, hen.1, hfds]
      · intro fd hfd
        rcases hfd with hfd | hfd <;> cases hfd
      · refine ⟨h.daemon, rfl, h.listenfd, fun _ => ?_, fun hd => by cases hd⟩
        rw [h.daemon, h.listenfd] at hlist
        exact hlist
  | poll heap now ready =>
      rw [FdLoop.enabled, decide_eq_true_eq] at hen
      have hcoll : L.phase = .collecting := h.phase.symm.trans hen
      obtain ⟨p, hget, hs⟩ := bind_eq_ok.mp hs
      obtain ⟨s, list⟩ := p
      cases hs
      obtain ⟨hstep, hlist⟩ := usbmuxRemoteGetFdsInto_holds (h.collecting hen) hget
      rw [h.daemon] at hstep
      have hwf : WF s.toCore := reachable_wf (hL.daemon.step (e := .getFds now) trivial hstep)
      have hnodup := (loopReachable_collected hL).nodup hcoll hwf
      refine ⟨L.next s (.poll now fun p => ready ((L.fds ++ remoteEntries s.toCore).idxOf p)),
        loopStep_of_handle ?_ ?_ hstep, ?_⟩
      · simp [LoopState.enabled, hcoll]
      · intro fd hfd
        rcases hfd with hfd | hfd <;> cases hfd
      · refine ⟨rfl, rfl, h.listenfd, fun hc => ?_, fun _ => ⟨[], rfl, ?_⟩⟩
        · cases hc
        have hpoll := hlist.poll ready
        rw [← List.map_append, ← stored_reported hnodup] at hpoll
        exact hpoll
  | dispatch cfd sys =>
      rw [FdLoop.enabled, decide_eq_true_eq] at hen
      exact h.dispatch hen.1 hen.2 hk hs
  | mdnsAdd serviceName hostName port sys =>
      obtain ⟨s, hstep, hs⟩ := bind_eq_ok.mp hs
      cases hs
      rw [h.daemon] at hstep
      refine ⟨L.next s (.mdnsAdd serviceName hostName port sys), loopStep_of_handle rfl ?_ hstep,
        ⟨rfl, h.phase, h.listenfd, h.collecting, h.dispatching⟩⟩
      intro fd hfd
      rw [← h.daemon]
      exact hk fd hfd
  | mdnsRemove serviceName sys =>
      obtain ⟨s, hstep, hs⟩ := bind_eq_ok.mp hs
      cases hs
      rw [h.daemon] at hstep
      refine ⟨L.next s (.mdnsRemove serviceName sys), loopStep_of_handle rfl ?_ hstep,
        ⟨rfl, h.phase, h.listenfd, h.collecting, h.dispatching⟩⟩
      intro fd hfd
      rw [← h.daemon]
      exact hk fd hfd

end Loop

/-- Every run of the loop with its arrays is a run of the loop with the list
of entries. -/
theorem fdLoop_refines {plat : Platform} {K : FdLoop} (h : FdLoopReachable plat K) :
    ∃ L, LoopReachable plat L ∧ K.Refines L := by
  obtain ⟨K₀, h₀, hrun⟩ := h
  obtain ⟨L₀, hL₀, hrefines⟩ : ∃ L₀, LoopStart plat L₀ ∧ K₀.Refines L₀ := by
    cases h₀ with
    | @create L heap hL =>
        have hphase : L.phase = .dispatching ∧ L.fds = [] := by cases hL <;> exact ⟨rfl, rfl⟩
        refine ⟨L, hL, rfl, hphase.1.symm, rfl, fun hc => ?_, fun _ => ⟨[], rfl, ?_⟩⟩
        · cases hc
        · rw [hphase.2]
          exact fdlistCreate_holds
  have hstep : ∀ {K K' L}, LoopReachable plat L ∧ K.Refines L → FdLoopStep plat K K' →
      ∃ L', LoopStep plat (fun _ _ => True) L L' ∧ LoopReachable plat L' ∧ K'.Refines L' := by
    intro K K' L hKL hK
    obtain ⟨ev, hen, hk, hs⟩ := hK
    obtain ⟨L', hL', hrefines'⟩ := fdLoopStep_refines hKL.2 hKL.1 hen hk hs
    obtain ⟨L₁, h₁, hrun₁⟩ := hKL.1
    exact ⟨L', hL', ⟨L₁, h₁, hrun₁.tail hL'⟩, hrefines'⟩
  obtain ⟨L, _, hL, h⟩ := simulation_run (A := LoopStep plat fun _ _ => True)
    (R := fun K L => LoopReachable plat L ∧ K.Refines L) hstep hrun
    ⟨⟨L₀, hL₀, .refl⟩, hrefines⟩
  exact ⟨L, hL, h⟩

/-! ## Faults of the arrays -/

/-- Both arrays are there and have cells. -/
structure FdList.Allocated (list : FdList) : Prop where
  owners : list.owners.isSome = true
  fds : list.fds.isSome = true
  pos : 0 < list.capacity

/-- No allocation fails. -/
def Heap.Plenty (heap : Heap) : Prop := ∀ n, heap.succeeds n = true

section Safe

variable {heap : Heap} {list list' : FdList} {es : List (FdKind × PollCell)} {s s' : Daemon}
  {plat : Platform} {K₀ K K' : FdLoop} {ev : FdLoopEvent}

/-- Where a store went well there is an array. -/
theorem fdlistAdd_allocated {k : FdKind} {fd : Nat} {events : PollEvents} (ha : list.Allocated)
    (h : fdlistAdd heap list k fd events = .ok list') : list'.Allocated := by
  obtain ⟨l, hl, h⟩ := bind_eq_ok.mp h
  obtain ⟨owners, howners, h⟩ := bind_eq_ok.mp h
  obtain ⟨fds, hfds, h⟩ := bind_eq_ok.mp h
  cases h
  have hpos : 0 < l.capacity := by
    have hpos := ha.pos
    rw [FdList.enlarge] at hl
    split at hl
    · split at hl <;> cases hl
      show 0 < list.capacity * 2
      omega
    · cases hl
      exact hpos
  exact ⟨Cells.store_isSome howners, Cells.store_isSome hfds, hpos⟩

theorem clientGetFdsInto_allocated (ha : list.Allocated)
    (h : clientGetFdsInto heap s list = .ok (s', list')) : list'.Allocated := by
  obtain ⟨t, _, h⟩ := bind_eq_ok.mp h
  obtain ⟨l, hl, h⟩ := bind_eq_ok.mp h
  cases h
  refine slotLoop_visits (P := fun _ (l : FdList) => l.Allocated) hl ha (fun _ => rfl) ?_
  intro _ l c l' ha hl'
  obtain ⟨x, _, hl'⟩ := bind_eq_ok.mp hl'
  exact fdlistAdd_allocated ha hl'

theorem addRemoteFd_allocated {now : Nat} {r : RemotePtr} {p p' : Daemon × FdList}
    (ha : p.2.Allocated) (h : addRemoteFd heap now p r = .ok p') : p'.2.Allocated := by
  obtain ⟨y, _, h⟩ := bind_eq_ok.mp h
  obtain ⟨t, _, h⟩ := bind_eq_ok.mp h
  obtain ⟨l, hl, h⟩ := bind_eq_ok.mp h
  cases h
  exact fdlistAdd_allocated ha hl

theorem usbmuxRemoteGetFdsInto_allocated {now : Nat} (ha : list.Allocated)
    (h : usbmuxRemoteGetFdsInto heap s now list = .ok (s', list')) : list'.Allocated := by
  obtain ⟨t, _, h⟩ := bind_eq_ok.mp h
  obtain ⟨p, hp, h⟩ := bind_eq_ok.mp h
  cases h
  have hloop : ∀ {idx} {q : Daemon × FdList}, q.2.Allocated → Post (fun _ => True)
      (fun p : Daemon × FdList => p.2.Allocated)
      (slotLoop (fun p i => p.1.remoteList.slot i) (addRemoteFd heap now) idx q) := by
    intro idx q hq
    refine slotLoop_post (P := fun _ (p : Daemon × FdList) => p.2.Allocated) (fun h _ => h) ?_ hq
    intro u i rest r hu _
    exact .intro (fun u' => addRemoteFd_allocated hu) fun _ _ => trivial
  exact (hloop ha).of_ok hp

theorem FdList.Allocated.poll (h : list.Allocated) (ready : Nat → PollEvents) :
    (list.poll ready).Allocated := by
  refine ⟨h.owners, ?_, h.pos⟩
  rw [FdList.poll, Cells.rewrite, Option.isSome_map]
  exact h.fds

/-- The arrays are there as long as the loop is not left. -/
theorem fdLoopStep_allocated (ha : K.phase ≠ .left → K.pollfds.Allocated)
    (hen : K.enabled ev = true) (hs : fdLoopStep plat K ev = .ok K') :
    K'.phase ≠ .left → K'.pollfds.Allocated := by
  intro hleft
  cases ev with
  | getClientFds heap =>
      rw [FdLoop.enabled, decide_eq_true_eq] at hen
      have ha := ha (by simp [hen.1])
      obtain ⟨list, hadd, hs⟩ := bind_eq_ok.mp hs
      obtain ⟨p, hget, hs⟩ := bind_eq_ok.mp hs
      cases hs
      have hreset : (fdlistReset K.pollfds).Allocated := ⟨ha.owners, ha.fds, ha.pos⟩
      exact clientGetFdsInto_allocated (fdlistAdd_allocated hreset hadd) hget
  | poll heap now ready =>
      rw [FdLoop.enabled, decide_eq_true_eq] at hen
      obtain ⟨p, hget, hs⟩ := bind_eq_ok.mp hs
      cases hs
      exact (usbmuxRemoteGetFdsInto_allocated (ha (by simp [hen])) hget).poll ready
  | dispatch cfd sys =>
      rw [FdLoop.enabled, decide_eq_true_eq] at hen
      have ha := ha (by simp [hen.1])
      obtain ⟨p, _, hs⟩ := bind_eq_ok.mp hs
      split at hs
      · cases hs
        exact ha
      · obtain ⟨owner, _, hs⟩ := bind_eq_ok.mp hs
        obtain ⟨s, _, hs⟩ := bind_eq_ok.mp hs
        split at hs
        · cases hs
          exact absurd rfl hleft
        · cases hs
          exact ha
  | mdnsAdd | mdnsRemove =>
      obtain ⟨s, _, hs⟩ := bind_eq_ok.mp hs
      cases hs
      exact ha hleft

/-- `fdlist_add` goes well as long as an `int` can hold twice the capacity. -/
theorem fdlistAdd_returns (k : FdKind) (fd : Nat) (events : PollEvents) (hheap : heap.Plenty)
    (h : list.Holds es) (ha : list.Allocated) (hroom : es.length < 2 ^ 30) :
    ∃ list', fdlistAdd heap list k fd events = .ok list' ∧ list'.Allocated := by
  have hcount := h.count
  have hle := h.owners.length_le
  rw [List.length_map] at hle
  obtain ⟨l, hl, hholds, halloc, hlt⟩ : ∃ l, list.enlarge heap = .ok l ∧ l.Holds es ∧
      l.Allocated ∧ l.count < l.capacity := by
    have hpos := ha.pos
    rw [FdList.enlarge]
    split
    · next hfull =>
        have hgrow : list.capacity ≤ list.capacity * 2 := by omega
        rw [if_pos (by omega)]
        refine ⟨_, rfl, ⟨hcount, ?_, ?_⟩, ⟨?_, ?_, ?_⟩, ?_⟩
        · exact h.owners.realloc hgrow fun _ => hheap _
        · exact h.fds.realloc hgrow fun _ => hheap _
        · simp [FdList.realloc, hheap _]
        · simp [FdList.realloc, hheap _]
        · show 0 < list.capacity * 2
          omega
        · show list.count < list.capacity * 2
          omega
    · next hfull => exact ⟨list, rfl, h, ha, by omega⟩
  have hlen : l.count = (es.map Prod.fst).length := by rw [List.length_map, hholds.count]
  have hlen' : l.count = (es.map Prod.snd).length := by rw [List.length_map, hholds.count]
  obtain ⟨owners, howners, hsome⟩ := Cells.store_returns Fault.nullBuffer Fault.outOfBounds k
    halloc.owners hholds.owners hlen hlt
  obtain ⟨fds, hfds, hsome'⟩ := Cells.store_returns Fault.nullBuffer Fault.outOfBounds
    (⟨fd, events, {}⟩ : PollCell) halloc.fds hholds.fds hlen' hlt
  exact ⟨_, bind_eq_ok.mpr ⟨l, hl, bind_eq_ok.mpr ⟨owners, howners,
    bind_eq_ok.mpr ⟨fds, hfds, rfl⟩⟩⟩, hsome, hsome', halloc.pos⟩

theorem addClientFd_returns {c : ClientPtr} {xs : List ClientPtr} (hheap : heap.Plenty)
    (hwf : WF s.toCore) (hpre : xs ++ [c] <+: s.clientList.elems)
    (h : list.Holds (es ++ xs.filterMap (clientStored s.toCore))) (ha : list.Allocated)
    (hroom : es.length + s.clientList.elems.length ≤ 2 ^ 30) :
    ∃ list', addClientFd heap s list c = .ok list' ∧
      list'.Holds (es ++ (xs ++ [c]).filterMap (clientStored s.toCore)) ∧ list'.Allocated := by
  obtain ⟨x, hx⟩ : ∃ x, s.clients c = some x :=
    Option.isSome_iff_exists.mp ((hwf.clients c).mp (hpre.subset (by simp)))
  have hlen := hpre.length_le
  have hle := List.length_filterMap_le (clientStored s.toCore) xs
  rw [List.length_append, List.length_singleton] at hlen
  obtain ⟨list', hlist', ha'⟩ := fdlistAdd_returns _ _ _ hheap h ha
    (by rw [List.length_append]; omega)
  have hadd : addClientFd heap s list c = .ok list' := by
    rw [addClientFd, Daemon.client, hx]
    exact hlist'
  exact ⟨list', hadd, addClientFd_holds h hadd, ha'⟩

theorem clientGetFdsInto_returns (hheap : heap.Plenty) (hwf : WF s.toCore) (hfree : s.Unlocked)
    (h : list.Holds es) (ha : list.Allocated)
    (hroom : es.length + s.clientList.elems.length ≤ 2 ^ 30) :
    ∃ p, clientGetFdsInto heap s list = .ok p ∧ p.2.Allocated := by
  let t : Daemon := { s with clientListLocked := true }
  have hlock : s.lockClientList = .ok t := by
    rw [Daemon.lockClientList, hfree.2]
    rfl
  have hloop : ∃ list', slotLoop (fun _ i => t.clientList.slot i) (addClientFd heap t)
      (List.range t.clientList.capacity) list = .ok list' ∧ (list'.Holds (es ++
        ((List.range t.clientList.capacity).filterMap t.clientList.slot).filterMap
          (clientStored t.toCore)) ∧ list'.Allocated) := by
    refine slotLoop_returns (P := fun xs (l : FdList) =>
      l.Holds (es ++ xs.filterMap (clientStored t.toCore)) ∧ l.Allocated) ⟨?_, ha⟩
      (fun _ => rfl) fun hpre hP => ?_
    · rw [List.filterMap_nil, List.append_nil]
      exact h
    · rw [Collection.filterMap_slot_range] at hpre
      exact addClientFd_returns hheap hwf hpre hP.1 hP.2 hroom
  obtain ⟨list', hlist', -, ha'⟩ := hloop
  exact ⟨_, bind_eq_ok.mpr ⟨t, hlock, bind_eq_ok.mpr ⟨list', hlist', rfl⟩⟩, ha'⟩

theorem addRemoteFd_returns {now : Nat} {r : RemotePtr} {xs : List RemotePtr}
    {p : Daemon × FdList} (hheap : heap.Plenty) (hwf : WF s.toCore)
    (hpre : xs ++ [r] <+: s.remoteList.elems) (h : StoredRemotes s.toCore es xs p)
    (ha : p.2.Allocated) (hroom : es.length + s.remoteList.elems.length ≤ 2 ^ 30) :
    ∃ p', addRemoteFd heap now p r = .ok p' ∧ StoredRemotes s.toCore es (xs ++ [r]) p' ∧
      p'.2.Allocated := by
  obtain ⟨y, hy⟩ : ∃ y, p.1.remotes r = some y := by
    obtain ⟨z, hz⟩ := Option.isSome_iff_exists.mp ((hwf.remotes r).mp (hpre.subset (by simp)))
    have hsome := congrFun h.stored r
    rw [remoteStored, remoteStored, hz, Option.map_some] at hsome
    obtain ⟨y, hy, -⟩ := Option.map_eq_some_iff.mp hsome
    exact ⟨y, hy⟩
  have hlen := hpre.length_le
  have hle := List.length_filterMap_le (remoteStored s.toCore) xs
  rw [List.length_append, List.length_singleton] at hlen
  obtain ⟨list', hlist', ha'⟩ := fdlistAdd_returns _ _ _ hheap h.holds ha
    (by rw [List.length_append]; omega)
  have hremote : p.1.remote r = .ok y := by rw [Daemon.remote, hy]
  obtain ⟨t, ht⟩ : ∃ t, remoteSeenActive p.1 now r y = .ok t := by
    rw [remoteSeenActive]
    split
    · exact ⟨_, bind_eq_ok.mpr ⟨y, hremote, rfl⟩⟩
    · exact ⟨_, rfl⟩
  have hadd : addRemoteFd heap now p r = .ok (t, list') :=
    bind_eq_ok.mpr ⟨y, hremote, bind_eq_ok.mpr ⟨t, ht, bind_eq_ok.mpr ⟨list', hlist', rfl⟩⟩⟩
  exact ⟨_, hadd, addRemoteFd_stored h hadd, ha'⟩

theorem usbmuxRemoteGetFdsInto_returns {now : Nat} (hheap : heap.Plenty) (hwf : WF s.toCore)
    (hfree : s.Unlocked) (h : list.Holds es) (ha : list.Allocated)
    (hroom : es.length + s.remoteList.elems.length ≤ 2 ^ 30) :
    ∃ p, usbmuxRemoteGetFdsInto heap s now list = .ok p ∧ p.2.Allocated := by
  let t : Daemon := { s with remoteListLocked := true }
  have hlock : s.lockRemoteList = .ok t := by
    rw [Daemon.lockRemoteList, if_neg (by simp [hfree.1]), if_neg (by simp [hfree.2])]
  have hloop : ∃ p, slotLoop (fun (p : Daemon × FdList) i => p.1.remoteList.slot i)
      (addRemoteFd heap now) (List.range t.remoteList.capacity) (t, list) = .ok p ∧
      (StoredRemotes t.toCore es
        ((List.range t.remoteList.capacity).filterMap t.remoteList.slot) p ∧
        p.2.Allocated) := by
    refine slotLoop_returns (P := fun xs (p : Daemon × FdList) =>
      StoredRemotes t.toCore es xs p ∧ p.2.Allocated) ⟨.start h, ha⟩
      (fun hP => by rw [hP.1.remoteList]) fun hpre hP => ?_
    rw [Collection.filterMap_slot_range] at hpre
    exact addRemoteFd_returns hheap hwf hpre hP.1 hP.2 hroom
  obtain ⟨p, hp, -, ha'⟩ := hloop
  exact ⟨_, bind_eq_ok.mpr ⟨t, hlock, bind_eq_ok.mpr ⟨p, hp, rfl⟩⟩, ha'⟩

/-- There is memory for the poll set, and an `int` can count it. -/
def FdLoop.RoomFor (K : FdLoop) : FdLoopEvent → Prop
  | .getClientFds heap => heap.Plenty ∧ 1 + K.daemon.clientList.elems.length ≤ 2 ^ 30
  | .poll heap _ _ => heap.Plenty ∧
      K.pollfds.count + K.daemon.remoteList.elems.length ≤ 2 ^ 30
  | _ => True

/-- What is not done by a handler does not go wrong. -/
theorem fdLoop_array_safe {e : Fault} (h₀ : FdLoopStart plat K₀) (ha₀ : K₀.pollfds.Allocated)
    (hrun : Relation.ReflTransGen (FdLoopStep plat) K₀ K) (hen : K.enabled ev = true)
    (hroom : K.RoomFor ev) (hs : fdLoopStep plat K ev = .error e) :
    ∃ event, step plat K.daemon event = .error e := by
  obtain ⟨L, hL, hrefines⟩ := fdLoop_refines ⟨K₀, h₀, hrun⟩
  have ha : K.phase ≠ .left → K.pollfds.Allocated := by
    refine invariant_of_step (R := FdLoopStep plat)
      (P := fun K => K.phase ≠ .left → K.pollfds.Allocated) ?_ hrun fun _ => ha₀
    intro K K' hK ha
    obtain ⟨ev, hen, _, hs⟩ := hK
    exact fdLoopStep_allocated ha hen hs
  have hwf : WF K.daemon.toCore := by
    rw [hrefines.daemon]
    exact reachable_wf hL.daemon
  have hfree : K.daemon.Unlocked := by
    rw [hrefines.daemon]
    exact reachable_unlocked hL.daemon
  cases ev with
  | getClientFds heap =>
      rw [FdLoop.enabled, decide_eq_true_eq] at hen
      obtain ⟨done, _, hholds⟩ := hrefines.dispatching hen.1
      have ha := ha (by simp [hen.1])
      have hreset : (fdlistReset K.pollfds).Allocated := ⟨ha.owners, ha.fds, ha.pos⟩
      obtain ⟨list, hadd, ha₁⟩ := fdlistAdd_returns .listen K.listenfd { pollin := true }
        hroom.1 hholds.reset hreset (by simp)
      obtain ⟨p, hp, -⟩ := clientGetFdsInto_returns hroom.1 hwf hfree
        (fdlistAdd_holds hholds.reset hadd) ha₁ hroom.2
      rw [fdLoopStep, hadd, ok_bind, hp] at hs
      cases hs
  | poll heap now ready =>
      rw [FdLoop.enabled, decide_eq_true_eq] at hen
      have hholds := hrefines.collecting hen
      have hcount : (L.fds.map PollFd.stored).length + K.daemon.remoteList.elems.length ≤
          2 ^ 30 := by
        rw [← hholds.count]
        exact hroom.2
      obtain ⟨p, hp, -⟩ := usbmuxRemoteGetFdsInto_returns hroom.1 hwf hfree hholds
        (ha (by simp [hen])) hcount
      rw [fdLoopStep, hp] at hs
      cases hs
  | dispatch cfd sys =>
      rw [FdLoop.enabled, decide_eq_true_eq] at hen
      obtain ⟨done, hi, hholds⟩ := hrefines.dispatching hen.1
      obtain ⟨p, rest, hfds⟩ := hholds.more hi hen.2
      rw [hfds] at hholds
      obtain ⟨_, hcell, howner⟩ := FdLoop.Refines.next hi hholds
      rw [fdLoopStep, FdLoop.dispatch, hcell, ok_bind] at hs
      split at hs
      · cases hs
      next hne =>
        obtain ⟨event, _, hstep⟩ := FdLoop.serve_event plat K.daemon cfd sys hne
        rw [howner, ok_bind] at hs
        rcases bind_eq_error hs with hserve | ⟨s, _, hs⟩
        · exact ⟨event, hstep.symm.trans hserve⟩
        · split at hs <;> cases hs
  | mdnsAdd serviceName hostName port sys =>
      rcases bind_eq_error hs with hs | ⟨_, _, hs⟩
      · exact ⟨_, hs⟩
      · cases hs
  | mdnsRemove serviceName sys =>
      rcases bind_eq_error hs with hs | ⟨_, _, hs⟩
      · exact ⟨_, hs⟩
      · cases hs

end Safe

end Usbfluxd
