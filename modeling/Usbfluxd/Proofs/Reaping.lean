import Mathlib.Data.FinEnum
import Usbfluxd.Proofs.Departure
import Usbfluxd.Proofs.Serves

/-!
# Reaping at once and later

`remote_mark_dead` kills an id. When some remote is still alive the dead ones
are disposed of by the next `usbmux_remote_process`, else at once, by another
loop. Both loops walk the slots and dispose of what they meet, and a disposed
remote takes out its slot, the devices of its id, its client and, when it is a
TCP listener, the bit of its id.

What is left after some remotes were disposed of depends only on which they
were, and both loops dispose of the same ones: the remotes that were dead and
those with the id. The one thing that can go wrong is a client that two of
them share: the first takes it along, and the second follows its link to a
freed client.
-/

namespace Usbfluxd

open Lib

/-! ## What is left -/

/-- The ids of some remotes. -/
def remoteIds (s : Core) (gone : List RemotePtr) : List UInt8 :=
  gone.filterMap fun r => (s.remotes r).map (·.id)

/-- The ids that are free again when some remotes are disposed of. -/
def releasedIds (s : Core) (gone : List RemotePtr) : List UInt8 :=
  gone.filterMap fun r => (s.remotes r).bind fun y =>
    if y.isListener ∧ y.host.isSome then some y.id else none

/-- No two of some remotes have the same client. -/
def ClientsApart (s : Core) (gone : List RemotePtr) : Prop :=
  ∀ r ∈ gone, ∀ r' ∈ gone, r ≠ r' → ∀ y y' c, s.remotes r = some y → s.remotes r' = some y' →
    y.client = some c → y'.client ≠ some c

/-- What is left of a state without some of its remotes. -/
structure Without (s : Core) (gone : List RemotePtr) (t : Core) : Prop where
  wf : WF t
  remote : ∀ r, t.remotes r = if r ∈ gone then none else s.remotes r
  capacity : t.remoteList.capacity = s.remoteList.capacity
  slot : ∀ i, t.remoteList.slot i = (s.remoteList.slot i).filter (· ∉ gone)
  devices : t.remoteDeviceList.entries = s.remoteDeviceList.entries.filter fun p =>
    ∀ k ∈ remoteIds s gone, keyDevice p.1 >>> 24 ≠ k.toUInt32
  ids : ∀ k, idUsed t.remoteIdMap k = (idUsed s.remoteIdMap k && decide (k ∉ releasedIds s gone))
  client : ∀ c, (t.clients c).isSome ↔ (s.clients c).isSome ∧
    ∀ r ∈ gone, ∀ y, s.remotes r = some y → y.client ≠ some c
  apart : ClientsApart s gone

section Without

variable {s t t' : Core} {gone : List RemotePtr} {r : RemotePtr} {y : RemoteMux}

theorem Without.refl (h : WF s) : Without s [] s where
  wf := h
  remote _ := rfl
  capacity := rfl
  slot i := by cases s.remoteList.slot i <;> rfl
  devices := by simp [remoteIds]
  ids k := by simp [releasedIds]
  client c := by simp
  apart := fun _ h => nomatch h

/-- The devices of an id that are withdrawn are those among the keys that are
looked at. -/
theorem Forgotten.entries {lossOk : Prop} {k : UInt8} {keys : List String}
    (h : Forgotten lossOk k keys s t) : t.remoteDeviceList.entries =
      s.remoteDeviceList.entries.filter fun p =>
        ¬ (p.1 ∈ keys ∧ keyDevice p.1 >>> 24 = k.toUInt32) := by
  induction h with
  | nil => simp
  | keep hne _ ih =>
      rw [ih]
      refine List.filter_congr fun p _ => decide_eq_decide.mpr (not_congr ?_)
      rw [List.mem_cons, or_and_right]
      refine ⟨Or.inr, fun h => h.resolve_left ?_⟩
      rintro ⟨rfl, hk⟩
      exact hne hk
  | gone _ hk _ _ ih =>
      rw [ih]
      change ((OMap.erase _ _).entries.filter _) = _
      rw [OMap.entries_erase, List.filter_filter]
      refine List.filter_congr fun p _ => ?_
      rw [← Bool.decide_and, decide_eq_decide, List.mem_cons]
      constructor
      · rintro ⟨hrest, hne⟩ ⟨rfl | hmem, hp⟩
        · exact hne rfl
        · exact hrest ⟨hmem, hp⟩
      · intro h
        refine ⟨fun hp => h ⟨Or.inr hp.1, hp.2⟩, ?_⟩
        rintro rfl
        exact h ⟨Or.inl rfl, hk⟩

/-- With every key looked at, none of the id is left. -/
theorem Forgotten.entries_all {lossOk : Prop} {k : UInt8}
    (h : Forgotten lossOk k s.remoteDeviceList.keys s t) : t.remoteDeviceList.entries =
      s.remoteDeviceList.entries.filter fun p => keyDevice p.1 >>> 24 ≠ k.toUInt32 := by
  rw [h.entries]
  refine List.filter_congr fun p hp => decide_eq_decide.mpr (not_congr ?_)
  exact and_iff_right (List.mem_map_of_mem hp)

theorem idUsed_releaseId {k : UInt8} : idUsed (s.releaseId y).remoteIdMap k =
    (idUsed s.remoteIdMap k && decide ¬ ((y.isListener ∧ y.host.isSome) ∧ k = y.id)) := by
  rw [Core.releaseId]
  split
  · next h =>
      change idUsed (setRemoteIdUsed s.remoteIdMap y.id false) k = _
      rw [idUsed_setRemoteIdUsed]
      by_cases hk : k = y.id <;> simp [hk, h]
  · next h => simp [h]

/-- One more remote is disposed of. -/
theorem Without.dispose {lossOk : Prop} (h : Without s gone t) (hd : Disposed lossOk r y t t') :
    Without s (r :: gone) t' := by
  have hmap : ∀ r', t'.remotes r' = if r' = r then none else t.remotes r' := fun _ => hd.remotes
  have hlist := hd.remoteList
  obtain ⟨hyt, u, hu, hlive, rfl⟩ := hd
  have hclient : ∀ c, (u.clients c).isSome ↔ (t.clients c).isSome := fun c =>
    ⟨hu.same.isSome_before c, hu.same.isSome⟩
  rw [h.remote] at hyt
  split at hyt
  · cases hyt
  · next hr =>
    have hids : remoteIds s (r :: gone) = y.id :: remoteIds s gone := by
      simp [remoteIds, hyt]
    constructor
    · exact (h.wf.same hu.same).dispose
    · intro r'
      rw [hmap, h.remote]
      by_cases heq : r' = r <;> simp [heq]
    · rw [hlist, ← h.capacity]
      exact Collection.length_clearSlot
    · intro i
      rw [hlist, Collection.slot_remove_eq h.wf.remotesNodup, h.slot, Option.filter_filter]
      congr 1
      funext r'
      simp [not_or, Bool.and_comm]
    · rw [Core.remoteDeviceList_dispose, hu.entries_all, h.devices, List.filter_filter, hids]
      refine List.filter_congr fun p _ => ?_
      rw [← Bool.decide_and, decide_eq_decide, List.forall_mem_cons]
    · intro k
      have hreleased : k ∈ releasedIds s (r :: gone) ↔
          ((y.isListener ∧ y.host.isSome) ∧ k = y.id) ∨ k ∈ releasedIds s gone := by
        by_cases hlistener : y.isListener ∧ y.host.isSome
        · simp [releasedIds, hyt, hlistener]
        · simp [releasedIds, hyt, hlistener]
      rw [Core.dispose, idUsed_releaseId, Core.remoteIdMap_dropLinkedClient]
      change (idUsed u.remoteIdMap k && _) = _
      rw [hu.same.remoteIdMap, h.ids, Bool.and_assoc, ← Bool.decide_and]
      congr 1
      rw [decide_eq_decide, hreleased, not_or, and_comm]
    · intro c
      rw [Core.clients_dispose, List.forall_mem_cons]
      by_cases hc : y.client = some c
      · rw [if_pos hc]
        simp [hyt, hc]
      · rw [if_neg hc, hclient, h.client]
        simp [hyt, hc]
    · have hnew : ∀ r' ∈ gone, ∀ y' c, s.remotes r' = some y' → y.client = some c →
          y'.client ≠ some c := fun r' hr' y' c hy' hc =>
        ((h.client c).mp ((hclient c).mp (hlive c hc))).2 r' hr' y' hy'
      intro r₁ hr₁ r₂ hr₂ hne y₁ y₂ c hy₁ hy₂ hc₁ hc₂
      rcases List.mem_cons.mp hr₁ with rfl | hold₁ <;>
        rcases List.mem_cons.mp hr₂ with heq | hold₂
      · exact hne heq.symm
      · cases hyt.symm.trans hy₁
        exact hnew r₂ hold₂ y₂ c hy₂ hc₁ hc₂
      · rw [heq] at hy₂
        cases hyt.symm.trans hy₂
        exact hnew r₁ hold₁ y₁ c hy₁ hc₂ hc₁
      · exact h.apart r₁ hold₁ r₂ hold₂ hne y₁ y₂ c hy₁ hy₂ hc₁ hc₂

/-- Which remotes are gone matters, not in which order they went. -/
theorem Without.congr {gone' : List RemotePtr} (h : Without s gone t)
    (hmem : ∀ r, r ∈ gone ↔ r ∈ gone') : Without s gone' t where
  wf := h.wf
  remote r := by
    rw [h.remote]
    simp only [hmem]
  capacity := h.capacity
  slot i := by
    rw [h.slot]
    simp only [hmem]
  devices := by
    rw [h.devices]
    refine List.filter_congr fun p _ => decide_eq_decide.mpr ?_
    simp only [remoteIds, List.mem_filterMap, hmem]
  ids k := by
    rw [h.ids]
    congr 1
    simp only [releasedIds, List.mem_filterMap, hmem]
  client c := by
    rw [h.client]
    simp only [hmem]
  apart r hr r' hr' := h.apart r ((hmem r).mpr hr) r' ((hmem r').mpr hr')

end Without

/-! ## Two loops -/

/-- The state of a loop that has some slots left to visit and disposes of the
remotes of a kind. -/
def Sweeping (s : Core) (K : RemotePtr → Prop) (idx : List Nat) (t : Core) : Prop :=
  ∃ gone, Without s gone t ∧ (∀ r ∈ gone, (s.remotes r).isSome ∧ K r) ∧
    ∀ j r, t.remoteList.slot j = some r → K r → j ∈ idx

section Sweep

variable {s t t' : Core} {K : RemotePtr → Prop} {i : Nat} {rest : List Nat} {r : RemotePtr}
  {y : RemoteMux}

theorem Sweeping.start (hwf : WF s) : Sweeping s K (List.range s.remoteList.capacity) s :=
  ⟨[], .refl hwf, fun _ h => (nomatch h), fun _ _ hj _ =>
    List.mem_range.mpr (Collection.slot_lt hj)⟩

theorem Sweeping.skip (h : Sweeping s K (i :: rest) t) (hi : t.remoteList.slot i = none) :
    Sweeping s K rest t := by
  obtain ⟨gone, hw, hgone, hleft⟩ := h
  refine ⟨gone, hw, hgone, fun j r hj hk => ?_⟩
  rcases List.mem_cons.mp (hleft j r hj hk) with rfl | hj'
  · cases hi.symm.trans hj
  · exact hj'

theorem Sweeping.keep (h : Sweeping s K (i :: rest) t) (hi : t.remoteList.slot i = some r)
    (hr : ¬ K r) : Sweeping s K rest t := by
  obtain ⟨gone, hw, hgone, hleft⟩ := h
  refine ⟨gone, hw, hgone, fun j r' hj hk => ?_⟩
  rcases List.mem_cons.mp (hleft j r' hj hk) with rfl | hj'
  · cases hi.symm.trans hj
    exact absurd hk hr
  · exact hj'

/-- What is in a slot is a remote of the start. -/
theorem Sweeping.before (h : Sweeping s K (i :: rest) t) (hi : t.remoteList.slot i = some r) :
    ∃ y, t.remotes r = some y ∧ s.remotes r = some y := by
  obtain ⟨gone, hw, _, _⟩ := h
  obtain ⟨y, hy⟩ := Option.isSome_iff_exists.mp ((hw.wf.remotes r).mp (Collection.slot_mem hi))
  have hmap := hy
  rw [hw.remote] at hmap
  split at hmap
  · cases hmap
  · exact ⟨y, hy, hmap⟩

theorem Sweeping.dispose {lossOk : Prop} (h : Sweeping s K (i :: rest) t)
    (hi : t.remoteList.slot i = some r) (hr : K r) (hd : Disposed lossOk r y t t') :
    Sweeping s K rest t' := by
  obtain ⟨y', hyt, hys⟩ := h.before hi
  obtain ⟨gone, hw, hgone, hleft⟩ := h
  refine ⟨r :: gone, hw.dispose hd, fun r' hr' => ?_, fun j r' hj hk => ?_⟩
  · rcases List.mem_cons.mp hr' with rfl | hr'
    · exact ⟨by rw [hys]; rfl, hr⟩
    · exact hgone r' hr'
  · rw [hd.remoteList, Collection.slot_remove_eq hw.wf.remotesNodup] at hj
    obtain ⟨hj, hne⟩ := Option.filter_eq_some_iff.mp hj
    rcases List.mem_cons.mp (hleft j r' hj hk) with rfl | hmem
    · cases hi.symm.trans hj
      exact absurd rfl (of_decide_eq_true hne)
    · exact hmem

/-- With no slot left, all remotes of the kind are gone. -/
theorem Sweeping.done (h : Sweeping s K [] t) {gone : List RemotePtr}
    (hmem : ∀ r, r ∈ gone ↔ (s.remotes r).isSome ∧ K r) : Without s gone t := by
  obtain ⟨gone', hw, hgone, hleft⟩ := h
  refine hw.congr fun r => ⟨fun hr => (hmem r).mpr (hgone r hr), fun hr => ?_⟩
  obtain ⟨hlive, hk⟩ := (hmem r).mp hr
  by_contra hnot
  have hr' : r ∈ t.remoteList.elems := by
    rw [hw.wf.remotes, hw.remote, if_neg hnot]
    exact hlive
  obtain ⟨j, hj⟩ := Collection.mem_elems_iff.mp hr'
  exact absurd (hleft j r hj hk) List.not_mem_nil

/-- No two remotes of a kind have the same client. -/
def ClientsApartOf (s : Core) (K : RemotePtr → Prop) : Prop :=
  ∀ r r' y y' c, K r → K r' → r ≠ r' → s.remotes r = some y → s.remotes r' = some y' →
    y.client = some c → y'.client ≠ some c

/-- The client of the next remote to go is still there when no remote shares
its client with one that is gone. -/
theorem Sweeping.client_live (h : Sweeping s K (i :: rest) t)
    (hi : t.remoteList.slot i = some r) (hr : K r) (hy : t.remotes r = some y)
    (hlinks : ∀ r y c, s.remotes r = some y → y.client = some c → (s.clients c).isSome)
    (hapart : ClientsApartOf s K) (c : ClientPtr) (hc : y.client = some c) :
    (t.clients c).isSome := by
  obtain ⟨y', hyt, hys⟩ := h.before hi
  cases hy.symm.trans hyt
  obtain ⟨gone, hw, hgone, _⟩ := h
  rw [hw.client]
  refine ⟨hlinks r y c hys hc, fun r' hr' z hz => ?_⟩
  have hne : r ≠ r' := by
    rintro rfl
    rw [hw.remote, if_pos hr'] at hy
    cases hy
  exact hapart r r' y z c hr (hgone r' hr').2 hne hys hz hc

end Sweep

section Loops

variable {plat : Platform} {sys : Sys} {s : Core} {K : RemotePtr → Prop}

/-- No freed object is used if the remotes of a kind are apart. -/
def UseOnlyIfShared (s : Core) (K : RemotePtr → Prop) (f : Fault) : Prop :=
  ClientsApartOf s K → ¬ f.IsUse

theorem Sound.shared {α : Type} {m : Except Fault α} {P : α → Prop} (h : Sound m)
    (hP : Post (fun _ => True) P m) : Post (UseOnlyIfShared s K) P m :=
  Post.imp (h.post hP) (fun _ hf _ => hf) fun _ ha => ha

theorem usbmuxRemoteDispose_sweeping {t : Daemon} {i : Nat} {rest : List Nat} {r : RemotePtr}
    (hlinks : ∀ r y c, s.remotes r = some y → y.client = some c → (s.clients c).isSome)
    (h : Sweeping s K (i :: rest) t.toCore) (hi : t.remoteList.slot i = some r) (hr : K r) :
    Post (UseOnlyIfShared s K) (fun t' : Daemon => Sweeping s K rest t'.toCore)
      (usbmuxRemoteDispose plat sys t r) := by
  have hpost : Post (fun _ => True) (fun t' : Daemon => Sweeping s K rest t'.toCore)
      (usbmuxRemoteDispose plat sys t r) := by
    refine Post.imp (usbmuxRemoteDispose_runs fun _ => trivial).returns (fun _ h => h) ?_
    intro t' hd
    obtain ⟨y, hd⟩ := hd
    exact h.dispose hi hr hd
  by_cases hapart : ClientsApartOf s K
  · obtain ⟨y, hy, _⟩ := h.before hi
    have hwf : WF t.toCore := by
      obtain ⟨gone, hw, _⟩ := h
      exact hw.wf
    exact (usbmuxRemoteDispose_sound hwf hy (h.client_live hi hr hy hlinks hapart)).shared hpost
  · exact Post.imp hpost (fun _ _ h => absurd h hapart) fun _ h => h

/-- The loop of `remote_mark_dead` disposes of everything. -/
theorem disposeAll_sweeping {s : Daemon} (hwf : WF s.toCore)
    (hlinks : ∀ r y c, s.remotes r = some y → y.client = some c → (s.clients c).isSome) :
    Post (UseOnlyIfShared s.toCore fun _ => True)
      (fun t : Daemon => Sweeping s.toCore (fun _ => True) [] t.toCore)
      (forRemotes (usbmuxRemoteDispose plat sys) s) :=
  slotLoop_post (P := fun idx (t : Daemon) => Sweeping s.toCore (fun _ => True) idx t.toCore)
    (fun h hi => h.skip hi)
    (fun h hi => usbmuxRemoteDispose_sweeping hlinks h hi trivial) (.start hwf)

/-- The loop of `usbmux_remote_process` disposes of the dead. -/
theorem reapLoop_sweeping {s : Daemon} {fd : Nat} {events : PollEvents} (hwf : WF s.toCore)
    (hlinks : ∀ r y c, s.remotes r = some y → y.client = some c → (s.clients c).isSome)
    (hevents : events ≠ { pollnval := true }) :
    Post (UseOnlyIfShared s.toCore fun r => ∃ y, s.remotes r = some y ∧ y.state = .dead)
      (fun p : Daemon × Option RemotePtr => Sweeping s.toCore
        (fun r => ∃ y, s.remotes r = some y ∧ y.state = .dead) [] p.1.toCore)
      (reapLoop plat sys fd events s) := by
  refine Post.bind (lockRemoteList_sound.shared lockRemoteList_runs.returns) fun s₁ h₁ => ?_
  rw [← h₁] at hwf ⊢
  change ∀ r y c, s.toCore.remotes r = _ → _ → (s.toCore.clients c).isSome at hlinks
  rw [← h₁] at hlinks
  refine Post.bind (slotLoop_post (P := fun idx (acc : Daemon × Option RemotePtr) =>
    Sweeping s₁.toCore (fun r => ∃ y, s₁.remotes r = some y ∧ y.state = .dead) idx acc.1.toCore)
    (fun h hi => h.skip hi) ?_ (.start hwf)) fun _ h => h
  intro acc i rest r h hi
  obtain ⟨t, found⟩ := acc
  obtain ⟨y, hy, hys⟩ := h.before hi
  refine Post.bind ((remote_sound (by rw [hy]; rfl)).shared remote_runs.returns) fun y' hy' => ?_
  cases hy.symm.trans hy'
  split
  · next hdead =>
      exact Post.bind (usbmuxRemoteDispose_sweeping hlinks h hi ⟨y, hys, hdead⟩) fun _ h => h
  · next halive =>
      have hkeep : Sweeping s₁.toCore (fun r => ∃ y, s₁.remotes r = some y ∧ y.state = .dead)
          rest t.toCore := by
        refine h.keep hi fun hdead => ?_
        obtain ⟨z, hz, hdead⟩ := hdead
        cases hys.symm.trans hz
        exact halive hdead
      split
      · exact hkeep
      · exact hkeep

end Loops

/-! ## Removing a service -/

/-- The remotes that go when an id is killed: those that are dead, and those
with the id. -/
def doomed (k : UInt8) (s : Core) : List RemotePtr :=
  s.remoteList.elems.filter fun r => (s.remotes r).any fun y => y.state = .dead || y.id = k

/-- The ids of the TCP listeners among some remotes. -/
def tcpListenerIds (s : Core) (gone : List RemotePtr) : List UInt8 :=
  gone.filterMap fun r => (s.remotes r).bind fun y =>
    if y.isTcpListener then some y.id else none

/-- The doomed remotes are out of their slots, their devices are withdrawn and
the bits of the TCP listeners among them are cleared. -/
structure Reaped (k : UInt8) (s t : Core) : Prop where
  capacity : t.remoteList.capacity = s.remoteList.capacity
  slot : ∀ i, t.remoteList.slot i = (s.remoteList.slot i).filter (· ∉ doomed k s)
  devices : t.remoteDeviceList.entries = s.remoteDeviceList.entries.filter fun p =>
    ∀ id ∈ remoteIds s (doomed k s), keyDevice p.1 >>> 24 ≠ id.toUInt32
  ids : ∀ id, idUsed t.remoteIdMap id =
    (idUsed s.remoteIdMap id && decide (id ∉ tcpListenerIds s (doomed k s)))

section Killing

variable {s s₁ t : Core} {k : UInt8} {gone : List RemotePtr} {r : RemotePtr} {y : RemoteMux}

theorem mem_doomed (hwf : WF s) :
    r ∈ doomed k s ↔ ∃ y, s.remotes r = some y ∧ (y.state = .dead ∨ y.id = k) := by
  rw [doomed, List.mem_filter, hwf.remotes]
  cases s.remotes r with
  | none => simp
  | some y => simp

/-- Two states differ at most in what does not matter to the remotes that are
disposed of. -/
structure SameRegistry (s s₁ : Core) : Prop where
  remoteList : s₁.remoteList = s.remoteList
  devices : s₁.remoteDeviceList = s.remoteDeviceList
  remoteIdMap : s₁.remoteIdMap = s.remoteIdMap
  noRemote : ∀ r, s.remotes r = none → s₁.remotes r = none
  remote : ∀ r y, s.remotes r = some y → ∃ y₁, s₁.remotes r = some y₁ ∧ y₁.id = y.id ∧
    y₁.isListener = y.isListener ∧ y₁.host = y.host ∧ y₁.client = y.client

theorem SameRegistry.of_inPlace (h : InPlace s s₁)
    (hdevices : s₁.remoteDeviceList = s.remoteDeviceList) : SameRegistry s s₁ where
  remoteList := h.remoteList
  devices := hdevices
  remoteIdMap := h.remoteIdMap
  noRemote _ := h.noRemote
  remote r y hy := by
    obtain ⟨y₁, hy₁, he⟩ := h.remote hy
    exact ⟨y₁, hy₁, he.id, he.isListener, he.host, he.client⟩

theorem SameRegistry.trans {s₂ : Core} (h : SameRegistry s s₁) (h' : SameRegistry s₁ s₂) :
    SameRegistry s s₂ where
  remoteList := h'.remoteList.trans h.remoteList
  devices := h'.devices.trans h.devices
  remoteIdMap := h'.remoteIdMap.trans h.remoteIdMap
  noRemote r hr := h'.noRemote r (h.noRemote r hr)
  remote r y hy := by
    obtain ⟨y₁, hy₁, hid, hlistener, hhost, hclient⟩ := h.remote r y hy
    obtain ⟨y₂, hy₂, hid', hlistener', hhost', hclient'⟩ := h'.remote r y₁ hy₁
    exact ⟨y₂, hy₂, hid'.trans hid, hlistener'.trans hlistener, hhost'.trans hhost,
      hclient'.trans hclient⟩

theorem SameRegistry.remote_before {y₁ : RemoteMux} (h : SameRegistry s s₁)
    (hy₁ : s₁.remotes r = some y₁) : ∃ y, s.remotes r = some y ∧ y₁.client = y.client := by
  cases hy : s.remotes r with
  | none => cases (h.noRemote r hy).symm.trans hy₁
  | some y =>
      obtain ⟨y', hy', _, _, _, hclient⟩ := h.remote r y hy
      cases hy'.symm.trans hy₁
      exact ⟨y, rfl, hclient⟩

theorem SameRegistry.remoteIds_eq (h : SameRegistry s s₁) :
    remoteIds s₁ gone = remoteIds s gone := by
  refine List.filterMap_congr fun r _ => ?_
  cases hy : s.remotes r with
  | none => rw [h.noRemote r hy]
  | some y =>
      obtain ⟨y₁, hy₁, hid, _⟩ := h.remote r y hy
      rw [hy₁, Option.map_some, Option.map_some, hid]

theorem SameRegistry.releasedIds_eq (h : SameRegistry s s₁) :
    releasedIds s₁ gone = releasedIds s gone := by
  refine List.filterMap_congr fun r _ => ?_
  cases hy : s.remotes r with
  | none => rw [h.noRemote r hy]
  | some y =>
      obtain ⟨y₁, hy₁, hid, hlistener, hhost, _⟩ := h.remote r y hy
      rw [hy₁, Option.bind_some, Option.bind_some, hid, hlistener, hhost]

theorem SameRegistry.apart (h : SameRegistry s s₁) (hapart : ClientsApart s₁ gone) :
    ClientsApart s gone := by
  intro r hr r' hr' hne y y' c hy hy' hc
  obtain ⟨z, hz, _, _, _, hclient⟩ := h.remote r y hy
  obtain ⟨z', hz', _, _, _, hclient'⟩ := h.remote r' y' hy'
  rw [← hclient']
  exact hapart r hr r' hr' hne z z' c hz hz' (hclient.trans hc)

/-- Remotes of a kind are apart if they were among remotes that were. -/
theorem ClientsApart.of_sameRegistry {K : RemotePtr → Prop} (hapart : ClientsApart s gone)
    (h : SameRegistry s s₁) (hmem : ∀ r y, K r → s₁.remotes r = some y → r ∈ gone) :
    ClientsApartOf s₁ K := by
  intro r r' y y' c hk hk' hne hy hy' hc
  obtain ⟨z, hz, hclient⟩ := h.remote_before hy
  obtain ⟨z', hz', hclient'⟩ := h.remote_before hy'
  rw [hclient']
  exact hapart r (hmem r y hk hy) r' (hmem r' y' hk' hy') hne z z' c hz hz'
    (hclient.symm.trans hc)

/-- In a registry the ids that are released are those of the TCP listeners. -/
theorem Registry.releasedIds_eq (hreg : Registry s) :
    releasedIds s gone = tcpListenerIds s gone := by
  refine List.filterMap_congr fun r _ => ?_
  cases hy : s.remotes r with
  | none => rfl
  | some y =>
      have hok := hreg.remote hy
      refine if_congr ?_ rfl rfl
      rw [isTcpListener_iff]
      constructor
      · intro hlistener
        refine ⟨?_, hlistener.1⟩
        by_contra hunix
        rw [Bool.not_eq_false] at hunix
        rw [(hok.unix hunix).2] at hlistener
        cases hlistener.2
      · intro htcp
        refine ⟨htcp.2, ?_⟩
        rw [Option.isSome_iff_ne_none]
        exact (hok.tcp (isTcpListener_iff.mpr htcp)).2.2

theorem Without.reaped (h : Without s₁ (doomed k s) t) (hsame : SameRegistry s s₁)
    (hreg : Registry s) : Reaped k s t ∧ ClientsApart s (doomed k s) where
  left :=
    { capacity := by rw [h.capacity, hsame.remoteList]
      slot i := by rw [h.slot, hsame.remoteList]
      devices := by rw [h.devices, hsame.remoteIds_eq, hsame.devices]
      ids id := by
        rw [h.ids, hsame.releasedIds_eq, hreg.releasedIds_eq, hsame.remoteIdMap] }
  right := hsame.apart h.apart

theorem SameRegistry.killId : SameRegistry s (s.killId k) := .of_inPlace .killId rfl

theorem SameRegistry.wake {z : RemoteMux} (hz : s.remotes r = some z) :
    SameRegistry s (s.setRemote r { z with events := { z.events with pollout := true } }) := by
  have hstep : RemoteStep r z [] { z with events := { z.events with pollout := true } } :=
    .events .wake
  have hin : InPlace s ((s.setRemote r _).emit []) := .of_remote hz hstep.evolves
  rw [Core.emit_nil] at hin
  exact .of_inPlace hin rfl

/-- After an id was killed the dead are the doomed. -/
theorem dead_killId_iff (hwf : WF s) :
    (∃ y, (s.killId k).remotes r = some y ∧ y.state = .dead) ↔ r ∈ doomed k s := by
  rw [mem_doomed hwf, Core.remotes_killId]
  constructor
  · intro h
    obtain ⟨z, hz, hdead⟩ := h
    obtain ⟨y, hy, rfl⟩ := Option.map_eq_some_iff.mp hz
    refine ⟨y, hy, ?_⟩
    rw [RemoteMux.killed] at hdead
    split at hdead
    · next hid => exact Or.inr hid
    · exact Or.inl hdead
  · intro h
    obtain ⟨y, hy, hstate⟩ := h
    refine ⟨y.killed k, by rw [hy]; rfl, ?_⟩
    rw [RemoteMux.killed]
    split
    · rfl
    · next hid => exact hstate.resolve_right hid

/-- Waking a remote up changes no state. -/
theorem dead_wake_iff {z : RemoteMux} {r' : RemotePtr} (hz : s.remotes r = some z) :
    (∃ y, (s.setRemote r { z with events := { z.events with pollout := true } }).remotes r' =
      some y ∧ y.state = .dead) ↔ ∃ y, s.remotes r' = some y ∧ y.state = .dead := by
  rw [Core.remotes_setRemote]
  by_cases heq : r' = r
  · rw [if_pos heq, heq, hz]
    simp
  · rw [if_neg heq]

end Killing

section Removal

variable {plat : Platform} {sys sys' : Sys} {s : Daemon} {r : RemotePtr} {y : RemoteMux}

/-- `remote_mark_dead` has woken up a remote that is alive. -/
def Woken (s s' : Core) : Prop :=
  ∃ r z, s.remotes r = some z ∧ z.state ≠ .dead ∧
    s' = s.setRemote r { z with events := { z.events with pollout := true } }

/-- `remote_mark_dead` has found nothing alive and disposed of everything. -/
def ReapedAtOnce (s s' : Core) : Prop :=
  (∀ r z, s.remotes r = some z → z.state = .dead) ∧ Sweeping s (fun _ => True) [] s'

/-- A client of a remote is live. -/
def LinksLive (s : Core) : Prop :=
  ∀ r y c, s.remotes r = some y → y.client = some c → (s.clients c).isSome

theorem LinksLive.inPlace {s s' : Core} (h : LinksLive s) (hin : InPlace s s') : LinksLive s' := by
  intro r y' c hy' hc
  obtain ⟨y, hy, he⟩ := hin.remote_before hy'
  have hlive := h r y c hy (he.client.symm.trans hc)
  obtain ⟨x, hx⟩ := Option.isSome_iff_exists.mp hlive
  obtain ⟨x', hx', _⟩ := hin.client hx
  rw [hx']
  rfl

theorem remoteMarkDead_reaping (hwf : WF s.toCore) (hlinks : LinksLive s.toCore)
    (hy : s.remotes r = some y) :
    Post (fun f => ClientsApart s.toCore (doomed y.id s.toCore) → ¬ f.IsUse)
      (fun s' : Daemon => Woken (s.toCore.killId y.id) s'.toCore ∨
        ReapedAtOnce (s.toCore.killId y.id) s'.toCore)
      (remoteMarkDead plat sys s r) := by
  have hr : (s.remotes r).isSome := by
    rw [hy]
    rfl
  have hsound : ∀ {α : Type} {m : Except Fault α} {P : α → Prop}, Sound m →
      Post (fun _ => True) P m →
      Post (fun f => ClientsApart s.toCore (doomed y.id s.toCore) → ¬ f.IsUse) P m := fun h hP =>
    Post.imp (h.post hP) (fun _ hf _ => hf) fun _ ha => ha
  refine Post.bind (hsound (remote_sound hr) remote_runs.returns) fun y' hy' => ?_
  cases hy.symm.trans hy'
  refine Post.bind (hsound (modifyRemote_sound hr) modifyRemote_runs.returns) fun s₁ h₁ => ?_
  obtain ⟨y', hy', rfl⟩ := h₁
  cases hy.symm.trans hy'
  refine Post.bind (hsound (killLoop_sound (hwf.setRemote hr)) (killLoop_runs hwf hy).returns)
    fun s₂ h₂ => ?_
  have hwf₂ : WF s₂.toCore := by
    rw [h₂]
    exact hwf.killId
  refine Post.bind (hsound (findRemote_sound hwf₂.remotes_live) findRemote_runs.returns)
    fun o ho => ?_
  rcases ho with ⟨rfl, hnone⟩ | ⟨r', z, rfl, _, hz, hstate⟩
  · have hdead : ∀ r' z, s₂.toCore.remotes r' = some z → z.state = .dead := by
      intro r' z hz
      have hmem : r' ∈ s₂.remoteList.elems := by
        rw [hwf₂.remotes, hz]
        rfl
      simpa using hnone r' z hmem hz
    have hlinks₂ : LinksLive s₂.toCore := by
      rw [h₂]
      exact hlinks.inPlace .killId
    refine Post.imp (disposeAll_sweeping hwf₂ hlinks₂) (fun f hf hapart => hf ?_) fun s' hs' => ?_
    · rw [h₂] at hdead ⊢
      exact hapart.of_sameRegistry .killId fun r' z _ hz =>
        (dead_killId_iff hwf).mp ⟨z, hz, hdead r' z hz⟩
    · rw [h₂] at hdead hs'
      exact Or.inr ⟨hdead, hs'⟩
  · refine Post.imp (hsound (modifyRemote_sound (by rw [hz]; rfl)) modifyRemote_runs.returns)
      (fun _ hf => hf) fun s' h' => ?_
    obtain ⟨z', hz', rfl⟩ := h'
    change s₂.toCore.remotes r' = some z at hz
    change s₂.toCore.remotes r' = some z' at hz'
    cases hz.symm.trans hz'
    rw [h₂] at hz
    refine Or.inl ⟨r', z, hz, by simpa using hstate, ?_⟩
    show s₂.toCore.setRemote r' _ = _
    rw [h₂]

/-- `remote_mux_service_remove` and, if the list is not empty then, the reap
loop of the next `usbmux_remote_process`. -/
def removeAndReap (plat : Platform) (sys sys' : Sys) (s : Daemon)
    (serviceName hostName : Option String) (port : UInt16) (fd : Nat) (events : PollEvents) :
    Except Fault Daemon := do
  let (_, s) ← remoteMuxServiceRemove plat sys s serviceName hostName port
  if s.remoteList.elems = [] then pure s
  else
    let (s, _) ← reapLoop plat sys' fd events s
    pure s

/-- Everything is gone after it was disposed of at once. -/
theorem ReapedAtOnce.without {s s' : Core} {k : UInt8} (hwf : WF s)
    (h : ReapedAtOnce (s.killId k) s') :
    Without (s.killId k) (doomed k s) s' ∧ ∀ r, s'.remotes r = none := by
  obtain ⟨hdead, hsweep⟩ := h
  have hw : Without (s.killId k) (doomed k s) s' := by
    refine hsweep.done fun r => ?_
    rw [← dead_killId_iff hwf, and_true, Option.isSome_iff_exists]
    constructor
    · intro h
      obtain ⟨z, hz, _⟩ := h
      exact ⟨z, hz⟩
    · intro h
      obtain ⟨z, hz⟩ := h
      exact ⟨z, hz, hdead r z hz⟩
  refine ⟨hw, fun r => ?_⟩
  rw [hw.remote]
  split
  · rfl
  · next hnot =>
      cases hz : (s.killId k).remotes r with
      | none => rfl
      | some z => exact absurd ((dead_killId_iff hwf).mp ⟨z, hz, hdead r z hz⟩) hnot

/-- Whoever reaps, the same remotes are gone and the rest is as it was. -/
theorem removeAndReap_post {serviceName hostName : Option String} {port : UInt16} {fd : Nat}
    {events : PollEvents} (hwf : WF s.toCore) (hreg : Registry s.toCore)
    (hlinks : LinksLive s.toCore)
    (hfound : findRemote s (matchesService serviceName hostName port) s.remoteList.elems =
      .ok (some (r, y)))
    (hevents : events ≠ { pollnval := true }) :
    Post (fun f => ClientsApart s.toCore (doomed y.id s.toCore) → ¬ f.IsUse)
      (fun s' : Daemon => Reaped y.id s.toCore s'.toCore ∧
        ClientsApart s.toCore (doomed y.id s.toCore))
      (removeAndReap plat sys sys' s serviceName hostName port fd events) := by
  obtain ⟨hlist, hy⟩ : r ∈ s.remoteList.elems ∧ s.remotes r = some y := by
    have h := findRemote_runs.returns.of_ok hfound
    rcases h with ⟨h, _⟩ | ⟨r', y', h, hlist, hy, _⟩
    · cases h
    · cases h
      exact ⟨hlist, hy⟩
  have hremove : Post (fun f => ClientsApart s.toCore (doomed y.id s.toCore) → ¬ f.IsUse)
      (fun res : Int × Daemon => Woken (s.toCore.killId y.id) res.2.toCore ∨
        ReapedAtOnce (s.toCore.killId y.id) res.2.toCore)
      (remoteMuxServiceRemove plat sys s serviceName hostName port) := by
    refine Post.bind (Post.imp (lockRemoteList_sound.post lockRemoteList_runs.returns)
      (fun _ hf _ => hf) fun _ h => h) fun s₁ h₁ => ?_
    have hfind : findRemote s₁ (matchesService serviceName hostName port) s₁.remoteList.elems =
        .ok (some (r, y)) := by
      rw [findRemote_congr (congrArg Core.remotes h₁), show s₁.remoteList = s.remoteList from
        congrArg Core.remoteList h₁]
      exact hfound
    rw [hfind]
    rw [← h₁] at hwf hlinks ⊢
    have hy₁ : s₁.remotes r = some y := (congrFun (congrArg Core.remotes h₁) r).trans hy
    change Post _ _ (remoteMarkDead plat sys s₁ r >>= _)
    exact Post.bind (remoteMarkDead_reaping hwf hlinks hy₁) fun _ h => h
  refine Post.bind hremove fun res hres => ?_
  obtain ⟨_, s₁⟩ := res
  change Woken _ s₁.toCore ∨ ReapedAtOnce _ s₁.toCore at hres
  dsimp only
  rcases hres with hwoken | hatOnce
  · obtain ⟨r', z, hz, hstate, hs₁⟩ := hwoken
    have hsame : SameRegistry s.toCore s₁.toCore := by
      rw [hs₁]
      exact SameRegistry.killId.trans (.wake hz)
    have hwf₁ : WF s₁.toCore := by
      rw [hs₁]
      exact hwf.killId.setRemote (by rw [hz]; rfl)
    have hlinks₁ : LinksLive s₁.toCore := by
      intro r₁ y₁ c hy₁ hc
      obtain ⟨w, hw, hclient⟩ := hsame.remote_before hy₁
      rw [hs₁]
      exact hlinks r₁ w c hw (hclient.symm.trans hc)
    have hdoomed : ∀ r₁, (∃ y, s₁.toCore.remotes r₁ = some y ∧ y.state = .dead) ↔
        r₁ ∈ doomed y.id s.toCore := by
      intro r₁
      rw [hs₁, dead_wake_iff hz, dead_killId_iff hwf]
    -- the woken remote is in the list
    have hne : s₁.remoteList.elems ≠ [] := by
      refine List.ne_nil_of_mem (a := r') ?_
      rw [hwf₁.remotes, hs₁, Core.remotes_setRemote, if_pos rfl]
      rfl
    rw [if_neg hne]
    refine Post.bind (Post.imp (reapLoop_sweeping hwf₁ hlinks₁ hevents)
      (fun f hf hapart => hf ?_) fun _ h => h) fun p hp => ?_
    · exact hapart.of_sameRegistry hsame fun r₁ _ hk _ => (hdoomed r₁).mp hk
    · refine (hp.done fun r₁ => ?_).reaped hsame hreg
      rw [← hdoomed r₁]
      constructor
      · intro h
        obtain ⟨y₁, hy₁, hdead⟩ := h
        exact ⟨by rw [hy₁]; rfl, y₁, hy₁, hdead⟩
      · exact fun h => h.2
  · obtain ⟨hw, hempty⟩ := hatOnce.without hwf
    have hnil : s₁.remoteList.elems = [] := by
      refine List.eq_nil_iff_forall_not_mem.mpr fun r' hr' => ?_
      rw [hw.wf.remotes, hempty] at hr'
      cases hr'
    rw [if_pos hnil]
    exact hw.reaped .killId hreg

/-- In every reachable state where no remote is linked to a freed client,
removing a listener and reaping leaves what is not doomed if and only if no
two doomed remotes have the same client. -/
theorem removeAndReap_iff {serviceName hostName : Option String} {port : UInt16} {fd : Nat}
    {events : PollEvents} (hs : Reachable plat s) (hlinks : LinksLive s.toCore)
    (hfound : findRemote s (matchesService serviceName hostName port) s.remoteList.elems =
      .ok (some (r, y)))
    (hevents : events ≠ { pollnval := true })
    (hother : ∀ f, removeAndReap plat sys sys' s serviceName hostName port fd events = .error f →
      f.IsUse) :
    (∃ s', removeAndReap plat sys sys' s serviceName hostName port fd events = .ok s' ∧
      Reaped y.id s.toCore s'.toCore) ↔ ClientsApart s.toCore (doomed y.id s.toCore) := by
  obtain ⟨hwf, hreg⟩ := reachable_registry hs
  have hpost : Post _ _ (removeAndReap plat sys sys' s serviceName hostName port fd events) :=
    removeAndReap_post hwf hreg hlinks hfound hevents
  constructor
  · intro h
    obtain ⟨s', hs', _⟩ := h
    exact (hpost.of_ok hs').2
  · intro hapart
    cases hres : removeAndReap plat sys sys' s serviceName hostName port fd events with
    | ok s' => exact ⟨s', rfl, (hpost.of_ok hres).1⟩
    | error f => exact absurd (hother f hres) (hpost.of_error hres hapart)

end Removal

/-- The only remote is a listener that has announced a device to a client. -/
theorem removeAndReap_iff_announced :
    ∃ s s' y, Reachable (platformWith [numberedMessage]) s ∧ s.remotes ⟨0⟩ = some y ∧
      s.remoteDeviceList.keys = ["0x01000005"] ∧ doomed y.id s.toCore = [⟨0⟩] ∧
      removeAndReap (platformWith [numberedMessage]) {} {} s (some "hosta") none 0 5 {} = .ok s' ∧
      Reaped y.id s.toCore s'.toCore := by
  let plat := platformWith [numberedMessage]
  let found : Daemon → Except Fault (Option (RemotePtr × RemoteMux)) := fun s =>
    findRemote s (matchesService (some "hosta") none 0) s.remoteList.elems
  let test : Daemon → Bool := fun s =>
    okAnd (fun o => o.any fun p => decide (p.1 = ⟨0⟩) && decide (doomed p.2.id s.toCore = [⟨0⟩]))
      (found s) &&
    decide (s.remoteDeviceList.keys = ["0x01000005"]) &&
    s.remoteList.elems.all (fun r => (s.remotes r).all fun y => y.client.isNone) &&
    okAnd (fun _ => true) (removeAndReap plat {} {} s (some "hosta") none 0 5 {})
  obtain ⟨s, hrun, htest⟩ : ∃ s, runFrom plat {} (fun _ _ => true) announcedRun = some s ∧
      test s = true := exists_of_runFrom (by decide +kernel)
  have hs := reachable_of_runFrom hrun
  simp only [test, Bool.and_eq_true, List.all_eq_true] at htest
  obtain ⟨⟨⟨hfound, hkeys⟩, hclients⟩, hok⟩ := htest
  obtain ⟨o, heq, hany⟩ := exists_of_okAnd hfound
  obtain ⟨⟨r, y⟩, rfl, hfirst⟩ := (Option.any_eq_true _ _).mp hany
  simp only [Bool.and_eq_true, decide_eq_true_eq] at hfirst
  obtain ⟨rfl, hdoomed⟩ := hfirst
  have hlinks : LinksLive s.toCore := by
    intro r' y' c hy' hc
    have hnone := hclients r' (((reachable_wf hs).remotes r').mpr (by rw [hy']; rfl))
    rw [hy', Option.all_some, hc] at hnone
    cases hnone
  have hapart : ClientsApart s.toCore (doomed y.id s.toCore) := by
    intro r₁ h₁ r₂ h₂ hne
    rw [hdoomed, List.mem_singleton] at h₁ h₂
    exact absurd (h₁.trans h₂.symm) hne
  have hother : ∀ f, removeAndReap plat {} {} s (some "hosta") none 0 5 {} = .error f →
      f.IsUse := by
    intro f hf
    rw [hf] at hok
    cases hok
  obtain ⟨s', hs', hreaped⟩ := (removeAndReap_iff hs hlinks heq (by decide) hother).mpr hapart
  refine ⟨s, s', y, hs, ?_, of_decide_eq_true hkeys, hdoomed, hs', hreaped⟩
  rcases findRemote_runs.returns.of_ok heq with ⟨h, _⟩ | ⟨r', y', h, _, hy, _⟩
  · cases h
  · cases h
    exact hy

/-- A client is refused by a host and asks for it again. -/
def refusedRun : List Event :=
  listeningRun ++ .accept (some 5) ::
    (clientSends 5 { connect := some 11 } (connectFrame 7 0x01000003 80) ++
      remoteSends 11 (resultFrame 3) ++
      clientSends 5 { connect := some 12 } (connectFrame 8 0x01000003 80))

/-- The two remotes of that client have the listener's id. When its service is
removed the first takes the client along, and the second follows its link. -/
theorem reaping_uses_freed_client :
    ∃ s r y f, Reachable (platformWith []) s ∧ LinksLive s.toCore ∧
      findRemote s (matchesService (some "hosta") none 0) s.remoteList.elems =
        .ok (some (r, y)) ∧
      removeAndReap (platformWith []) {} {} s (some "hosta") none 0 5 {} = .error f ∧
      f.IsUse := by
  let found : Daemon → Except Fault (Option (RemotePtr × RemoteMux)) := fun s =>
    findRemote s (matchesService (some "hosta") none 0) s.remoteList.elems
  let test : Daemon → Bool := fun s =>
    okAnd Option.isSome (found s) &&
    s.remoteList.elems.all (fun r => (s.remotes r).all fun y =>
      y.client.all fun c => (s.clients c).isSome) &&
    failsWith (.remoteClient ⟨2⟩)
      (removeAndReap (platformWith []) {} {} s (some "hosta") none 0 5 {})
  obtain ⟨s, hrun, htest⟩ : ∃ s, runFrom (platformWith []) {} (fun _ _ => true) refusedRun =
      some s ∧ test s = true := exists_of_runFrom (by decide +kernel)
  have hs := reachable_of_runFrom hrun
  simp only [test, Bool.and_eq_true, List.all_eq_true] at htest
  obtain ⟨⟨hfound, hclients⟩, hfault⟩ := htest
  have hlinks : LinksLive s.toCore := by
    intro r y c hy hc
    have hlive := hclients r (((reachable_wf hs).remotes r).mpr (by rw [hy]; rfl))
    rw [hy, Option.all_some, hc, Option.all_some] at hlive
    exact hlive
  obtain ⟨o, heq, hsome⟩ := exists_of_okAnd hfound
  obtain ⟨p, rfl⟩ := Option.isSome_iff_exists.mp hsome
  exact ⟨s, p.1, p.2, _, hs, hlinks, heq, eq_of_failsWith hfault, trivial⟩

end Usbfluxd
