import Usbfluxd.Moves.Client

/-!
# Remotes leave the list in moves

`usbmux_remote_close`, `usbmux_remote_dispose` and `remote_mark_dead`. The
first two are moves up to the devices a disposed remote takes with it, which
go one by one before it. `remote_mark_dead` is a loop that turns out to be
one move, the death of an id, because the list holds every live remote.
-/

namespace Usbfluxd

open Lib

/-! ## Searching the list -/

section Find

variable {A : Allow} {s₀ : Core} {s : Daemon} {p : RemoteMux → Bool}

theorem findRemote_runs {l : List RemotePtr} :
    Runs A s₀ (fun o =>
      (o = none ∧ ∀ r y, r ∈ l → s.remotes r = some y → p y = false) ∨
        ∃ r y, o = some (r, y) ∧ r ∈ l ∧ s.remotes r = some y ∧ p y = true)
      (findRemote s p l) := by
  induction l with
  | nil => exact Or.inl ⟨rfl, fun r y hr => absurd hr List.not_mem_nil⟩
  | cons r rest ih =>
      rw [findRemote]
      refine remote_runs.bind fun y hy => ?_
      split
      · next hp => exact Or.inr ⟨r, y, rfl, List.mem_cons_self, hy, hp⟩
      · next hp =>
          refine ih.imp ?_
          rintro o (⟨rfl, hnone⟩ | ⟨r', y', rfl, hr', hy', hp'⟩)
          · refine Or.inl ⟨rfl, fun r' y' hr' hy' => ?_⟩
            rcases List.mem_cons.mp hr' with rfl | hr'
            · cases hy.symm.trans hy'
              simpa using hp
            · exact hnone r' y' hr' hy'
          · exact Or.inr ⟨r', y', rfl, List.mem_cons_of_mem _ hr', hy', hp'⟩

end Find

/-! ## Closing -/

section Close

variable {A : Allow} {s : Daemon} {r : RemotePtr}

theorem usbmuxRemoteClose_runs (hleave : ∀ t c x, A.leaveOk t c x)
    (hclose : ∀ y, s.remotes r = some y → y.client = none → A.closeOk s.toCore r y) :
    Runs A s.toCore (fun s' => Moves A s.toCore s'.toCore) (usbmuxRemoteClose s r) := by
  refine remote_runs.bind fun y hy => ?_
  split
  · exact remoteClient_runs.bind fun c _ =>
      clientClose_moves Moves.refl fun x _ => hleave s.toCore c x
  · next hnone =>
      refine lockRemoteList_runs.bind fun s₁ h₁ => ?_
      refine remoteClose_runs.bind ?_
      rintro s₂ ⟨_, h₂⟩
      show Moves A s.toCore s₂.toCore
      rw [h₂, h₁]
      exact (Move.closeRemote hy hnone (hclose y hy hnone)).single

end Close

/-! ## Disposing -/

/-- The devices of an id are withdrawn, in the order of the keys left to
look at. -/
inductive Forgotten (lossOk : Prop) (k : UInt8) : List String → Core → Core → Prop where
  | nil {s : Core} : Forgotten lossOk k [] s s
  | keep {key : String} {rest : List String} {s s' : Core}
      (hkey : keyDevice key >>> 24 ≠ k.toUInt32) (h : Forgotten lossOk k rest s s') :
      Forgotten lossOk k (key :: rest) s s'
  | gone {key : String} {rest : List String} {s s₁ s' : Core}
      (hmem : key ∈ s.remoteDeviceList.keys) (hkey : keyDevice key >>> 24 = k.toUInt32)
      (hn : Notified lossOk (.detached (keyDevice key)) s.clientList.elems s s₁)
      (h : Forgotten lossOk k rest
        { s₁ with remoteDeviceList := s.remoteDeviceList.erase key } s') :
      Forgotten lossOk k (key :: rest) s s'

/-- What a notification leaves alone. -/
structure SameButClients (s s' : Core) : Prop where
  remotes : s'.remotes = s.remotes
  clientList : s'.clientList = s.clientList
  remoteList : s'.remoteList = s.remoteList
  remoteIdMap : s'.remoteIdMap = s.remoteIdMap
  nextRemote : s'.nextRemote = s.nextRemote
  nextClient : s'.nextClient = s.nextClient
  client : ∀ {c x}, s.clients c = some x →
    ∃ ob e, s'.clients c = some { x with ob := ob, events := e } ∧ x.Fed ob e
  noClient : ∀ {c}, s.clients c = none → s'.clients c = none

theorem SameButClients.refl {s : Core} : SameButClients s s where
  remotes := rfl
  clientList := rfl
  remoteList := rfl
  remoteIdMap := rfl
  nextRemote := rfl
  nextClient := rfl
  client {_ x} hx := ⟨x.ob, x.events, hx, Or.inl ⟨rfl, rfl⟩⟩
  noClient h := h

theorem MuxClient.Fed.trans {x : MuxClient} {ob ob' : Buf} {e e' : PollEvents} (h : x.Fed ob e)
    (h' : MuxClient.Fed { x with ob := ob, events := e } ob' e') : x.Fed ob' e' := by
  rcases h with ⟨rfl, rfl⟩ | ⟨_, hpre, rfl⟩
  · exact h'
  · rcases h' with ⟨rfl, rfl⟩ | ⟨hnull', hpre', rfl⟩
    · exact Or.inr ⟨‹_›, hpre, rfl⟩
    · exact Or.inr ⟨hnull', hpre.trans hpre', rfl⟩

theorem SameButClients.trans {s s' s'' : Core} (h : SameButClients s s')
    (h' : SameButClients s' s'') : SameButClients s s'' where
  remotes := h'.remotes.trans h.remotes
  clientList := h'.clientList.trans h.clientList
  remoteList := h'.remoteList.trans h.remoteList
  remoteIdMap := h'.remoteIdMap.trans h.remoteIdMap
  nextRemote := h'.nextRemote.trans h.nextRemote
  nextClient := h'.nextClient.trans h.nextClient
  client hx := by
    obtain ⟨ob, e, hx', hfed⟩ := h.client hx
    obtain ⟨ob', e', hx'', hfed'⟩ := h'.client hx'
    exact ⟨ob', e', hx'', hfed.trans hfed'⟩
  noClient hc := h'.noClient (h.noClient hc)

theorem SameButClients.withDevices {s s' : Core} {d : OMap String Plist}
    (h : SameButClients s s') : SameButClients s { s' with remoteDeviceList := d } :=
  ⟨h.remotes, h.clientList, h.remoteList, h.remoteIdMap, h.nextRemote, h.nextClient, h.client,
    h.noClient⟩

/-- Output is queued on one client. -/
theorem SameButClients.output {s : Core} {c : ClientPtr} {x : MuxClient} {ob : Buf}
    {e : PollEvents} {acts : List Act} (hx : s.clients c = some x) (hfed : x.Fed ob e) :
    SameButClients s ((s.setClient c { x with ob := ob, events := e }).emit acts) := by
  refine ⟨rfl, rfl, rfl, rfl, rfl, rfl, fun {c' x'} hx' => ?_, fun {c'} hc' => ?_⟩
  · rw [Core.clients_emit, Core.clients_setClient]
    split
    · next heq =>
        subst heq
        cases hx.symm.trans hx'
        exact ⟨ob, e, rfl, hfed⟩
    · exact ⟨x'.ob, x'.events, hx', Or.inl ⟨rfl, rfl⟩⟩
  · rw [Core.clients_emit, Core.clients_setClient]
    split
    · next heq =>
        subst heq
        cases hx.symm.trans hc'
    · exact hc'

theorem Queued.same {c : ClientPtr} {x : MuxClient} {hdr : Header} {payload : Payload}
    {s s' : Core} (h : Queued c x hdr payload s s') : SameButClients s s' := by
  obtain ⟨hx, _, ob, hob, rfl⟩ := h
  exact .output hx hob.fed

theorem Announces.same {s s' : Core} (h : Announces s s') : SameButClients s s' := by
  refine invariant_of_step (R := Announce) (P := SameButClients s) ?_ h .refl
  rintro t t' ⟨c, x, hdr, payload, _, hq⟩ ht
  exact ht.trans hq.same

theorem Announces.remoteDeviceList {s s' : Core} (h : Announces s s') :
    s'.remoteDeviceList = s.remoteDeviceList := by
  refine invariant_of_step (R := Announce)
    (P := fun t => t.remoteDeviceList = s.remoteDeviceList) ?_ h rfl
  rintro t t' ⟨c, x, hdr, payload, _, _, _, _, _, rfl⟩ ht
  exact ht

theorem Forgotten.same {lossOk : Prop} {k : UInt8} {keys : List String} {s s' : Core}
    (h : Forgotten lossOk k keys s s') : SameButClients s s' := by
  induction h with
  | nil => exact .refl
  | keep _ _ ih => exact ih
  | gone _ _ hn _ ih => exact hn.announces.same.withDevices.trans ih

theorem Forgotten.moves {A : Allow} {k : UInt8} {keys : List String} {s s' : Core}
    (h : Forgotten A.lossOk k keys s s') : Moves A s s' := by
  induction h with
  | nil => exact Moves.refl
  | keep _ _ ih => exact ih
  | gone hmem _ hn _ ih => exact (Move.deviceErase (Or.inl hmem) hn).single.trans ih

/-- A device of the id that is still there was not among the keys looked at. -/
theorem Forgotten.kept {lossOk : Prop} {k : UInt8} {keys : List String} {s s' : Core}
    (h : Forgotten lossOk k keys s s') {key : String} (hkey : key ∈ s'.remoteDeviceList.keys)
    (hk : keyDevice key >>> 24 = k.toUInt32) : key ∈ s.remoteDeviceList.keys ∧ key ∉ keys := by
  induction h with
  | nil => exact ⟨hkey, List.not_mem_nil⟩
  | keep hne _ ih =>
      obtain ⟨hmem, hnot⟩ := ih hkey
      refine ⟨hmem, fun h => ?_⟩
      rcases List.mem_cons.mp h with rfl | h
      · exact hne hk
      · exact hnot h
  | gone _ _ _ _ ih =>
      obtain ⟨hmem, hnot⟩ := ih hkey
      rw [OMap.mem_keys_erase] at hmem
      exact ⟨hmem.2, fun h => (List.mem_cons.mp h).elim hmem.1 hnot⟩

section Dispose

variable {A : Allow} {s₀ : Core} {s : Daemon} {r : RemotePtr} {plat : Platform} {sys : Sys}

theorem notifyDeviceList_runs {k : UInt8} {l : List (String × Plist)}
    (hloss : Loss plat sys → A.lossOk) (hnodup : (l.map Prod.fst).Nodup)
    (hsub : ∀ key ∈ l.map Prod.fst, key ∈ s.remoteDeviceList.keys) :
    Runs A s₀ (fun s' => Forgotten A.lossOk k (l.map Prod.fst) s.toCore s'.toCore)
      (plistDictForeach (remoteDeviceNotifyRemove plat sys k) l s) := by
  induction l generalizing s with
  | nil => exact Forgotten.nil
  | cons p rest ih =>
      obtain ⟨key, value⟩ := p
      rw [List.map_cons, List.nodup_cons] at hnodup
      rw [List.map_cons, List.forall_mem_cons] at hsub
      rw [plistDictForeach]
      refine Runs.bind (P := fun res => res.1 = 0 ∧
        (∀ key ∈ rest.map Prod.fst, key ∈ res.2.remoteDeviceList.keys) ∧
        ∀ {t}, Forgotten A.lossOk k (rest.map Prod.fst) res.2.toCore t →
          Forgotten A.lossOk k (key :: rest.map Prod.fst) s.toCore t) ?_ ?_
      · rw [remoteDeviceNotifyRemove]
        split
        · next hkey =>
            refine (clientDeviceRemove_runs hloss).bind fun s₁ h₁ =>
              ⟨rfl, fun key' hkey' => ?_, fun h => ?_⟩
            · show key' ∈ (s₁.remoteDeviceList.erase key).keys
              rw [h₁.announces.remoteDeviceList, OMap.mem_keys_erase]
              refine ⟨?_, hsub.2 key' hkey'⟩
              rintro rfl
              exact hnodup.1 hkey'
            · refine .gone hsub.1 hkey h₁ ?_
              rw [← h₁.announces.remoteDeviceList]
              exact h
        · next hkey => exact ⟨rfl, hsub.2, fun h => .keep hkey h⟩
      · rintro ⟨res, s₁⟩ ⟨rfl, hsub₁, hrest⟩
        exact (ih hnodup.2 hsub₁).imp fun s' h' => hrest h'

theorem disposeClient_runs {y : RemoteMux} :
    Runs A s₀ (fun s' => (∀ c, y.client = some c → (s.clients c).isSome) ∧
      s'.toCore = s.toCore.dropLinkedClient y.client) (disposeClient s r y) := by
  rw [disposeClient]
  split
  · next hnone =>
      refine ⟨fun c hc => ?_, by rw [hnone]; rfl⟩
      rw [hnone] at hc
      cases hc
  · refine remoteClient_runs.bind ?_
    rintro c ⟨hc, hlive⟩
    refine modifyClient_runs.bind ?_
    rintro s₁ ⟨x, hx, rfl⟩
    have hself : (s.toCore.setClient c { x with remote := none }).clients c =
        some { x with remote := none } := if_pos rfl
    refine (clientClose_runs fun x' r' hx' hr' _ => ?_).imp ?_
    · cases hself.symm.trans hx'
      cases hr'
    · rintro s' ⟨x', hx', _, h'⟩
      cases hself.symm.trans hx'
      refine ⟨fun c' hc' => ?_, ?_⟩
      · cases hc.symm.trans hc'
        exact hlive
      · rw [h', hc]
        exact Core.dropClient_setClient

/-- `usbmux_remote_dispose`: first the devices go, then the remote. -/
def Disposed (lossOk : Prop) (r : RemotePtr) (y : RemoteMux) (s s' : Core) : Prop :=
  s.remotes r = some y ∧ ∃ t, Forgotten lossOk y.id s.remoteDeviceList.keys s t ∧
    (∀ c, y.client = some c → (t.clients c).isSome) ∧ s' = t.dispose r y

theorem usbmuxRemoteDispose_runs (hloss : Loss plat sys → A.lossOk) :
    Runs A s₀ (fun s' => ∃ y, Disposed A.lossOk r y s.toCore s'.toCore)
      (usbmuxRemoteDispose plat sys s r) := by
  refine remote_runs.bind fun y hy => ?_
  refine (notifyDeviceList_runs hloss s.remoteDeviceList.nodup fun _ h => h).bind
    fun s₁ h₁ => ?_
  refine disposeClient_runs.bind ?_
  rintro s₂ ⟨hlive, h₂⟩
  refine remote_runs.bind fun _ _ => ?_
  refine ⟨y, hy, s₁.toCore, h₁, hlive, ?_⟩
  rw [toCore_update, toCore_update, h₂, toCore_update, Core.dispose]
  cases y.client with
  | none | some =>
      by_cases hid : y.isListener ∧ y.host.isSome
      · simp only [Core.releaseId, if_pos hid]
        rfl
      · simp only [Core.releaseId, if_neg hid]
        rfl

theorem Disposed.remotes {lossOk : Prop} {y : RemoteMux} {s s' : Core} {r' : RemotePtr}
    (h : Disposed lossOk r y s s') :
    s'.remotes r' = if r' = r then none else s.remotes r' := by
  obtain ⟨_, t, ht, _, rfl⟩ := h
  rw [Core.dispose, Core.remotes_releaseId, Core.remotes_dropLinkedClient,
    Core.remotes_dropRemote, ht.same.remotes]

theorem Disposed.remoteList {lossOk : Prop} {y : RemoteMux} {s s' : Core}
    (h : Disposed lossOk r y s s') : s'.remoteList = s.remoteList.remove r := by
  obtain ⟨_, t, ht, _, rfl⟩ := h
  rw [Core.dispose, Core.remoteList_releaseId, Core.remoteList_dropLinkedClient,
    ← ht.same.remoteList]
  rfl

/-- Clients may go, and what stays changes in its output only. -/
def ClientsKept (s s' : Core) : Prop :=
  ∀ c x', s'.clients c = some x' →
    ∃ x ob e, s.clients c = some x ∧ x' = { x with ob := ob, events := e }

theorem ClientsKept.refl {s : Core} : ClientsKept s s :=
  fun _ x hx => ⟨x, x.ob, x.events, hx, rfl⟩

theorem ClientsKept.trans {s s' s'' : Core} (h : ClientsKept s s') (h' : ClientsKept s' s'') :
    ClientsKept s s'' := by
  intro c x'' hx''
  obtain ⟨x', ob', e', hx', rfl⟩ := h' c x'' hx''
  obtain ⟨x, ob, e, hx, rfl⟩ := h c x' hx'
  exact ⟨x, ob', e', hx, rfl⟩

theorem Disposed.clientsKept {lossOk : Prop} {y : RemoteMux} {s s' : Core}
    (h : Disposed lossOk r y s s') : ClientsKept s s' := by
  obtain ⟨_, t, ht, _, rfl⟩ := h
  intro c x' hx'
  rw [Core.dispose, Core.clients_releaseId, Core.clients_dropLinkedClient] at hx'
  split at hx'
  · cases hx'
  · rw [Core.clients_dropRemote] at hx'
    cases hx : s.clients c with
    | none => cases (ht.same.noClient hx).symm.trans hx'
    | some x =>
        obtain ⟨ob, e, hx₁, _⟩ := ht.same.client hx
        cases hx₁.symm.trans hx'
        exact ⟨x, ob, e, rfl, rfl⟩

theorem Disposed.moves {y : RemoteMux} {s s' : Core} (h : Disposed A.lossOk r y s s')
    (hwhy : ∀ t, SameButClients s t → (y.state = .dead ∧ A.reapOk) ∨ A.disposeOk t r y) :
    Moves A s s' := by
  obtain ⟨hy, t, ht, hlive, rfl⟩ := h
  rw [← ht.same.remotes] at hy
  have hclear : ∀ key ∈ t.remoteDeviceList.keys, keyDevice key >>> 24 ≠ y.id.toUInt32 := by
    intro key hkey hk
    obtain ⟨hmem, hnot⟩ := ht.kept hkey hk
    exact hnot hmem
  exact ht.moves.trans (Move.dispose hy hlive (hwhy t ht.same) hclear).single

end Dispose

/-! ## Reaping

Two loops dispose of the dead remotes they meet. What they have in common is
what is true with some slots left to visit: no dead remote is in a slot that
was passed. -/

/-- The state of a reaping loop that has some slots left to visit. -/
structure Reaping (A : Allow) (s : Core) (idx : List Nat) (t : Core) : Prop where
  moves : Moves A s t
  wf : WF t
  sub : ∀ {r y}, t.remotes r = some y → s.remotes r = some y
  clientsKept : ClientsKept s t
  left : ∀ {j r y}, t.remoteList.slot j = some r → t.remotes r = some y →
    y.state = .dead → j ∈ idx

section Reap

variable {A : Allow} {s t t' : Core} {i : Nat} {rest : List Nat} {r : RemotePtr}
  {y : RemoteMux}

theorem Reaping.start (hwf : WF s) : Reaping A s (List.range s.remoteList.capacity) s where
  moves := Moves.refl
  wf := hwf
  sub h := h
  clientsKept := .refl
  left hj _ _ := List.mem_range.mpr (Collection.slot_lt hj)

theorem Reaping.skip (h : Reaping A s (i :: rest) t) (hi : t.remoteList.slot i = none) :
    Reaping A s rest t where
  moves := h.moves
  wf := h.wf
  sub := h.sub
  clientsKept := h.clientsKept
  left {j r y} hj hy hdead := by
    rcases List.mem_cons.mp (h.left hj hy hdead) with rfl | hj'
    · cases hi.symm.trans hj
    · exact hj'

theorem Reaping.keep (h : Reaping A s (i :: rest) t) (hi : t.remoteList.slot i = some r)
    (hy : t.remotes r = some y) (hstate : y.state ≠ .dead) : Reaping A s rest t where
  moves := h.moves
  wf := h.wf
  sub := h.sub
  clientsKept := h.clientsKept
  left {j r' y'} hj hy' hdead := by
    rcases List.mem_cons.mp (h.left hj hy' hdead) with rfl | hj'
    · cases hi.symm.trans hj
      cases hy.symm.trans hy'
      exact absurd hdead hstate
    · exact hj'

theorem Reaping.dispose (h : Reaping A s (i :: rest) t) (hi : t.remoteList.slot i = some r)
    (hd : Disposed A.lossOk r y t t')
    (hwhy : ∀ u, SameButClients t u → (y.state = .dead ∧ A.reapOk) ∨ A.disposeOk u r y) :
    Reaping A s rest t' := by
  have hm := hd.moves hwhy
  refine ⟨h.moves.trans hm, h.wf.moves hm, fun {r' y'} hy' => ?_,
    h.clientsKept.trans hd.clientsKept, fun {j r' y'} hj hy' hdead => ?_⟩
  · rw [hd.remotes] at hy'
    split at hy'
    · cases hy'
    · exact h.sub hy'
  · rw [hd.remotes] at hy'
    split at hy'
    · cases hy'
    · next hne =>
        rw [hd.remoteList] at hj
        have hj' := Collection.slot_remove hj
        rcases List.mem_cons.mp (h.left hj' hy' hdead) with rfl | hmem
        · cases hi.symm.trans hj'
          exact absurd rfl hne
        · exact hmem

/-- With no slot left, no dead remote is left. -/
theorem Reaping.done (h : Reaping A s [] t) (hy : t.remotes r = some y) :
    y.state ≠ .dead := by
  intro hdead
  have hmem : r ∈ t.remoteList.elems := by
    rw [h.wf.remotes, hy]
    rfl
  obtain ⟨j, hj⟩ := Collection.mem_elems_iff.mp hmem
  exact absurd (h.left hj hy hdead) List.not_mem_nil

end Reap

/-! ## Marking dead -/

section MarkDead

variable {A : Allow} {s₀ : Core} {s : Daemon} {r : RemotePtr} {plat : Platform} {sys : Sys}

theorem disposeAll_runs (hloss : Loss plat sys → A.lossOk) (hreap : A.reapOk)
    (hwf : WF s.toCore) (hdead : ∀ r y, s.remotes r = some y → y.state = .dead) :
    Runs A s₀ (fun s' => Moves A s.toCore s'.toCore ∧ ClientsKept s.toCore s'.toCore ∧
      ∀ r, s'.remotes r = none) (forRemotes (usbmuxRemoteDispose plat sys) s) := by
  refine Runs.imp (P := fun s' : Daemon => Reaping A s.toCore [] s'.toCore)
    (slotLoop_post (P := fun idx (t : Daemon) => Reaping A s.toCore idx t.toCore)
      (fun h hi => h.skip hi) (fun {t i rest r'} h hi => ?_) (.start hwf)) fun s' h => ?_
  · refine (usbmuxRemoteDispose_runs hloss).imp ?_
    rintro t' ⟨y, hd⟩
    exact h.dispose hi hd fun _ _ => Or.inl ⟨hdead r' y (h.sub hd.1), hreap⟩
  · refine ⟨h.moves, h.clientsKept, fun r' => ?_⟩
    cases hy : s'.remotes r' with
    | none => rfl
    | some y => exact absurd (hdead r' y (h.sub hy)) (h.done hy)

/-- The loop of `remote_mark_dead` kills an id. -/
theorem killLoop_runs {y : RemoteMux} (hwf : WF s.toCore) (hy : s.remotes r = some y) :
    Runs A s₀ (fun s' => s'.toCore = s.toCore.killId y.id)
      (forRemotes (fun s r' => do
        let z ← s.remote r'
        if z.id = y.id then s.modifyRemote r' fun z => { z with state := .dead } else pure s)
        (s.update (·.setRemote r { y with state := .dead }))) := by
  -- every remote is killed already, or is as it was and still to be visited
  refine Runs.imp (slotLoop_post (P := fun idx (t : Daemon) =>
    t.toCore = { s.toCore with remotes := t.remotes } ∧
      ∀ r', t.remotes r' = (s.remotes r').map (RemoteMux.killed y.id) ∨
        (t.remotes r' = s.remotes r' ∧ r' ∈ idx.filterMap s.remoteList.slot)) ?_ ?_ ?_) ?_
  · rintro t i rest ⟨hcore, hall⟩ hi
    rw [hcore] at hi
    rw [List.filterMap_cons_none hi] at hall
    exact ⟨hcore, hall⟩
  · rintro t i rest r₁ ⟨hcore, hall⟩ hi
    rw [hcore] at hi
    rw [List.filterMap_cons_some hi] at hall
    refine remote_runs.bind fun z hz => ?_
    split
    · next hid =>
        refine modifyRemote_runs.imp ?_
        rintro t' ⟨z', hz', rfl⟩
        cases hz.symm.trans hz'
        refine ⟨?_, fun r' => ?_⟩
        · rw [toCore_update]
          show Core.setRemote t.toCore r₁ _ = _
          rw [hcore]
          rfl
        · rw [toCore_update, Core.remotes_setRemote]
          split
          · next heq =>
              subst heq
              refine Or.inl ?_
              rcases hall r' with h | ⟨h, _⟩
              · rw [hz] at h
                cases hs : s.remotes r' with
                | none => rw [hs] at h; cases h
                | some w =>
                    rw [hs, Option.map_some, Option.some_inj] at h
                    have hw : w.id = y.id := by rw [← hid, h, RemoteMux.id_killed]
                    rw [Option.map_some, h, RemoteMux.killed, if_pos hw]
              · rw [← h, hz, Option.map_some, RemoteMux.killed, if_pos hid]
          · next hne =>
              rcases hall r' with h | ⟨h, hmem⟩
              · exact Or.inl h
              · exact Or.inr ⟨h, (List.mem_cons.mp hmem).resolve_left hne⟩
    · next hid =>
        refine ⟨hcore, fun r' => ?_⟩
        rcases hall r' with h | ⟨h, hmem⟩
        · exact Or.inl h
        · rcases List.mem_cons.mp hmem with rfl | hmem
          · refine Or.inl ?_
            rw [← h, hz, Option.map_some, RemoteMux.killed, if_neg hid]
          · exact Or.inr ⟨h, hmem⟩
  · refine ⟨rfl, fun r' => ?_⟩
    rw [toCore_update, Core.remotes_setRemote]
    split
    · next heq =>
        subst heq
        rw [hy, Option.map_some, RemoteMux.killed, if_pos rfl]
        exact Or.inl rfl
    · cases hs : s.remotes r' with
      | none => exact Or.inl rfl
      | some z =>
          refine Or.inr ⟨rfl, ?_⟩
          show r' ∈ (List.range s.remoteList.capacity).filterMap s.remoteList.slot
          rw [Collection.filterMap_slot_range, hwf.remotes, hs]
          rfl
  · rintro s' ⟨hcore, hall⟩
    have hkilled : s'.remotes = fun r' => (s.remotes r').map (RemoteMux.killed y.id) := by
      funext r'
      rcases hall r' with h | ⟨_, hmem⟩
      · exact h
      · exact absurd hmem List.not_mem_nil
    rw [hcore, hkilled]
    rfl

/-- `remote_mark_dead` kills an id. When nothing else is left it disposes of
everything at once, else it wakes up some remote. -/
theorem remoteMarkDead_runs (hloss : Loss plat sys → A.lossOk) (hreap : A.reapOk)
    (hwf : WF s.toCore) :
    Runs A s₀ (fun s' => ∃ y, s.remotes r = some y ∧
      ((∃ r' z, (s.toCore.killId y.id).remotes r' = some z ∧ z.state ≠ .dead ∧
          s'.toCore = (s.toCore.killId y.id).setRemote r'
            { z with events := { z.events with pollout := true } }) ∨
        (Moves A (s.toCore.killId y.id) s'.toCore ∧ ClientsKept s.toCore s'.toCore ∧
          ∀ r, s'.remotes r = none)))
      (remoteMarkDead plat sys s r) := by
  refine remote_runs.bind fun y hy => ?_
  refine modifyRemote_runs.bind ?_
  rintro s₁ ⟨y', hy', rfl⟩
  cases hy.symm.trans hy'
  refine (killLoop_runs hwf hy).bind fun s₂ h₂ => ?_
  refine findRemote_runs.bind ?_
  rintro o (⟨rfl, hnone⟩ | ⟨r', z, rfl, _, hz, hstate⟩)
  · refine (disposeAll_runs hloss hreap ?_ fun r' z hz => ?_).imp ?_
    · rw [h₂]
      exact hwf.killId
    · have hmem : r' ∈ s₂.remoteList.elems := by
        rw [h₂, hwf.killId.remotes, ← h₂, hz]
        rfl
      simpa using hnone r' z hmem hz
    · rintro s' ⟨hm, hkept, hempty⟩
      rw [h₂] at hm hkept
      exact ⟨y, hy, Or.inr ⟨hm, hkept, hempty⟩⟩
  · refine modifyRemote_runs.imp ?_
    rintro s' ⟨z', hz', rfl⟩
    cases hz.symm.trans hz'
    rw [h₂] at hz
    refine ⟨y, hy, Or.inl ⟨r', z, hz, by simpa using hstate, ?_⟩⟩
    rw [toCore_update, h₂]

theorem remoteMarkDead_moves (hloss : Loss plat sys → A.lossOk) (hreap : A.reapOk)
    (hkill : A.killOk) (hwf : WF s.toCore) :
    Runs A s₀ (fun s' => (Moves A s.toCore s'.toCore ∧ ReapDue s'.toCore) ∧
      ClientsKept s.toCore s'.toCore) (remoteMarkDead plat sys s r) := by
  refine (remoteMarkDead_runs hloss hreap hwf).imp ?_
  rintro s' ⟨y, hy, ⟨r', z, hz, hlive, h'⟩ | ⟨hm, hkept, hempty⟩⟩
  · rw [h']
    have hwake : Move A (s.toCore.killId y.id) (((s.toCore.killId y.id).setRemote r'
        { z with events := { z.events with pollout := true } }).emit []) :=
      .remote hz (.events .wake) (Or.inl ⟨rfl, fun _ => rfl, rfl⟩)
    rw [Core.emit_nil] at hwake
    refine ⟨⟨(Move.killId hy hkill).single.trans hwake.single, fun _ _ _ _ => ?_⟩,
      ClientsKept.refl⟩
    exact ⟨r', _, if_pos rfl, hlive, rfl⟩
  · refine ⟨⟨(Move.killId hy hkill).single.trans hm, fun r' z hz => ?_⟩, hkept⟩
    rw [hempty] at hz
    cases hz

theorem usbmuxRemoteMarkDead_moves (hloss : Loss plat sys → A.lossOk) (hreap : A.reapOk)
    (hkill : A.killOk) (hwf : WF s.toCore) :
    Runs A s₀ (fun s' => (Moves A s.toCore s'.toCore ∧ ReapDue s'.toCore) ∧
      ClientsKept s.toCore s'.toCore) (usbmuxRemoteMarkDead plat sys s r) := by
  refine lockRemoteList_runs.bind fun s₁ h₁ => ?_
  rw [← h₁] at hwf ⊢
  exact (remoteMarkDead_moves hloss hreap hkill hwf).bind fun s₂ h₂ => h₂

end MarkDead

end Usbfluxd
