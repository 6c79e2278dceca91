import Usbfluxd.Moves.Defs

/-!
# Every move keeps the lists and the heap in step

`WF` says that a list holds exactly the live objects. Moves that change an
object in place do not matter to it; the others add an object to its list and
its heap at once, or take it out of both.
-/

namespace Usbfluxd

open Lib

@[simp] theorem RemoteMux.id_killed {k : UInt8} {z : RemoteMux} : (z.killed k).id = z.id := by
  rw [killed]
  split <;> rfl

namespace Core

variable {s : Core} {c c' : ClientPtr} {r r' : RemotePtr} {x : MuxClient} {y y' : RemoteMux}

/-! ## What an update does to the two heaps -/

@[simp] theorem clients_setClient :
    (s.setClient c x).clients c' = if c' = c then some x else s.clients c' :=
  Function.update_apply ..

@[simp] theorem remotes_setRemote :
    (s.setRemote r y).remotes r' = if r' = r then some y else s.remotes r' :=
  Function.update_apply ..

@[simp] theorem clients_dropClient :
    (s.dropClient c).clients c' = if c' = c then none else s.clients c' :=
  Function.update_apply ..

@[simp] theorem remotes_dropRemote :
    (s.dropRemote r).remotes r' = if r' = r then none else s.remotes r' :=
  Function.update_apply ..

@[simp] theorem clients_addClient :
    (s.addClient x).clients c = if c = ⟨s.nextClient⟩ then some x else s.clients c :=
  Function.update_apply ..

@[simp] theorem remotes_addRemote :
    (s.addRemote y).remotes r = if r = ⟨s.nextRemote⟩ then some y else s.remotes r :=
  Function.update_apply ..

@[simp] theorem remotes_killId {k : UInt8} :
    (s.killId k).remotes r = (s.remotes r).map (RemoteMux.killed k) := rfl

@[simp] theorem remotes_setClient : (s.setClient c x).remotes = s.remotes := rfl
@[simp] theorem clients_setRemote : (s.setRemote r y).clients = s.clients := rfl
@[simp] theorem clients_emit {acts : List Act} : (s.emit acts).clients = s.clients := rfl
@[simp] theorem remotes_emit {acts : List Act} : (s.emit acts).remotes = s.remotes := rfl
@[simp] theorem remotes_dropClient : (s.dropClient c).remotes = s.remotes := rfl
@[simp] theorem clients_dropRemote : (s.dropRemote r).clients = s.clients := rfl
@[simp] theorem remotes_addClient : (s.addClient x).remotes = s.remotes := rfl
@[simp] theorem clients_addRemote : (s.addRemote y).clients = s.clients := rfl
@[simp] theorem clients_killId {k : UInt8} : (s.killId k).clients = s.clients := rfl

@[simp] theorem clients_dropLinkedClient {o : Option ClientPtr} :
    (s.dropLinkedClient o).clients c = if o = some c then none else s.clients c := by
  cases o with
  | none => rfl
  | some c' => simp [dropLinkedClient, eq_comm]

@[simp] theorem remotes_dropLinkedRemote {o : Option RemotePtr} :
    (s.dropLinkedRemote o).remotes r = if o = some r then none else s.remotes r := by
  cases o with
  | none => rfl
  | some r' => simp [dropLinkedRemote, eq_comm]

@[simp] theorem remotes_dropLinkedClient {o : Option ClientPtr} :
    (s.dropLinkedClient o).remotes = s.remotes := by
  cases o <;> rfl

@[simp] theorem clients_dropLinkedRemote {o : Option RemotePtr} :
    (s.dropLinkedRemote o).clients = s.clients := by
  cases o <;> rfl

@[simp] theorem clients_releaseId : (s.releaseId y).clients = s.clients := by
  rw [releaseId]
  split <;> rfl

@[simp] theorem remotes_releaseId : (s.releaseId y).remotes = s.remotes := by
  rw [releaseId]
  split <;> rfl

@[simp] theorem remoteList_releaseId : (s.releaseId y).remoteList = s.remoteList := by
  rw [releaseId]
  split <;> rfl

@[simp] theorem remoteList_dropLinkedClient {o : Option ClientPtr} :
    (s.dropLinkedClient o).remoteList = s.remoteList := by
  cases o <;> rfl

theorem remoteIdMap_releaseId :
    (s.releaseId y).remoteIdMap = if y.isListener ∧ y.host.isSome then
      setRemoteIdUsed s.remoteIdMap y.id false else s.remoteIdMap := by
  rw [releaseId]
  split <;> rfl

@[simp] theorem remoteIdMap_dropLinkedClient {o : Option ClientPtr} :
    (s.dropLinkedClient o).remoteIdMap = s.remoteIdMap := by
  cases o <;> rfl

@[simp] theorem remoteIdMap_closeClient : (s.closeClient c x).remoteIdMap = s.remoteIdMap := by
  rw [closeClient]
  cases x.remote <;> rfl

@[simp] theorem remotes_closeClient :
    (s.closeClient c x).remotes r = if x.remote = some r then none else s.remotes r :=
  remotes_dropLinkedRemote

@[simp] theorem clients_closeClient :
    (s.closeClient c x).clients c' = if c' = c then none else s.clients c' := by
  rw [closeClient, clients_dropClient, clients_dropLinkedRemote]

@[simp] theorem remotes_dispose :
    (s.dispose r y).remotes r' = if r' = r then none else s.remotes r' := by
  rw [dispose, remotes_releaseId, remotes_dropLinkedClient, remotes_dropRemote]

@[simp] theorem clients_dispose :
    (s.dispose r y).clients c = if y.client = some c then none else s.clients c := by
  rw [dispose, clients_releaseId, clients_dropLinkedClient, clients_dropRemote]

/-- A remote of the extended heap is the new one or an old one. -/
theorem remotes_addRemote_cases (h : (s.addRemote y).remotes r = some y') :
    (r = ⟨s.nextRemote⟩ ∧ y' = y) ∨ s.remotes r = some y' := by
  rw [remotes_addRemote] at h
  split at h
  · next hr => exact Or.inl ⟨hr, (Option.some.inj h).symm⟩
  · exact Or.inr h

theorem clients_addClient_cases {x' : MuxClient} (h : (s.addClient x).clients c = some x') :
    (c = ⟨s.nextClient⟩ ∧ x' = x) ∨ s.clients c = some x' := by
  rw [clients_addClient] at h
  split at h
  · next hc => exact Or.inl ⟨hc, (Option.some.inj h).symm⟩
  · exact Or.inr h

@[simp] theorem emit_nil : s.emit [] = s := by
  simp [emit]

end Core

/-! ## Preservation -/

section

variable {s s' : Core}

/-- A change that keeps the lists, the allocation counters and what is live. -/
theorem WF.congr (h : WF s) (hcl : s'.clientList = s.clientList)
    (hrl : s'.remoteList = s.remoteList) (hnc : s'.nextClient = s.nextClient)
    (hnr : s'.nextRemote = s.nextRemote)
    (hc : ∀ c, (s'.clients c).isSome = (s.clients c).isSome)
    (hr : ∀ r, (s'.remotes r).isSome = (s.remotes r).isSome) : WF s' where
  clients c := by rw [hcl, hc]; exact h.clients c
  remotes r := by rw [hrl, hr]; exact h.remotes r
  clientsNodup := by rw [hcl]; exact h.clientsNodup
  remotesNodup := by rw [hrl]; exact h.remotesNodup
  clientFresh c := by rw [hc, hnc]; exact h.clientFresh c
  remoteFresh r := by rw [hr, hnr]; exact h.remoteFresh r

theorem WF.setClient {c : ClientPtr} {x : MuxClient} (h : WF s)
    (hc : (s.clients c).isSome) : WF (s.setClient c x) := by
  refine h.congr rfl rfl rfl rfl (fun c' => ?_) fun _ => rfl
  rw [Core.clients_setClient]
  split
  · next heq => rw [heq, hc]; rfl
  · rfl

theorem WF.setRemote {r : RemotePtr} {y : RemoteMux} (h : WF s)
    (hr : (s.remotes r).isSome) : WF (s.setRemote r y) := by
  refine h.congr rfl rfl rfl rfl (fun _ => rfl) fun r' => ?_
  rw [Core.remotes_setRemote]
  split
  · next heq => rw [heq, hr]; rfl
  · rfl

theorem WF.emit {acts : List Act} (h : WF s) : WF (s.emit acts) :=
  h.congr rfl rfl rfl rfl (fun _ => rfl) fun _ => rfl

theorem WF.dropClient {c : ClientPtr} (h : WF s) : WF (s.dropClient c) where
  clients c' := by
    rw [Core.clients_dropClient]
    show c' ∈ (s.clientList.remove c).elems ↔ _
    rw [Collection.mem_elems_remove h.clientsNodup, h.clients]
    by_cases hc : c' = c <;> simp [hc]
  remotes := h.remotes
  clientsNodup := by
    show (s.clientList.remove c).elems.Nodup
    rw [Collection.elems_remove]
    exact h.clientsNodup.erase c
  remotesNodup := h.remotesNodup
  clientFresh c' := by
    rw [Core.clients_dropClient]
    split
    · intro hc; cases hc
    · exact h.clientFresh c'
  remoteFresh := h.remoteFresh

theorem WF.dropRemote {r : RemotePtr} (h : WF s) : WF (s.dropRemote r) where
  clients := h.clients
  remotes r' := by
    rw [Core.remotes_dropRemote]
    show r' ∈ (s.remoteList.remove r).elems ↔ _
    rw [Collection.mem_elems_remove h.remotesNodup, h.remotes]
    by_cases hr : r' = r <;> simp [hr]
  clientsNodup := h.clientsNodup
  remotesNodup := by
    show (s.remoteList.remove r).elems.Nodup
    rw [Collection.elems_remove]
    exact h.remotesNodup.erase r
  clientFresh := h.clientFresh
  remoteFresh r' := by
    rw [Core.remotes_dropRemote]
    split
    · intro hr; cases hr
    · exact h.remoteFresh r'

/-- The pointer handed out next is not live. -/
theorem WF.nextClient_free (h : WF s) : s.clients ⟨s.nextClient⟩ = none := by
  by_contra hne
  have := h.clientFresh ⟨s.nextClient⟩ (Option.ne_none_iff_isSome.mp hne)
  exact Nat.lt_irrefl _ this

theorem WF.nextRemote_free (h : WF s) : s.remotes ⟨s.nextRemote⟩ = none := by
  by_contra hne
  have := h.remoteFresh ⟨s.nextRemote⟩ (Option.ne_none_iff_isSome.mp hne)
  exact Nat.lt_irrefl _ this

theorem WF.addClient {x : MuxClient} (h : WF s) : WF (s.addClient x) where
  clients c := by
    rw [Core.clients_addClient]
    show c ∈ (s.clientList.add ⟨s.nextClient⟩).elems ↔ _
    rw [Collection.mem_elems_add, h.clients]
    by_cases hc : c = ⟨s.nextClient⟩ <;> simp [hc]
  remotes := h.remotes
  clientsNodup := by
    refine Collection.nodup_elems_add ?_ h.clientsNodup
    rw [h.clients, h.nextClient_free]
    exact Bool.false_ne_true
  remotesNodup := h.remotesNodup
  clientFresh c hc := by
    rw [Core.clients_addClient] at hc
    show c.block < s.nextClient + 1
    split at hc
    · next heq => rw [heq]; exact Nat.lt_succ_self _
    · exact Nat.lt_succ_of_lt (h.clientFresh c hc)
  remoteFresh := h.remoteFresh

theorem WF.addRemote {y : RemoteMux} (h : WF s) : WF (s.addRemote y) where
  clients := h.clients
  remotes r := by
    rw [Core.remotes_addRemote]
    show r ∈ (s.remoteList.add ⟨s.nextRemote⟩).elems ↔ _
    rw [Collection.mem_elems_add, h.remotes]
    by_cases hr : r = ⟨s.nextRemote⟩ <;> simp [hr]
  clientsNodup := h.clientsNodup
  remotesNodup := by
    refine Collection.nodup_elems_add ?_ h.remotesNodup
    rw [h.remotes, h.nextRemote_free]
    exact Bool.false_ne_true
  clientFresh := h.clientFresh
  remoteFresh r hr := by
    rw [Core.remotes_addRemote] at hr
    show r.block < s.nextRemote + 1
    split at hr
    · next heq => rw [heq]; exact Nat.lt_succ_self _
    · exact Nat.lt_succ_of_lt (h.remoteFresh r hr)

theorem WF.killId {k : UInt8} (h : WF s) : WF (s.killId k) :=
  h.congr rfl rfl rfl rfl (fun _ => rfl) fun r => by
    rw [Core.remotes_killId, Option.isSome_map]

theorem WF.releaseId {y : RemoteMux} (h : WF s) : WF (s.releaseId y) := by
  rw [Core.releaseId]
  split
  · exact h.congr rfl rfl rfl rfl (fun _ => rfl) fun _ => rfl
  · exact h

theorem WF.dropLinkedClient {o : Option ClientPtr} (h : WF s) : WF (s.dropLinkedClient o) := by
  cases o with
  | none => exact h
  | some c => exact h.dropClient

theorem WF.dropLinkedRemote {o : Option RemotePtr} (h : WF s) : WF (s.dropLinkedRemote o) := by
  cases o with
  | none => exact h
  | some r => exact h.dropRemote

theorem WF.closeClient {c : ClientPtr} {x : MuxClient} (h : WF s) :
    WF (s.closeClient c x) :=
  h.dropLinkedRemote.dropClient

theorem WF.dispose {r : RemotePtr} {y : RemoteMux} (h : WF s) : WF (s.dispose r y) :=
  h.dropRemote.dropLinkedClient.releaseId

theorem WF.announces (h : WF s) (hn : Announces s s') : WF s' := by
  refine invariant_of_step (R := Announce) ?_ hn h
  rintro s s' ⟨c, x, hdr, payload, _, hx, _, _, _, rfl⟩ h
  exact (h.setClient (by rw [hx]; rfl)).emit

theorem WF.move {A : Allow} (hm : Move A s s') (h : WF s) : WF s' := by
  cases hm with
  | client hx => exact (h.setClient (by rw [hx]; rfl)).emit
  | remote hy => exact (h.setRemote (by rw [hy]; rfl)).emit
  | forward _ _ _ _ _ hx => exact (h.setClient (by rw [hx]; rfl)).emit
  | relayRead hx _ _ hy | relayWrite hx _ _ hy | notifyOk hy _ _ hx =>
      refine WF.emit (WF.setClient (h.setRemote (by rw [hy]; rfl)) ?_)
      rw [Core.clients_setRemote, hx]
      rfl
  | accept => exact (h.addClient).congr rfl rfl rfl rfl (fun _ => rfl) fun _ => rfl
  | connect hx | request hx => exact ((h.setClient (by rw [hx]; rfl)).addRemote).emit
  | addListener => exact (h.addRemote).congr rfl rfl rfl rfl (fun _ => rfl) fun _ => rfl
  | closeClient => exact h.closeClient
  | closeRemote => exact h.dropRemote
  | dispose => exact h.dispose
  | killId => exact h.killId
  | deviceSet _ hn | deviceErase _ hn =>
      exact (h.announces hn.announces).congr rfl rfl rfl rfl (fun _ => rfl) fun _ => rfl
  | listen hx _ hn => exact (h.setClient (by rw [hx]; rfl)).emit.announces hn.announces

theorem WF.moves {A : Allow} (h : WF s) (hm : Moves A s s') : WF s' :=
  invariant_of_step (R := Move A) WF.move hm h

end

end Usbfluxd
