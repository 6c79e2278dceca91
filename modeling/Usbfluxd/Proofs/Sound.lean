import Usbfluxd.Proofs.Commands
import Usbfluxd.Proofs.Links

/-!
# Programs that touch no freed object

A pointer to a client or a remote is safe to follow as long as the object is
in its list. The functions of the source are passed through once more here,
with the one question whether every pointer they follow is: those that take a
client or a remote ask for it to be live, those that walk a list rely on the
list holding live objects only, and those that close or dispose of something
rely on the links between clients and remotes being mutual, since they follow
a link and remove what they find there.

`Sound` is about faults only. What a function does to the state is taken from
the account the moves give of it.
-/

namespace Usbfluxd

open Lib

/-! ## The judgement -/

/-- The fault is a use of an object that is not there. -/
def Fault.IsUse : Fault → Prop
  | .freedClient _ | .freedRemote _ | .clientRemote _ | .remoteClient _ => True
  | _ => False

/-- The program uses no object that is not there. -/
def Sound {α : Type} (m : Except Fault α) : Prop :=
  Post (fun f => ¬ f.IsUse) (fun _ => True) m

section Rules

variable {α β : Type} {m : Except Fault α} {Q : α → Prop}

theorem Sound.pure {a : α} : Sound (Pure.pure a : Except Fault α) := trivial

theorem Sound.fault {f : Fault} (h : ¬ f.IsUse) : Sound (.error f : Except Fault α) := h

/-- What a program is known to return, it returns without that fault. -/
theorem Sound.post (hm : Sound m) (h : Post (fun _ => True) Q m) :
    Post (fun f => ¬ f.IsUse) Q m :=
  Post.intro (fun _ ha => Post.of_ok h ha) fun _ he =>
    Post.of_error (F := fun f : Fault => ¬ f.IsUse) hm he

theorem Sound.of_post (h : Post (fun f => ¬ f.IsUse) Q m) : Sound m :=
  Post.imp h (fun _ hf => hf) fun _ _ => trivial

/-- The rule of sequence, with what the first part returns. -/
theorem Sound.bind {f : α → Except Fault β} (hm : Sound m) (h : Post (fun _ => True) Q m)
    (hf : ∀ a, Q a → Sound (f a)) : Sound (m >>= f) :=
  Post.bind (hm.post h) hf

/-- The rule of sequence when nothing of the first part matters. -/
theorem Sound.then {f : α → Except Fault β} (hm : Sound m) (hf : ∀ a, Sound (f a)) :
    Sound (m >>= f) :=
  Post.bind hm fun a _ => hf a

theorem Sound.map {f : α → β} (hm : Sound m) : Sound (f <$> m) :=
  Post.map hm fun _ _ => trivial

theorem Sound.ite {p : Prop} [Decidable p] {m' : Except Fault α} (h : p → Sound m)
    (h' : ¬ p → Sound m') : Sound (if p then m else m') := by
  split
  · next hp => exact h hp
  · next hp => exact h' hp

end Rules

/-! ## Pointers, mutexes and buffers -/

section Primitives

variable {s : Daemon} {c : ClientPtr} {r : RemotePtr} {plat : Platform} {sys : Sys}
  {tag msg : UInt32}

theorem client_sound (hc : (s.clients c).isSome) : Sound (s.client c) := by
  rw [Daemon.client]
  split
  · exact .pure
  · next h =>
      rw [h] at hc
      cases hc

theorem remote_sound (hr : (s.remotes r).isSome) : Sound (s.remote r) := by
  rw [Daemon.remote]
  split
  · exact .pure
  · next h =>
      rw [h] at hr
      cases hr

theorem modifyClient_sound {f : MuxClient → MuxClient} (hc : (s.clients c).isSome) :
    Sound (s.modifyClient c f) :=
  (client_sound hc).then fun _ => .pure

theorem modifyRemote_sound {f : RemoteMux → RemoteMux} (hr : (s.remotes r).isSome) :
    Sound (s.modifyRemote r f) :=
  (remote_sound hr).then fun _ => .pure

theorem clientRemote_sound {x : MuxClient} (hr : x.remote = some r)
    (hlive : (s.remotes r).isSome) : Sound (s.clientRemote c x) := by
  rw [Daemon.clientRemote, hr]
  dsimp only
  split
  · next h =>
      rw [h] at hlive
      cases hlive
  · exact .pure

theorem remoteClient_sound {y : RemoteMux} (hc : y.client = some c)
    (hlive : (s.clients c).isSome) : Sound (s.remoteClient r y) := by
  rw [Daemon.remoteClient, hc]
  dsimp only
  split
  · next h =>
      rw [h] at hlive
      cases hlive
  · exact .pure

theorem lockRemoteList_sound : Sound s.lockRemoteList := by
  refine .ite (fun _ => .fault ?_) fun _ => .ite (fun _ => .fault ?_) fun _ => .pure
  · exact id
  · exact id

theorem lockClientList_sound : Sound s.lockClientList :=
  .ite (fun _ => .fault id) fun _ => .pure

theorem queueBytes_sound {realloc : Nat → Bool} {b : Buf} {bs : List UInt8} :
    Sound (queueBytes realloc b bs) := by
  rw [queueBytes]
  split
  · refine .ite (fun _ => ?_) fun _ => .pure
    split
    · exact .pure
    · exact .fault id
  · exact .ite (fun _ => .fault id) fun _ => .pure

theorem packetHeader_sound {version : UInt32} {payload : Payload} :
    Sound (packetHeader version tag msg payload) :=
  .ite (fun _ => .pure) fun _ => .fault id

theorem recvInto_sound {b : Buf} {len : Nat} : Sound (recvInto sys b len) := by
  refine .ite (fun _ => .pure) fun _ => ?_
  split
  · exact .pure
  · exact .pure
  · split
    · exact .pure
    · exact .fault id

theorem readFrame_sound {b : Buf} : Sound (readFrame plat sys b) := by
  have hbody : ∀ got b, Sound (readBody plat sys got b) := by
    intro got b
    refine .ite (fun _ => .fault id) fun _ => .ite (fun _ => .pure) fun _ => ?_
    refine .ite (fun _ => ?_) fun _ => .pure
    split
    · exact .pure
    · refine recvInto_sound.then fun o => ?_
      cases o <;> exact .pure
  refine .ite (fun _ => ?_) fun _ => hbody _ _
  refine recvInto_sound.then fun o => ?_
  cases o with
  | none => exact .pure
  | some p => exact .ite (fun _ => .pure) fun _ => hbody _ _

/-! ## Queueing -/

theorem sendPktRaw_sound {bytes : List UInt8} (hc : (s.clients c).isSome) :
    Sound (sendPktRaw sys s c bytes) := by
  refine (client_sound hc).then fun x => queueBytes_sound.then fun o => ?_
  cases o <;> exact .pure

theorem sendPkt_sound {payload : Payload} (hc : (s.clients c).isSome) :
    Sound (sendPkt sys s c tag msg payload) := by
  refine (client_sound hc).then fun x => packetHeader_sound.then fun hdr => ?_
  refine queueBytes_sound.then fun o => ?_
  cases o <;> exact .pure

theorem sendPlistPkt_sound {p : Plist} (hc : (s.clients c).isSome) :
    Sound (sendPlistPkt plat sys s c tag p) := by
  rw [sendPlistPkt]
  split
  · exact .pure
  · exact sendPkt_sound hc

theorem sendResult_sound {result : UInt32} (hc : (s.clients c).isSome) :
    Sound (sendResult plat sys s c tag result) :=
  (client_sound hc).then fun _ =>
    .ite (fun _ => sendPlistPkt_sound hc) fun _ => sendPkt_sound hc

theorem reply_sound {result : UInt32} (hc : (s.clients c).isSome) :
    Sound (reply plat sys s c tag result) :=
  (sendResult_sound hc).then fun _ => .pure

theorem notifyDeviceAdd_sound {dev : Plist} (hc : (s.clients c).isSome) :
    Sound (notifyDeviceAdd plat sys s c dev) :=
  (client_sound hc).then fun _ =>
    .ite (fun _ => sendPlistPkt_sound hc) fun _ => sendPkt_sound hc

theorem notifyDeviceRemove_sound {devid : UInt32} (hc : (s.clients c).isSome) :
    Sound (notifyDeviceRemove plat sys s c devid) :=
  (client_sound hc).then fun _ =>
    .ite (fun _ => sendPlistPkt_sound hc) fun _ => sendPkt_sound hc

theorem remoteSendPlistPkt_sound {p : Plist} (hr : (s.remotes r).isSome) :
    Sound (remoteSendPlistPkt plat sys s r tag p) := by
  rw [remoteSendPlistPkt]
  split
  · exact .pure
  · refine packetHeader_sound.then fun hdr => (remote_sound hr).then fun y => ?_
    refine queueBytes_sound.then fun o => ?_
    cases o <;> exact .pure

/-- Queueing on a client changes its output only. -/
theorem SendOutcome.same {P : UInt32 → Header → Payload → Prop} {s : Core} {res : Int × Daemon}
    (h : SendOutcome plat sys c P s res) : SameButClients s res.2.toCore := by
  rcases h with ⟨_, _, heq⟩ | ⟨_, _, _, _, _, hq⟩
  · rw [heq]
    exact .refl
  · exact hq.same

theorem SameButClients.isSome {s s' : Core} (h : SameButClients s s')
    (hc : (s.clients c).isSome) : (s'.clients c).isSome := by
  obtain ⟨x, hx⟩ := Option.isSome_iff_exists.mp hc
  obtain ⟨ob, e, hx', _⟩ := h.client hx
  rw [hx']
  rfl

theorem sendPktRaw_kept {bytes : List UInt8} :
    Post (fun _ => True) (fun res : Int × Daemon => SameButClients s.toCore res.2.toCore)
      (sendPktRaw sys s c bytes) := by
  refine Post.imp sendPktRaw_runs.returns (fun _ h => h) ?_
  intro res hres
  rcases hres with heq | ⟨x, ob, hx, hob, heq⟩
  · rw [heq]
    exact .refl
  · rw [heq]
    exact .output hx hob.fed

theorem clientSendPacketData_sound {hdr payload : List UInt8} (hc : (s.clients c).isSome) :
    Sound (clientSendPacketData sys s c hdr payload) := by
  refine (sendPktRaw_sound hc).bind sendPktRaw_kept fun res hres => ?_
  exact .ite (fun _ => sendPktRaw_sound (hres.isSome hc)) fun _ => .pure

end Primitives

/-! ## Mutual links -/

/-- The lists hold the live objects, and a client and a remote that are
linked are linked both ways. -/
structure Linked (s : Core) : Prop where
  wf : WF s
  remote : ∀ {c x r}, s.clients c = some x → x.remote = some r →
    ∃ y, s.remotes r = some y ∧ y.client = some c
  client : ∀ {r y c}, s.remotes r = some y → y.client = some c →
    ∃ x, s.clients c = some x ∧ x.remote = some r

section Links

variable {s s' : Core} {c : ClientPtr} {r : RemotePtr} {x : MuxClient} {y : RemoteMux}

theorem Linked.remote_live (h : Linked s) (hx : s.clients c = some x) (hr : x.remote = some r) :
    (s.remotes r).isSome := by
  obtain ⟨y, hy, _⟩ := h.remote hx hr
  rw [hy]
  rfl

theorem Linked.client_live (h : Linked s) (hy : s.remotes r = some y) (hc : y.client = some c) :
    (s.clients c).isSome := by
  obtain ⟨x, hx, _⟩ := h.client hy hc
  rw [hx]
  rfl

theorem Linked.inPlace (h : Linked s) (hwf : WF s') (hm : InPlace s s') : Linked s' where
  wf := hwf
  remote hx' hr := by
    obtain ⟨x, hx, he⟩ := hm.client_before hx'
    obtain ⟨y, hy, hc⟩ := h.remote hx (he.remote.symm.trans hr)
    obtain ⟨y', hy', he'⟩ := hm.remote hy
    exact ⟨y', hy', he'.client.trans hc⟩
  client hy' hc := by
    obtain ⟨y, hy, he⟩ := hm.remote_before hy'
    obtain ⟨x, hx, hr⟩ := h.client hy (he.client.symm.trans hc)
    obtain ⟨x', hx', he'⟩ := hm.client hx
    exact ⟨x', hx', he'.remote.trans hr⟩

/-- A remote that leaves takes its client along, and nobody else is linked to
either. -/
theorem Linked.dispose (h : Linked s) (hy : s.remotes r = some y) : Linked (s.dispose r y) where
  wf := h.wf.dispose
  remote {c x r'} hx hr := by
    rw [Core.clients_dispose] at hx
    split at hx
    · cases hx
    · next hne =>
        obtain ⟨y', hy', hc⟩ := h.remote hx hr
        refine ⟨y', ?_, hc⟩
        rw [Core.remotes_dispose, if_neg]
        · exact hy'
        · intro heq
          subst heq
          cases hy.symm.trans hy'
          exact hne hc
  client {r' y' c} hy' hc := by
    rw [Core.remotes_dispose] at hy'
    split at hy'
    · cases hy'
    · next hne =>
        obtain ⟨x, hx, hr⟩ := h.client hy' hc
        refine ⟨x, ?_, hr⟩
        rw [Core.clients_dispose, if_neg]
        · exact hx
        · intro hown
          obtain ⟨x', hx', hr'⟩ := h.client hy hown
          cases hx.symm.trans hx'
          exact hne (Option.some.inj (hr.symm.trans hr'))

theorem WF.same (h : WF s) (hm : SameButClients s s') : WF s' := by
  refine h.congr hm.clientList hm.remoteList hm.nextClient hm.nextRemote (fun c => ?_)
    fun r => by rw [hm.remotes]
  cases hx : s.clients c with
  | none => rw [hm.noClient hx]
  | some x =>
      obtain ⟨ob, e, hx', _⟩ := hm.client hx
      rw [hx']
      rfl

theorem Linked.same (h : Linked s) (hm : SameButClients s s') : Linked s' :=
  h.inPlace (h.wf.same hm) hm.inPlace

theorem Linked.disposed {lossOk : Prop} (h : Linked s) (hd : Disposed lossOk r y s s') :
    Linked s' := by
  obtain ⟨hy, t, ht, _, rfl⟩ := hd
  refine (h.same ht.same).dispose ?_
  rw [ht.same.remotes]
  exact hy

/-- A slot of the list holds a live remote. -/
theorem Linked.slot_live {i : Nat} (h : Linked s) (hi : s.remoteList.slot i = some r) :
    (s.remotes r).isSome :=
  (h.wf.remotes r).mp (Collection.slot_mem hi)

end Links

/-! ## Closing and disposing -/

section Close

variable {s : Daemon} {c : ClientPtr} {r : RemotePtr} {plat : Platform} {sys : Sys}
  {x : MuxClient} {y : RemoteMux}

theorem remoteClose_sound (hr : (s.remotes r).isSome) : Sound (remoteClose s r) :=
  (remote_sound hr).then fun _ => .pure

theorem clientCloseRemote_sound (hx : s.clients c = some x)
    (hr : ∀ r, x.remote = some r → (s.remotes r).isSome) :
    Post (fun f => ¬ f.IsUse) (fun s' : Daemon => s'.clients = s.clients)
      (clientCloseRemote s c) := by
  refine Post.bind ((client_sound (by rw [hx]; rfl)).post client_runs.returns) fun x' hx' => ?_
  cases hx.symm.trans hx'
  split
  · exact rfl
  · next r₀ hr₀ =>
      have hlive := hr r₀ hr₀
      refine Post.bind (P := fun p : RemotePtr × RemoteMux => p.1 = r₀) ?_ ?_
      · rw [Daemon.clientRemote, hr₀]
        dsimp only
        split
        · next hnone =>
            rw [hnone] at hlive
            cases hlive
        · exact rfl
      · intro p hp
        obtain ⟨r', y⟩ := p
        obtain rfl : r' = r₀ := hp
        refine Post.bind ((modifyRemote_sound hlive).post modifyRemote_runs.returns) ?_
        intro s₁ h₁
        obtain ⟨y', hy', rfl⟩ := h₁
        have hlive₁ : ((s.toCore.setRemote r' { y' with client := none }).remotes r').isSome := by
          rw [Core.remotes_setRemote, if_pos rfl]
          rfl
        refine Post.bind (lockRemoteList_sound.post lockRemoteList_runs.returns) ?_
        intro s₂ h₂
        rw [toCore_update] at h₂
        rw [← h₂] at hlive₁
        refine Post.bind ((remoteClose_sound hlive₁).post remoteClose_runs.returns) ?_
        intro s₃ h₃
        show s₃.clients = s.clients
        rw [show s₃.toCore = _ from h₃.2, h₂]
        rfl

theorem clientClose_sound (hx : s.clients c = some x)
    (hr : ∀ r, x.remote = some r → (s.remotes r).isSome) : Sound (clientClose s c) := by
  have hlive : (s.clients c).isSome := by
    rw [hx]
    rfl
  refine (modifyClient_sound hlive).bind modifyClient_runs.returns ?_
  intro s₁ h₁
  obtain ⟨x', hx', rfl⟩ := h₁
  cases hx.symm.trans hx'
  refine Post.bind (clientCloseRemote_sound (if_pos rfl) fun r' hr' => hr r' ?_) ?_
  · rw [← hr']
    split <;> rfl
  · intro s₂ h₂
    refine lockClientList_sound.bind lockClientList_runs.returns fun s₃ h₃ => ?_
    refine (client_sound ?_).then fun _ => .pure
    rw [h₃, h₂, toCore_update, Core.clients_setClient, if_pos rfl]
    rfl

theorem usbmuxRemoteClose_sound (h : Linked s.toCore) (hr : (s.remotes r).isSome) :
    Sound (usbmuxRemoteClose s r) := by
  refine (remote_sound hr).bind remote_runs.returns fun y hy => ?_
  split
  · next c hc =>
      refine (remoteClient_sound hc (h.client_live hy hc)).bind remoteClient_runs.returns ?_
      intro c' hc'
      obtain ⟨x, hx, _⟩ := h.client hy hc'.1
      exact clientClose_sound hx fun r' hr' => h.remote_live hx hr'
  · refine lockRemoteList_sound.bind lockRemoteList_runs.returns fun s₁ h₁ => ?_
    refine (remoteClose_sound ?_).then fun _ => .pure
    rw [h₁]
    exact hr

/-- A walk over the listening clients. -/
theorem forListeningClients_sound {note : Note}
    {notify : Daemon → ClientPtr → Except Fault (Int × Daemon)} (hwf : WF s.toCore)
    (hnotify : ∀ t c, (t.clients c).isSome → Sound (notify t c))
    (hkept : ∀ t c, Post (fun _ => True) (SendOutcome plat sys c note.packet t.toCore)
      (notify t c)) : Sound (forListeningClients notify s) := by
  refine lockClientList_sound.bind lockClientList_runs.returns fun s₁ h₁ => ?_
  rw [← h₁] at hwf
  refine Post.bind (slotLoop_post
    (P := fun _ (t : Daemon) => SameButClients s₁.toCore t.toCore) (fun h _ => h) ?_ .refl)
    fun _ _ => Sound.pure
  intro t i rest c ht hi
  have hlive : (t.clients c).isSome := by
    rw [ht.clientList] at hi
    exact ht.isSome ((hwf.clients c).mp (Collection.slot_mem hi))
  refine Post.bind (client_sound hlive) fun x _ => ?_
  split
  · exact Post.bind ((hnotify t c hlive).post (hkept t c)) fun res hres => ht.trans hres.same
  · exact ht

theorem clientDeviceAdd_sound {dev : Plist} (hwf : WF s.toCore) :
    Sound (clientDeviceAdd plat sys s dev) :=
  forListeningClients_sound hwf (fun _ _ hc => notifyDeviceAdd_sound hc)
    fun _ _ => notifyDeviceAdd_runs.returns

theorem clientDeviceRemove_sound {devid : UInt32} (hwf : WF s.toCore) :
    Sound (clientDeviceRemove plat sys s devid) :=
  forListeningClients_sound hwf (fun _ _ hc => notifyDeviceRemove_sound hc)
    fun _ _ => notifyDeviceRemove_runs.returns

theorem notifyDeviceList_sound {k : UInt8} {l : List (String × Plist)} (h : WF s.toCore) :
    Sound (plistDictForeach (remoteDeviceNotifyRemove plat sys k) l s) := by
  induction l generalizing s with
  | nil => exact .pure
  | cons p rest ih =>
      obtain ⟨key, value⟩ := p
      rw [plistDictForeach]
      refine Post.bind (P := fun res : Int × Daemon => WF res.2.toCore) ?_ fun res hres => ?_
      · rw [remoteDeviceNotifyRemove]
        split
        · refine Post.bind ((clientDeviceRemove_sound h).post
            (clientDeviceRemove_runs fun _ => trivial).returns) fun s₁ h₁ => ?_
          exact h.same h₁.announces.same.withDevices
        · exact h
      · exact Sound.ite (fun _ => .pure) fun _ => ih hres

theorem disposeClient_sound (hc : ∀ c, y.client = some c → (s.clients c).isSome) :
    Sound (disposeClient s r y) := by
  rw [disposeClient]
  split
  · exact .pure
  · next c hclient =>
      refine (remoteClient_sound hclient (hc c hclient)).bind remoteClient_runs.returns ?_
      intro c' hc'
      refine (modifyClient_sound hc'.2).bind modifyClient_runs.returns fun s₁ h₁ => ?_
      obtain ⟨x, _, rfl⟩ := h₁
      exact clientClose_sound (x := { x with remote := none }) (if_pos rfl) fun _ h => by cases h

/-- A remote is disposed of soundly when its client, if it has one, is there. -/
theorem usbmuxRemoteDispose_sound (h : WF s.toCore) (hy : s.remotes r = some y)
    (hlive : ∀ c, y.client = some c → (s.clients c).isSome) :
    Sound (usbmuxRemoteDispose plat sys s r) := by
  refine (remote_sound (by rw [hy]; rfl)).bind remote_runs.returns fun y' hy' => ?_
  cases hy.symm.trans hy'
  refine (notifyDeviceList_sound h).bind
    (notifyDeviceList_runs (fun _ => trivial) s.remoteDeviceList.nodup fun _ h => h).returns
    fun s₁ h₁ => ?_
  have hy₁ : s₁.remotes r = some y := by
    rw [h₁.same.remotes]
    exact hy
  refine Sound.bind (disposeClient_sound ?_) disposeClient_runs.returns fun s₂ h₂ => ?_
  · intro c hc
    exact h₁.same.isSome (hlive c hc)
  have hr₂ : (s₂.remotes r).isSome := by
    rw [h₂.2, Core.remotes_dropLinkedClient]
    show (s₁.remotes r).isSome
    rw [hy₁]
    rfl
  refine (remote_sound ?_).then fun _ => .pure
  rw [toCore_update]
  split
  · exact hr₂
  · exact hr₂

end Close

/-! ## Marking dead and reaping -/

section MarkDead

variable {s : Daemon} {r : RemotePtr} {plat : Platform} {sys : Sys}

theorem findRemote_sound {p : RemoteMux → Bool} {l : List RemotePtr}
    (h : ∀ r ∈ l, (s.remotes r).isSome) : Sound (findRemote s p l) := by
  induction l with
  | nil => exact .pure
  | cons r rest ih =>
      rw [List.forall_mem_cons] at h
      exact (remote_sound h.1).then fun _ => .ite (fun _ => .pure) fun _ => ih h.2

theorem WF.remotes_live (hwf : WF s.toCore) : ∀ r ∈ s.remoteList.elems, (s.remotes r).isSome :=
  fun r hr => (hwf.remotes r).mp hr

/-- One turn of a loop that disposes of a remote. -/
theorem disposeSlot_post {i : Nat} (h : Linked s.toCore) (hi : s.remoteList.slot i = some r) :
    Post (fun f => ¬ f.IsUse)
      (fun s' : Daemon => Linked s'.toCore ∧ ∃ y, Disposed True r y s.toCore s'.toCore)
      (usbmuxRemoteDispose plat sys s r) := by
  obtain ⟨y, hy⟩ := Option.isSome_iff_exists.mp (h.slot_live hi)
  refine Post.imp ((usbmuxRemoteDispose_sound h.wf hy fun _ => h.client_live hy).post
    (usbmuxRemoteDispose_runs fun _ => trivial).returns) (fun _ hf => hf) fun s' hd => ?_
  obtain ⟨y, hd⟩ := hd
  exact ⟨h.disposed hd, y, hd⟩

/-- Disposing of everything spares the clients that have no remote. -/
theorem disposeAll_post (h : Linked s.toCore) :
    Post (fun f => ¬ f.IsUse) (fun s' : Daemon => Linked s'.toCore ∧
      ∀ c x, s.clients c = some x → x.remote = none → (s'.clients c).isSome)
      (forRemotes (usbmuxRemoteDispose plat sys) s) := by
  refine Post.imp (slotLoop_post (P := fun _ (t : Daemon) => Linked t.toCore ∧
    ∀ c x, s.clients c = some x → x.remote = none →
      ∃ x', t.clients c = some x' ∧ x'.remote = none)
    (fun ht _ => ht) ?_ ⟨h, fun c x hx hr => ⟨x, hx, hr⟩⟩) (fun _ hf => hf) ?_
  · intro t i rest r ht hi
    refine Post.imp (disposeSlot_post ht.1 hi) (fun _ hf => hf) fun t' hd => ?_
    obtain ⟨hlinks, y, hy, u, hu, _, heq⟩ := hd
    refine ⟨hlinks, fun c x hx hr => ?_⟩
    obtain ⟨x', hx', hr'⟩ := ht.2 c x hx hr
    obtain ⟨ob, e, hx'', _⟩ := hu.same.client hx'
    refine ⟨{ x' with ob := ob, events := e }, ?_, hr'⟩
    rw [heq, Core.clients_dispose, if_neg]
    · exact hx''
    · intro hc
      -- the remote's client would have it for its remote
      obtain ⟨x₁, hx₁, hr₁⟩ := ht.1.client hy hc
      cases hx'.symm.trans hx₁
      cases hr'.symm.trans hr₁
  · intro s' hs'
    refine ⟨hs'.1, fun c x hx hr => ?_⟩
    obtain ⟨x', hx', _⟩ := hs'.2 c x hx hr
    rw [hx']
    rfl

theorem killLoop_sound {k : UInt8} (hwf : WF s.toCore) :
    Sound (forRemotes (fun s r' => do
      let z ← s.remote r'
      if z.id = k then s.modifyRemote r' fun z => { z with state := .dead } else pure s) s) := by
  refine Sound.of_post (slotLoop_post (P := fun _ (t : Daemon) =>
    t.remoteList = s.remoteList ∧ ∀ r, (s.remotes r).isSome → (t.remotes r).isSome)
    (fun ht _ => ht) ?_ ⟨rfl, fun _ h => h⟩)
  intro t i rest r ht hi
  have hlive : (t.remotes r).isSome := by
    rw [ht.1] at hi
    exact ht.2 r (hwf.remotes_live r (Collection.slot_mem hi))
  refine Post.bind (remote_sound hlive) fun z _ => ?_
  split
  · refine Post.imp ((modifyRemote_sound hlive).post modifyRemote_runs.returns)
      (fun _ hf => hf) fun t' h' => ?_
    obtain ⟨y, _, rfl⟩ := h'
    refine ⟨ht.1, fun r' hr' => ?_⟩
    rw [toCore_update, Core.remotes_setRemote]
    split
    · rfl
    · exact ht.2 r' hr'
  · exact ht

/-- What `remote_mark_dead` does to the clients: nothing as long as some other
remote lives, else those that have a remote go with it. -/
def MarkedDead (y : RemoteMux) (s s' : Core) : Prop :=
  ((∃ r z, s.remotes r = some z ∧ z.state ≠ .dead ∧ z.id ≠ y.id) ∧ s'.clients = s.clients) ∨
    ((∀ r z, s.remotes r = some z → z.state = .dead ∨ z.id = y.id) ∧
      ∀ c x, s.clients c = some x → ((s'.clients c).isSome ↔ x.remote = none))

theorem remoteMarkDead_post {y : RemoteMux} (h : Linked s.toCore) (hy : s.remotes r = some y) :
    Post (fun f => ¬ f.IsUse) (fun s' : Daemon => MarkedDead y s.toCore s'.toCore)
      (remoteMarkDead plat sys s r) := by
  have hr : (s.remotes r).isSome := by
    rw [hy]
    rfl
  refine Post.bind ((remote_sound hr).post remote_runs.returns) fun y' hy' => ?_
  cases hy.symm.trans hy'
  refine Post.bind ((modifyRemote_sound hr).post modifyRemote_runs.returns) fun s₁ h₁ => ?_
  obtain ⟨y', hy', rfl⟩ := h₁
  cases hy.symm.trans hy'
  refine Post.bind ((killLoop_sound (h.wf.setRemote hr)).post (killLoop_runs h.wf hy).returns)
    fun s₂ h₂ => ?_
  have hlinks : Linked s₂.toCore := by
    rw [h₂]
    exact h.inPlace h.wf.killId .killId
  refine Post.bind ((findRemote_sound hlinks.wf.remotes_live).post findRemote_runs.returns)
    fun o ho => ?_
  rcases ho with ⟨rfl, hnone⟩ | ⟨r', z, rfl, _, hz, hstate⟩
  · have hdead : ∀ r' z, s₂.remotes r' = some z → z.state = .dead := by
      intro r' z hz
      have hmem : r' ∈ s₂.remoteList.elems := by
        rw [hlinks.wf.remotes, hz]
        rfl
      simpa using hnone r' z hmem hz
    refine Post.imp ((disposeAll_post hlinks).and
      (disposeAll_runs (fun _ => trivial) trivial hlinks.wf hdead).returns) (fun _ hf => hf) ?_
    intro s' hs'
    obtain ⟨⟨hlinks', hspared⟩, _, hkept, hempty⟩ := hs'
    refine Or.inr ⟨fun r' z hz => ?_, fun c x hx => ?_⟩
    · have hz₂ : s₂.remotes r' = some (z.killed y.id) := by
        rw [h₂, Core.remotes_killId, hz]
        rfl
      have hk := hdead r' _ hz₂
      rw [RemoteMux.killed] at hk
      split at hk
      · next hid => exact Or.inr hid
      · exact Or.inl hk
    · have hx₂ : s₂.clients c = some x := by
        rw [h₂]
        exact hx
      refine ⟨fun hlive => ?_, hspared c x hx₂⟩
      obtain ⟨x', hx'⟩ := Option.isSome_iff_exists.mp hlive
      obtain ⟨x₀, ob, e, hx₀, rfl⟩ := hkept c x' hx'
      cases hx₂.symm.trans hx₀
      cases hremote : x.remote with
      | none => rfl
      | some r' =>
          obtain ⟨z, hz, _⟩ := hlinks'.remote hx' hremote
          cases (hempty r').symm.trans hz
  · refine Post.imp ((modifyRemote_sound (by rw [hz]; rfl)).post modifyRemote_runs.returns)
      (fun _ hf => hf) fun s' h' => ?_
    obtain ⟨z', _, rfl⟩ := h'
    have hstate' : z.state ≠ .dead := by simpa using hstate
    rw [h₂, Core.remotes_killId] at hz
    obtain ⟨w, hw, hkilled⟩ := Option.map_eq_some_iff.mp hz
    refine Or.inl ⟨⟨r', w, hw, ?_⟩, ?_⟩
    · rw [RemoteMux.killed] at hkilled
      split at hkilled
      · rw [← hkilled] at hstate'
        exact absurd rfl hstate'
      · next hid =>
          rw [hkilled]
          rw [hkilled] at hid
          exact ⟨hstate', hid⟩
    · show (s₂.toCore.setRemote r' _).clients = _
      rw [h₂]
      rfl

theorem usbmuxRemoteMarkDead_sound (h : Linked s.toCore) (hr : (s.remotes r).isSome) :
    Sound (usbmuxRemoteMarkDead plat sys s r) := by
  refine lockRemoteList_sound.bind lockRemoteList_runs.returns fun s₁ h₁ => ?_
  rw [← h₁] at h hr
  obtain ⟨y, hy⟩ := Option.isSome_iff_exists.mp hr
  exact Post.bind (remoteMarkDead_post h hy) fun _ _ => Sound.pure

theorem remoteMuxServiceRemove_post {serviceName hostName : Option String} {port : UInt16}
    (h : Linked s.toCore) :
    Post (fun f => ¬ f.IsUse) (fun res : Int × Daemon =>
      (res.2.clients = s.clients ∧ ∀ r y, s.remotes r = some y →
        matchesService serviceName hostName port y = false) ∨
      ∃ r y, s.remotes r = some y ∧ matchesService serviceName hostName port y = true ∧
        MarkedDead y s.toCore res.2.toCore)
      (remoteMuxServiceRemove plat sys s serviceName hostName port) := by
  refine Post.bind (lockRemoteList_sound.post lockRemoteList_runs.returns) fun s₁ h₁ => ?_
  rw [← h₁] at h ⊢
  refine Post.bind ((findRemote_sound h.wf.remotes_live).post findRemote_runs.returns)
    fun o ho => ?_
  rcases ho with ⟨rfl, hnone⟩ | ⟨r, y, rfl, _, hy, hmatch⟩
  · refine Or.inl ⟨rfl, fun r y hy => hnone r y ?_ hy⟩
    rw [h.wf.remotes, hy]
    rfl
  · exact Post.bind (remoteMarkDead_post h hy) fun _ hdead => Or.inr ⟨r, y, hy, hmatch, hdead⟩

/-- The loop that reaps dead remotes hands over a live one. -/
theorem reapLoop_sound {fd : Nat} {events : PollEvents} (h : Linked s.toCore) :
    Post (fun f => ¬ f.IsUse) (fun p : Daemon × Option RemotePtr => Linked p.1.toCore)
      (reapLoop plat sys fd events s) := by
  refine Post.bind (lockRemoteList_sound.post lockRemoteList_runs.returns) fun s₁ h₁ => ?_
  rw [← h₁] at h
  refine Post.bind (slotLoop_post (P := fun _ (acc : Daemon × Option RemotePtr) =>
    Linked acc.1.toCore) (fun ht _ => ht) ?_ h) fun _ ht => ht
  intro acc i rest r ht hi
  obtain ⟨t, found⟩ := acc
  have ht' : Linked t.toCore := ht
  refine Post.bind (remote_sound (ht'.slot_live hi)) fun x _ => ?_
  split
  · exact Post.bind (disposeSlot_post ht' hi) fun _ hd => hd.1
  · split
    · split
      · exact Post.bind (disposeSlot_post ht' hi) fun _ hd => hd.1
      · exact ht
    · exact ht

end MarkDead

end Usbfluxd
