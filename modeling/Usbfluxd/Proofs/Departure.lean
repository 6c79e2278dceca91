import Usbfluxd.Proofs.Freed
import Usbfluxd.Proofs.Isolation

/-!
# Complete departure of a listener

`usbmux_remote_dispose` takes a remote out together with what it stands for:
its devices are withdrawn and the id of a TCP listener is free again.
`remote_close` only takes the remote out. It is meant for the connections of
clients, but a failed send on a listener ends there too.

A step either disposes of something or makes something new: no listener is
added and no client starts to listen while remotes are disposed of. So what a
disposed listener left behind is clean until the end of the step.
-/

namespace Usbfluxd

open Lib

/-! ## Links never lead to a listener -/

/-- The remote a client is linked to is no listener, and its pointer is not
handed out again. -/
structure Apart (s : Core) : Prop where
  fresh : ∀ {c x r}, s.clients c = some x → x.remote = some r → r.block < s.nextRemote
  remote : ∀ {c x r y}, s.clients c = some x → x.remote = some r → s.remotes r = some y →
    y.isListener = false

section Apart

variable {A : Allow} {s s' : Core}

theorem Apart.inPlace (h : Apart s) (hm : InPlace s s') : Apart s' where
  fresh hx' hr := by
    obtain ⟨x, hx, he⟩ := hm.client_before hx'
    rw [hm.nextRemote]
    exact h.fresh hx (he.remote ▸ hr)
  remote hx' hr hy' := by
    obtain ⟨x, hx, he⟩ := hm.client_before hx'
    obtain ⟨y, hy, hye⟩ := hm.remote_before hy'
    rw [hye.isListener]
    exact h.remote hx (he.remote ▸ hr) hy

theorem Apart.leaves (h : Apart s) (hm : Leaves s s') : Apart s' where
  fresh hx hr := by
    rw [hm.nextRemote]
    exact h.fresh (hm.client hx) hr
  remote hx hr hy := h.remote (hm.client hx) hr (hm.remote hy)

/-- A new remote is nobody's, or it is no listener. -/
theorem Apart.addRemote {y : RemoteMux} (h : Apart s)
    (hnext : s'.nextRemote = s.nextRemote + 1) (hremotes : s'.remotes = (s.addRemote y).remotes)
    (hclient : ∀ {c x r}, s'.clients c = some x → x.remote = some r →
      (r = ⟨s.nextRemote⟩ ∧ y.isListener = false) ∨
        ∃ x₀, s.clients c = some x₀ ∧ x₀.remote = some r) : Apart s' where
  fresh hx hr := by
    rw [hnext]
    rcases hclient hx hr with ⟨rfl, _⟩ | ⟨x₀, hx₀, hr₀⟩
    · exact Nat.lt_succ_self _
    · exact Nat.lt_succ_of_lt (h.fresh hx₀ hr₀)
  remote {c x r z} hx hr hz := by
    rw [hremotes, Core.remotes_addRemote] at hz
    rcases hclient hx hr with ⟨rfl, hno⟩ | ⟨x₀, hx₀, hr₀⟩
    · rw [if_pos rfl] at hz
      cases hz
      exact hno
    · split at hz
      · next heq =>
          have hlt := h.fresh hx₀ hr₀
          rw [heq] at hlt
          exact absurd hlt (Nat.lt_irrefl _)
      · exact h.remote hx₀ hr₀ hz

theorem Apart.move (hm : Move A s s') (h : Apart s) : Apart s' := by
  cases hm.shape with
  | inPlace hp => exact h.inPlace hp
  | accept _ heq =>
      rw [heq]
      constructor
      · intro c x r hx hr
        rcases Core.clients_addClient_cases hx with ⟨_, rfl⟩ | hx
        · cases hr
        · exact h.fresh hx hr
      · intro c x r y hx hr hy
        rcases Core.clients_addClient_cases hx with ⟨_, rfl⟩ | hx
        · cases hr
        · exact h.remote hx hr hy
  | opens ho =>
      rw [ho.result]
      refine h.addRemote rfl rfl fun {c' z r} hz hr => ?_
      rw [Core.clients_emit, Core.clients_addRemote, Core.clients_setClient] at hz
      split at hz
      · cases hz
        cases ho.link.symm.trans hr
        exact Or.inl ⟨rfl, ho.new.isListener⟩
      · exact Or.inr ⟨z, hz, hr⟩
  | addListener _ heq =>
      rw [heq]
      exact h.addRemote rfl rfl fun hz hr => Or.inr ⟨_, hz, hr⟩
  | closeClient _ heq =>
      rw [heq]
      exact h.leaves .closeClient
  | closeRemote _ _ _ heq =>
      rw [heq]
      exact h.leaves .dropRemote
  | dispose _ _ heq =>
      rw [heq]
      exact h.leaves .dispose

theorem Apart.initial (h : Initial s) : Apart s := by
  cases h with
  | empty | listener => exact ⟨fun hx => (nomatch hx), fun hx => (nomatch hx)⟩

end Apart

theorem reachable_apart {plat : Platform} {s : Daemon} (h : Reachable plat s) :
    Apart s.toCore :=
  (reachable_inv (A := .all) Apart.initial (fun _ _ _ => allows_all)
    (fun _ hm hp => hp.move hm) h).2

/-! ## What is left of an id -/

/-- A TCP listener with an id. -/
def HasListener (r : RemotePtr) (k : UInt8) (s : Core) : Prop :=
  ∃ y, s.remotes r = some y ∧ y.isTcpListener = true ∧ y.id = k

/-- The id is free, and no device has it. -/
structure Cleared (k : UInt8) (s : Core) : Prop where
  bit : idUsed s.remoteIdMap k = false
  devices : ∀ key ∈ s.remoteDeviceList.keys, keyDevice key >>> 24 ≠ k.toUInt32

section Listener

variable {A : Allow} {s s' : Core} {r : RemotePtr} {k : UInt8}

theorem HasListener.inPlace (h : HasListener r k s) (hm : InPlace s s') : HasListener r k s' := by
  obtain ⟨y, hy, htcp, hid⟩ := h
  obtain ⟨y', hy', he⟩ := hm.remote hy
  exact ⟨y', hy', he.isTcpListener.trans htcp, he.id.trans hid⟩

theorem HasListener.addRemote {y : RemoteMux} (h : HasListener r k s) (hwf : WF s)
    (hremotes : s'.remotes = (s.addRemote y).remotes) : HasListener r k s' := by
  obtain ⟨z, hz, hown⟩ := h
  refine ⟨z, ?_, hown⟩
  rw [hremotes, Core.remotes_addRemote, if_neg]
  · exact hz
  · intro heq
    rw [heq, hwf.nextRemote_free] at hz
    cases hz

/-- What is disposed of leaves nothing behind. -/
theorem Cleared.of_dispose {y : RemoteMux} (hreg : Registry s) (hy : s.remotes r = some y)
    (htcp : y.isTcpListener = true)
    (hclear : ∀ key ∈ s.remoteDeviceList.keys, keyDevice key >>> 24 ≠ y.id.toUInt32) :
    Cleared y.id (s.dispose r y) where
  bit := by
    have hown : y.isListener ∧ y.host.isSome :=
      ⟨(isTcpListener_iff.mp htcp).2, Option.isSome_iff_ne_none.mpr ((hreg.remote hy).tcp htcp).2.2⟩
    rw [Core.dispose, Core.remoteIdMap_releaseId, if_pos hown, idUsed_setRemoteIdUsed,
      if_pos rfl]
  devices := by
    rw [Core.remoteDeviceList_dispose]
    exact hclear

/-- A listener stays until it is closed or disposed of, and in the second
case nothing is left of its id. -/
theorem HasListener.move (hwf : WF s) (hreg : Registry s) (hap : Apart s) (hm : Move A s s')
    (h : HasListener r k s) : HasListener r k s' ∨ (∃ y, A.closeOk s r y) ∨
      ((A.reapOk ∨ ∃ y, A.disposeOk s r y) ∧ Cleared k s') := by
  cases hm.shape with
  | inPlace hp => exact Or.inl (h.inPlace hp)
  | accept _ heq =>
      rw [heq]
      exact Or.inl h
  | opens ho =>
      rw [ho.result]
      exact Or.inl (h.addRemote hwf rfl)
  | addListener _ heq =>
      rw [heq]
      exact Or.inl (h.addRemote hwf rfl)
  | @closeClient c x hx heq =>
      obtain ⟨y, hy, htcp, hid⟩ := h
      refine Or.inl ⟨y, ?_, htcp, hid⟩
      rw [heq, Core.remotes_closeClient, if_neg]
      · exact hy
      · intro hlink
        have hno := hap.remote hx hlink hy
        rw [(isTcpListener_iff.mp htcp).2] at hno
        cases hno
  | @closeRemote r' y' hy' _ hok heq =>
      by_cases hr : r' = r
      · subst hr
        exact Or.inr (Or.inl ⟨y', hok⟩)
      · obtain ⟨y, hy, hown⟩ := h
        refine Or.inl ⟨y, ?_, hown⟩
        rw [heq, Core.remotes_dropRemote, if_neg fun h => hr h.symm]
        exact hy
  | @dispose r' y' hy' hwhy heq hclear =>
      obtain ⟨y, hy, htcp, hid⟩ := h
      by_cases hr : r' = r
      · subst hr
        cases hy.symm.trans hy'
        refine Or.inr (Or.inr ⟨hwhy.imp And.right fun hok => ⟨_, hok⟩, ?_⟩)
        rw [heq, ← hid]
        exact .of_dispose hreg hy htcp hclear
      · refine Or.inl ⟨y, ?_, htcp, hid⟩
        rw [heq, Core.remotes_dispose, if_neg fun h => hr h.symm]
        exact hy

/-- What is cleared stays so as long as nothing new is added. -/
theorem Cleared.move (hreg : Registry s) (hk : k ≠ 0) (hgrow : ¬ A.growOk) (hm : Move A s s')
    (h : Cleared k s) : Cleared k s' where
  bit := by
    cases hm.shape with
    | inPlace hp =>
        rw [hp.remoteIdMap]
        exact h.bit
    | accept _ heq =>
        rw [heq]
        exact h.bit
    | opens ho =>
        rw [ho.result]
        exact h.bit
    | addListener _ _ hok => exact absurd hok hgrow
    | closeClient _ heq =>
        rw [heq, Core.remoteIdMap_closeClient]
        exact h.bit
    | closeRemote _ _ _ heq =>
        rw [heq]
        exact h.bit
    | dispose _ _ heq =>
        rw [heq, Core.dispose, Core.remoteIdMap_releaseId, Core.remoteIdMap_dropLinkedClient]
        split
        · rw [idUsed_setRemoteIdUsed]
          split
          · rfl
          · exact h.bit
        · exact h.bit
  devices := by
    rcases hm.devices with heq | ⟨devid, dev, hfrom, heq⟩ | ⟨key, _, heq⟩
    · rw [heq]
      exact h.devices
    · rw [heq]
      intro key hkey
      rcases OMap.mem_keys_set.mp hkey with rfl | hkey
      · rw [keyDevice_deviceKey]
        obtain ⟨r', z, hz, hstate, howner | rfl⟩ := hfrom
        · -- the listener that announces it has an id that is in use, or is the local one
          rw [howner]
          intro heq
          obtain rfl : z.id = k := UInt8.toUInt32_inj.mp heq
          have hok := hreg.remote hz
          by_cases hunix : z.isUnix = true
          · exact hk (hok.unix hunix).1
          · have htcp : z.isTcpListener = true :=
              isTcpListener_iff.mpr ⟨Bool.not_eq_true _ ▸ hunix, hok.listening hstate⟩
            have hused := (hok.tcp htcp).2.1
            rw [h.bit] at hused
            cases hused
        · intro heq
          exact hk (UInt8.toUInt32_inj.mp heq.symm)
      · exact h.devices key hkey
    · rw [heq]
      intro key' hkey'
      exact h.devices key' (OMap.mem_keys_erase.mp hkey').2

end Listener

/-! ## Who listens -/

section Listening

variable {A : Allow} {s s' : Core} {c : ClientPtr} {x x' : MuxClient}

/-- No client starts to listen in place, and the protocol of one that listens
is settled. -/
theorem ClientStep.listening {acts : List Act} (h : ClientStep c x acts x')
    (hstate : x'.state = .listen) : x.state = .listen ∧ x.protoVersion = x'.protoVersion := by
  cases h with
  | proto hcmd => cases hcmd.symm.trans hstate
  | connected | notifyFail => cases hstate
  | queue | recv | command | inputDone | info | events | send => exact ⟨hstate, rfl⟩

/-- The client listens, and speaks a protocol. -/
def ListensWith (c : ClientPtr) (proto : UInt32) (s : Core) : Prop :=
  ∃ x, s.clients c = some x ∧ x.state = .listen ∧ x.protoVersion = proto

theorem ListensWith.of_setClient {c' : ClientPtr} {z z' : MuxClient} {acts : List Act}
    {proto : UInt32} (h : ListensWith c proto ((s.setClient c' z').emit acts))
    (hz : s.clients c' = some z)
    (hback : z'.state = .listen → z.state = .listen ∧ z.protoVersion = z'.protoVersion) :
    ListensWith c proto s := by
  obtain ⟨x, hx, hstate, hproto⟩ := h
  rw [Core.clients_emit, Core.clients_setClient] at hx
  split at hx
  · next heq =>
      cases hx
      obtain ⟨hold, hsame⟩ := hback hstate
      exact ⟨z, by rw [heq]; exact hz, hold, hsame.trans hproto⟩
  · exact ⟨x, hx, hstate, hproto⟩

theorem ListensWith.leaves {proto : UInt32} (hm : Leaves s s') (h : ListensWith c proto s') :
    ListensWith c proto s := by
  obtain ⟨x, hx, hown⟩ := h
  exact ⟨x, hm.client hx, hown⟩

theorem ListensWith.same {proto : UInt32} (hm : SameButClients s s')
    (h : ListensWith c proto s') : ListensWith c proto s := by
  obtain ⟨x', hx', hown⟩ := h
  cases hx : s.clients c with
  | none => cases (hm.noClient hx).symm.trans hx'
  | some x =>
      obtain ⟨ob, e, hx'', _⟩ := hm.client hx
      cases hx''.symm.trans hx'
      exact ⟨x, hx, hown⟩

/-- Whoever listens after a move listened before it. -/
theorem ListensWith.before {proto : UInt32} (hgrow : ¬ A.growOk) (hm : Move A s s')
    (h : ListensWith c proto s') : ListensWith c proto s := by
  cases hm with
  | client hx hstep => exact h.of_setClient hx hstep.listening
  | remote | killId => exact h
  | forward _ _ _ _ _ hx => exact h.of_setClient hx fun hs => ⟨hs, rfl⟩
  | relayRead hx | relayWrite hx =>
      exact ListensWith.of_setClient (s := s.setRemote _ _) h hx fun hs => ⟨hs, rfl⟩
  | accept =>
      obtain ⟨x, hx, hstate, hproto⟩ := h
      rcases Core.clients_addClient_cases hx with ⟨_, rfl⟩ | hx
      · cases hstate
      · exact ⟨x, hx, hstate, hproto⟩
  | @connect c' x' tag deviceId y acts hx =>
      have h' : ListensWith c proto ((s.setClient c' { x' with
        remote := some ⟨s.nextRemote⟩, connectTag := tag, connectDevice := deviceId,
        state := .connecting1 }).emit []) := h
      exact h'.of_setClient hx fun hs => by cases hs
  | @request c' x' k y acts hx =>
      have h' : ListensWith c proto ((s.setClient c'
        { x' with remote := some ⟨s.nextRemote⟩ }).emit []) := h
      exact h'.of_setClient hx fun hs => ⟨hs, rfl⟩
  | notifyOk _ _ _ hx =>
      exact ListensWith.of_setClient (s := s.setRemote _ _) h hx fun hs => by cases hs
  | addListener => exact h
  | closeClient => exact h.leaves .closeClient
  | closeRemote => exact h.leaves .dropRemote
  | dispose => exact h.leaves .dispose
  | deviceSet _ hn | deviceErase _ hn => exact h.same hn.announces.same.withDevices
  | listen _ _ _ hok => exact absurd hok hgrow

/-- The walk over the clients reaches every one that listens. -/
theorem Notified.told {lossOk : Prop} {note : Note} {cs : List ClientPtr} {proto : UInt32}
    (hloss : ¬ lossOk) (h : Notified lossOk note cs s s') (hc : c ∈ cs)
    (hl : ListensWith c proto s) : ∃ acts hdr payload, s'.log = s.log ++ acts ∧
      .queue c hdr payload ∈ acts ∧ note.packet proto hdr payload := by
  induction h with
  | nil => cases hc
  | lost hl' => exact absurd hl' hloss
  | skip hx hstate _ ih =>
      rcases List.mem_cons.mp hc with rfl | hc
      · obtain ⟨x, hx', hlisten, _⟩ := hl
        cases hx.symm.trans hx'
        exact absurd hlisten hstate
      · exact ih hc hl
  | @sent c' rest z hdr payload s s₁ s' hstate hpkt hq hrest ih =>
      obtain ⟨acts, he⟩ := hrest.announces.emits
      have hlog : s'.log = s.log ++ .queue c' hdr payload :: acts := by
        obtain ⟨_, _, ob, _, rfl⟩ := hq
        rw [he.log]
        simp [Core.emit, Core.setClient]
      by_cases hcc : c = c'
      · subst hcc
        obtain ⟨x, hx, _, hproto⟩ := hl
        cases hx.symm.trans hq.1
        exact ⟨_, hdr, payload, hlog, List.mem_cons_self, hproto ▸ hpkt⟩
      · have hl₁ : ListensWith c proto s₁ := by
          obtain ⟨x, hx, hown⟩ := hl
          obtain ⟨_, _, ob, _, rfl⟩ := hq
          refine ⟨x, ?_, hown⟩
          rw [Core.clients_emit, Core.clients_setClient, if_neg hcc]
          exact hx
        obtain ⟨acts', hdr', payload', hlog', hmem, hpkt'⟩ :=
          ih ((List.mem_cons.mp hc).resolve_left hcc) hl₁
        obtain rfl : acts' = acts := List.append_cancel_left (hlog'.symm.trans he.log)
        exact ⟨_, hdr', payload', hlog, List.mem_cons_of_mem _ hmem, hpkt'⟩

end Listening

/-! ## Devices that go are withdrawn -/

/-- The client was told that the device of a key is gone. -/
def ToldGone (c : ClientPtr) (proto : UInt32) (key : String) (s s' : Core) : Prop :=
  ∃ acts hdr payload, s'.log = s.log ++ acts ∧ .queue c hdr payload ∈ acts ∧
    (Note.detached (keyDevice key)).packet proto hdr payload

section Told

variable {A : Allow} {s s' s'' : Core} {c : ClientPtr} {proto : UInt32} {key : String}

theorem ToldGone.extend (h : ToldGone c proto key s s') (hlog : ∃ acts, s''.log = s'.log ++ acts) :
    ToldGone c proto key s s'' := by
  obtain ⟨acts, hdr, payload, hacts, hmem, hpkt⟩ := h
  obtain ⟨acts', hlog⟩ := hlog
  refine ⟨acts ++ acts', hdr, payload, ?_, List.mem_append_left _ hmem, hpkt⟩
  rw [hlog, hacts, List.append_assoc]

/-- Over moves that lose no packet, every client that listens is told about
every device that goes. -/
theorem Moves.told (hwf : WF s) (hgrow : ¬ A.growOk) (hloss : ¬ A.lossOk) (hm : Moves A s s')
    (hl : ListensWith c proto s') (hkey : key ∈ s.remoteDeviceList.keys) :
    key ∈ s'.remoteDeviceList.keys ∨ ToldGone c proto key s s' := by
  refine invariant_of_step (R := Move A) (P := fun t => WF t ∧ Moves A s t ∧
    (ListensWith c proto t → key ∈ t.remoteDeviceList.keys ∨ ToldGone c proto key s t))
    (fun {t t'} hmove ht => ?_) hm ⟨hwf, Moves.refl, fun _ => Or.inl hkey⟩ |>.2.2 hl
  obtain ⟨hwft, hmt, htold⟩ := ht
  refine ⟨hwft.move hmove, hmt.trans hmove.single, fun hl' => ?_⟩
  have hlt := hl'.before hgrow hmove
  rcases htold hlt with hmem | htold
  · rcases hmove.devices with heq | ⟨devid, dev, _, heq⟩ | ⟨key', hn, heq⟩
    · rw [heq]
      exact Or.inl hmem
    · rw [heq, OMap.mem_keys_set]
      exact Or.inl (Or.inr hmem)
    · by_cases hk : key = key'
      · subst hk
        obtain ⟨x, hx, _⟩ := hlt
        have hlist : c ∈ t.clientList.elems := by
          rw [hwft.clients, hx]
          rfl
        obtain ⟨acts, hdr, payload, hlog, hqueue, hpkt⟩ :=
          hn.told hloss hlist (hl'.before hgrow hmove)
        obtain ⟨acts₀, hlog₀⟩ := hmt.log_append
        refine Or.inr ⟨acts₀ ++ acts, hdr, payload, ?_, List.mem_append_right _ hqueue, hpkt⟩
        rw [show t'.log = t.log ++ acts from hlog, hlog₀, List.append_assoc]
      · rw [heq, OMap.mem_keys_erase]
        exact Or.inl ⟨hk, hmem⟩
  · exact Or.inr (htold.extend hmove.single.log_append)

end Told

/-! ## Steps that add and steps that remove -/

/-- Nothing is removed. -/
def Allow.still (lossOk : Prop) : Allow :=
  { Allow.all with
    closeOk := fun _ _ _ => False
    disposeOk := fun _ _ _ => False
    reapOk := False
    lossOk := lossOk }

/-- Nothing is added, and a remote is not closed. -/
def Allow.quiet (r : RemotePtr) (lossOk : Prop) : Allow :=
  { Allow.all with
    closeOk := fun _ r' _ => r' ≠ r
    lossOk := lossOk
    growOk := False }

/-- The event is for a remote and its send fails: `remote_process_send` closes
the remote. -/
def SendFails (s : Core) (r : RemotePtr) : Event → Prop
  | .remote fd events sys => ∃ y, eventRemote s fd = some (r, y) ∧ events.pollin = false ∧
      events.pollout = true ∧ y.ob.size ≠ 0 ∧ sendFrom sys y.ob = none
  | _ => False

section Steps

variable {lossOk : Prop} {plat : Platform} {sys : Sys} {s s' : Daemon} {c : ClientPtr}
  {x : MuxClient} {r : RemotePtr} {e : Event}

/-- Nothing is removed, or nothing is added. -/
def StillOrQuiet (r : RemotePtr) (lossOk : Prop) (s s' : Core) : Prop :=
  Moves (.still lossOk) s s' ∨ Moves (.quiet r lossOk) s s'

theorem Runs.still {m : Except Fault Daemon} {s₀ : Core}
    (h : Runs (.still lossOk) s₀ (fun s' => Moves (.still lossOk) s.toCore s'.toCore) m) :
    Post (fun _ => True) (fun s' => StillOrQuiet r lossOk s.toCore s'.toCore) m :=
  Post.imp h (fun _ _ => trivial) fun _ hm => Or.inl hm

theorem Runs.quiet {m : Except Fault Daemon} {s₀ : Core}
    (h : Runs (.quiet r lossOk) s₀ (fun s' => Moves (.quiet r lossOk) s.toCore s'.toCore) m) :
    Post (fun _ => True) (fun s' => StillOrQuiet r lossOk s.toCore s'.toCore) m :=
  Post.imp h (fun _ _ => trivial) fun _ hm => Or.inr hm

/-- `RemoveInstance` is the one request that removes, and it adds nothing. -/
theorem processRecv_stillOrQuiet (hloss : Loss plat sys → lossOk) (hwf : WF s.toCore)
    (hx : s.clients c = some x) :
    Post (fun _ => True) (fun s' => StillOrQuiet r lossOk s.toCore s'.toCore)
      (processRecv plat sys s c) := by
  by_cases hrem : ∃ rf, readFrame plat sys x.ib = .ok rf ∧
      plistMessage plat rf.ib = some "RemoveInstance"
  · refine Runs.quiet (Runs.imp (processRecv_phase hloss hwf hx (fun rf hrf _ => ?_)
      (fun _ _ _ _ _ _ _ _ _ _ => trivial) (fun _ _ _ _ => trivial)
      fun _ _ _ _ _ => trivial) fun _ hp => hp.moves)
    obtain ⟨rf', hrf', hmsg⟩ := hrem
    cases hrf.symm.trans hrf'
    refine ⟨fun hgrow => ?_, fun _ => ⟨trivial, trivial⟩⟩
    have hplist : (bufHeader plat rf.ib).message = messagePlist := by
      rw [plistMessage] at hmsg
      split at hmsg
      · next hplist => exact hplist
      · cases hmsg
    rw [hmsg, hplist, Option.some_inj, Option.some_inj] at hgrow
    rcases hgrow with hgrow | hgrow | hgrow
    · exact absurd hgrow (by decide)
    · exact absurd hgrow (by decide)
    · exact absurd hgrow (by decide)
  · refine Runs.still (Runs.imp (processRecv_phase hloss hwf hx (fun rf hrf _ => ?_)
      (fun _ _ _ _ _ _ _ _ _ _ => trivial) (fun _ _ _ _ => trivial)
      fun _ _ _ _ _ => trivial) fun _ hp => hp.moves)
    exact ⟨fun _ => trivial, fun hmsg => absurd ⟨rf, hrf, hmsg⟩ hrem⟩

theorem clientProcess_stillOrQuiet {fd : Nat} {events : PollEvents}
    (hloss : Loss plat sys → lossOk) (hwf : WF s.toCore) :
    Post (fun _ => True) (fun s' => StillOrQuiet r lossOk s.toCore s'.toCore)
      (clientProcess plat sys s fd events) := by
  refine Post.bind lockClientList_runs.returns ?_
  rintro ⟨core, locked, locked'⟩ h₁
  obtain rfl : core = s.toCore := h₁
  refine Post.bind findClient_runs.returns fun o ho => ?_
  cases o with
  | none => exact Or.inl Moves.refl
  | some p =>
      obtain ⟨c, x⟩ := p
      obtain ⟨hx, _⟩ := ho _ rfl
      dsimp only
      split
      · next hstate =>
          split
          · exact Runs.still (s := ⟨s.toCore, locked, false⟩)
              (clientRelayRead_moves hx hstate fun _ _ _ _ _ _ => trivial)
          · split
            · exact Runs.still (s := ⟨s.toCore, locked, false⟩)
                (clientRelayWrite_moves hx hstate fun _ _ _ _ _ _ => trivial)
            · exact Or.inl Moves.refl
      · next hstate =>
          split
          · exact processRecv_stillOrQuiet hloss hwf hx
          · split
            · exact Runs.still (s := ⟨s.toCore, locked, false⟩)
                (processSend_moves hx hstate fun _ _ => trivial)
            · exact Or.inl Moves.refl

theorem usbmuxRemoteProcess_stillOrQuiet {fd : Nat} {events : PollEvents}
    (hloss : Loss plat sys → lossOk) (hwf : WF s.toCore)
    (hclose : ∀ y, eventRemote s.toCore fd = some (r, y) → ¬ Closes events sys y) :
    Post (fun _ => True) (fun s' => StillOrQuiet r lossOk s.toCore s'.toCore)
      (usbmuxRemoteProcess plat sys s fd events) := by
  refine Runs.quiet (Runs.bind (reapLoop_event hloss trivial hwf
    fun _ _ _ _ _ _ _ _ => trivial) fun p hp => ?_)
  obtain ⟨s₁, found⟩ := p
  obtain ⟨hreaping, hfound⟩ := hp
  cases found with
  | none => exact hreaping.moves
  | some r' =>
      obtain ⟨y, hy, hstate, hevent⟩ := hfound r' rfl
      refine Runs.after hreaping.moves ((remoteProcessFound_handled hloss ⟨trivial, trivial⟩
        ⟨trivial, fun _ _ _ => trivial⟩ hreaping.wf hy hstate ⟨fun t hcl _ => ?_,
          fun _ _ _ => trivial, fun _ _ _ _ _ => trivial, fun _ _ => trivial⟩).imp
        fun _ h => hreaping.moves.trans h.moves)
      intro heq
      subst heq
      exact hclose y hevent hcl

/-- A step removes nothing or adds nothing, and closes no listener unless a
send on it fails. -/
theorem step_stillOrQuiet (hwf : WF s.toCore) (hloss : ¬ e.lossless plat → lossOk)
    (hconn : ∀ y, s.remotes r = some y → y.state ≠ .connected)
    (hsend : ¬ SendFails s.toCore r e) :
    Post (fun _ => True) (fun s' => StillOrQuiet r lossOk s.toCore s'.toCore)
      (step plat s e) := by
  have hstill : Allows (.still lossOk) plat s e →
      Post (fun _ => True) (fun s' => StillOrQuiet r lossOk s.toCore s'.toCore) (step plat s e) :=
    fun h => Runs.still (step_runs hwf h)
  cases e with
  | accept cfd => exact hstill fun _ _ => trivial
  | getFds now => exact hstill trivial
  | addRemote hostName port sys => exact hstill ⟨trivial, fun _ _ _ _ => trivial⟩
  | mdnsAdd serviceName hostName port sys =>
      exact hstill ⟨⟨trivial, fun _ _ _ _ => trivial⟩, Or.inr trivial⟩
  | mdnsRemove serviceName sys =>
      exact Runs.quiet (step_runs hwf ⟨fun hl => hloss (not_not.mpr hl), trivial, trivial⟩)
  | client fd events sys =>
      exact clientProcess_stillOrQuiet (fun hl => hloss (not_not.mpr hl)) hwf
  | remote fd events sys =>
      refine usbmuxRemoteProcess_stillOrQuiet (fun hl => hloss (not_not.mpr hl)) hwf ?_
      intro y hevent hcl
      rcases hcl with hstate | hfail
      · exact hconn y (eventRemote_remote hevent) hstate
      · exact hsend ⟨y, hevent, hfail⟩

end Steps

/-! ## Listeners that leave -/

/-- Every client that listens has been told about every device of the id
that there was. -/
def Withdrawn (k : UInt8) (s s' : Core) : Prop :=
  ∀ c x key, s'.clients c = some x → x.state = .listen →
    key ∈ s.remoteDeviceList.keys → keyDevice key >>> 24 = k.toUInt32 →
    ToldGone c x.protoVersion key s s'

section Departs

variable {lossOk : Prop} {plat : Platform} {s s' : Daemon} {r : RemotePtr} {y : RemoteMux}
  {e : Event}

/-- Over moves that remove nothing, or close everything but the listener. -/
theorem StillOrQuiet.departs (hwf : WF s.toCore) (hreg : Registry s.toCore)
    (hap : Apart s.toCore) (hm : StillOrQuiet r lossOk s.toCore s'.toCore)
    (hy : s.remotes r = some y) (htcp : y.isTcpListener = true)
    (hgone : r ∉ s'.remoteList.elems) :
    Cleared y.id s'.toCore ∧ (¬ lossOk → Withdrawn y.id s.toCore s'.toCore) := by
  have hfree : WF s'.toCore → ¬ HasListener r y.id s'.toCore := by
    intro hwf' ⟨z, hz, _⟩
    apply hgone
    rw [hwf'.remotes, hz]
    rfl
  have hk : y.id ≠ 0 := ((hreg.remote hy).tcp htcp).1
  rcases hm with hstill | hquiet
  · have hinv := invariant_of_step (R := Move (.still lossOk))
      (P := fun t => WF t ∧ Registry t ∧ Apart t ∧ HasListener r y.id t) ?_ hstill
      ⟨hwf, hreg, hap, y, hy, htcp, rfl⟩
    · exact absurd hinv.2.2.2 (hfree hinv.1)
    · intro t t' hmove ht
      obtain ⟨hwft, hregt, hapt, hhas⟩ := ht
      refine ⟨hwft.move hmove, Registry.move hwft hmove hregt, hapt.move hmove, ?_⟩
      rcases hhas.move hwft hregt hapt hmove with hhas | ⟨_, hno⟩ | ⟨hno | ⟨_, hno⟩, _⟩
      · exact hhas
      · exact hno.elim
      · exact hno.elim
      · exact hno.elim
  · have hinv := invariant_of_step (R := Move (.quiet r lossOk))
      (P := fun t => WF t ∧ Registry t ∧ Apart t ∧ (HasListener r y.id t ∨ Cleared y.id t)) ?_
      hquiet ⟨hwf, hreg, hap, Or.inl ⟨y, hy, htcp, rfl⟩⟩
    · have hclear : Cleared y.id s'.toCore := hinv.2.2.2.resolve_left (hfree hinv.1)
      refine ⟨hclear, fun hloss c x key hx hstate hkey hdev => ?_⟩
      rcases Moves.told hwf id hloss hquiet ⟨x, hx, hstate, rfl⟩ hkey with hstays | htold
      · exact absurd hdev (hclear.devices key hstays)
      · exact htold
    · intro t t' hmove ht
      obtain ⟨hwft, hregt, hapt, hhas⟩ := ht
      refine ⟨hwft.move hmove, Registry.move hwft hmove hregt, hapt.move hmove, ?_⟩
      rcases hhas with hhas | hclear
      · rcases hhas.move hwft hregt hapt hmove with hhas | ⟨_, hno⟩ | ⟨_, hclear⟩
        · exact Or.inl hhas
        · exact absurd rfl hno
        · exact Or.inr hclear
      · exact Or.inr (hclear.move hregt hk id hmove)

/-- A listener that is closed leaves its id behind. -/
theorem sendFails_not_cleared (hwf : WF s.toCore) (hreg : Registry s.toCore)
    (hy : s.remotes r = some y) (htcp : y.isTcpListener = true) (hstep : step plat s e = .ok s')
    (hsend : SendFails s.toCore r e) : ¬ Cleared y.id s'.toCore := by
  cases e with
  | accept | getFds | client | addRemote | mdnsAdd | mdnsRemove => exact hsend.elim
  | remote fd events sys =>
      obtain ⟨z, hevent, hin, hout, hsize, hfail⟩ := hsend
      cases hy.symm.trans (eventRemote_remote hevent)
      have hnval : events ≠ { pollnval := true } := by
        intro heq
        rw [heq] at hout
        cases hout
      obtain ⟨⟨t, found⟩, ht, hrest⟩ := bind_eq_ok.mp hstep
      have hfound : found = some r := by
        have hfst := (reapLoop_found hnval).of_ok ht
        rw [hevent] at hfst
        exact hfst
      subst hfound
      have hruns : Runs .all s.toCore _ (reapLoop plat sys fd events s) :=
        reapLoop_event (fun _ => trivial) trivial hwf fun _ _ _ _ _ _ _ _ => trivial
      obtain ⟨hreaping, hlive⟩ := Post.of_ok hruns ht
      obtain ⟨z, hz, _, hevent'⟩ := hlive r rfl
      cases hevent.symm.trans hevent'
      have hregt : Registry t.toCore :=
        (invariant_of_step (R := Move .all) (P := fun t => WF t ∧ Registry t)
          (fun hm h => ⟨h.1.move hm, Registry.move h.1 hm h.2⟩) hreaping.moves
          ⟨hwf, hreg⟩).2
      have hown := hregt.remote hz
      obtain ⟨hclient, hstate⟩ := hown.listener (isTcpListener_iff.mp htcp).2
      have hne : y.state ≠ .connected := by
        rcases hstate with hstate | hstate | hstate <;> rw [hstate] <;> decide
      have hremote : t.remote r = .ok y := by
        rw [Daemon.remote, hz]
      have hclose : usbmuxRemoteClose t r = .ok s' := by
        have hrun : remoteProcessFound plat sys t r events = .ok s' := hrest
        rw [remoteProcessFound, hremote] at hrun
        change (if y.state = .connected then _ else if events.pollin then _ else
          if events.pollout then remoteProcessSend sys t r else _) = _ at hrun
        rw [if_neg hne, hin, if_neg Bool.false_ne_true, if_pos hout, remoteProcessSend,
          hremote] at hrun
        change (if y.ob.size = 0 then _ else _) = _ at hrun
        rw [if_neg hsize, hfail] at hrun
        exact hrun
      rw [usbmuxRemoteClose, hremote, ok_bind, hclient] at hclose
      obtain ⟨t₁, hlock, hclose⟩ := bind_eq_ok.mp hclose
      obtain ⟨t₂, hdrop, hunlock⟩ := bind_eq_ok.mp hclose
      have h₁ : t₁.toCore = t.toCore := lockRemoteList_runs.returns.of_ok hlock
      have h₂ := (remoteClose_runs.returns.of_ok hdrop).2
      cases hunlock
      intro hclear
      have hbit : idUsed t₂.remoteIdMap y.id = false := hclear.bit
      rw [show t₂.remoteIdMap = t.remoteIdMap by rw [h₂, h₁]; rfl, (hown.tcp htcp).2.1] at hbit
      cases hbit

/-- When a TCP listener leaves, its id is free and its devices are gone, and
withdrawn from every client that listens, unless it is closed because a send
on it failed. Then the id stays taken. -/
theorem listener_departs_iff (h : Reachable plat s) (hstep : step plat s e = .ok s')
    (hy : s.remotes r = some y) (htcp : y.isTcpListener = true)
    (hgone : r ∉ s'.remoteList.elems) :
    (Cleared y.id s'.toCore ↔ ¬ SendFails s.toCore r e) ∧
      (e.lossless plat →
        (Cleared y.id s'.toCore ∧ Withdrawn y.id s.toCore s'.toCore ↔
          ¬ SendFails s.toCore r e)) := by
  obtain ⟨hwf, hreg⟩ := reachable_registry h
  have hconn : ∀ z, s.remotes r = some z → z.state ≠ .connected := by
    intro z hz
    cases hy.symm.trans hz
    rcases ((hreg.remote hy).listener (isTcpListener_iff.mp htcp).2).2 with hst | hst | hst <;>
      rw [hst] <;> decide
  have hleaks : SendFails s.toCore r e → ¬ Cleared y.id s'.toCore :=
    sendFails_not_cleared hwf hreg hy htcp hstep
  have hdeparts : ¬ SendFails s.toCore r e → Cleared y.id s'.toCore ∧
      (¬ ¬ e.lossless plat → Withdrawn y.id s.toCore s'.toCore) := by
    intro hsend
    have hruns : Post (fun _ => True) (fun s' : Daemon => StillOrQuiet r (¬ e.lossless plat)
        s.toCore s'.toCore) (step plat s e) := step_stillOrQuiet hwf id hconn hsend
    have hm := hruns.of_ok hstep
    exact hm.departs hwf hreg (reachable_apart h) hy htcp hgone
  refine ⟨⟨fun hclear hsend => hleaks hsend hclear, fun hsend => (hdeparts hsend).1⟩, ?_⟩
  intro hlossless
  refine ⟨fun hclear hsend => hleaks hsend hclear.1, fun hsend => ?_⟩
  exact ⟨(hdeparts hsend).1, (hdeparts hsend).2 (not_not.mpr hlossless)⟩

end Departs

/-- A TCP listener that was sent part of the listen request announces a device
and a client listens. -/
def announcedRun : List Event :=
  .addRemote "hosta" 5000 { connect := some 10 } ::
    .remote 10 { pollout := true } { send := some 20 } ::
    (remoteSends 10 (resultFrame 0) ++ remoteSends 10 (plistFrame 1 0 numberedMessage) ++
      [.accept (some 5), .client 5 { pollin := true } { recv := some listenFrame }])

/-- The descriptor of the listener turns out to be closed. -/
theorem listener_departs_iff_pollnval :
    ∃ s s' x y, Reachable (platformWith [numberedMessage]) s ∧ s.clients ⟨0⟩ = some x ∧
      x.state = .listen ∧ s.remotes ⟨0⟩ = some y ∧ y.isTcpListener = true ∧
      s.remoteDeviceList.keys = ["0x01000005"] ∧
      step (platformWith [numberedMessage]) s (.remote 10 { pollnval := true } {}) = .ok s' ∧
      ⟨0⟩ ∉ s'.remoteList.elems ∧ Cleared y.id s'.toCore ∧
      Withdrawn y.id s.toCore s'.toCore := by
  let event : Event := .remote 10 { pollnval := true } {}
  let test : Daemon → Bool := fun s =>
    (s.clients ⟨0⟩).any (fun x => decide (x.state = .listen)) &&
    (s.remotes ⟨0⟩).any (fun y => y.isTcpListener) &&
    decide (s.remoteDeviceList.keys = ["0x01000005"]) &&
    okAnd (fun s' => decide (⟨0⟩ ∉ s'.remoteList.elems))
      (step (platformWith [numberedMessage]) s event)
  obtain ⟨s, hrun, htest⟩ : ∃ s, runFrom (platformWith [numberedMessage]) {} (fun _ _ => true)
      announcedRun = some s ∧ test s = true := exists_of_runFrom (by decide +kernel)
  simp only [test, Bool.and_eq_true, decide_eq_true_eq, Option.any_eq_true] at htest
  obtain ⟨⟨⟨⟨x, hx, hlisten⟩, y, hy, htcp⟩, hkeys⟩, htest⟩ := htest
  have hreach := reachable_of_runFrom hrun
  obtain ⟨s', hs', htest⟩ := exists_of_okAnd htest
  have hgone := of_decide_eq_true htest
  have hdeparts := ((listener_departs_iff hreach hs' hy htcp hgone).2
    (not_loss_platformWith fun _ => rfl)).mpr ?_
  · exact ⟨s, s', x, y, hreach, hx, hlisten, hy, htcp, hkeys, hs', hgone, hdeparts⟩
  · intro hsend
    obtain ⟨_, _, _, hout, _⟩ := hsend
    cases hout

/-- The rest of the listen request cannot be sent: the listener is gone, its
id is still taken and its device still there. -/
theorem closed_listener_leaks :
    ∃ s s' y, Reachable (platformWith [numberedMessage]) s ∧ s.remotes ⟨0⟩ = some y ∧
      y.isTcpListener = true ∧ y.id = 1 ∧
      step (platformWith [numberedMessage]) s (.remote 10 { pollout := true } {}) = .ok s' ∧
      ⟨0⟩ ∉ s'.remoteList.elems ∧ idUsed s'.remoteIdMap 1 = true ∧
      ∃ key ∈ s'.remoteDeviceList.keys, keyDevice key >>> 24 = 1 := by
  let event : Event := .remote 10 { pollout := true } {}
  let test : Daemon → Bool := fun s =>
    (s.remotes ⟨0⟩).any (fun y => y.isTcpListener && decide (y.id = 1)) &&
    okAnd (fun s' => decide (⟨0⟩ ∉ s'.remoteList.elems) && idUsed s'.remoteIdMap 1 &&
        s'.remoteDeviceList.keys.any fun key => decide (keyDevice key >>> 24 = 1))
      (step (platformWith [numberedMessage]) s event)
  obtain ⟨s, hrun, htest⟩ : ∃ s, runFrom (platformWith [numberedMessage]) {} (fun _ _ => true)
      announcedRun = some s ∧ test s = true := exists_of_runFrom (by decide +kernel)
  simp only [test, Bool.and_eq_true, Option.any_eq_true, decide_eq_true_eq] at htest
  obtain ⟨⟨y, hy, htcp, hid⟩, htest⟩ := htest
  obtain ⟨s', hs', htest⟩ := exists_of_okAnd htest
  simp only [Bool.and_eq_true, decide_eq_true_eq, List.any_eq_true] at htest
  obtain ⟨⟨hgone, hbit⟩, key, hkey, hdev⟩ := htest
  exact ⟨s, s', y, reachable_of_runFrom hrun, hy, htcp, hid, hs', hgone, hbit, key, hkey, hdev⟩

end Usbfluxd
