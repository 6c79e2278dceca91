import Usbfluxd.Moves.Command

/-!
# Events on a remote are moves

`remote_handle_command_result` state by state, the socket events of a remote
and the loop that reaps dead remotes on the way to the one an event is for.
-/

namespace Usbfluxd

open Lib

/-! ## Devices -/

section Devices

variable {A : Allow} {s₀ : Core} {s : Daemon} {plat : Platform} {sys : Sys} {devid : UInt32}

theorem Core.withDevices_self {s : Core} {d : OMap String Plist}
    (h : s.remoteDeviceList = d) : { s with remoteDeviceList := d } = s := by
  subst h
  rfl

/-- Notifications do not look at the device dictionary. -/
theorem Notified.withDevices {lossOk : Prop} {note : Note} {cs : List ClientPtr} {s s' : Core}
    (d : OMap String Plist) (h : Notified lossOk note cs s s') :
    Notified lossOk note cs { s with remoteDeviceList := d }
      { s' with remoteDeviceList := d } := by
  induction h with
  | nil => exact .nil
  | skip hx hstate _ ih => exact .skip hx hstate ih
  | lost hloss _ ih => exact .lost hloss ih
  | sent hstate hpkt hq _ ih =>
      obtain ⟨hx, hver, ob, hob, rfl⟩ := hq
      exact .sent hstate hpkt ⟨hx, hver, ob, hob, rfl⟩ ih

theorem attachedPlist_isAttached {p : Plist} (h : plistDeviceEvent p = some .add) :
    IsAttached devid (attachedPlist devid p) := by
  have hmsg : plistDictCopyStringVal p "MessageType" = some "Attached" := by
    rw [plistDeviceEvent] at h
    split at h
    · next msgtype hmsg =>
        split at h
        · next heq => rw [hmsg, heq]
        · split at h <;> cases h
    · cases h
  obtain ⟨v, hv, _⟩ := Option.bind_eq_some_iff.mp hmsg
  obtain ⟨entries, rfl⟩ := isDict_of_getItem hv
  have hne : "MessageType" ≠ "DeviceID" := by decide
  have hne' : "MessageType" ≠ "Properties" := by decide
  have hne'' : "DeviceID" ≠ "Properties" := by decide
  rw [attachedPlist]
  split
  · refine ⟨?_, plistDictGetItem_set_self⟩
    rw [plistDictCopyStringVal, plistDictGetItem_set_of_ne hne]
    exact hmsg
  · refine ⟨?_, ?_⟩
    · rw [plistDictCopyStringVal, plistDictGetItem_set_of_ne hne', plistDictGetItem_set_of_ne hne]
      exact hmsg
    · rw [plistDictGetItem_set_of_ne hne'']
      exact plistDictGetItem_set_self

theorem deviceAttached_moves {dev : Plist} (hloss : Loss plat sys → A.lossOk)
    (hdev : IsAttached devid dev ∨ A.binaryOk) (hfrom : Announced s.toCore devid) :
    Runs A s₀ (fun s' => Moves A s.toCore s'.toCore ∧ s'.remotes = s.remotes)
      (deviceAttached plat sys s devid dev) := by
  refine lockRemoteList_runs.bind ?_
  rintro ⟨core, locked, locked'⟩ h₁
  obtain rfl : core = s.toCore := h₁
  refine (clientDeviceAdd_runs hloss).bind fun s₁ h₁ => ?_
  have hn : Notified A.lossOk (.attached dev) s.clientList.elems s.toCore
      { s₁.toCore with remoteDeviceList := s.remoteDeviceList } :=
    h₁.withDevices s.remoteDeviceList
  have hdevs : s₁.remoteDeviceList = s.remoteDeviceList.set (deviceKey devid) dev :=
    h₁.announces.remoteDeviceList
  have hmove := Move.deviceSet hdev hn hfrom
  refine ⟨?_, h₁.announces.same.remotes⟩
  show Moves A s.toCore s₁.toCore
  rw [← Core.withDevices_self hdevs]
  exact hmove.single

theorem deviceDetached_moves (hloss : Loss plat sys → A.lossOk) :
    Runs A s₀ (fun s' => Moves A s.toCore s'.toCore ∧ s'.remotes = s.remotes)
      (deviceDetached plat sys s devid) := by
  refine lockRemoteList_runs.bind ?_
  rintro ⟨core, locked, locked'⟩ h₁
  obtain rfl : core = s.toCore := h₁
  refine (clientDeviceRemove_runs hloss).bind fun s₁ h₁ => ?_
  have hn : Notified A.lossOk (.detached (keyDevice (deviceKey devid))) s.clientList.elems
      s.toCore { s₁.toCore with remoteDeviceList := s.remoteDeviceList } := by
    rw [keyDevice_deviceKey]
    exact h₁.withDevices s.remoteDeviceList
  have hdevs : s₁.remoteDeviceList = s.remoteDeviceList.erase (deviceKey devid) :=
    h₁.announces.remoteDeviceList
  have hmove := Move.deviceErase (A := A) (Or.inr ⟨devid, rfl⟩) hn
  refine ⟨?_, h₁.announces.same.remotes⟩
  show Moves A s.toCore s₁.toCore
  rw [← Core.withDevices_self hdevs]
  exact hmove.single

end Devices

/-! ## Handling a frame -/

section Frames

variable {A : Allow} {s : Daemon} {plat : Platform} {sys : Sys} {r : RemotePtr}
  {y : RemoteMux} {c : ClientPtr}

theorem Move.remote_quiet {s : Core} {y' : RemoteMux} (hy : s.remotes r = some y)
    (h : RemoteStep r y [] y') (hok : y.StillWakes y' ∨ A.remoteOk) :
    Move A s (s.setRemote r y') := by
  have hmove : Move A s ((s.setRemote r y').emit []) := .remote hy h hok
  rw [Core.emit_nil] at hmove
  exact hmove

/-- Part of a reply is passed on, as long as the remote waits for it. -/
theorem sendPktRaw_moves {bytes : List UInt8} {cmd : RemoteCommand} {s₀ : Core}
    (hy : s.remotes r = some y) (hstate : y.state = .command)
    (hcmd : y.lastCommand = some cmd) (hne : cmd ≠ .listen) (hclient : y.client = some c)
    (hok : ∀ x, s.clients c = some x → A.forwardOk x.state) :
    Runs A s₀ (fun res => Moves A s.toCore res.2.toCore ∧ res.2.remotes = s.remotes ∧
      ∀ x, res.2.clients c = some x → A.forwardOk x.state)
      (sendPktRaw sys s c bytes) := by
  refine sendPktRaw_runs.imp ?_
  rintro res (heq | ⟨x, ob, hx, hob, heq⟩)
  · rw [heq]
    exact ⟨Moves.refl, rfl, hok⟩
  · rw [heq]
    refine ⟨(Move.forward hy hstate hcmd hne hclient hx hob (hok x hx)).single, rfl,
      fun x' hx' => ?_⟩
    rw [Core.clients_emit, Core.clients_setClient, if_pos rfl] at hx'
    cases hx'
    exact hok x hx

theorem clientSendPacketData_moves {hdr payload : List UInt8} {cmd : RemoteCommand} {s₀ : Core}
    (hy : s.remotes r = some y) (hstate : y.state = .command)
    (hcmd : y.lastCommand = some cmd) (hne : cmd ≠ .listen) (hclient : y.client = some c)
    (hok : ∀ x, s.clients c = some x → A.forwardOk x.state) :
    Runs A s₀ (fun res => Moves A s.toCore res.2.toCore ∧ res.2.remotes = s.remotes)
      (clientSendPacketData sys s c hdr payload) := by
  refine (sendPktRaw_moves hy hstate hcmd hne hclient hok).bind ?_
  rintro ⟨res, s₁⟩ ⟨hm, hr, hok₁⟩
  refine Runs.ite (fun _ => ?_) fun _ => ⟨hm, hr⟩
  have hr' : s₁.remotes = s.remotes := hr
  rw [← hr'] at hy
  refine (sendPktRaw_moves hy hstate hcmd hne hclient hok₁).imp ?_
  rintro res' ⟨hm', hr'', _⟩
  exact ⟨hm.trans hm', hr''.trans hr'⟩

/-- The reply the remote waits for may be passed on. -/
def ReplyOk (A : Allow) (s : Core) (y : RemoteMux) : Prop :=
  ∀ c x cmd, y.client = some c → y.lastCommand = some cmd → cmd ≠ .listen →
    s.clients c = some x → A.forwardOk x.state

/-- Whatever a reply is used for, the remote still reads frames. -/
theorem commandReply_moves (hserves : A.Serves) (hy : s.remotes r = some y)
    (hstate : y.state = .command) {plistMsg : Option Plist} (hok : ReplyOk A s.toCore y) :
    Runs A s.toCore (fun s' => Moves A s.toCore s'.toCore ∧
      ∀ y', s'.remotes r = some y' → y'.Framed)
      (commandReply plat sys s r y plistMsg) := by
  have hstay : ∀ y', s.remotes r = some y' → y'.Framed := by
    intro y' hy'
    cases hy.symm.trans hy'
    rw [RemoteMux.Framed, hstate]
    decide
  rw [commandReply]
  split
  · next hcmd =>
      refine Runs.ite (fun _ => ?_) fun _ => ⟨Moves.refl, hstay⟩
      refine modifyRemote_runs.imp ?_
      rintro s₁ ⟨y', hy', rfl⟩
      cases hy.symm.trans hy'
      refine ⟨(Move.remote_quiet hy (.listen hstate hcmd) (Or.inr hserves.remote)).single,
        fun y' hy' => ?_⟩
      rw [toCore_update, Core.remotes_setRemote, if_pos rfl] at hy'
      cases hy'
      exact ⟨RemoteState.noConfusion, RemoteState.noConfusion⟩
  · next cmd hne hcmd =>
      refine remoteClient_runs.bind ?_
      rintro c ⟨hclient, _⟩
      refine (clientSendPacketData_moves hy hstate hcmd hne hclient
        fun x hx => hok c x cmd hclient hcmd hne hx).bind ?_
      rintro ⟨res, s₁⟩ ⟨hm, hr⟩
      refine ⟨hm, fun y' hy' => hstay y' ?_⟩
      rw [← show s₁.remotes = s.remotes from hr]
      exact hy'
  · exact ⟨Moves.refl, hstay⟩

theorem handleCommandState_moves (hserves : A.Serves) (hy : s.remotes r = some y)
    (hstate : y.state = .command) {plistMsg : Option Plist} (hok : ReplyOk A s.toCore y) :
    Runs A s.toCore (fun s' => Moves A s.toCore s'.toCore ∧
      ∀ y', s'.remotes r = some y' → y'.Framed)
      (handleCommandState plat sys s r y plistMsg) := by
  refine (commandReply_moves hserves hy hstate hok).bind ?_
  rintro s₁ ⟨hm, hstay⟩
  refine modifyRemote_runs.imp ?_
  rintro s₂ ⟨y₁, hy₁, rfl⟩
  refine ⟨hm.trans (Move.remote_quiet hy₁ .clearCommand (Or.inr hserves.remote)).single,
    fun y' hy' => ?_⟩
  rw [toCore_update, Core.remotes_setRemote, if_pos rfl] at hy'
  cases hy'
  exact hstay y₁ hy₁

/-- A frame with a plist is no binary announcement. -/
theorem deviceMessage_of_framePlist {k : UInt8} {b : Buf} {p : Plist}
    (h : framePlist plat b = some p) :
    deviceMessage plat k b (some p) = (plistDeviceEvent p, plistDevid k p) := by
  have hmsg : (bufHeader plat b).message = messagePlist := by
    rw [framePlist] at h
    split at h
    · next hmsg => exact hmsg
    · cases h
  rw [deviceMessage, hmsg]
  rfl

theorem remoteDevid_owner {k : UInt8} {d : UInt32} :
    remoteDevid k d >>> 24 = k.toUInt32 := by
  have hk : k.toNat < 2 ^ 8 := k.toNat_lt
  have hd : d.toNat % 2 ^ 24 < 2 ^ 24 := Nat.mod_lt _ (by decide)
  apply UInt32.toNat_inj.mp
  rw [UInt32.toNat_shiftRight, toNat_remoteDevid, Nat.shiftRight_eq_div_pow,
    show UInt32.toNat 24 % 32 = 24 from rfl, UInt8.toNat_toUInt32]
  omega

/-- A device message is about a device of the remote, or about device 0. -/
theorem deviceMessage_owner {k : UInt8} {b : Buf} {plistMsg : Option Plist}
    {event : DeviceEvent} {devid : UInt32}
    (h : deviceMessage plat k b plistMsg = (some event, devid)) :
    devid >>> 24 = k.toUInt32 ∨ devid = 0 := by
  unfold deviceMessage at h
  split at h
  · cases h
    exact Or.inl remoteDevid_owner
  · split at h
    · cases h
      exact Or.inl remoteDevid_owner
    · cases plistMsg with
      | none => cases h
      | some p =>
          obtain rfl : plistDevid k p = devid := congrArg Prod.snd h
          rw [plistDevid]
          split
          · exact Or.inr rfl
          · exact Or.inl remoteDevid_owner

theorem handleListenState_moves (hloss : Loss plat sys → A.lossOk)
    (hbinary : (bufHeader plat y.ib).message = messageDeviceAdd → A.binaryOk)
    (hy : s.remotes r = some y) (hstate : y.state = .listen) :
    Runs A s.toCore (fun s' => Moves A s.toCore s'.toCore ∧
      ∀ y', s'.remotes r = some y' → y'.Framed)
      (handleListenState plat sys s r y (framePlist plat y.ib)) := by
  have hlisten : ∀ {y' : RemoteMux}, y'.state = .listen → y'.Framed := by
    intro y' h
    rw [RemoteMux.Framed, h]
    decide
  have hstay : ∀ {s' : Daemon}, s'.remotes = s.remotes →
      ∀ y', s'.remotes r = some y' → y'.Framed := by
    intro s' hr y' hy'
    rw [hr] at hy'
    cases hy.symm.trans hy'
    exact hlisten hstate
  rw [handleListenState]
  split
  · next devid hdev =>
      have hfrom : Announced s.toCore devid := ⟨r, y, hy, hstate, deviceMessage_owner hdev⟩
      split
      · next p hp =>
          rw [hp, deviceMessage_of_framePlist hp, Prod.mk.injEq] at hdev
          refine (deviceAttached_moves hloss (Or.inl (attachedPlist_isAttached hdev.1))
            hfrom).imp ?_
          rintro s' ⟨hm, hr⟩
          exact ⟨hm, hstay hr⟩
      · next hp =>
          rw [hp] at hdev
          refine modifyRemote_runs.bind ?_
          rintro s₁ ⟨y', hy', rfl⟩
          cases hy.symm.trans hy'
          have hinput : RemoteStep r y [] { y with
              ib := y.ib.patch plat.uninit headerSize (le32 devid) } := .input hstate
          have hpatch := Move.remote_quiet (A := A) (s := s.toCore) hy hinput
            (Or.inl ⟨rfl, id, rfl⟩)
          have hinfo : Runs A s.toCore (fun _ => True) (deviceInfoPlist plat devid y.ib) := by
            rw [deviceInfoPlist]
            split
            · exact Runs.fault trivial
            · exact trivial
          refine hinfo.bind fun dev _ => ?_
          have hself : (s.toCore.setRemote r { y with
              ib := y.ib.patch plat.uninit headerSize (le32 devid) }).remotes r = some _ :=
            if_pos rfl
          have hfrom₁ : Announced (s.toCore.setRemote r { y with
              ib := y.ib.patch plat.uninit headerSize (le32 devid) }) devid :=
            ⟨r, _, hself, hstate, deviceMessage_owner hdev⟩
          refine (deviceAttached_moves hloss
            (Or.inr (hbinary (deviceMessage_none_add hdev))) hfrom₁).imp ?_
          rintro s' ⟨hm, hr⟩
          refine ⟨hpatch.single.trans hm, fun y' hy' => ?_⟩
          rw [hr, toCore_update, Core.remotes_setRemote, if_pos rfl] at hy'
          cases hy'
          exact hlisten hstate
  · refine (deviceDetached_moves hloss).imp ?_
    rintro s' ⟨hm, hr⟩
    exact ⟨hm, hstay hr⟩
  · exact ⟨Moves.refl, hstay rfl⟩

/-- Two changes of one client with one packet in between. -/
theorem setClient_queue {s : Core} {x x' : MuxClient} {a b : Act} :
    (((s.setClient c x).emit [a]).setClient c x').emit [b] =
      (s.setClient c x').emit [a, b] := by
  simp [Core.setClient, Core.emit]

/-- What `client_notify_connect` does to a client that waits for a result. -/
def Notifies (c : ClientPtr) (result : UInt32) (s s' : Core) : Prop :=
  ∃ x hdr payload ob, s.clients c = some x ∧ x.state = .connecting1 ∧
    IsResultPacket x.protoVersion x.connectTag result hdr payload ∧
    Appended x.ob (packetBytes hdr payload) ob ∧
    s' = (s.setClient c (if result = resultOk then
        { x with ob := ob, state := .connecting2, events := { pollout := true },
                 ib := x.ib.free }
      else { x with ob := ob, state := .command,
                    events := { x.events with pollout := true } })).emit
      [.queue c hdr payload, .notifyConnect c result]

theorem clientNotifyConnect_runs {result : UInt32} {s₀ : Core} :
    Runs A s₀ (fun res => res.2.toCore = s.toCore ∨ Notifies c result s.toCore res.2.toCore)
      (clientNotifyConnect plat sys s c result) := by
  refine client_runs.bind fun x hx => ?_
  refine Runs.ite (fun _ => Or.inl rfl) fun hstate => ?_
  rw [not_not] at hstate
  refine sendResult_runs.bind ?_
  rintro ⟨res, s₁⟩ (⟨hneg, _, h₁⟩ | ⟨hpos, x', hdr, payload, hpkt, hx', hver, ob, hob, h₁⟩)
  · have hneg' : res < 0 := hneg
    simp only [if_pos hneg']
    exact Or.inl h₁
  · have hpos' : ¬ res < 0 := Int.not_lt.mpr (Int.le_of_lt hpos)
    cases hx.symm.trans hx'
    simp only [if_neg hpos']
    refine modifyClient_runs.bind ?_
    rintro s₂ ⟨x₁, hx₁, rfl⟩
    have hself : s₁.clients c = some { x with
        ob := ob, events := { x.events with pollout := true } } := by
      rw [show s₁.toCore = _ from h₁]
      exact if_pos rfl
    cases hself.symm.trans hx₁
    refine Or.inr ⟨x, hdr, payload, ob, hx, hstate, hpkt, hob, ?_⟩
    show (s₁.toCore.setClient c _).emit _ = _
    rw [show s₁.toCore = _ from h₁, setClient_queue]

/-- Handling a frame and then taking it out of the input buffer is a chain of
moves. Taking it out cannot be left for later: a connected remote has the
buffer for the bytes it relays. -/
def FrameHandled (A : Allow) (r : RemotePtr) (s s' : Core) : Prop :=
  ∀ y, s'.remotes r = some y → Moves A s (s'.setRemote r y.frameDone)

/-- Moves after which the remote still reads frames. -/
theorem FrameHandled.of_framed {s s' : Core} (hok : A.remoteOk) (hm : Moves A s s')
    (h : ∀ y, s'.remotes r = some y → y.Framed) : FrameHandled A r s s' :=
  fun y hy => hm.trans (Move.remote_quiet hy (.inputDone (h y hy)) (Or.inr hok)).single

theorem FrameHandled.after {s s' s'' : Core} (hm : Moves A s s')
    (h : FrameHandled A r s' s'') : FrameHandled A r s s'' :=
  fun y hy => hm.trans (h y hy)

/-- The remote becomes connected and so does the client, whichever is written
first. -/
theorem setRemote_notified {s : Core} {x : MuxClient} {y y' : RemoteMux} {acts : List Act}
    {a : Act} :
    (((((s.setClient c x).emit acts).setRemote r y).emit [a]).setRemote r y') =
      ((s.setRemote r y').setClient c x).emit (acts ++ [a]) := by
  simp [Core.setClient, Core.setRemote, Core.emit]

theorem handleConnectingState_runs {plistMsg : Option Plist} (hserves : A.Serves)
    (hy : s.remotes r = some y) (hconn : y.state = .connecting1) :
    Runs A s.toCore (fun s' => FrameHandled A r s.toCore s'.toCore)
      (handleConnectingState plat sys s r y plistMsg) := by
  have hframed : y.Framed := by
    rw [RemoteMux.Framed, hconn]
    decide
  refine remoteClient_runs.bind ?_
  rintro c ⟨hclient, _⟩
  refine clientNotifyConnect_runs.bind ?_
  rintro ⟨res, s₁⟩ hnotify
  have hy₁ : s₁.remotes r = some y := by
    rcases hnotify with h₁ | ⟨x, hdr, payload, ob, _, _, _, _, h₁⟩
    · rw [show s₁.toCore = _ from h₁]
      exact hy
    · rw [show s₁.toCore = _ from h₁]
      exact hy
  refine Runs.ite (fun hres => ?_) fun hres => ?_
  · refine modifyRemote_runs.bind ?_
    rintro s₂ ⟨y', hy', rfl⟩
    cases hy₁.symm.trans hy'
    intro y₂ hy₂
    rw [toCore_emit, toCore_update, Core.remotes_emit, Core.remotes_setRemote, if_pos rfl] at hy₂
    cases hy₂
    show Moves A s.toCore (((s₁.toCore.setRemote r _).emit _).setRemote r _)
    rcases hnotify with h₁ | ⟨x, hdr, payload, ob, hx, hstate, hpkt, hob, h₁⟩
    · rw [show s₁.toCore = _ from h₁, Core.setRemote_emit_setRemote]
      exact (Move.remote hy (.connected hconn rfl) (Or.inr hserves.remote)).single
    · rw [hres, if_pos rfl] at h₁
      rw [hres] at hpkt
      rw [show s₁.toCore = _ from h₁, setRemote_notified]
      exact (Move.notifyOk hy hconn hclient hx hstate hpkt hob rfl hserves.remote).single
  · refine FrameHandled.of_framed hserves.remote ?_ fun y' hy' => ?_
    · rcases hnotify with h₁ | ⟨x, hdr, payload, ob, hx, hstate, hpkt, hob, h₁⟩
      · rw [show s₁.toCore = _ from h₁]
        exact Moves.refl
      · rw [if_neg hres] at h₁
        rw [show s₁.toCore = _ from h₁]
        exact (Move.client hx (.notifyFail hstate hres hpkt hob rfl)).single
    · cases hy₁.symm.trans hy'
      exact hframed

theorem remoteHandleCommandResult_runs (hloss : Loss plat sys → A.lossOk)
    (hserves : A.Serves) (hy : s.remotes r = some y) (hstate : y.Framed)
    (hbinary : y.state = .listen → (bufHeader plat y.ib).message = messageDeviceAdd →
      A.binaryOk)
    (hok : y.state = .command →
      ((bufHeader plat y.ib).version = 0 ∨ (bufHeader plat y.ib).version = 1) →
      ReplyOk A s.toCore y) :
    Runs A s.toCore (fun s' => FrameHandled A r s.toCore s'.toCore)
      (remoteHandleCommandResult plat sys s r) := by
  refine remote_runs.bind fun y' hy' => ?_
  cases hy.symm.trans hy'
  have hlog : Move A s.toCore (s.toCore.emit [.frame r (bufFrame plat y.ib)]) := by
    have hmove : Move A s.toCore ((s.toCore.setRemote r y).emit
        [.frame r (bufFrame plat y.ib)]) := .remote hy .frame (Or.inl ⟨rfl, id, rfl⟩)
    rw [Core.setRemote_self hy] at hmove
    exact hmove
  have hkeep : FrameHandled A r s.toCore (s.emit [.frame r (bufFrame plat y.ib)]).toCore := by
    refine .of_framed hserves.remote hlog.single fun y' hy' => ?_
    cases hy.symm.trans hy'
    exact hstate
  refine Runs.ite (fun _ => hkeep) fun hversion => ?_
  have hversion' : (bufHeader plat y.ib).version = 0 ∨ (bufHeader plat y.ib).version = 1 := by
    rw [not_and_or, not_not, not_not] at hversion
    exact hversion
  have hy₁ : (s.emit [.frame r (bufFrame plat y.ib)]).remotes r = some y := hy
  split
  · next hcommand =>
      exact Runs.after hlog.single ((handleCommandState_moves hserves hy₁ hcommand
        (hok hcommand hversion')).imp
        fun s' h => .after hlog.single (.of_framed hserves.remote h.1 h.2))
  · next hlisten =>
      exact Runs.after hlog.single ((handleListenState_moves hloss (hbinary hlisten) hy₁
        hlisten).imp fun s' h => .after hlog.single (.of_framed hserves.remote h.1 h.2))
  · next hconn =>
      exact Runs.after hlog.single ((handleConnectingState_runs hserves hy₁ hconn).imp
        fun s' h => .after hlog.single h)
  · exact hkeep

end Frames

/-! ## Socket events -/

section Events

variable {A : Allow} {s : Daemon} {plat : Platform} {sys : Sys} {r : RemotePtr}
  {y : RemoteMux}

theorem remoteProcessSend_moves (hserves : A.Serves)
    (hclose : ∀ y, s.remotes r = some y → y.ob.size ≠ 0 → sendFrom sys y.ob = none →
      A.closeOk s.toCore r y) :
    Runs A s.toCore (fun s' => Moves A s.toCore s'.toCore) (remoteProcessSend sys s r) := by
  refine remote_runs.bind fun y hy => ?_
  refine Runs.ite (fun hempty => ?_) fun hsize => ?_
  · refine modifyRemote_runs.imp ?_
    rintro s₁ ⟨y', hy', rfl⟩
    cases hy.symm.trans hy'
    have hob : y.ob.data = [] := List.eq_nil_of_length_eq_zero hempty
    exact (Move.remote_quiet hy (.events (.idle hob)) (Or.inr hserves.remote)).single
  split
  · next hsend =>
      refine usbmuxRemoteClose_runs hserves.leave fun y' hy' _ => ?_
      cases hy.symm.trans hy'
      exact hclose y hy hsize hsend
  · next n hn =>
      -- the remote that is modified is the one that was read
      have hsame : ∀ {y₁}, (s.emit [.remoteSend r (y.ob.data.take n)]).remotes r = some y₁ →
          y₁ = y := fun hy₁ => Option.some.inj (hy₁.symm.trans hy)
      have hsent : ∀ {ob e}, ob.data = y.ob.data.drop n → SentMask y.events ob e →
          Move A s.toCore
          ((s.toCore.setRemote r { y with ob := ob, events := e, lastActive := sys.now }).emit
          [.remoteSend r (y.ob.data.take n)]) :=
        fun hob hmask => .remote hy (.send hob hmask) (Or.inr hserves.remote)
      dsimp only
      refine Runs.ite (fun hpart => ?_) fun hall => ?_
      · refine modifyRemote_runs.imp ?_
        rintro s₁ ⟨y₁, hy₁, rfl⟩
        cases hsame hy₁
        exact (hsent rfl (Or.inl ⟨drop_sent_ne_nil hn hpart, rfl⟩)).single
      · rw [not_not] at hall
        have hempty : y.ob.reset.data = y.ob.data.drop n := by
          rw [Buf.data_reset, eq_comm, List.drop_eq_nil_iff, hall]
          exact Nat.le_refl _
        refine Runs.ite (fun _ => ?_) fun hconn => ?_
        · refine modifyRemote_runs.imp ?_
          rintro s₁ ⟨y₁, hy₁, rfl⟩
          cases hsame hy₁
          exact (hsent hempty (Or.inr ⟨rfl, rfl⟩)).single
        · rw [not_not] at hconn
          refine modifyRemote_runs.bind ?_
          rintro s₁ ⟨y₁, hy₁, rfl⟩
          cases hsame hy₁
          let y₂ : RemoteMux := { y with
            ob := y.ob.reset, events := { y.events with pollout := false },
            lastActive := sys.now }
          have hstep : RemoteStep r y₂ [.remoteConnected r] { y₂ with
              state := .connected, events := { y.devents with pollin := true } } :=
            .connected2 hconn rfl
          have hmove := Move.remote (A := A) (s := (s.toCore.setRemote r y₂).emit
            [.remoteSend r (y.ob.data.take n)]) (if_pos rfl) hstep (Or.inr hserves.remote)
          rw [Core.setRemote_emit_setRemote] at hmove
          exact (hsent hempty (Or.inr ⟨rfl, rfl⟩)).single.trans hmove.single

theorem clientOrEvents_moves {c : ClientPtr} {events : PollEvents} {s₀ : Core} :
    Runs A s₀ (fun s' => Moves A s.toCore s'.toCore) (clientOrEvents s c events) := by
  refine client_runs.bind fun x hx => ?_
  refine Runs.ite (fun _ => Moves.refl) fun hstate => ?_
  rw [not_and_or, not_not, not_not] at hstate
  refine modifyClient_runs.imp ?_
  rintro s₁ ⟨x', hx', rfl⟩
  cases hx.symm.trans hx'
  have hmove : Move A s.toCore ((s.toCore.setClient c { x with
      devents := x.devents.or events
      events := if x.state = .connected then x.events.or events else x.events }).emit []) :=
    .client hx (.events (.wake hstate))
  rw [Core.emit_nil] at hmove
  exact hmove.single

theorem remoteRelayRecv_moves (hleave : ∀ t c x, A.leaveOk t c x) (hy : s.remotes r = some y)
    (hstate : y.state = .connected)
    (hclose : A.closeOk s.toCore r y) :
    Runs A s.toCore (fun s' => Moves A s.toCore s'.toCore) (remoteRelayRecv sys s r y) := by
  refine Runs.ite (fun _ => Moves.refl) fun _ => ?_
  split
  · refine usbmuxRemoteClose_runs hleave fun y' hy' _ => ?_
    cases hy.symm.trans hy'
    exact hclose
  · refine modifyRemote_runs.imp ?_
    rintro s₁ ⟨y', hy', rfl⟩
    cases hy.symm.trans hy'
    exact (Move.remote_quiet hy (.events (.ended hstate)) (Or.inl ⟨rfl, id, rfl⟩)).single
  · next bs _ _ =>
      split
      · next hfit =>
          have hmove : Move A s.toCore ((s.toCore.setRemote r { y with
              ib := y.ib.append bs hfit, lastActive := sys.now }).emit [.relayRecv r bs]) :=
            .remote hy (.relayRecv hstate rfl) (Or.inl ⟨rfl, id, rfl⟩)
          refine remoteClient_runs.bind ?_
          rintro c ⟨_, _⟩
          exact clientOrEvents_moves.imp fun s' h => hmove.single.trans h
      · exact Runs.fault trivial

theorem remoteConnectedProcess_moves {events : PollEvents} (hserves : A.Serves)
    (hy : s.remotes r = some y) (hstate : y.state = .connected) (hclose : A.closeOk s.toCore r y) :
    Runs A s.toCore (fun s' => Moves A s.toCore s'.toCore)
      (remoteConnectedProcess sys s r y events) := by
  have hclose' : ∀ y', s.remotes r = some y' → A.closeOk s.toCore r y' := by
    intro y' hy'
    cases hy.symm.trans hy'
    exact hclose
  refine Runs.ite (fun _ => remoteRelayRecv_moves hserves.leave hy hstate hclose) fun _ => ?_
  refine Runs.ite (fun _ => ?_) fun _ =>
    usbmuxRemoteClose_runs hserves.leave fun y' hy' _ => hclose' y' hy'
  refine (remoteProcessSend_moves hserves fun y' hy' _ _ => hclose' y' hy').bind fun s₁ hm => ?_
  refine remote_runs.bind fun y₁ hy₁ => remoteClient_runs.bind fun c _ => ?_
  exact clientOrEvents_moves.imp fun s' h => hm.trans h

/-- A reply for the client is complete once this event was received. -/
structure Replying (plat : Platform) (sys : Sys) (y : RemoteMux) (c : ClientPtr) : Prop where
  command : y.state = .command
  waiting : ∃ cmd, cmd ≠ .listen ∧ y.lastCommand = some cmd
  client : y.client = some c
  frame : ∃ rf, readFrame plat sys y.ib = .ok rf ∧ rf.outcome = .frame ∧
    ((bufHeader plat rf.ib).version = 0 ∨ (bufHeader plat rf.ib).version = 1)

/-- A device is announced by a binary frame that is complete once this event
was received. -/
def BinaryAdd (plat : Platform) (sys : Sys) (y : RemoteMux) : Prop :=
  y.state = .listen ∧ ∃ rf, readFrame plat sys y.ib = .ok rf ∧ rf.outcome = .frame ∧
    (bufHeader plat rf.ib).message = messageDeviceAdd

/-- The reply that the remote may pass on in this state is allowed. -/
def MayForward (A : Allow) (plat : Platform) (sys : Sys) (s : Core) (y : RemoteMux) : Prop :=
  ∀ c x, Replying plat sys y c → s.clients c = some x → A.forwardOk x.state

/-- What an event does to a remote: nothing dies, or all that is dead is going
to be disposed of. -/
def Handled (A : Allow) (s s' : Core) : Prop :=
  Moves A.noKill s s' ∨ (Moves A s s' ∧ ReapDue s')

theorem remoteProcessRecv_handled (hloss : Loss plat sys → A.lossOk)
    (hreap : A.reapOk ∧ A.killOk) (hserves : A.Serves) (hwf : WF s.toCore)
    (hy : s.remotes r = some y) (hstate : y.Framed) (hbinary : BinaryAdd plat sys y → A.binaryOk)
    (hok : MayForward A plat sys s.toCore y) :
    Runs A s.toCore (fun s' => Handled A s.toCore s'.toCore) (remoteProcessRecv plat sys s r) := by
  refine remote_runs.bind fun y' hy' => ?_
  cases hy.symm.trans hy'
  refine (readFrame_runs.withEq).bind ?_
  rintro rf ⟨⟨hdata, _, _⟩, hrf⟩
  generalize (if rf.bodyRead then sys.now else y.lastActive) = now
  have hrecv : Move A.noKill s.toCore ((s.toCore.setRemote r { y with
      ib := rf.ib, lastActive := now }).emit (recvActs (.remoteRecv r) rf.got)) :=
    .remote hy (.recv hstate hdata) (Or.inl ⟨rfl, id, rfl⟩)
  have hm := hrecv.single
  split
  · refine Runs.after hm.of_noKill ((usbmuxRemoteMarkDead_moves hloss hreap.1 hreap.2
      (hwf.moves hm)).imp ?_)
    rintro s' ⟨⟨hdead, hset⟩, _⟩
    exact Or.inr ⟨hm.of_noKill.trans hdead, hset⟩
  · exact Or.inl hm
  · next hout =>
      refine Runs.after hm.of_noKill (Runs.of_noKill ?_)
      have hself : ((s.toCore.setRemote r { y with ib := rf.ib, lastActive := now }).emit
          (recvActs (.remoteRecv r) rf.got)).remotes r =
          some { y with ib := rf.ib, lastActive := now } := if_pos rfl
      refine Runs.bind (remoteHandleCommandResult_runs hloss ⟨hserves.remote, hserves.leave⟩
        hself hstate (fun hlisten hmsg => hbinary ⟨hlisten, rf, hrf, hout, hmsg⟩) ?_) ?_
      · intro hcommand hversion c x cmd hclient hcmd hne hx
        exact hok c x ⟨hcommand, ⟨cmd, hne, hcmd⟩, hclient, rf, hrf, hout, hversion⟩ hx
      · rintro s₁ hhandled
        refine modifyRemote_runs.imp ?_
        rintro s₂ ⟨y₂, hy₂, rfl⟩
        exact Or.inl (hm.trans (hhandled y₂ hy₂))

end Events

end Usbfluxd
