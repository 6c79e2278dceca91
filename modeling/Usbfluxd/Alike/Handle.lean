import Usbfluxd.Alike.Command

/-!
# Whole frames in step

`client_command` and `remote_handle_command_result` take the frame out of the
input buffer themselves, so they agree on two states only when they read the
same there. `CommandReads` and `ReplyReads` list what they read: the header,
the payload the header delimits, and the fields the binary messages have at
fixed offsets, which is where a short frame makes a difference.
-/

namespace Usbfluxd

open Lib

/-! ## Commands -/

/-- What `client_command` reads of its frame. -/
structure CommandReads (plat : Platform) (b b' : Buf) : Prop where
  header : bufHeader plat b' = bufHeader plat b
  frame : bufFrame plat b' = bufFrame plat b
  payload : bufPayload plat b' = bufPayload plat b
  connect : (bufHeader plat b).version = 0 ∨ (bufHeader plat b).version = 1 →
    (bufHeader plat b).message = messageConnect →
    le32At (b'.byteAt plat.uninit) headerSize = le32At (b.byteAt plat.uninit) headerSize ∧
      le16At (b'.byteAt plat.uninit) (headerSize + 4) =
        le16At (b.byteAt plat.uninit) (headerSize + 4)

theorem CommandReads.refl {plat : Platform} {b : Buf} : CommandReads plat b b :=
  ⟨rfl, rfl, rfl, fun _ _ => ⟨rfl, rfl⟩⟩

section Command

variable {V : View} {s s' : Daemon} {c : ClientPtr} {plat : Platform} {sys : Sys}

/-- `client_command` on two frames it reads the same of. Outside
`CLIENT_COMMAND` it reads no more than the header. -/
theorem clientCommand_agree {x x' : MuxClient} (hx : s.clients c = some x)
    (hx' : s'.clients c = some x')
    (hreads : x.state = .command → CommandReads plat x.ib x'.ib)
    (hhdr : bufHeader plat x'.ib = bufHeader plat x.ib)
    (hframe : bufFrame plat x'.ib = bufFrame plat x.ib)
    (h : Alike V false false (s.emit [.command c (bufFrame plat x.ib)])
      (s'.emit [.command c (bufFrame plat x.ib)])) :
    Agree (AlikeRes V false false) (clientCommand plat sys s c)
      (clientCommand plat sys s' c) := by
  have hlike : LikeClient (V.client c) x x' := by
    obtain ⟨hn, _⟩ | ⟨z, z', hz, hz₁, hz₂⟩ := h.client_cases c
    · cases hx.symm.trans hn
    · cases hx.symm.trans hz₁
      cases hx'.symm.trans hz₂
      exact hz
  obtain ⟨ib, rfl, hib⟩ := hlike
  have hclient : s.client c = .ok x := by
    rw [Daemon.client, hx]
  have hclient' : s'.client c = .ok { x with ib := ib } := by
    rw [Daemon.client, hx']
  rw [clientCommand, clientCommand, hclient, hclient']
  dsimp only [bind, Except.bind]
  rw [hframe, hhdr]
  refine Both.ite (fun _ => ?_) fun hstate => ?_
  · refine Both.bind (sendResult_agree h) ?_
    rintro ⟨res, t⟩ ⟨_, t'⟩ ⟨rfl, ht⟩
    refine Both.ite (fun _ => ⟨rfl, ht⟩) fun _ => ?_
    exact Both.bind (clientClose_agree ht (Or.inl rfl)) fun hu => ⟨rfl, hu⟩
  · have hr := hreads (not_not.mp hstate)
    refine Both.ite (fun _ => ?_) fun hver => ?_
    · refine Both.bind (sendResult_agree h) ?_
      rintro ⟨res, t⟩ ⟨_, t'⟩ ⟨rfl, ht⟩
      exact ⟨rfl, ht⟩
    refine Both.ite (fun _ => ?_) fun _ => ?_
    · refine Both.bind (R := Alike V false false)
        (setFields_agree h fun _ _ => ⟨rfl, rfl⟩) fun ht => ?_
      rw [hr.payload]
      split
      · exact ⟨rfl, ht⟩
      · split
        · exact ⟨rfl, ht⟩
        · refine Both.bind (R := Alike V false false)
            (setFields_agree ht fun _ _ => ⟨rfl, rfl⟩) fun hu => ?_
          exact plistCommand_agree hu
    refine Both.ite (fun _ => clientListen_agree h) fun _ => ?_
    refine Both.ite (fun hmsg => ?_) fun _ => reply_agree h
    obtain ⟨hid, hport⟩ := hr.connect (by
      by_cases hv : (bufHeader plat x.ib).version = 0
      · exact Or.inl hv
      · exact Or.inr (not_not.mp fun hv' => hver ⟨hv, hv'⟩)) hmsg
    dsimp only at hid hport
    rw [hid, hport]
    exact clientConnect_agree h

end Command

/-! ## Frames of a remote -/

/-- What `remote_handle_command_result` reads of its frame, besides the
header. -/
structure ReplyReads (plat : Platform) (y : RemoteMux) (b' : Buf) : Prop where
  plist : framePlist plat b' = framePlist plat y.ib
  payload : bufPayload plat b' = bufPayload plat y.ib
  start : b'.slice plat.uninit 0 headerSize = y.ib.slice plat.uninit 0 headerSize
  result : y.state = .connecting1 → ∀ p,
    messageGetResult plat b' p = messageGetResult plat y.ib p
  accepted : y.state = .command → y.lastCommand = some .listen → ∀ p,
    (messageGetResult plat b' p = resultOk ↔ messageGetResult plat y.ib p = resultOk)
  device : y.state = .listen → ∀ p,
    deviceMessage plat y.id b' p = deviceMessage plat y.id y.ib p
  info : y.state = .listen → (bufHeader plat y.ib).message = messageDeviceAdd →
    ∀ devid, deviceInfoPlist plat devid b' = deviceInfoPlist plat devid y.ib

theorem ReplyReads.refl {plat : Platform} {y : RemoteMux} : ReplyReads plat y y.ib :=
  ⟨rfl, rfl, rfl, fun _ _ => rfl, fun _ _ _ => Iff.rfl, fun _ _ => rfl, fun _ _ _ => rfl⟩

section Reply

variable {V : View} {s s' : Daemon} {r : RemotePtr} {plat : Platform} {sys : Sys}

theorem deviceAttached_agree {devid : UInt32} {dev : Plist} (h : Alike V false false s s') :
    Agree (Alike V false false) (deviceAttached plat sys s devid dev)
      (deviceAttached plat sys s' devid dev) := by
  refine (lockRemoteList_agree h).bind fun ht => ?_
  exact Both.bind (clientDeviceAdd_agree
    (ht.setDevices (f := fun d => d.set (deviceKey devid) dev))) fun hu => hu.unlockRemoteList

theorem deviceDetached_agree {devid : UInt32} (h : Alike V false false s s') :
    Agree (Alike V false false) (deviceDetached plat sys s devid)
      (deviceDetached plat sys s' devid) := by
  refine (lockRemoteList_agree h).bind fun ht => ?_
  exact Both.bind (clientDeviceRemove_agree
    (ht.setDevices (f := fun d => d.erase (deviceKey devid)))) fun hu => hu.unlockRemoteList

variable {y : RemoteMux} {ib : Buf}

theorem commandReply_agree {p : Option Plist} (hreads : ReplyReads plat y ib)
    (hcmd : y.state = .command) (h : Alike V false false s s') :
    Agree (Alike V false false) (commandReply plat sys s r y p)
      (commandReply plat sys s' r { y with ib := ib } p) := by
  rw [commandReply, commandReply]
  have hforward : Agree (Alike V false false)
      (s.remoteClient r y >>= fun c =>
        clientSendPacketData sys s c (y.ib.slice plat.uninit 0 headerSize)
          (bufPayload plat y.ib) >>= fun q => pure q.2)
      (s'.remoteClient r { y with ib := ib } >>= fun c =>
        clientSendPacketData sys s' c (ib.slice plat.uninit 0 headerSize)
          (bufPayload plat ib) >>= fun q => pure q.2) := by
    refine Both.bind (remoteClient_agree h rfl) ?_
    rintro _ c ⟨rfl, _⟩
    rw [hreads.payload, hreads.start]
    refine Both.bind (clientSendPacketData_agree h) ?_
    rintro ⟨res, t⟩ ⟨_, t'⟩ ⟨rfl, ht⟩
    exact ht
  cases hlast : y.lastCommand with
  | none => exact h
  | some cmd =>
      cases cmd with
      | listen =>
          simp only [hreads.accepted hcmd hlast]
          exact Both.ite (fun _ => setRemoteFields_agree h fun _ _ => ⟨rfl, rfl⟩) fun _ => h
      | readPairRecord | savePairRecord | deletePairRecord | readBuid =>
          rw [hlast] at hforward
          exact hforward

theorem handleListenState_agree (hreads : ReplyReads plat y ib) (hstate : y.state = .listen)
    (hpatch : ∀ {b b' bs}, V.remote r b b' → V.remote r (b.patch plat.uninit headerSize bs)
      (b'.patch plat.uninit headerSize bs)) (h : Alike V false false s s') :
    Agree (Alike V false false) (handleListenState plat sys s r y (framePlist plat y.ib))
      (handleListenState plat sys s' r { y with ib := ib } (framePlist plat y.ib)) := by
  rw [handleListenState, handleListenState]
  dsimp only
  rw [hreads.device hstate]
  split
  · next devid hmsg =>
      split
      · exact deviceAttached_agree h
      · next hnone =>
          rw [hnone] at hmsg
          rw [hreads.info hstate (deviceMessage_none_add hmsg)]
          refine Both.bind (modifyRemote_agree h ?_) fun ht => ?_
          · rintro z z' ⟨b, rfl, hb⟩
            exact ⟨_, rfl, hpatch hb⟩
          · refine Both.bind (Both.same ?_) ?_
            · intro e he
              rw [deviceInfoPlist] at he
              split at he
              · cases he
                rfl
              · cases he
            · rintro _ dev rfl
              exact deviceAttached_agree ht
  · exact deviceDetached_agree h
  · exact h

theorem handleConnectingState_agree {p : Option Plist} (hreads : ReplyReads plat y ib)
    (hstate : y.state = .connecting1)
    (hconn : ∀ {l l'}, V.log l l' → V.log (l ++ [.remoteConnected r]) (l' ++ [.remoteConnected r]))
    (h : Alike V false false s s') :
    Agree (Alike V false false) (handleConnectingState plat sys s r y p)
      (handleConnectingState plat sys s' r { y with ib := ib } p) := by
  rw [handleConnectingState, handleConnectingState]
  dsimp only
  rw [hreads.result hstate]
  refine Both.bind (remoteClient_agree h rfl) ?_
  rintro _ c ⟨rfl, _⟩
  refine Both.bind (clientNotifyConnect_agree h) ?_
  rintro ⟨res, t⟩ ⟨_, t'⟩ ⟨rfl, ht⟩
  refine Both.ite (fun _ => ?_) fun _ => ht
  refine Both.bind (setRemoteFields_agree ht fun _ _ => ⟨rfl, rfl⟩) fun hu => ?_
  exact { hu with log := hconn hu.log }

theorem remoteHandleCommandResult_agree {y' : RemoteMux} (hy : s.remotes r = some y)
    (hy' : s'.remotes r = some y')
    (hreads : (bufHeader plat y.ib).version = 0 ∨ (bufHeader plat y.ib).version = 1 →
      ReplyReads plat y y'.ib)
    (hhdr : bufHeader plat y'.ib = bufHeader plat y.ib)
    (hframe : bufFrame plat y'.ib = bufFrame plat y.ib)
    (hpatch : ∀ {b b' bs}, V.remote r b b' → V.remote r (b.patch plat.uninit headerSize bs)
      (b'.patch plat.uninit headerSize bs))
    (hconn : ∀ {l l'}, V.log l l' → V.log (l ++ [.remoteConnected r]) (l' ++ [.remoteConnected r]))
    (h : Alike V false false (s.emit [.frame r (bufFrame plat y.ib)])
      (s'.emit [.frame r (bufFrame plat y.ib)])) :
    Agree (Alike V false false) (remoteHandleCommandResult plat sys s r)
      (remoteHandleCommandResult plat sys s' r) := by
  have hlike : LikeRemote (V.remote r) y y' := by
    obtain ⟨hn, _⟩ | ⟨z, z', hz, hz₁, hz₂⟩ := h.remote_cases r
    · cases hy.symm.trans hn
    · cases hy.symm.trans hz₁
      cases hy'.symm.trans hz₂
      exact hz
  obtain ⟨ib, rfl, hib⟩ := hlike
  have hremote : s.remote r = .ok y := by
    rw [Daemon.remote, hy]
  have hremote' : s'.remote r = .ok { y with ib := ib } := by
    rw [Daemon.remote, hy']
  rw [remoteHandleCommandResult, remoteHandleCommandResult, hremote, hremote']
  dsimp only [bind, Except.bind]
  rw [hframe, hhdr]
  refine Both.ite (fun _ => h) fun hver => ?_
  have hr : ReplyReads plat y ib := hreads (by
    by_cases hv : (bufHeader plat y.ib).version = 0
    · exact Or.inl hv
    · exact Or.inr (not_not.mp fun hv' => hver ⟨hv, hv'⟩))
  rw [hr.plist]
  cases hstate : y.state with
  | command =>
      refine Both.bind (commandReply_agree hr hstate h) fun ht => ?_
      exact setRemoteFields_agree ht fun _ _ => ⟨rfl, rfl⟩
  | listen => exact handleListenState_agree hr hstate hpatch h
  | connecting1 => exact handleConnectingState_agree hr hstate hconn h
  | connecting2 | connected | dead => exact h

end Reply

end Usbfluxd
