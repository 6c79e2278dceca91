import Usbfluxd.Alike.Ops

/-!
# Requests and commands in step

`Agree` for the forwarded requests and for `client_command` once its frame
has been taken apart: `plistCommand` and the two binary commands get the
fields of the frame as arguments and never see the buffer.
-/

namespace Usbfluxd

open Lib

section Request

variable {V : View} {s s' : Daemon} {c : ClientPtr} {plat : Platform} {sys : Sys}
  {tag : UInt32}

/-- What a new connection reads into. -/
theorem input_unixSocket {y : RemoteMux} (h : remoteMuxNewWithUnixSocket sys = some y) :
    y.ib = newInput := by
  rw [remoteMuxNewWithUnixSocket, Option.map_eq_some_iff] at h
  obtain ⟨fd, _, rfl⟩ := h
  rfl

theorem input_host {y : RemoteMux} {host : Option String} {port : UInt16}
    (h : remoteMuxNewWithHost sys host port = some y) : y.ib = newInput := by
  rw [remoteMuxNewWithHost, Option.bind_eq_some_iff] at h
  obtain ⟨hostname, _, h⟩ := h
  rw [Option.map_eq_some_iff] at h
  obtain ⟨fd, _, rfl⟩ := h
  rfl

theorem newRemoteFor_agree {k : UInt8} {lr lc : Bool} (h : Alike V lr lc s s') :
    Agree (fun o o' => o' = o ∧ ∀ y, o = some y → y.ib = newInput) (newRemoteFor sys s k)
      (newRemoteFor sys s' k) := by
  refine Both.ite (fun _ => ⟨rfl, fun _ => input_unixSocket⟩) fun _ => ?_
  rw [h.remoteList]
  refine Both.bind (findRemote_agree h fun _ _ => rfl) ?_
  rintro o o' ho
  cases ho with
  | none => exact ⟨rfl, fun y hy => by cases hy⟩
  | some hq =>
      obtain ⟨_, ib, heq, _⟩ := hq
      dsimp only
      rw [heq]
      exact ⟨rfl, fun _ => input_host⟩

theorem linkNewRemote_agree {y : RemoteMux} {lr lc : Bool} (h : Alike V lr lc s s')
    (hy : y.ib = newInput) :
    Agree (AlikeRes V lr lc) (linkNewRemote s c y) (linkNewRemote s' c y) := by
  rw [linkNewRemote, linkNewRemote, h.nextRemote]
  refine Both.bind (clientSetRemote_agree h) fun ht => ?_
  exact ⟨rfl, (ht.addRemote hy).emit_one rfl⟩

theorem usbmuxRemoteConnect_agree {deviceId : UInt32} {req : Plist}
    (h : Alike V false false s s') :
    Agree (AlikeRes V false false) (usbmuxRemoteConnect plat sys s deviceId req c)
      (usbmuxRemoteConnect plat sys s' deviceId req c) := by
  refine (lockRemoteList_agree h).bind ?_
  rintro t t' ht
  refine (newRemoteFor_agree ht).bind ?_
  rintro _ o ⟨rfl, hinput⟩
  cases o with
  | none => exact ⟨rfl, ht.unlockRemoteList⟩
  | some y =>
      have hy : y.ib = newInput := hinput y rfl
      refine Both.bind (linkNewRemote_agree ht hy) ?_
      rintro ⟨r, u⟩ ⟨_, u'⟩ ⟨rfl, hu⟩
      refine Both.bind (remoteSendPlistPkt_agree hu.unlockRemoteList) ?_
      rintro ⟨res, v⟩ ⟨_, v'⟩ ⟨rfl, hv⟩
      exact ⟨rfl, hv⟩

theorem forwardRequest_agree {k : UInt8} {cmd : RemoteCommand} {msg : Except Fault Plist}
    (h : Alike V true false s s') (hmsg : ∀ e, msg = .error e → e.isLock = false) :
    Agree (AlikeRes V false false) (forwardRequest plat sys s k tag cmd msg c)
      (forwardRequest plat sys s' k tag cmd msg c) := by
  refine (newRemoteFor_agree h).bind ?_
  rintro _ o ⟨rfl, hinput⟩
  cases o with
  | none => exact ⟨rfl, h.unlockRemoteList⟩
  | some y =>
      refine Both.bind (linkNewRemote_agree h (hinput y rfl)) ?_
      rintro ⟨r, t⟩ ⟨_, t'⟩ ⟨rfl, ht⟩
      refine Both.bind (Both.same hmsg) ?_
      rintro _ p rfl
      refine Both.bind (remoteSendPlistPkt_agree ht.unlockRemoteList) ?_
      rintro ⟨res, u⟩ ⟨_, u'⟩ ⟨rfl, hu⟩
      refine Both.ite (fun _ => ?_) fun _ => ⟨rfl, hu⟩
      exact Both.bind (setRemoteFields_agree hu fun _ _ => ⟨rfl, rfl⟩) fun hv => ⟨rfl, hv⟩

theorem usbmuxRemoteReadBuid_agree (h : Alike V false false s s') :
    Agree (AlikeRes V false false) (usbmuxRemoteReadBuid plat sys s tag c)
      (usbmuxRemoteReadBuid plat sys s' tag c) := by
  refine (lockRemoteList_agree h).bind ?_
  rintro t t' ht
  rw [ht.remoteDeviceList]
  exact forwardRequest_agree ht fun e he => by cases he

/-- A pair-record request, for a message that misuses no mutex. -/
theorem pairRecordRequest_agree {recordId : Option String} {cmd : RemoteCommand}
    {msg : Except Fault Plist} (h : Alike V false false s s')
    (hmsg : ∀ e, msg = .error e → e.isLock = false) :
    Agree (AlikeRes V false false) (pairRecordRequest plat sys s recordId tag cmd msg c)
      (pairRecordRequest plat sys s' recordId tag cmd msg c) := by
  refine (lockRemoteList_agree h).bind ?_
  rintro t t' ht
  refine Both.bind (R := fun k k' => k' = k) ?_ ?_
  · rw [pairRecordRemote, pairRecordRemote, ht.remoteDeviceList]
    refine Both.bind (plistDictForeach_pure_agree fun he => ?_) ?_
    · rw [matchDevice] at he
      split at he
      · cases he
      · split at he
        · cases he
          rfl
        · split at he <;> cases he
    · rintro _ k rfl
      rfl
  · rintro _ k rfl
    exact forwardRequest_agree ht hmsg

theorem pairRecordMessage_isLock {messageType : String} {recordId : Option String} (e : Fault)
    (he : pairRecordMessage messageType recordId = .error e) : e.isLock = false := by
  cases recordId with
  | none =>
      cases he
      rfl
  | some rid => cases he

end Request

section Command

variable {V : View} {s s' : Daemon} {c : ClientPtr} {plat : Platform} {sys : Sys}
  {tag : UInt32} {dict : Plist}

theorem reply_agree {result : UInt32} {lr lc : Bool} (h : Alike V lr lc s s') :
    Agree (AlikeRes V lr lc) (reply plat sys s c tag result)
      (reply plat sys s' c tag result) := by
  refine (sendResult_agree h).bind ?_
  rintro ⟨res, t⟩ ⟨_, t'⟩ ⟨rfl, ht⟩
  exact ⟨rfl, ht⟩

theorem clientListen_agree (h : Alike V false false s s') :
    Agree (AlikeRes V false false) (clientListen plat sys s c tag)
      (clientListen plat sys s' c tag) := by
  refine (sendResult_agree h).bind ?_
  rintro ⟨res, t⟩ ⟨_, t'⟩ ⟨rfl, ht⟩
  exact Both.ite (fun _ => ⟨rfl, ht⟩) fun _ => startListen_agree ht

theorem clientConnect_agree {deviceId : UInt32} {req : Plist} (h : Alike V false false s s') :
    Agree (AlikeRes V false false) (clientConnect plat sys s c tag deviceId req)
      (clientConnect plat sys s' c tag deviceId req) := by
  refine (usbmuxRemoteConnect_agree h).bind ?_
  rintro ⟨res, t⟩ ⟨_, t'⟩ ⟨rfl, ht⟩
  refine Both.ite (fun _ => reply_agree ht) fun _ => ?_
  exact Both.bind (setFields_agree ht fun _ _ => ⟨rfl, rfl⟩) fun hu => ⟨rfl, hu⟩

theorem plistConnect_agree (h : Alike V false false s s') :
    Agree (AlikeRes V false false) (plistConnect plat sys s c tag dict)
      (plistConnect plat sys s' c tag dict) := by
  rw [plistConnect, plistConnect]
  split
  · exact reply_agree h
  · split
    · exact reply_agree h
    · exact clientConnect_agree h

theorem addInstance_agree (h : Alike V false false s s') :
    Agree (AlikeRes V false false) (addInstance plat sys s c tag dict)
      (addInstance plat sys s' c tag dict) := by
  rw [addInstance, addInstance]
  split
  · exact reply_agree h
  · refine Both.bind (remoteMuxServiceAdd_agree h) ?_
    rintro ⟨rv, t⟩ ⟨_, t'⟩ ⟨rfl, ht⟩
    exact reply_agree ht

theorem removeInstance_agree (h : Alike V false false s s') :
    Agree (AlikeRes V false false) (removeInstance plat sys s c tag dict)
      (removeInstance plat sys s' c tag dict) := by
  rw [removeInstance, removeInstance]
  split
  · exact reply_agree h
  · refine Both.bind (remoteMuxServiceRemove_agree h) ?_
    rintro ⟨rv, t⟩ ⟨_, t'⟩ ⟨rfl, ht⟩
    exact reply_agree ht

theorem zeroOrFail_agree {m m' : Except Fault (Int × Daemon)} {lr lc : Bool}
    (h : Agree (AlikeRes V lr lc) m m') :
    Agree (AlikeRes V lr lc) (zeroOrFail <$> m) (zeroOrFail <$> m') := by
  refine Both.map h ?_
  rintro ⟨res, t⟩ ⟨_, t'⟩ ⟨rfl, ht⟩
  exact ⟨rfl, ht⟩

theorem plistCommand_agree {message : String} (h : Alike V false false s s') :
    Agree (AlikeRes V false false) (plistCommand plat sys s c tag message dict)
      (plistCommand plat sys s' c tag message dict) := by
  refine Both.ite (fun _ => clientListen_agree h) fun _ => ?_
  refine Both.ite (fun _ => plistConnect_agree h) fun _ => ?_
  refine Both.ite (fun _ => zeroOrFail_agree (sendDeviceList_agree h)) fun _ => ?_
  refine Both.ite (fun _ => zeroOrFail_agree (sendListenerList_agree h)) fun _ => ?_
  refine Both.ite (fun _ => ?_) fun _ => ?_
  · refine Both.bind (usbmuxRemoteReadBuid_agree h) ?_
    rintro ⟨rv, t⟩ ⟨_, t'⟩ ⟨rfl, ht⟩
    exact ⟨rfl, ht⟩
  refine Both.ite (fun _ => zeroOrFail_agree
    (pairRecordRequest_agree h pairRecordMessage_isLock)) fun _ => ?_
  refine Both.ite (fun _ => zeroOrFail_agree
    (pairRecordRequest_agree h fun e he => by cases he)) fun _ => ?_
  refine Both.ite (fun _ => zeroOrFail_agree
    (pairRecordRequest_agree h pairRecordMessage_isLock)) fun _ => ?_
  refine Both.ite (fun _ => zeroOrFail_agree (sendInstances_agree h)) fun _ => ?_
  refine Both.ite (fun _ => addInstance_agree h) fun _ => ?_
  exact Both.ite (fun _ => removeInstance_agree h) fun _ => reply_agree h

end Command

end Usbfluxd
