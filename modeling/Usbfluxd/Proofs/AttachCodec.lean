import Usbfluxd.Proofs.Commands
import Usbfluxd.Proofs.Frames
import Usbfluxd.Proofs.Isolation

/-!
# Binary announcements between two daemons

`notify_device_add` announces a device to a client of the binary protocol as
a packed `struct usbmuxd_device_record`. A listener of another daemon that
gets the frame reads it as a `struct device_info`, in the layout the compiler
gives it. The two agree on the device id and on nothing else: the serial
number is a pointer in one and an array in the other, so what the second
daemon takes for pointer, location and product id are fourteen bytes of the
serial number.

The id has a flaw of its own. `device_info` keeps it as an `int`, so the ids
of listeners from 128 on are widened as negative numbers.
-/

namespace Usbfluxd

open Lib

/-! ## What is encoded -/

/-- An unsigned number of a device plist, 0 when there is none. -/
def deviceUint (node : Option Plist) : UInt64 := (node.map fun n => plistGetUintVal n 0).getD 0

/-- The bytes of the serial number field. -/
def serialBytes (serial : String) (i : Nat) : UInt8 := (serialField (some serial)).getD i 0

section Record

variable {dev : Plist} {serial : String} {i : Nat}

theorem length_serialField {o : Option String} : (serialField o).length = 256 := by
  rw [serialField, List.length_append, List.length_replicate]
  have hle := List.length_take_le 255 ((o.map fun str => str.toUTF8.data.toList).getD [])
  omega

/-- The device id is at offset 0 of the record. -/
theorem deviceRecord_id (hi : i < 4) : (deviceRecord dev).getD i 0 =
    (le32 (deviceUint (plistDictGetItem dev "DeviceID")).toUInt32).getD i 0 := by
  rw [deviceRecord, List.getD_eq_getElem?_getD, List.append_assoc, List.append_assoc,
    List.append_assoc, List.getElem?_append_left (by rw [length_le32]; exact hi),
    List.getD_eq_getElem?_getD]
  rfl

/-- The serial number is at offset 6. -/
theorem deviceRecord_serial (hi : i < 256)
    (hserial : (plistAccessPath dev "Properties" "SerialNumber").bind plistGetStringVal =
      some serial) : (deviceRecord dev).getD (6 + i) 0 = serialBytes serial i := by
  rw [deviceRecord, hserial, serialBytes, List.getD_eq_getElem?_getD,
    List.getD_eq_getElem?_getD]
  rw [List.getElem?_append_left, List.getElem?_append_left, List.getElem?_append_right]
  · rw [List.length_append, length_le32, show (le16 _).length = 2 from rfl,
      show 6 + i - (4 + 2) = i from Nat.add_sub_cancel_left 6 i]
  · rw [List.length_append, length_le32, show (le16 _).length = 2 from rfl]
    omega
  · rw [List.length_append, List.length_append, length_le32, length_serialField,
      show (le16 _).length = 2 from rfl]
    omega
  · rw [List.length_append, List.length_append, List.length_append, length_le32,
      length_serialField, show (le16 _).length = 2 from rfl]
    omega

end Record

/-! ## What is decoded -/

/-- A buffer with the binary announcement of a device. -/
structure HoldsRecord (plat : Platform) (b : Buf) (dev : Plist) : Prop where
  version : (bufHeader plat b).version = 0
  message : (bufHeader plat b).message = messageDeviceAdd
  record : ∀ i < 262, b.byteAt plat.uninit (headerSize + i) = (deviceRecord dev).getD i 0

theorem HoldsRecord.of_packet {plat : Platform} {b : Buf} {dev : Plist} {hdr : Header}
    (hver : hdr.version = 0) (hmsg : hdr.message = messageDeviceAdd)
    (hdata : b.data = packetBytes hdr (.binary (deviceRecord dev))) :
    HoldsRecord plat b dev := by
  have hlen : (deviceRecord dev).length = 268 := by
    rw [deviceRecord]
    simp only [List.length_append, length_le32, length_serialField]
    rfl
  have hbyte : ∀ i < 284, b.byteAt plat.uninit i =
      (hdr.bytes ++ deviceRecord dev).getD i 0 := by
    intro i hi
    have hin : i < b.size := by
      rw [Buf.size, hdata, packetBytes, List.length_append, length_headerBytes]
      rw [show (Payload.binary (deviceRecord dev)).wire = deviceRecord dev from rfl, hlen]
      omega
    rw [byteAt_data hin, hdata]
    rfl
  have hword : ∀ off n, off + 4 ≤ headerSize →
      (∀ i < 4, hdr.bytes.getD (off + i) 0 = (le32 n).getD i 0) →
      le32At (b.byteAt plat.uninit) off = n := by
    intro off n hoff hbytes
    refine le32At_le32 fun i hi => ?_
    rw [headerSize] at hoff
    rw [hbyte _ (by omega), List.getD_append _ _ _ _ (by rw [length_headerBytes]; omega)]
    exact hbytes i hi
  constructor
  · rw [← hver]
    refine hword 4 _ (by decide) fun i hi => ?_
    obtain rfl | rfl | rfl | rfl : i = 0 ∨ i = 1 ∨ i = 2 ∨ i = 3 := by omega
    all_goals rfl
  · rw [← hmsg]
    refine hword 8 _ (by decide) fun i hi => ?_
    obtain rfl | rfl | rfl | rfl : i = 0 ∨ i = 1 ∨ i = 2 ∨ i = 3 := by omega
    all_goals rfl
  · intro i hi
    rw [hbyte _ (by rw [headerSize]; omega)]
    rw [List.getD_append_right _ _ _ _ (by rw [length_headerBytes, headerSize]; omega)]
    rw [length_headerBytes, headerSize, Nat.add_sub_cancel_left]

/-- The device read from such a buffer. -/
def decodedDevice (devid : UInt32) (str serial : String) (speed : UInt64) : Plist :=
  createDeviceAttachedPlist devid str (le32At (serialBytes serial) 10)
    (le16At (serialBytes serial) 14) speed

section Decode

variable {plat : Platform} {sys : Sys} {b : Buf} {dev : Plist} {serial : String} {k : UInt8}
  {devid : UInt32}

/-- Bytes of the serial number field, at the offsets of the other structure. -/
theorem HoldsRecord.serialByte (h : HoldsRecord plat b dev)
    (hserial : (plistAccessPath dev "Properties" "SerialNumber").bind plistGetStringVal =
      some serial) {i : Nat} (hi : i < 256) :
    b.byteAt plat.uninit (headerSize + (6 + i)) = serialBytes serial i :=
  (h.record _ (by omega)).trans (deviceRecord_serial hi hserial)

/-- The device id is the one thing both layouts have at one place. -/
theorem HoldsRecord.wireId (h : HoldsRecord plat b dev) :
    le32At (b.byteAt plat.uninit) headerSize =
      (deviceUint (plistDictGetItem dev "DeviceID")).toUInt32 :=
  le32At_le32 fun i hi => (h.record i (by omega)).trans (deviceRecord_id hi)

theorem deviceInfoPlist_record (devid : UInt32) (h : HoldsRecord plat b dev)
    (hserial : (plistAccessPath dev "Properties" "SerialNumber").bind plistGetStringVal =
      some serial) :
    ∃ speed, deviceInfoPlist plat devid b =
      match plat.stringAt (le64At (serialBytes serial) 2) with
      | none => .error .wildPointer
      | some str => .ok (decodedDevice devid str serial speed) := by
  set mem := b.byteAt plat.uninit with hmem
  have hbyte : ∀ i < 256, mem (headerSize + (6 + i)) = serialBytes serial i :=
    fun i hi => h.serialByte hserial hi
  have hpointer : le64At mem (headerSize + 8) = le64At (serialBytes serial) 2 :=
    le64At_shift fun i hi => by
      rw [← hbyte (2 + i) (by omega)]
      congr 1
      omega
  have hlocation : le32At mem (headerSize + 16) = le32At (serialBytes serial) 10 :=
    le32At_shift fun i hi => by
      rw [← hbyte (10 + i) (by omega)]
      congr 1
      omega
  have hproduct : le16At mem (headerSize + 20) = le16At (serialBytes serial) 14 :=
    le16At_shift fun i hi => by
      rw [← hbyte (14 + i) (by omega)]
      congr 1
      omega
  refine ⟨le64At mem (headerSize + 24), ?_⟩
  rw [deviceInfoPlist]
  simp only [← hmem]
  rw [hpointer, hlocation, hproduct]
  rfl

end Decode

/-! ## Round trips -/

/-- The stored device is the announced one, under the id of the listener. -/
structure Restored (k : UInt8) (dev : Plist) (serial : String) (dev' : Plist) : Prop where
  deviceId : plistDictGetItem dev' "DeviceID" = some (.uint (UInt64.ofNat
    (k.toNat * 2 ^ 24 + (deviceUint (plistDictGetItem dev "DeviceID")).toNat % 2 ^ 24)))
  serial : plistAccessPath dev' "Properties" "SerialNumber" = some (.string serial)
  location : ∃ l, plistAccessPath dev' "Properties" "LocationID" = some (.uint l) ∧
    l.toNat % 2 ^ 32 =
      (deviceUint (plistAccessPath dev "Properties" "LocationID")).toNat % 2 ^ 32
  product : ∃ p, plistAccessPath dev' "Properties" "ProductID" = some (.uint p) ∧
    p.toNat % 2 ^ 16 =
      (deviceUint (plistAccessPath dev "Properties" "ProductID")).toNat % 2 ^ 16

/-- What has to be in the serial number for the two layouts to agree, and in
memory where it points to. -/
structure LayoutsAgree (plat : Platform) (k : UInt8) (dev : Plist) (serial : String) :
    Prop where
  id : k.toNat < 128
  pointer : plat.stringAt (le64At (serialBytes serial) 2) = some serial
  location : le32At (serialBytes serial) 10 =
    (deviceUint (plistAccessPath dev "Properties" "LocationID")).toUInt32
  product : le16At (serialBytes serial) 14 =
    (deviceUint (plistAccessPath dev "Properties" "ProductID")).toUInt16

section RoundTrip

variable {k : UInt8} {dev : Plist} {serial str : String} {speed : UInt64} {plat : Platform}

/-- An `int` widened to 64 bits keeps its value unless it is negative. -/
theorem intToUint64_eq_iff {n : UInt32} :
    intToUint64 n = UInt64.ofNat n.toNat ↔ n.toNat < 2 ^ 31 := by
  have hlt := n.toNat_lt
  have hsame : n.toUInt64 = UInt64.ofNat n.toNat := by
    apply UInt64.toNat_inj.mp
    rw [UInt32.toNat_toUInt64, UInt64.toNat_ofNat', Nat.mod_eq_of_lt (by omega)]
  rw [intToUint64]
  split
  · next hneg =>
      exact ⟨fun _ => UInt32.lt_iff_toNat_lt.mp hneg, fun _ => hsame⟩
  · next hneg =>
      have hge : 2 ^ 31 ≤ n.toNat := Nat.not_lt.mp fun h => hneg (UInt32.lt_iff_toNat_lt.mpr h)
      refine ⟨fun heq => ?_, fun h => absurd h (Nat.not_lt.mpr hge)⟩
      have hnat := congrArg UInt64.toNat heq
      rw [UInt64.toNat_or, UInt32.toNat_toUInt64, UInt64.toNat_ofNat',
        Nat.mod_eq_of_lt (by omega)] at hnat
      have hle : UInt64.toNat 0xFFFFFFFF00000000 ≤ n.toNat := by
        rw [← hnat]
        exact Nat.right_le_or
      rw [show UInt64.toNat 0xFFFFFFFF00000000 = 18446744069414584320 from rfl] at hle
      omega

theorem toNat_remoteDevid_uint {d : UInt64} :
    (remoteDevid k d.toUInt32).toNat = k.toNat * 2 ^ 24 + d.toNat % 2 ^ 24 := by
  rw [toNat_remoteDevid, UInt64.toNat_toUInt32]
  omega

theorem remoteDevid_lt_iff {d : UInt32} : (remoteDevid k d).toNat < 2 ^ 31 ↔ k.toNat < 128 := by
  have hd := Nat.mod_lt d.toNat (show 0 < 2 ^ 24 by decide)
  rw [toNat_remoteDevid]
  omega

theorem restored_decoded_iff :
    Restored k dev serial (decodedDevice
        (remoteDevid k (deviceUint (plistDictGetItem dev "DeviceID")).toUInt32) str serial speed) ↔
      k.toNat < 128 ∧ str = serial ∧
      le32At (serialBytes serial) 10 =
        (deviceUint (plistAccessPath dev "Properties" "LocationID")).toUInt32 ∧
      le16At (serialBytes serial) 14 =
        (deviceUint (plistAccessPath dev "Properties" "ProductID")).toUInt16 := by
  set devid := remoteDevid k (deviceUint (plistDictGetItem dev "DeviceID")).toUInt32 with hdevid
  have hid : plistDictGetItem (decodedDevice devid str serial speed) "DeviceID" =
      some (.uint (intToUint64 devid)) := rfl
  have hserial : plistAccessPath (decodedDevice devid str serial speed) "Properties"
      "SerialNumber" = some (.string str) := rfl
  have hlocation : plistAccessPath (decodedDevice devid str serial speed) "Properties"
      "LocationID" = some (.uint (le32At (serialBytes serial) 10).toUInt64) := rfl
  have hproduct : plistAccessPath (decodedDevice devid str serial speed) "Properties"
      "ProductID" = some (.uint (le16At (serialBytes serial) 14).toUInt64) := rfl
  have hl := (le32At (serialBytes serial) 10).toNat_lt
  have hp := (le16At (serialBytes serial) 14).toNat_lt
  constructor
  · intro h
    obtain ⟨hid', hserial', ⟨l, hl', hleq⟩, p, hp', hpeq⟩ := h
    rw [hid, Option.some_inj, Plist.uint.injEq, ← toNat_remoteDevid_uint, ← hdevid,
      intToUint64_eq_iff, hdevid, remoteDevid_lt_iff] at hid'
    rw [hserial, Option.some_inj, Plist.string.injEq] at hserial'
    rw [hlocation, Option.some_inj, Plist.uint.injEq] at hl'
    rw [hproduct, Option.some_inj, Plist.uint.injEq] at hp'
    refine ⟨hid', hserial', UInt32.toNat_inj.mp ?_, UInt16.toNat_inj.mp ?_⟩
    · rw [← hl', UInt32.toNat_toUInt64, Nat.mod_eq_of_lt hl] at hleq
      rw [hleq, UInt64.toNat_toUInt32]
    · rw [← hp', UInt16.toNat_toUInt64, Nat.mod_eq_of_lt hp] at hpeq
      rw [hpeq, UInt64.toNat_toUInt16]
  · intro h
    obtain ⟨hk, rfl, hleq, hpeq⟩ := h
    refine ⟨?_, hserial, ⟨_, hlocation, ?_⟩, _, hproduct, ?_⟩
    · rw [hid, Option.some_inj, Plist.uint.injEq, ← toNat_remoteDevid_uint, ← hdevid,
        intToUint64_eq_iff, hdevid, remoteDevid_lt_iff]
      exact hk
    · rw [UInt32.toNat_toUInt64, hleq, UInt64.toNat_toUInt32, Nat.mod_mod]
    · rw [UInt16.toNat_toUInt64, hpeq, UInt64.toNat_toUInt16, Nat.mod_mod]

end RoundTrip

/-! ## Handling the frame -/

section Handle

variable {plat : Platform} {sys : Sys} {t t' : Daemon} {r : RemotePtr} {y : RemoteMux}
  {dev dev' : Plist} {serial : String} {devid : UInt32}

/-- The device is stored before anybody is told. -/
theorem deviceAttached_stored (h : deviceAttached plat sys t devid dev' = .ok t') :
    t'.remoteDeviceList.get (deviceKey devid) = some dev' := by
  obtain ⟨t₁, hlock, h⟩ := bind_eq_ok.mp h
  obtain ⟨t₂, hadd, hunlock⟩ := bind_eq_ok.mp h
  have hnotified := (Runs.returns (clientDeviceAdd_runs fun _ => trivial)).of_ok hadd
  have hdevices := hnotified.announces.remoteDeviceList
  cases hunlock
  show t₂.remoteDeviceList.get _ = _
  rw [hdevices]
  exact OMap.get_set.trans (if_pos rfl)

/-- On a listener that listens, a binary announcement is read as a
`struct device_info` and stored. -/
theorem handle_record (hy : t.remotes r = some y) (hlisten : y.state = .listen)
    (h : HoldsRecord plat y.ib dev) : ∃ t₁,
    remoteHandleCommandResult plat sys t r =
      (deviceInfoPlist plat
        (remoteDevid y.id (deviceUint (plistDictGetItem dev "DeviceID")).toUInt32) y.ib >>=
        fun dev' => deviceAttached plat sys t₁
          (remoteDevid y.id (deviceUint (plistDictGetItem dev "DeviceID")).toUInt32) dev') := by
  set devid := remoteDevid y.id (deviceUint (plistDictGetItem dev "DeviceID")).toUInt32
  have hdev : deviceMessage plat y.id y.ib (framePlist plat y.ib) = (some .add, devid) := by
    unfold deviceMessage
    rw [if_pos h.message, h.wireId]
  have hplist : framePlist plat y.ib = none := by
    rw [framePlist, h.message]
    exact if_neg (by decide)
  have hremote : ∀ t : Daemon, t.remotes r = some y → t.remote r = .ok y := by
    intro t hy
    rw [Daemon.remote, hy]
  set t₀ := t.emit [.frame r (bufFrame plat y.ib)]
  have hy₀ : t₀.remotes r = some y := hy
  have hversion : ¬ ((bufHeader plat y.ib).version ≠ 0 ∧ (bufHeader plat y.ib).version ≠ 1) :=
    fun hver => hver.1 h.version
  have hstate : remoteHandleCommandResult plat sys t r =
      handleListenState plat sys t₀ r y (framePlist plat y.ib) := by
    rw [remoteHandleCommandResult, hremote t hy, ok_bind]
    change (if (bufHeader plat y.ib).version ≠ 0 ∧ (bufHeader plat y.ib).version ≠ 1 then _
      else _) = _
    rw [if_neg hversion, hlisten]
  refine ⟨t₀.update (·.setRemote r { y with
    ib := y.ib.patch plat.uninit headerSize (le32 devid) }), ?_⟩
  rw [hstate, handleListenState, hdev, hplist]
  change (t₀.modifyRemote r _ >>= _) = _
  unfold Daemon.modifyRemote
  rw [hremote t₀ hy₀]
  rfl

/-- A device that was announced to a client of the binary protocol comes out
of another daemon's listener as it was if and only if the serial number and
the memory it points to happen to agree with the other layout, and the
listener's id is below 128. -/
theorem attachCodec_roundTrip_iff {plat₀ : Platform} {sys₀ : Sys} {s s' : Daemon} {c : ClientPtr}
    {x x' : MuxClient} {res : Int} (hx : s.clients c = some x) (hproto : x.protoVersion = 0)
    (hsend : notifyDeviceAdd plat₀ sys₀ s c dev = .ok (res, s')) (hres : 0 ≤ res)
    (hx' : s'.clients c = some x')
    (hserial : (plistAccessPath dev "Properties" "SerialNumber").bind plistGetStringVal =
      some serial)
    (hy : t.remotes r = some y) (hlisten : y.state = .listen)
    (hframe : x'.ob.data = x.ob.data ++ y.ib.data)
    (hreturns : plat.stringAt (le64At (serialBytes serial) 2) ≠ none →
      ∃ t', remoteHandleCommandResult plat sys t r = .ok t') :
    (∃ t' dev', remoteHandleCommandResult plat sys t r = .ok t' ∧
      t'.remoteDeviceList.get (deviceKey (remoteDevid y.id
        (deviceUint (plistDictGetItem dev "DeviceID")).toUInt32)) = some dev' ∧
      Restored y.id dev serial dev') ↔ LayoutsAgree plat y.id dev serial := by
  have hholds : HoldsRecord plat y.ib dev := by
    rcases (Runs.returns notifyDeviceAdd_runs).of_ok hsend with
      ⟨hneg, _⟩ | ⟨_, z, hdr, payload, hpkt, hq⟩
    · exact absurd hres (Int.not_le.mpr hneg)
    · obtain ⟨hz, hver, ob, hob, heq⟩ := hq
      cases hx.symm.trans hz
      rw [show s'.toCore = _ from heq, Core.clients_emit, Core.clients_setClient,
        if_pos rfl] at hx'
      cases hx'
      rcases hpkt with ⟨hone, _⟩ | ⟨_, hmsg, rfl⟩
      · rw [hproto] at hone
        cases hone
      · exact .of_packet (hver.trans hproto) hmsg
          (List.append_cancel_left (hframe.symm.trans hob.data))
  obtain ⟨t₁, hhandle⟩ : ∃ t₁, remoteHandleCommandResult plat sys _ _ = _ :=
    handle_record hy hlisten hholds
  obtain ⟨speed, hinfo⟩ := deviceInfoPlist_record (remoteDevid y.id
    (deviceUint (plistDictGetItem dev "DeviceID")).toUInt32) hholds hserial
  rw [hinfo] at hhandle
  cases hstr : plat.stringAt (le64At (serialBytes serial) 2) with
  | none =>
      rw [hstr] at hhandle
      constructor
      · intro h
        obtain ⟨t', _, hrun, _⟩ := h
        cases hhandle.symm.trans hrun
      · intro h
        cases hstr.symm.trans h.pointer
  | some str =>
      rw [hstr] at hhandle
      change _ = deviceAttached plat sys t₁ _ (decodedDevice _ str serial speed) at hhandle
      constructor
      · intro h
        obtain ⟨t', dev', hrun, hstored, hrestored⟩ := h
        cases (deviceAttached_stored (hhandle.symm.trans hrun)).symm.trans hstored
        obtain ⟨hk, rfl, hlocation, hproduct⟩ := restored_decoded_iff.mp hrestored
        exact ⟨hk, hstr, hlocation, hproduct⟩
      · intro h
        obtain ⟨t', hrun⟩ := hreturns (by rw [hstr]; exact Option.some_ne_none _)
        refine ⟨t', _, hrun, deviceAttached_stored (hhandle.symm.trans hrun), ?_⟩
        cases hstr.symm.trans h.pointer
        exact restored_decoded_iff.mpr ⟨h.id, rfl, h.location, h.product⟩

end Handle

/-! ## One device -/

/-- A device as the local listener announces it. -/
def phone : Plist := .dict
  [("MessageType", .string "Attached"), ("DeviceID", .uint 5),
   ("Properties", .dict [("SerialNumber", .string "00008030001A2B3C4D5E6F70"),
     ("LocationID", .uint 0x14100000), ("ProductID", .uint 0x12A8)])]

/-- The frame a client of the binary protocol gets for it. -/
def phoneFrame : List UInt8 :=
  packetBytes { length := 284, version := 0, message := messageDeviceAdd, tag := 0 }
    (.binary (deviceRecord phone))

/-- An input buffer with that frame in it. -/
def phoneBuf : Buf :=
  { data := phoneFrame, stale := [], capacity := replyBufSize * 8,
    size_le := by decide +kernel, capacity_lt := replyBufSize_mul_lt }

/-- A platform on which every address can be read. -/
def readablePlatform (str : String) : Platform :=
  { platformWith [] with stringAt := fun _ => some str }

/-- A client that has just connected gets that frame. -/
theorem phone_sent : ∃ s s' x x', Reachable (platformWith []) s ∧ s.clients ⟨0⟩ = some x ∧
    x.protoVersion = 0 ∧ notifyDeviceAdd (platformWith []) {} s ⟨0⟩ phone = .ok (284, s') ∧
    s'.clients ⟨0⟩ = some x' ∧ x'.ob.data = x.ob.data ++ phoneFrame := by
  let test : Daemon → Bool := fun s => (s.clients ⟨0⟩).any fun (x : MuxClient) =>
    decide (x.protoVersion = 0) &&
    match notifyDeviceAdd (platformWith []) {} s ⟨0⟩ phone with
    | .ok (res, s') => decide (res = 284) &&
        (s'.clients ⟨0⟩).any fun x' => decide (x'.ob.data = x.ob.data ++ phoneFrame)
    | .error _ => false
  obtain ⟨s, hrun, htest⟩ : ∃ s, runFrom (platformWith []) {} (fun _ _ => true)
      [.accept (some 5)] = some s ∧ test s = true := exists_of_runFrom (by decide +kernel)
  simp only [test, Bool.and_eq_true, decide_eq_true_eq, Option.any_eq_true] at htest
  obtain ⟨x, hx, hproto, htest⟩ := htest
  split at htest
  · next res s' hs' =>
      simp only [Bool.and_eq_true, decide_eq_true_eq, Option.any_eq_true] at htest
      obtain ⟨rfl, x', hx', hob⟩ := htest
      exact ⟨s, s', x, x', reachable_of_runFrom hrun, hx, hproto, hs', hx', hob⟩
  · cases htest

/-- Even where the pointer can be read the device does not come out as it
was: its location is made of the serial number. -/
theorem attachCodec_roundTrip_iff_phone :
    ∃ t y, t.remotes ⟨0⟩ = some y ∧ y.state = .listen ∧ y.id = 1 ∧ y.ib.data = phoneFrame ∧
      ¬ ∃ t' dev', remoteHandleCommandResult (readablePlatform "00008030001A2B3C4D5E6F70") {} t
          ⟨0⟩ = .ok t' ∧
        t'.remoteDeviceList.get (deviceKey (remoteDevid y.id 5)) = some dev' ∧
        Restored y.id phone "00008030001A2B3C4D5E6F70" dev' := by
  obtain ⟨s, s', x, x', _, hx, hproto, hsend, hx', hob⟩ := phone_sent
  let plat := readablePlatform "00008030001A2B3C4D5E6F70"
  let received : Daemon → RemoteMux → Daemon := fun t y =>
    t.update (·.setRemote ⟨0⟩ { y with ib := phoneBuf })
  let test : Daemon → Bool := fun t => (t.remotes ⟨0⟩).any fun y =>
    decide (y.state = .listen) && decide (y.id = 1) &&
    okAnd (fun _ => true) (remoteHandleCommandResult plat {} (received t y) ⟨0⟩)
  obtain ⟨t, hrun, htest⟩ : ∃ t, runFrom (platformWith []) {} (fun _ _ => true) listeningRun =
      some t ∧ test t = true := exists_of_runFrom (by decide +kernel)
  simp only [test, Bool.and_eq_true, decide_eq_true_eq, Option.any_eq_true] at htest
  obtain ⟨y, hy, ⟨hlisten, hid⟩, htest⟩ := htest
  have hy₁ : (received t y).remotes ⟨0⟩ = some { y with ib := phoneBuf } := by
    change Function.update t.remotes ⟨0⟩ _ ⟨0⟩ = _
    exact Function.update_self ..
  refine ⟨received t y, { y with ib := phoneBuf }, hy₁, hlisten, hid, rfl, fun hrestored => ?_⟩
  have hagree := (attachCodec_roundTrip_iff hx hproto hsend (by decide) hx' rfl
    hy₁ hlisten hob ?_).mp hrestored
  · exact absurd hagree.location (by decide +kernel)
  · intro _
    obtain ⟨t', ht', _⟩ := exists_of_okAnd htest
    exact ⟨t', ht'⟩

/-- The announcement arrives at a listener: the serial number is read as a
pointer. -/
theorem announcement_reads_wild_pointer :
    ∃ t y, Reachable (platformWith []) t ∧ t.remotes ⟨0⟩ = some y ∧ y.state = .listen ∧
      y.ib.data = phoneFrame.take headerSize ∧
      step (platformWith []) t (.remote 10 { pollin := true }
        { recv := some (phoneFrame.drop headerSize) }) = .error .wildPointer := by
  let event : Event := .remote 10 { pollin := true } { recv := some (phoneFrame.drop headerSize) }
  let test : Daemon → Bool := fun t =>
    (t.remotes ⟨0⟩).any (fun y => decide (y.state = .listen) &&
      decide (y.ib.data = phoneFrame.take headerSize)) &&
    failsWith .wildPointer (step (platformWith []) t event)
  obtain ⟨t, hrun, htest⟩ : ∃ t, runFrom (platformWith []) {} (fun _ _ => true)
      (listeningRun ++ [.remote 10 { pollin := true }
        { recv := some (phoneFrame.take headerSize) }]) = some t ∧ test t = true :=
    exists_of_runFrom (by decide +kernel)
  simp only [test, Bool.and_eq_true, Option.any_eq_true, decide_eq_true_eq] at htest
  obtain ⟨⟨y, hy, hlisten, hib⟩, htest⟩ := htest
  exact ⟨t, y, reachable_of_runFrom hrun, hy, hlisten, hib, eq_of_failsWith htest⟩

end Usbfluxd
