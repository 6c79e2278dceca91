import Usbfluxd.Model.Command

/-!
# Remotes: frames and socket events

`remote_handle_command_result` with its three states, the send and receive
functions of a remote, and `usbmux_remote_process` with its reap loop.
-/

namespace Usbfluxd

open Lib

/-! ## Device messages -/

/-- `(remote->id << 24) | (d & 0xFFFFFF)`. -/
def remoteDevid (id : UInt8) (d : UInt32) : UInt32 :=
  (id.toUInt32 <<< 24) ||| (d &&& 0xFFFFFF)

theorem toNat_remoteDevid {k : UInt8} {d : UInt32} :
    (remoteDevid k d).toNat = k.toNat * 2 ^ 24 + d.toNat % 2 ^ 24 := by
  have hk : k.toNat < 2 ^ 8 := k.toNat_lt
  have hd : d.toNat % 2 ^ 24 < 2 ^ 24 := Nat.mod_lt _ (by decide)
  have hand : d.toNat &&& 0xFFFFFF = d.toNat % 2 ^ 24 := Nat.and_two_pow_sub_one_eq_mod _ 24
  rw [remoteDevid, UInt32.toNat_or, UInt32.toNat_and, UInt32.toNat_shiftLeft,
    show (0xFFFFFF : UInt32).toNat = 0xFFFFFF from rfl, hand, UInt8.toNat_toUInt32]
  rw [show (24 : UInt32).toNat % 32 = 24 from rfl,
    Nat.mod_eq_of_lt (by rw [Nat.shiftLeft_eq]; omega),
    ← Nat.shiftLeft_add_eq_or_of_lt hd, Nat.shiftLeft_eq]

/-- A 32-bit value stored in an `int` and widened to 64 bits. -/
def intToUint64 (n : UInt32) : UInt64 :=
  if n < 0x80000000 then n.toUInt64 else n.toUInt64 ||| 0xFFFFFFFF00000000

/-- `create_device_attached_plist`. -/
def createDeviceAttachedPlist (id : UInt32) (serial : String) (location : UInt32)
    (pid : UInt16) (speed : UInt64) : Plist :=
  .dict
    [("MessageType", .string "Attached"),
     ("DeviceID", .uint (intToUint64 id)),
     ("Properties", .dict
       [("ConnectionSpeed", .uint speed),
        ("ConnectionType", .string "USB"),
        ("DeviceID", .uint (intToUint64 id)),
        ("LocationID", .uint location.toUInt64),
        ("ProductID", .uint pid.toUInt64),
        ("SerialNumber", .string serial)])]

/-- The device made of a binary `MESSAGE_DEVICE_ADD` payload, read as a
`struct device_info` in the natural 64-bit layout. The serial number is a
pointer there. -/
def deviceInfoPlist (plat : Platform) (devid : UInt32) (b : Buf) : Except Fault Plist :=
  let mem := b.byteAt plat.uninit
  match plat.stringAt (le64At mem (headerSize + 8)) with
  | none => .error .wildPointer
  | some serial =>
      .ok (createDeviceAttachedPlist devid serial (le32At mem (headerSize + 16))
        (le16At mem (headerSize + 20)) (le64At mem (headerSize + 24)))

/-- The plist of an `Attached` message with its device id replaced. -/
def attachedPlist (devid : UInt32) (plistMsg : Plist) : Plist :=
  let msg := plistDictSetItem plistMsg "DeviceID" (.uint devid.toUInt64)
  match plistDictGetItem msg "Properties" with
  | none => msg
  | some props => plistDictSetItem msg "Properties"
      (plistDictSetItem props "DeviceID" (.uint devid.toUInt64))

/-- What a message on a listening remote asks for. -/
inductive DeviceEvent where
  | add | remove
deriving DecidableEq

/-- The type of a plist device message. -/
def plistDeviceEvent (plistMsg : Plist) : Option DeviceEvent :=
  match plistDictCopyStringVal plistMsg "MessageType" with
  | some msgtype =>
      if msgtype = "Attached" then some .add
      else if msgtype = "Detached" then some .remove
      else none
  | none => none

/-- The device id of a plist device message: without a `DeviceID` it stays
at 0. -/
def plistDevid (id : UInt8) (plistMsg : Plist) : UInt32 :=
  match requestUint plistMsg "DeviceID" with
  | none => 0
  | some d => remoteDevid id d.toUInt32

/-- The type and device id of a message on a listening remote. -/
def deviceMessage (plat : Platform) (id : UInt8) (b : Buf) (plistMsg : Option Plist) :
    Option DeviceEvent × UInt32 :=
  let wireId := le32At (b.byteAt plat.uninit) headerSize
  if (bufHeader plat b).message = messageDeviceAdd then (some .add, remoteDevid id wireId)
  else if (bufHeader plat b).message = messageDeviceRemove then
    (some .remove, remoteDevid id wireId)
  else
    match plistMsg with
    | none => (none, 0)
    | some p => (plistDeviceEvent p, plistDevid id p)

/-- Without a plist only a binary announcement adds a device. -/
theorem deviceMessage_none_add {plat : Platform} {id : UInt8} {b : Buf} {devid : UInt32}
    (h : deviceMessage plat id b none = (some .add, devid)) :
    (bufHeader plat b).message = messageDeviceAdd := by
  rw [deviceMessage] at h
  split at h
  · next hmsg => exact hmsg
  · split at h
    · cases h
    · cases h

/-- `message_get_result`. -/
def messageGetResult (plat : Platform) (b : Buf) (plistMsg : Option Plist) : UInt32 :=
  if (bufHeader plat b).message = messageResult then
    le32At (b.byteAt plat.uninit) headerSize
  else
    match plistMsg with
    | none => 0xbaad
    | some p =>
        if plistDictCopyStringVal p "MessageType" = some "Result" then
          match plistDictGetItem p "Number" with
          | none => 0xbaad
          | some n => (plistGetUintVal n 0xfeed).toUInt32
        else 0xbaad

/-! ## Handling a frame -/

/-- Store a device and tell every listening client. -/
def deviceAttached (plat : Platform) (sys : Sys) (s : Daemon) (devid : UInt32)
    (dev : Plist) : Except Fault Daemon := do
  let s ← s.lockRemoteList
  let s := s.update fun s =>
    { s with remoteDeviceList := s.remoteDeviceList.set (deviceKey devid) dev }
  let s ← clientDeviceAdd plat sys s dev
  pure s.unlockRemoteList

/-- Remove a device and tell every listening client. -/
def deviceDetached (plat : Platform) (sys : Sys) (s : Daemon) (devid : UInt32) :
    Except Fault Daemon := do
  let s ← s.lockRemoteList
  let s := s.update fun s =>
    { s with remoteDeviceList := s.remoteDeviceList.erase (deviceKey devid) }
  let s ← clientDeviceRemove plat sys s devid
  pure s.unlockRemoteList

/-- What a frame in `REMOTE_COMMAND` is used for, by `last_command`. -/
def commandReply (plat : Platform) (sys : Sys) (s : Daemon) (r : RemotePtr) (x : RemoteMux)
    (plistMsg : Option Plist) : Except Fault Daemon :=
  match x.lastCommand with
  | some .listen =>
      if messageGetResult plat x.ib plistMsg = resultOk then
        s.modifyRemote r fun x => { x with state := .listen }
      else .ok s
  | some _ => do
      let c ← s.remoteClient r x
      let (_, s) ← clientSendPacketData sys s c (x.ib.slice plat.uninit 0 headerSize)
        (bufPayload plat x.ib)
      pure s
  | none => .ok s

/-- The `REMOTE_COMMAND` branch of `remote_handle_command_result`. -/
def handleCommandState (plat : Platform) (sys : Sys) (s : Daemon) (r : RemotePtr)
    (x : RemoteMux) (plistMsg : Option Plist) : Except Fault Daemon := do
  let s ← commandReply plat sys s r x plistMsg
  s.modifyRemote r fun x => { x with lastCommand := none }

/-- The `REMOTE_LISTEN` branch. -/
def handleListenState (plat : Platform) (sys : Sys) (s : Daemon) (r : RemotePtr)
    (x : RemoteMux) (plistMsg : Option Plist) : Except Fault Daemon :=
  match deviceMessage plat x.id x.ib plistMsg with
  | (some .add, devid) =>
      match plistMsg with
      | some p => deviceAttached plat sys s devid (attachedPlist devid p)
      | none => do
          -- di->id = devid
          let s ← s.modifyRemote r fun x => { x with
            ib := x.ib.patch plat.uninit headerSize (le32 devid) }
          let dev ← deviceInfoPlist plat devid x.ib
          deviceAttached plat sys s devid dev
  | (some .remove, devid) => deviceDetached plat sys s devid
  | (none, _) => .ok s

/-- The `REMOTE_CONNECTING1` branch. -/
def handleConnectingState (plat : Platform) (sys : Sys) (s : Daemon) (r : RemotePtr)
    (x : RemoteMux) (plistMsg : Option Plist) : Except Fault Daemon := do
  let result := messageGetResult plat x.ib plistMsg
  let c ← s.remoteClient r x
  let (_, s) ← clientNotifyConnect plat sys s c result
  if result = resultOk then
    let s ← s.modifyRemote r fun x => { x with
      state := .connected, events := { pollin := true, pollout := true } }
    pure (s.emit [.remoteConnected r])
  else pure s

/-- The plist of a frame, when it is one. -/
def framePlist (plat : Platform) (b : Buf) : Option Plist :=
  if (bufHeader plat b).message = messagePlist then plat.plistFromXml (bufPayload plat b)
  else none

/-- `remote_handle_command_result`, on the frame at the start of the remote's
input buffer. -/
def remoteHandleCommandResult (plat : Platform) (sys : Sys) (s : Daemon) (r : RemotePtr) :
    Except Fault Daemon := do
  let x ← s.remote r
  let hdr := bufHeader plat x.ib
  let s := s.emit [.frame r (bufFrame plat x.ib)]
  if hdr.version ≠ 0 ∧ hdr.version ≠ 1 then pure s
  else
    match x.state with
    | .command => handleCommandState plat sys s r x (framePlist plat x.ib)
    | .listen => handleListenState plat sys s r x (framePlist plat x.ib)
    | .connecting1 => handleConnectingState plat sys s r x (framePlist plat x.ib)
    | _ => pure s

/-! ## Socket events -/

def remoteProcessSend (sys : Sys) (s : Daemon) (r : RemotePtr) : Except Fault Daemon := do
  let x ← s.remote r
  if x.ob.size = 0 then
    s.modifyRemote r fun x => { x with events := { x.events with pollout := false } }
  else
    match sendFrom sys x.ob with
    | none => usbmuxRemoteClose s r
    | some n =>
        let s := s.emit [.remoteSend r (x.ob.data.take n)]
        if n ≠ x.ob.size then
          s.modifyRemote r fun x => { x with ob := x.ob.consume n, lastActive := sys.now }
        else if x.state ≠ .connecting2 then
          s.modifyRemote r fun x => { x with
            ob := x.ob.reset
            events := { x.events with pollout := false }
            lastActive := sys.now }
        else
          let s ← s.modifyRemote r fun x => { x with
            ob := x.ob.reset
            state := .connected
            events := { x.devents with pollin := true }
            lastActive := sys.now }
          pure (s.emit [.remoteConnected r])

def remoteProcessRecv (plat : Platform) (sys : Sys) (s : Daemon) (r : RemotePtr) :
    Except Fault Daemon := do
  let x ← s.remote r
  let rf ← readFrame plat sys x.ib
  let s := (s.update (·.setRemote r { x with
    ib := rf.ib, lastActive := if rf.bodyRead then sys.now else x.lastActive })).emit
    (recvActs (.remoteRecv r) rf.got)
  match rf.outcome with
  | .dead => usbmuxRemoteMarkDead plat sys s r
  | .more => pure s
  | .frame => do
      let s ← remoteHandleCommandResult plat sys s r
      s.modifyRemote r fun x => { x with ib := x.ib.reset, lastCommand := none }

/-- `POLLIN` on a connected remote: read into its input buffer, from which
the client is served. -/
def remoteRelayRecv (sys : Sys) (s : Daemon) (r : RemotePtr) (x : RemoteMux) :
    Except Fault Daemon :=
  if 0 < x.ib.size ∧ x.ib.capacity - x.ib.size = 0 then .ok s
  else
    match sys.recvUpTo (x.ib.capacity - x.ib.size) with
    | none => usbmuxRemoteClose s r
    | some [] => s.modifyRemote r fun x => { x with events := { x.events with pollin := false } }
    | some bs =>
        if h : x.ib.size + bs.length ≤ x.ib.capacity then do
          let s := (s.update (·.setRemote r { x with
            ib := x.ib.append bs h, lastActive := sys.now })).emit [.relayRecv r bs]
          let c ← s.remoteClient r x
          clientOrEvents s c { pollout := true }
        else .error .outOfBounds

/-- A connected remote: the three cases of `usbmux_remote_process`. After a
failed send the remote is gone, and it is read all the same. -/
def remoteConnectedProcess (sys : Sys) (s : Daemon) (r : RemotePtr) (x : RemoteMux)
    (events : PollEvents) : Except Fault Daemon := do
  if events.pollin then remoteRelayRecv sys s r x
  else if events.pollout then
    let s ← remoteProcessSend sys s r
    let y ← s.remote r
    let c ← s.remoteClient r y
    clientOrEvents s c { pollin := true }
  else usbmuxRemoteClose s r

/-- One turn of the loop that finds the remote of a descriptor and reaps the
dead ones on the way. -/
def reapBody (plat : Platform) (sys : Sys) (fd : Nat) (events : PollEvents)
    (acc : Daemon × Option RemotePtr) (rm : RemotePtr) :
    Except Fault (Daemon × Option RemotePtr) := do
  let x ← acc.1.remote rm
  if x.state = .dead then
    let s ← usbmuxRemoteDispose plat sys acc.1 rm
    pure (s, acc.2)
  else if x.fd = fd then
    if events = { pollnval := true } then
      let s ← usbmuxRemoteDispose plat sys acc.1 rm
      pure (s, none)
    else pure (acc.1, some rm)
  else pure acc

/-- The locked loop at the start of `usbmux_remote_process`. -/
def reapLoop (plat : Platform) (sys : Sys) (fd : Nat) (events : PollEvents) (s : Daemon) :
    Except Fault (Daemon × Option RemotePtr) := do
  let s ← s.lockRemoteList
  let acc ← slotLoop (fun acc i => acc.1.remoteList.slot i)
    (reapBody plat sys fd events) (List.range s.remoteList.capacity) (s, none)
  pure (acc.1.unlockRemoteList, acc.2)

/-- What `usbmux_remote_process` does with the remote it found. -/
def remoteProcessFound (plat : Platform) (sys : Sys) (s : Daemon) (r : RemotePtr)
    (events : PollEvents) : Except Fault Daemon := do
  let x ← s.remote r
  if x.state = .connected then remoteConnectedProcess sys s r x events
  else if events.pollin then
    if x.state = .connecting2 then
      let s ← s.modifyRemote r fun x => { x with
        state := .connected, events := { x.devents with pollin := true } }
      pure (s.emit [.remoteConnected r])
    else remoteProcessRecv plat sys s r
  else if events.pollout then remoteProcessSend sys s r
  else pure s

def usbmuxRemoteProcess (plat : Platform) (sys : Sys) (s : Daemon) (fd : Nat)
    (events : PollEvents) : Except Fault Daemon := do
  let (s, found) ← reapLoop plat sys fd events s
  match found with
  | none => pure s
  | some r => remoteProcessFound plat sys s r events

end Usbfluxd
