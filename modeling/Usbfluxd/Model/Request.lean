import Usbfluxd.Model.Registry

/-!
# Requests forwarded to a remote

`usbmux_remote_connect`, `usbmux_remote_read_buid` and the three pair-record
functions. Each opens a connection of its own to the endpoint a device id
names and queues the request there. The last four are one function up to the
choice of the device, the message and the command they wait for; only
`usbmux_remote_connect` stores the id in the new remote.
-/

namespace Usbfluxd

open Lib

/-- Make a connection for a remote id: the renamed socket for id 0, else the
host and port of the listener that has the id. -/
def newRemoteFor (sys : Sys) (s : Daemon) (remoteMuxId : UInt8) :
    Except Fault (Option RemoteMux) :=
  if remoteMuxId = 0 then .ok (remoteMuxNewWithUnixSocket sys)
  else do
    match ← findRemote s (fun y => y.id = remoteMuxId && y.state = .listen)
        s.remoteList.elems with
    | none => pure none
    | some (_, y) => pure (remoteMuxNewWithHost sys y.host y.port)

/-- `client_set_remote` and `collection_add` for a new remote. -/
def linkNewRemote (s : Daemon) (c : ClientPtr) (x : RemoteMux) :
    Except Fault (RemotePtr × Daemon) := do
  let r : RemotePtr := ⟨s.nextRemote⟩
  let s ← clientSetRemote s c r
  let s := s.update (·.addRemote x)
  pure (r, s.emit [.openRemote c r x.state])

/-- The plist `usbmux_remote_connect` forwards: the request with the device
id its own host knows. -/
def forwardedConnect (deviceId : UInt32) (reqPlist : Plist) : Plist :=
  plistDictSetItem reqPlist "DeviceID" (.uint (deviceId &&& 0xFFFFFF).toUInt64)

def usbmuxRemoteConnect (plat : Platform) (sys : Sys) (s : Daemon) (deviceId : UInt32)
    (reqPlist : Plist) (c : ClientPtr) : Except Fault (Int × Daemon) := do
  let remoteMuxId := (deviceId >>> 24).toUInt8
  let s ← s.lockRemoteList
  match ← newRemoteFor sys s remoteMuxId with
  | none => pure (-1, s.unlockRemoteList)
  | some x =>
      let (r, s) ← linkNewRemote s c
        { x with id := remoteMuxId, state := .connecting1, client := some c }
      let s := s.unlockRemoteList
      let (_, s) ← remoteSendPlistPkt plat sys s r 0 (forwardedConnect deviceId reqPlist)
      pure (0, s)

/-- The common part of the four other requests; the caller has taken the list
mutex. The new remote keeps id 0, and learns its client only once the request
is queued. -/
def forwardRequest (plat : Platform) (sys : Sys) (s : Daemon) (remoteMuxId : UInt8)
    (tag : UInt32) (cmd : RemoteCommand) (msg : Except Fault Plist) (c : ClientPtr) :
    Except Fault (Int × Daemon) := do
  match ← newRemoteFor sys s remoteMuxId with
  | none => pure (-1, s.unlockRemoteList)
  | some x =>
      let (r, s) ← linkNewRemote s c x
      let s := s.unlockRemoteList
      let msg ← msg
      let (res, s) ← remoteSendPlistPkt plat sys s r tag msg
      if 0 < res then
        let s ← s.modifyRemote r fun x => { x with lastCommand := some cmd, client := some c }
        pure (0, s)
      else pure (-1, s)

/-- The remote id `usbmux_remote_read_buid` picks: that of the first device,
and 0 when there is none. -/
def firstDeviceRemote (devices : List (String × Plist)) : UInt8 :=
  match devices with
  | [] => 0
  | (key, _) :: _ => (keyDevice key >>> 24).toUInt8

def usbmuxRemoteReadBuid (plat : Platform) (sys : Sys) (s : Daemon) (tag : UInt32)
    (c : ClientPtr) : Except Fault (Int × Daemon) := do
  let s ← s.lockRemoteList
  forwardRequest plat sys s (firstDeviceRemote s.remoteDeviceList.entries) tag .readBuid
    (.ok (createPlistMessage "ReadBUID")) c

/-- `match_device`: the first device whose serial number is the record id. -/
def matchDevice (recordId : Option String) (key : String) (value : Plist)
    (deviceId : UInt32) : Except Fault (Int × UInt32) :=
  match (plistAccessPath value "Properties" "SerialNumber").bind plistGetStringVal with
  | none => .ok (0, deviceId)
  | some udid =>
      match recordId with
      | none => .error .nullString
      | some rid => if udid = rid then .ok (-1, keyDevice key) else .ok (0, deviceId)

/-- The remote id of a pair-record request: device id 0, the value when no
device matches, has remote id 0 as well. -/
def pairRecordRemote (s : Daemon) (recordId : Option String) : Except Fault UInt8 := do
  let deviceId ← plistDictForeach (matchDevice recordId) s.remoteDeviceList.entries 0
  pure (deviceId >>> 24).toUInt8

/-- A message about a pair record; a `NULL` record id is no string. -/
def pairRecordMessage (messageType : String) (recordId : Option String) :
    Except Fault Plist :=
  match recordId with
  | none => .error .nullString
  | some rid =>
      .ok (plistDictSetItem (createPlistMessage messageType) "PairRecordID" (.string rid))

/-- The three pair-record functions up to the command and the message. -/
def pairRecordRequest (plat : Platform) (sys : Sys) (s : Daemon) (recordId : Option String)
    (tag : UInt32) (cmd : RemoteCommand) (msg : Except Fault Plist) (c : ClientPtr) :
    Except Fault (Int × Daemon) := do
  let s ← s.lockRemoteList
  let remoteMuxId ← pairRecordRemote s recordId
  forwardRequest plat sys s remoteMuxId tag cmd msg c

def usbmuxRemoteReadPairRecord (plat : Platform) (sys : Sys) (s : Daemon)
    (recordId : Option String) (tag : UInt32) (c : ClientPtr) : Except Fault (Int × Daemon) :=
  pairRecordRequest plat sys s recordId tag .readPairRecord
    (pairRecordMessage "ReadPairRecord" recordId) c

def usbmuxRemoteSavePairRecord (plat : Platform) (sys : Sys) (s : Daemon)
    (recordId : Option String) (reqPlist : Plist) (tag : UInt32) (c : ClientPtr) :
    Except Fault (Int × Daemon) :=
  pairRecordRequest plat sys s recordId tag .savePairRecord (.ok reqPlist) c

def usbmuxRemoteDeletePairRecord (plat : Platform) (sys : Sys) (s : Daemon)
    (recordId : Option String) (tag : UInt32) (c : ClientPtr) : Except Fault (Int × Daemon) :=
  pairRecordRequest plat sys s recordId tag .deletePairRecord
    (pairRecordMessage "DeletePairRecord" recordId) c

end Usbfluxd
