import Usbfluxd.Lib.Exec
import Usbfluxd.Model.Remote

/-!
# Clients: queueing packets, notifications, accepting and closing

The functions of `client.c` below `client_command`. Each sender returns the
C `int`: the number of bytes queued, or -1.
-/

namespace Usbfluxd

open Lib

/-! ## Queueing on a client -/

def sendPktRaw (sys : Sys) (s : Daemon) (c : ClientPtr) (bytes : List UInt8) :
    Except Fault (Int × Daemon) := do
  let x ← s.client c
  match ← queueBytes sys.realloc x.ob bytes with
  | none => pure (-1, s)
  | some ob =>
      pure (bytes.length,
        (s.update (·.setClient c { x with
          ob := ob, events := { x.events with pollout := true } })).emit
          [.queueRaw c bytes])

def sendPkt (sys : Sys) (s : Daemon) (c : ClientPtr) (tag msg : UInt32)
    (payload : Payload) : Except Fault (Int × Daemon) := do
  let x ← s.client c
  let hdr ← packetHeader x.protoVersion tag msg payload
  match ← queueBytes sys.realloc x.ob (hdr.bytes ++ payload.wire) with
  | none => pure (-1, s)
  | some ob =>
      pure (hdr.length.toNat,
        (s.update (·.setClient c { x with
          ob := ob, events := { x.events with pollout := true } })).emit
          [.queue c hdr payload])

def sendPlistPkt (plat : Platform) (sys : Sys) (s : Daemon) (c : ClientPtr)
    (tag : UInt32) (plist : Plist) : Except Fault (Int × Daemon) :=
  match plat.plistToXml plist with
  | none => .ok (-1, s)
  | some xml => sendPkt sys s c tag messagePlist (.plist plist xml)

/-- The dictionary `send_result` sends to a client that speaks plists. -/
def resultPlist (result : UInt32) : Plist :=
  .dict [("MessageType", .string "Result"), ("Number", .uint result.toUInt64)]

def sendResult (plat : Platform) (sys : Sys) (s : Daemon) (c : ClientPtr)
    (tag result : UInt32) : Except Fault (Int × Daemon) := do
  let x ← s.client c
  if x.protoVersion = 1 then
    sendPlistPkt plat sys s c tag (resultPlist result)
  else
    sendPkt sys s c tag messageResult (.binary (le32 result))

/-- `client_send_packet_data`: the header and the payload of a frame, as they
came. -/
def clientSendPacketData (sys : Sys) (s : Daemon) (c : ClientPtr)
    (hdr payload : List UInt8) : Except Fault (Int × Daemon) := do
  let (res, s) ← sendPktRaw sys s c hdr
  if 0 < payload.length then sendPktRaw sys s c payload else pure (res, s)

/-! ## Event masks of a connected client -/

def clientOrEvents (s : Daemon) (c : ClientPtr) (events : PollEvents) :
    Except Fault Daemon := do
  let x ← s.client c
  if x.state ≠ .connected ∧ x.state ≠ .connecting2 then pure s
  else
    s.modifyClient c fun x => { x with
      devents := x.devents.or events
      events := if x.state = .connected then x.events.or events else x.events }

/-! ## Accepting and closing -/

/-- The client `client_accept` allocates. -/
def newClient (fd : Nat) (number : UInt32) : MuxClient :=
  { fd := fd
    ob := Buf.malloc replyBufSize replyBufSize_lt
    ib := Buf.malloc replyBufSize replyBufSize_lt
    events := { pollin := true }
    devents := {}
    connectTag := 0
    connectDevice := 0
    state := .command
    protoVersion := 0
    remote := none
    number := number
    info := none }

/-- `client_accept`, given what `accept` returned. -/
def clientAccept (s : Daemon) (cfd : Option Nat) : Except Fault Daemon :=
  match cfd with
  | none => .ok s
  | some fd => do
      let s ← s.lockClientList
      let s := s.update fun s =>
        { s.addClient (newClient fd s.clientNumber) with clientNumber := s.clientNumber + 1 }
      pure s.unlockClientList

def clientSetRemote (s : Daemon) (c : ClientPtr) (r : RemotePtr) : Except Fault Daemon :=
  s.modifyClient c fun x => { x with remote := some r }

def clientClearRemote (s : Daemon) (c : ClientPtr) : Except Fault Daemon :=
  s.modifyClient c fun x => { x with remote := none }

/-- The part of `client_close` that takes the linked remote down with the
client. -/
def clientCloseRemote (s : Daemon) (c : ClientPtr) : Except Fault Daemon := do
  let x ← s.client c
  match x.remote with
  | none => pure s
  | some _ => do
      let (r, _) ← s.clientRemote c x
      let s ← usbmuxRemoteClearClient s r
      usbmuxRemoteNotifyClientClose s r

def clientClose (s : Daemon) (c : ClientPtr) : Except Fault Daemon := do
  let s ← s.modifyClient c fun x =>
    if x.state = .connecting1 ∨ x.state = .connecting2 then { x with state := .dead } else x
  let s ← clientCloseRemote s c
  let s ← s.lockClientList
  let _ ← s.client c
  let s := s.update (·.dropClient c)
  pure s.unlockClientList

/-- `client_notify_remote_close` does nothing but close the client. -/
def clientNotifyRemoteClose (s : Daemon) (c : ClientPtr) : Except Fault Daemon :=
  clientClose s c

/-! ## Connect results -/

def clientNotifyConnect (plat : Platform) (sys : Sys) (s : Daemon) (c : ClientPtr)
    (result : UInt32) : Except Fault (Int × Daemon) := do
  let x ← s.client c
  if x.state ≠ .connecting1 then pure (-1, s)
  else
    let (res, s) ← sendResult plat sys s c x.connectTag result
    if res < 0 then pure (-1, s)
    else
      let s ← s.modifyClient c fun x =>
        if result = resultOk then
          { x with state := .connecting2, events := { pollout := true }, ib := x.ib.free }
        else { x with state := .command }
      pure (0, s.emit [.notifyConnect c result])

/-! ## Lists sent on request -/

def sendDeviceList (plat : Platform) (sys : Sys) (s : Daemon) (c : ClientPtr)
    (tag : UInt32) : Except Fault (Int × Daemon) := do
  let (devices, s) ← usbmuxRemoteCopyDeviceList s
  sendPlistPkt plat sys s c tag (.dict [("DeviceList", .array devices)])

/-- One entry of the listener list. The number in the identifier is that of
the client who asks. -/
def listenerEntry (number : UInt32) (lc : MuxClient) : Plist :=
  let info (key : String) := lc.info.bind fun i => plistDictGetItem i key
  let progname := ((info "ProgName").bind plistGetStringVal).getD "unknown"
  let version := ((info "kLibUSBMuxVersion").map fun n => plistGetUintVal n 0).getD 0
  .dict
    ([("Blacklisted", .bool false)] ++
     ((info "BundleID").map fun n => ("BundleID", n)).toList ++
     [("ConnType", .uint 0),
      ("ID String", .string (toString number.toNat ++ "-" ++ progname)),
      ("ProgName", .string progname),
      ("kLibUSBMuxVersion", .uint version)])

/-- The `FOREACH` of `send_listener_list`. -/
def listenerEntries (s : Daemon) (number : UInt32) :
    List ClientPtr → Except Fault (List Plist)
  | [] => .ok []
  | c :: rest => do
      let lc ← s.client c
      let entries ← listenerEntries s number rest
      pure (if lc.state = .listen then listenerEntry number lc :: entries else entries)

def sendListenerList (plat : Platform) (sys : Sys) (s : Daemon) (c : ClientPtr)
    (tag : UInt32) : Except Fault (Int × Daemon) := do
  let s ← s.lockClientList
  let x ← s.client c
  let listeners ← listenerEntries s x.number s.clientList.elems
  let s := s.unlockClientList
  sendPlistPkt plat sys s c tag (.dict [("ListenerList", .array listeners)])

/-! ## Device notifications -/

/-- `strncpy` of the serial number into its 256-byte field. -/
def serialField (serial : Option String) : List UInt8 :=
  let bs := ((serial.map fun str => str.toUTF8.data.toList).getD []).take 255
  bs ++ List.replicate (256 - bs.length) 0

/-- `struct usbmuxd_device_record` as `notify_device_add` fills it. -/
def deviceRecord (dev : Plist) : List UInt8 :=
  let uint (node : Option Plist) : UInt64 := (node.map fun n => plistGetUintVal n 0).getD 0
  let prop (key : String) := plistAccessPath dev "Properties" key
  le32 (uint (plistDictGetItem dev "DeviceID")).toUInt32 ++
    le16 (uint (prop "ProductID")).toUInt16 ++
    serialField ((prop "SerialNumber").bind plistGetStringVal) ++
    le16 0 ++
    le32 (uint (prop "LocationID")).toUInt32

def notifyDeviceAdd (plat : Platform) (sys : Sys) (s : Daemon) (c : ClientPtr)
    (dev : Plist) : Except Fault (Int × Daemon) := do
  let x ← s.client c
  if x.protoVersion = 1 then sendPlistPkt plat sys s c 0 dev
  else sendPkt sys s c 0 messageDeviceAdd (.binary (deviceRecord dev))

/-- The dictionary of a `Detached` message. -/
def detachedPlist (deviceId : UInt32) : Plist :=
  .dict [("MessageType", .string "Detached"), ("DeviceID", .uint deviceId.toUInt64)]

def notifyDeviceRemove (plat : Platform) (sys : Sys) (s : Daemon) (c : ClientPtr)
    (deviceId : UInt32) : Except Fault (Int × Daemon) := do
  let x ← s.client c
  if x.protoVersion = 1 then sendPlistPkt plat sys s c 0 (detachedPlist deviceId)
  else sendPkt sys s c 0 messageDeviceRemove (.binary (le32 deviceId))

/-- The loop of `start_listen`: it stops at the first notification that
cannot be queued. -/
def startListenLoop (plat : Platform) (sys : Sys) (c : ClientPtr) :
    List Plist → Int → Daemon → Except Fault (Int × Daemon)
  | [], count, s => .ok (count, s)
  | dev :: rest, count, s => do
      let (res, s) ← notifyDeviceAdd plat sys s c dev
      if res < 0 then pure (count, s)
      else startListenLoop plat sys c rest (count + 1) s

/-- `start_listen` returns how many devices it announced. -/
def startListen (plat : Platform) (sys : Sys) (s : Daemon) (c : ClientPtr) :
    Except Fault (Int × Daemon) := do
  let s ← s.modifyClient c fun x => { x with state := .listen }
  let s := s.emit [.listen c]
  let (devices, s) ← usbmuxRemoteCopyDeviceList s
  startListenLoop plat sys c devices 0 s

/-- The `FOREACH` shared by `client_device_add` and `client_device_remove`:
`notify` every listening client and ignore what it returns. -/
def forListeningClients (notify : Daemon → ClientPtr → Except Fault (Int × Daemon))
    (s : Daemon) : Except Fault Daemon := do
  let s ← s.lockClientList
  let s ← slotLoop (fun s i => s.clientList.slot i)
    (fun s c => do
      let x ← s.client c
      if x.state = .listen then
        let (_, s) ← notify s c
        pure s
      else pure s)
    (List.range s.clientList.capacity) s
  pure s.unlockClientList

def clientDeviceAdd (plat : Platform) (sys : Sys) (s : Daemon) (dev : Plist) :
    Except Fault Daemon :=
  forListeningClients (fun s c => notifyDeviceAdd plat sys s c dev) s

def clientDeviceRemove (plat : Platform) (sys : Sys) (s : Daemon) (deviceId : UInt32) :
    Except Fault Daemon :=
  forListeningClients (fun s c => notifyDeviceRemove plat sys s c deviceId) s

end Usbfluxd
