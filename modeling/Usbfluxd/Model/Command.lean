import Usbfluxd.Model.Request

/-!
# Clients: commands and socket events

`client_command` with its plist and binary branches, the frame reader shared
by `process_recv` and `remote_process_recv`, and `client_process`.

A command returns the C `int` that decides whether `process_recv` takes the
frame out of the input buffer: only 0 does.
-/

namespace Usbfluxd

open Lib

/-! ## Reading a frame -/

/-- How an attempt to complete a frame ends: the stream is over or the frame
is refused, bytes are still missing, or the frame is there. -/
inductive ReadOutcome where
  | dead | more | frame
deriving DecidableEq

structure ReadFrame where
  ib : Buf
  /-- What `recv` returned. -/
  got : List UInt8
  /-- The bytes came in the body phase. -/
  bodyRead : Bool
  outcome : ReadOutcome

/-- `recv` to the fill level of a buffer: `none` for an error or end of
stream. The kernel refuses to write through `NULL`. -/
def recvInto (sys : Sys) (b : Buf) (len : Nat) : Except Fault (Option (List UInt8 × Buf)) :=
  if b.isNull then .ok none
  else
    match sys.recvUpTo len with
    | none => .ok none
    | some [] => .ok none
    | some bs =>
        if h : b.size + bs.length ≤ b.capacity then .ok (some (bs, b.append bs h))
        else .error .outOfBounds

/-- The header of the frame a buffer starts with. -/
def bufHeader (plat : Platform) (b : Buf) : Header := headerAt (b.byteAt plat.uninit)

/-- The second half of the two receive functions, once the header is there.
`got` is what the header phase received, if it received anything. -/
def readBody (plat : Platform) (sys : Sys) (got : Option (List UInt8)) (b : Buf) :
    Except Fault ReadFrame :=
  if b.isNull then .error .nullBuffer
  else
    let len := (bufHeader plat b).length.toNat
    if len > b.capacity ∨ len < headerSize then .ok ⟨b, got.getD [], false, .dead⟩
    else if b.size < len then
      match got with
      | some bs => .ok ⟨b, bs, false, .more⟩  -- maybe we would block
      | none => do
          match ← recvInto sys b (len - b.size) with
          | none => pure ⟨b, [], false, .dead⟩
          | some (bs, b) => pure ⟨b, bs, true, if b.size < len then .more else .frame⟩
    else .ok ⟨b, got.getD [], false, .frame⟩

/-- `process_recv` and `remote_process_recv` up to the point where they act
on the frame. -/
def readFrame (plat : Platform) (sys : Sys) (b : Buf) : Except Fault ReadFrame :=
  if b.size < headerSize then do
    match ← recvInto sys b (headerSize - b.size) with
    | none => pure ⟨b, [], false, .dead⟩
    | some (bs, b) =>
        if b.size < headerSize then pure ⟨b, bs, false, .more⟩
        else readBody plat sys (some bs) b
  else readBody plat sys none b

/-! ## Commands -/

/-- `if (send_result(...) < 0) return -1; return 0;`. -/
def reply (plat : Platform) (sys : Sys) (s : Daemon) (c : ClientPtr) (tag result : UInt32) :
    Except Fault (Int × Daemon) := do
  let (res, s) ← sendResult plat sys s c tag result
  pure (if res < 0 then -1 else 0, s)

/-- The `Listen` command in either protocol. -/
def clientListen (plat : Platform) (sys : Sys) (s : Daemon) (c : ClientPtr) (tag : UInt32) :
    Except Fault (Int × Daemon) := do
  let (res, s) ← sendResult plat sys s c tag resultOk
  if res < 0 then pure (-1, s) else startListen plat sys s c

/-- The `Connect` command in either protocol, once the device id is known. -/
def clientConnect (plat : Platform) (sys : Sys) (s : Daemon) (c : ClientPtr)
    (tag deviceId : UInt32) (req : Plist) : Except Fault (Int × Daemon) := do
  let (res, s) ← usbmuxRemoteConnect plat sys s deviceId req c
  if res < 0 then
    reply plat sys s c tag (UInt32.ofNat res.natAbs)
  else
    let s ← s.modifyClient c fun x => { x with
      connectTag := tag, connectDevice := deviceId, state := .connecting1 }
    pure (0, s)

/-- The dictionary `update_client_info` keeps of a request. -/
def clientInfo (dict : Plist) : Plist :=
  let str (key : String) : List (String × Plist) :=
    match plistDictGetItem dict key with
    | some (.string v) => [(key, .string v)]
    | _ => []
  .dict (str "BundleID" ++ str "ClientVersionString" ++ str "ProgName" ++
    match plistDictGetItem dict "kLibUSBMuxVersion" with
    | some (.uint n) => [("kLibUSBMuxVersion", .uint n)]
    | _ => [])

/-- A device id or port number in a request: `none` when the key is missing,
0 when it holds no number. -/
def requestUint (dict : Plist) (key : String) : Option UInt64 :=
  (plistDictGetItem dict key).map fun n => plistGetUintVal n 0

/-- The plist `Connect` command. -/
def plistConnect (plat : Platform) (sys : Sys) (s : Daemon) (c : ClientPtr) (tag : UInt32)
    (dict : Plist) : Except Fault (Int × Daemon) :=
  match requestUint dict "DeviceID" with
  | none => reply plat sys s c tag resultBadDev
  | some deviceId =>
      match requestUint dict "PortNumber" with
      | none => reply plat sys s c tag resultBadCommand
      | some _ => clientConnect plat sys s c tag deviceId.toUInt32 dict

/-- The host and port of an `AddInstance` or `RemoveInstance` request. -/
def instanceRequest (dict : Plist) : Option (String × UInt16) :=
  match plistDictCopyStringVal dict "HostAddress", requestUint dict "PortNumber" with
  | some host, some port => some (host, port.toUInt16)
  | _, _ => none

def addInstance (plat : Platform) (sys : Sys) (s : Daemon) (c : ClientPtr) (tag : UInt32)
    (dict : Plist) : Except Fault (Int × Daemon) :=
  match instanceRequest dict with
  | none => reply plat sys s c tag resultBadCommand
  | some (host, port) => do
      let (rv, s) ← usbmuxRemoteAddRemote plat sys s host port
      reply plat sys s c tag
        (if rv < 0 then if rv = -2 then resultBadDev else resultConnRefused else resultOk)

def removeInstance (plat : Platform) (sys : Sys) (s : Daemon) (c : ClientPtr) (tag : UInt32)
    (dict : Plist) : Except Fault (Int × Daemon) :=
  match instanceRequest dict with
  | none => reply plat sys s c tag resultBadCommand
  | some (host, port) => do
      let (rv, s) ← usbmuxRemoteRemoveRemote plat sys s host port
      reply plat sys s c tag (if rv < 0 then resultBadDev else resultOk)

/-- `if (res < 0) return -1; return 0;`. -/
def zeroOrFail (r : Int × Daemon) : Int × Daemon := (if r.1 < 0 then -1 else 0, r.2)

/-- The plist branch of `client_command`, by message type. -/
def plistCommand (plat : Platform) (sys : Sys) (s : Daemon) (c : ClientPtr) (tag : UInt32)
    (message : String) (dict : Plist) : Except Fault (Int × Daemon) :=
  let recordId := plistDictCopyStringVal dict "PairRecordID"
  if message = "Listen" then clientListen plat sys s c tag
  else if message = "Connect" then plistConnect plat sys s c tag dict
  else if message = "ListDevices" then zeroOrFail <$> sendDeviceList plat sys s c tag
  else if message = "ListListeners" then zeroOrFail <$> sendListenerList plat sys s c tag
  else if message = "ReadBUID" then do
    let (_, s) ← usbmuxRemoteReadBuid plat sys s tag c
    pure (0, s)
  else if message = "ReadPairRecord" then
    zeroOrFail <$> usbmuxRemoteReadPairRecord plat sys s recordId tag c
  else if message = "SavePairRecord" then
    zeroOrFail <$> usbmuxRemoteSavePairRecord plat sys s recordId dict tag c
  else if message = "DeletePairRecord" then
    zeroOrFail <$> usbmuxRemoteDeletePairRecord plat sys s recordId tag c
  else if message = "Instances" then zeroOrFail <$> sendInstances plat sys s c tag
  else if message = "AddInstance" then addInstance plat sys s c tag dict
  else if message = "RemoveInstance" then removeInstance plat sys s c tag dict
  else reply plat sys s c tag resultBadCommand

/-- The dictionary made of a binary connect request. -/
def connectPlist (deviceId : UInt32) (port : UInt16) : Plist :=
  .dict [("MessageType", .string "Connect"), ("DeviceID", .uint deviceId.toUInt64),
    ("PortNumber", .uint port.toUInt64)]

/-- The payload bytes of the frame a buffer starts with. -/
def bufPayload (plat : Platform) (b : Buf) : List UInt8 :=
  b.slice plat.uninit headerSize ((bufHeader plat b).length.toNat - headerSize)

/-- The frame a buffer starts with. -/
def bufFrame (plat : Platform) (b : Buf) : List UInt8 :=
  b.slice plat.uninit 0 (bufHeader plat b).length.toNat

/-- `client_command`, on the frame at the start of the client's input
buffer. -/
def clientCommand (plat : Platform) (sys : Sys) (s : Daemon) (c : ClientPtr) :
    Except Fault (Int × Daemon) := do
  let x ← s.client c
  let hdr := bufHeader plat x.ib
  let s := s.emit [.command c (bufFrame plat x.ib)]
  if x.state ≠ .command then
    let (res, s) ← sendResult plat sys s c hdr.tag resultBadCommand
    if res < 0 then pure (-1, s)
    else
      let s ← clientClose s c
      pure (-1, s)
  else if hdr.version ≠ 0 ∧ hdr.version ≠ 1 then
    let (_, s) ← sendResult plat sys s c hdr.tag resultBadVersion
    pure (0, s)
  else if hdr.message = messagePlist then
    let s ← s.modifyClient c fun x => { x with protoVersion := 1 }
    match plat.plistFromXml (bufPayload plat x.ib) with
    | none => pure (-1, s)
    | some dict =>
        match plistDictCopyStringVal dict "MessageType" with
        | none => pure (-1, s)
        | some message =>
            let s ← s.modifyClient c fun x => { x with info := some (clientInfo dict) }
            plistCommand plat sys s c hdr.tag message dict
  else if hdr.message = messageListen then clientListen plat sys s c hdr.tag
  else if hdr.message = messageConnect then
    -- the request is read from the buffer however short the frame is
    let deviceId := le32At (x.ib.byteAt plat.uninit) headerSize
    let port := le16At (x.ib.byteAt plat.uninit) (headerSize + 4)
    clientConnect plat sys s c hdr.tag deviceId (connectPlist deviceId port)
  else reply plat sys s c hdr.tag resultBadCommand

/-! ## Socket events -/

/-- The log entry for received bytes, none when nothing was received. -/
def recvActs (act : List UInt8 → Act) (bs : List UInt8) : List Act :=
  if bs = [] then [] else [act bs]

def processRecv (plat : Platform) (sys : Sys) (s : Daemon) (c : ClientPtr) :
    Except Fault Daemon := do
  let x ← s.client c
  let rf ← readFrame plat sys x.ib
  let s := (s.update (·.setClient c { x with ib := rf.ib })).emit
    (recvActs (.clientRecv c) rf.got)
  match rf.outcome with
  | .dead => clientClose s c
  | .more => pure s
  | .frame => do
      let (res, s) ← clientCommand plat sys s c
      if res = 0 then s.modifyClient c fun x => { x with ib := x.ib.reset } else pure s

/-- What `send` takes from an output buffer; a freed one is refused. -/
def sendFrom (sys : Sys) (b : Buf) : Option Nat :=
  if b.isNull then none else sys.sendUpTo b.size

def processSend (sys : Sys) (s : Daemon) (c : ClientPtr) : Except Fault Daemon := do
  let x ← s.client c
  if x.ob.size = 0 then
    s.modifyClient c fun x => { x with events := { x.events with pollout := false } }
  else
    match sendFrom sys x.ob with
    | none => clientClose s c
    | some n =>
        let s := s.emit [.clientSend c (x.ob.data.take n)]
        if n ≠ x.ob.size then
          s.modifyClient c fun x => { x with ob := x.ob.consume n }
        else if x.state ≠ .connecting2 then
          s.modifyClient c fun x => { x with
            ob := x.ob.reset, events := { x.events with pollout := false } }
        else
          -- the log line prints client->remote->fd
          let _ ← s.clientRemote c x
          s.modifyClient c fun x => { x with
            ob := x.ob.reset.free
            state := .connected
            events := { x.devents with pollin := true } }

/-- The `POLLIN` half of a connected client: read into the remote's output
buffer. -/
def clientRelayRead (sys : Sys) (s : Daemon) (c : ClientPtr) (x : MuxClient) :
    Except Fault Daemon := do
  let (r, y) ← s.clientRemote c x
  if y.ob.capacity - y.ob.size = 0 then pure s
  else
    match ← recvInto sys y.ob (y.ob.capacity - y.ob.size) with
    | none => clientClose s c
    | some (bs, ob) =>
        let s := s.update (·.setRemote r { y with
          ob := ob, events := { y.events with pollout := true } })
        let s := s.update (·.setClient c { x with events := { x.events with pollin := false } })
        pure (s.emit [.clientRead c bs])

/-- The `POLLOUT` half of a connected client: write from the remote's input
buffer. -/
def clientRelayWrite (sys : Sys) (s : Daemon) (c : ClientPtr) (x : MuxClient) :
    Except Fault Daemon := do
  let (r, y) ← s.clientRemote c x
  if y.ib.size = 0 then pure s
  else
    match sendFrom sys y.ib with
    | none => clientClose s c
    | some n =>
        let s := s.emit [.clientWrite c (y.ib.data.take n)]
        if n = y.ib.size then
          let s := s.update (·.setRemote r { y with ib := y.ib.reset })
          pure (s.update (·.setClient c { x with
            events := { x.events with pollout := false, pollin := true } }))
        else pure (s.update (·.setRemote r { y with ib := y.ib.consume n }))

/-- The client with a descriptor: the first of the list that has it. -/
def findClient (s : Daemon) (fd : Nat) :
    List ClientPtr → Except Fault (Option (ClientPtr × MuxClient))
  | [] => .ok none
  | c :: rest => do
      let x ← s.client c
      if x.fd = fd then pure (some (c, x)) else findClient s fd rest

def clientProcess (plat : Platform) (sys : Sys) (s : Daemon) (fd : Nat)
    (events : PollEvents) : Except Fault Daemon := do
  let s ← s.lockClientList
  let found ← findClient s fd s.clientList.elems
  let s := s.unlockClientList
  match found with
  | none => pure s
  | some (c, x) =>
      if x.state = .connected then
        if events.pollin then clientRelayRead sys s c x
        else if events.pollout then clientRelayWrite sys s c x
        else pure s
      else if events.pollin then processRecv plat sys s c
      else if events.pollout then processSend sys s c
      else pure s

end Usbfluxd
