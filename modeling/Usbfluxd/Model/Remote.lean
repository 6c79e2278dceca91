import Usbfluxd.Model.State

/-!
# Remotes: making, filling and closing them

The functions of `usbmux_remote.c` that touch nothing but one remote and the
device dictionary: making a connection, queueing a packet on it, taking it
out of the list. The enlarging of an output buffer is shared by
`remote_send_pkt` here and by `send_pkt` and `send_pkt_raw` of `client.c`,
which compute it in the same way.
-/

namespace Usbfluxd

open Lib

/-- `REPLY_BUF_SIZE`, and `CMD_BUF_SIZE`, which is the same. -/
def replyBufSize : Nat := 0x10000

theorem replyBufSize_lt : replyBufSize < 2 ^ 32 := by decide

theorem replyBufSize_mul_lt : replyBufSize * 8 < 2 ^ 32 := by decide

/-! ## Output buffers -/

/-- `((capacity + length + 4096) / 4096) * 4096` in 32-bit arithmetic. -/
def enlargedSize (capacity length : Nat) : Nat :=
  (capacity + length + 4096) % 2 ^ 32 / 4096 * 4096

theorem enlargedSize_lt {capacity length : Nat} : enlargedSize capacity length < 2 ^ 32 := by
  rw [enlargedSize]
  have := Nat.mod_lt (capacity + length + 4096) (show 2 ^ 32 > 0 by decide)
  omega

theorem size_le_of_room {b : Buf} {bs : List UInt8} {n : Nat} (h : b.size + bs.length ≤ n) :
    b.size ≤ n :=
  Nat.le_of_add_right_le h

theorem room_of_not_lt {b : Buf} {bs : List UInt8} (h : ¬ b.capacity - b.size < bs.length) :
    b.size + bs.length ≤ b.capacity := by
  have hle := b.size_le
  rw [Buf.size] at h ⊢
  omega

/-- Append to an output buffer, enlarging it first when the bytes do not fit:
`none` when `realloc` fails. The copy runs past the end when the new size
wrapped around, and through `NULL` when the buffer was freed. -/
def queueBytes (realloc : Nat → Bool) (b : Buf) (bs : List UInt8) :
    Except Fault (Option Buf) :=
  if hroom : b.capacity - b.size < bs.length then
    if realloc (enlargedSize b.capacity bs.length) then
      if h : b.size + bs.length ≤ enlargedSize b.capacity bs.length then
        .ok (some ((b.resize (enlargedSize b.capacity bs.length) (size_le_of_room h)
          enlargedSize_lt).append bs h))
      else .error .outOfBounds
    else .ok none
  else if b.isNull then .error .nullBuffer
  else .ok (some (b.append bs (room_of_not_lt hroom)))

/-- The header of a packet, whose `int` length must not overflow. -/
def packetHeader (version tag message : UInt32) (payload : Payload) :
    Except Fault Header :=
  if headerSize + payload.wire.length < 2 ^ 31 then
    .ok { length := UInt32.ofNat (headerSize + payload.wire.length)
          version := version, message := message, tag := tag }
  else .error .intOverflow

/-! ## New remotes -/

/-- `remote_mux_new_with_fd`. The two `fcntl` calls count as part of the
connection attempt. -/
def remoteMuxNewWithFd (sys : Sys) (fd : Nat) : RemoteMux :=
  { fd := fd
    ob := Buf.malloc replyBufSize replyBufSize_lt
    ib := Buf.malloc (replyBufSize * 8) replyBufSize_mul_lt
    events := { pollin := true }
    devents := {}
    state := .command
    lastCommand := none
    id := 0
    isListener := false
    serviceName := none
    isUnix := false
    host := none
    port := 0
    client := none
    lastActive := sys.now }

/-- `remote_mux_new_with_unix_socket(USBMUXD_RENAMED_SOCKET)`. -/
def remoteMuxNewWithUnixSocket (sys : Sys) : Option RemoteMux :=
  sys.connect.map fun fd => { remoteMuxNewWithFd sys fd with isUnix := true }

/-- `remote_mux_new_with_host`: `socket_connect_timeout` refuses a `NULL`
host. -/
def remoteMuxNewWithHost (sys : Sys) (host : Option String) (port : UInt16) :
    Option RemoteMux :=
  host.bind fun hostname => sys.connect.map fun fd =>
    { remoteMuxNewWithFd sys fd with host := some hostname, port := port }

/-! ## Queueing on a remote -/

/-- `VERSION` of the build, as it appears in the client version string. -/
def clientVersionString : String := "usbfluxd 1.2.0"

def createPlistMessage (messageType : String) : Plist :=
  .dict
    [("BundleID", .string "com.corellium.usbfluxd"),
     ("ClientVersionString", .string clientVersionString),
     ("MessageType", .string messageType),
     ("ProgName", .string "usbfluxd"),
     ("kLibUSBMuxVersion", .uint 3)]

def remoteSendPkt (sys : Sys) (s : Daemon) (r : RemotePtr) (tag msg : UInt32)
    (payload : Payload) : Except Fault (Int × Daemon) := do
  let hdr ← packetHeader 1 tag msg payload
  let x ← s.remote r
  match ← queueBytes sys.realloc x.ob (hdr.bytes ++ payload.wire) with
  | none => pure (-1, s)
  | some ob =>
      pure (hdr.length.toNat,
        (s.update (·.setRemote r { x with
          ob := ob, events := { x.events with pollout := true } })).emit
          [.remoteQueue r hdr payload])

def remoteSendPlistPkt (plat : Platform) (sys : Sys) (s : Daemon) (r : RemotePtr)
    (tag : UInt32) (plist : Plist) : Except Fault (Int × Daemon) :=
  match plat.plistToXml plist with
  | none => .ok (-1, s)
  | some xml => remoteSendPkt sys s r tag messagePlist (.plist plist xml)

def remoteSendListenPacket (plat : Platform) (sys : Sys) (s : Daemon)
    (r : RemotePtr) : Except Fault (Int × Daemon) := do
  let (res, s) ← remoteSendPlistPkt plat sys s r 0 (createPlistMessage "Listen")
  if 0 < res then
    let s ← s.modifyRemote r fun x => { x with lastCommand := some .listen }
    pure (res, s)
  else pure (res, s)

/-! ## Leaving the list -/

/-- `remote_close`: the caller holds the list mutex. -/
def remoteClose (s : Daemon) (r : RemotePtr) : Except Fault Daemon := do
  let _ ← s.remote r
  pure (s.update (·.dropRemote r))

def usbmuxRemoteClearClient (s : Daemon) (r : RemotePtr) : Except Fault Daemon :=
  s.modifyRemote r fun x => { x with client := none }

def usbmuxRemoteNotifyClientClose (s : Daemon) (r : RemotePtr) : Except Fault Daemon := do
  let s ← s.lockRemoteList
  let s ← remoteClose s r
  pure s.unlockRemoteList

/-- `usbmux_remote_copy_device_list`: the devices in dictionary order. -/
def usbmuxRemoteCopyDeviceList (s : Daemon) : Except Fault (List Plist × Daemon) := do
  let s ← s.lockRemoteList
  pure (s.remoteDeviceList.values, s.unlockRemoteList)

end Usbfluxd
