import Mathlib.Logic.Function.Basic
import Mathlib.Data.List.Basic
import Usbfluxd.Lib.Buf
import Usbfluxd.Model.Plist

/-!
# The daemon's data

Structures of `client.c`, `usbmux_remote.h`, `usbmuxd-proto.h` and
`utils.h`, and the state the daemon keeps in its globals.

Clients and remotes are heap objects: a pointer is a block identifier that is
never handed out twice, the two heaps say which blocks are live, and the two
collections hold pointers. Reading or writing a freed block is undefined
behaviour and ends the run with a `Fault`, as do the other things the C code
can do that C does not define.

Besides the globals the state carries a log of what the daemon did at its
sockets and queues. Nothing in the code reads it; it is what statements about
whole runs are made of. The two list mutexes are kept apart from the rest in
`Daemon`, since no data ever depends on them.
-/

namespace Usbfluxd

open Lib

/-! ## Protocol constants -/

/-- `enum usbmuxd_result`. -/
def resultOk : UInt32 := 0
def resultBadCommand : UInt32 := 1
def resultBadDev : UInt32 := 2
def resultConnRefused : UInt32 := 3
def resultBadVersion : UInt32 := 6

/-- `enum usbmuxd_msgtype`. -/
def messageResult : UInt32 := 1
def messageConnect : UInt32 := 2
def messageListen : UInt32 := 3
def messageDeviceAdd : UInt32 := 4
def messageDeviceRemove : UInt32 := 5
def messagePlist : UInt32 := 8

/-- `struct usbmuxd_header`. -/
structure Header where
  length : UInt32
  version : UInt32
  message : UInt32
  tag : UInt32
deriving DecidableEq

/-- `sizeof(struct usbmuxd_header)`. -/
def headerSize : Nat := 16

/-- The header as it goes over the wire. -/
def Header.bytes (h : Header) : List UInt8 :=
  le32 h.length ++ le32 h.version ++ le32 h.message ++ le32 h.tag

/-- The header at the start of a buffer. -/
def headerAt (mem : Nat → UInt8) : Header :=
  { length := le32At mem 0
    version := le32At mem 4
    message := le32At mem 8
    tag := le32At mem 12 }

theorem length_headerBytes (h : Header) : h.bytes.length = 16 := rfl

/-- What `send_pkt` puts after the header. The XML of a property list
remembers the list it was made from. -/
inductive Payload where
  | plist (p : Plist) (xml : List UInt8)
  | binary (bytes : List UInt8)

/-- The payload as it goes over the wire. -/
def Payload.wire : Payload → List UInt8
  | .plist _ xml => xml
  | .binary bytes => bytes

/-- The events of `poll`: `POLLIN`, `POLLOUT`, `POLLERR`, `POLLHUP` and
`POLLNVAL`. -/
structure PollEvents where
  pollin : Bool := false
  pollout : Bool := false
  pollerr : Bool := false
  pollhup : Bool := false
  pollnval : Bool := false
deriving DecidableEq

def PollEvents.or (a b : PollEvents) : PollEvents :=
  { pollin := a.pollin || b.pollin
    pollout := a.pollout || b.pollout
    pollerr := a.pollerr || b.pollerr
    pollhup := a.pollhup || b.pollhup
    pollnval := a.pollnval || b.pollnval }

/-! ## Clients and remotes -/

structure ClientPtr where
  block : Nat
deriving DecidableEq

structure RemotePtr where
  block : Nat
deriving DecidableEq

/-- `enum client_state`. -/
inductive ClientState where
  | command | listen | connecting1 | connecting2 | connected | dead
deriving DecidableEq

/-- `enum remote_state`. -/
inductive RemoteState where
  | command | listen | connecting1 | connecting2 | connected | dead
deriving DecidableEq

/-- `enum remote_command`. -/
inductive RemoteCommand where
  | listen | readPairRecord | savePairRecord | deletePairRecord | readBuid
deriving DecidableEq

/-- `struct mux_client`, with each buffer's pointer, size and capacity as one
`Buf`. -/
structure MuxClient where
  fd : Nat
  ob : Buf
  ib : Buf
  events : PollEvents
  devents : PollEvents
  connectTag : UInt32
  connectDevice : UInt32
  state : ClientState
  protoVersion : UInt32
  remote : Option RemotePtr
  number : UInt32
  info : Option Plist

/-- `struct remote_mux`. `lastCommand` is `none` for the values 0 and -1. -/
structure RemoteMux where
  fd : Nat
  ob : Buf
  ib : Buf
  events : PollEvents
  devents : PollEvents
  state : RemoteState
  lastCommand : Option RemoteCommand
  id : UInt8
  isListener : Bool
  serviceName : Option String
  isUnix : Bool
  host : Option String
  port : UInt16
  client : Option ClientPtr
  lastActive : Nat

/-! ## Collections

`struct collection` of `utils.c`: a growing array of slots, `NULL` where
nothing is stored. -/

structure Collection (α : Type) where
  slots : List (Option α)

def capacityStep : Nat := 8

namespace Collection

variable {α : Type} [DecidableEq α]

def init : Collection α := ⟨List.replicate capacityStep none⟩

/-- Store in the first free slot of a list, or report that there is none. -/
def fillSlot (x : α) : List (Option α) → Option (List (Option α))
  | [] => none
  | none :: rest => some (some x :: rest)
  | some y :: rest => (fillSlot x rest).map (some y :: ·)

/-- `collection_add`: the first free slot, or the first of eight new ones. -/
def add (col : Collection α) (x : α) : Collection α :=
  match fillSlot x col.slots with
  | some slots => ⟨slots⟩
  | none => ⟨col.slots ++ some x :: List.replicate (capacityStep - 1) none⟩

/-- Clear the first slot that holds an element. -/
def clearSlot (x : α) : List (Option α) → List (Option α)
  | [] => []
  | y :: rest => if y = some x then none :: rest else y :: clearSlot x rest

/-- `collection_remove`: an absent element changes nothing. -/
def remove (col : Collection α) (x : α) : Collection α := ⟨clearSlot x col.slots⟩

/-- The stored elements in slot order. -/
def elems (col : Collection α) : List α := col.slots.filterMap id

def capacity (col : Collection α) : Nat := col.slots.length

/-- The element of a slot, if it is below the capacity and occupied. -/
def slot (col : Collection α) (i : Nat) : Option α := (col.slots[i]?).join

end Collection

/-! ## Remote ids

`remote_id_map`, one bit for each of the 256 ids. -/

abbrev IdMap := Fin 32 → UInt8

/-- `idval >> 3`. -/
def idByte (id : UInt8) : Fin 32 :=
  ⟨(id >>> 3).toNat, by
    have h := id.toNat_lt
    rw [UInt8.toNat_shiftRight, Nat.shiftRight_eq_div_pow]
    exact Nat.div_lt_of_lt_mul h⟩

/-- `1 << (idval & 7)`. -/
def idBit (id : UInt8) : UInt8 := 1 <<< (id &&& 7)

/-- `remote_id_map[i >> 3] & (1 << (i & 7))`. -/
def idUsed (m : IdMap) (id : UInt8) : Bool := m (idByte id) &&& idBit id ≠ 0

def setRemoteIdUsed (m : IdMap) (id : UInt8) (used : Bool) : IdMap :=
  Function.update m (idByte id)
    (if used then m (idByte id) ||| idBit id else m (idByte id) &&& ~~~ idBit id)

/-- `get_new_remote_id`: the first free id from 1 on, 0 when there is none. -/
def getNewRemoteId (m : IdMap) : UInt8 :=
  (((List.range' 1 255).map UInt8.ofNat).find? fun i => !idUsed m i).getD 0

/-! ## The log -/

/-- What the daemon does at its queues and sockets. -/
inductive Act where
  /-- `send_pkt` appended a packet to a client's output buffer. -/
  | queue (c : ClientPtr) (hdr : Header) (payload : Payload)
  /-- `send_pkt_raw` appended bytes to a client's output buffer. -/
  | queueRaw (c : ClientPtr) (bytes : List UInt8)
  /-- `recv` of `process_recv`. -/
  | clientRecv (c : ClientPtr) (bytes : List UInt8)
  /-- `send` of `process_send`. -/
  | clientSend (c : ClientPtr) (bytes : List UInt8)
  /-- `client_read` of a connected client. -/
  | clientRead (c : ClientPtr) (bytes : List UInt8)
  /-- `client_write` to a connected client. -/
  | clientWrite (c : ClientPtr) (bytes : List UInt8)
  /-- `client_command` was entered with a frame. -/
  | command (c : ClientPtr) (frame : List UInt8)
  /-- `start_listen`. -/
  | listen (c : ClientPtr)
  /-- `client_notify_connect` queued its result. -/
  | notifyConnect (c : ClientPtr) (result : UInt32)
  /-- A remote was opened for a client, in the state it starts with:
  `REMOTE_CONNECTING1` for a connect request. -/
  | openRemote (c : ClientPtr) (r : RemotePtr) (state : RemoteState)
  /-- `remote_send_pkt` appended a packet to a remote's output buffer. -/
  | remoteQueue (r : RemotePtr) (hdr : Header) (payload : Payload)
  /-- `send` of `remote_process_send`. -/
  | remoteSend (r : RemotePtr) (bytes : List UInt8)
  /-- `recv` of `remote_process_recv`. -/
  | remoteRecv (r : RemotePtr) (bytes : List UInt8)
  /-- A remote entered `REMOTE_CONNECTED`. -/
  | remoteConnected (r : RemotePtr)
  /-- `recv` on a connected remote. -/
  | relayRecv (r : RemotePtr) (bytes : List UInt8)
  /-- `remote_handle_command_result` was entered with a frame. -/
  | frame (r : RemotePtr) (bytes : List UInt8)

/-! ## The state -/

/-- The daemon's globals and heap, without the mutexes. -/
structure Core where
  clients : ClientPtr → Option MuxClient
  remotes : RemotePtr → Option RemoteMux
  clientList : Collection ClientPtr
  remoteList : Collection RemotePtr
  clientNumber : UInt32
  remoteDeviceList : OMap String Plist
  remoteIdMap : IdMap
  nextClient : Nat
  nextRemote : Nat
  log : List Act

/-- The state with the two list mutexes: whether the running thread holds
them. -/
structure Daemon extends Core where
  remoteListLocked : Bool
  clientListLocked : Bool

/-- The ways a run ends in undefined behaviour or a deadlock. -/
inductive Fault where
  /-- A freed client is read or written. -/
  | freedClient (c : ClientPtr)
  /-- A freed remote is read or written. -/
  | freedRemote (r : RemotePtr)
  /-- `client->remote` is dereferenced while `NULL` or freed. -/
  | clientRemote (c : ClientPtr)
  /-- `remote->client` is dereferenced while `NULL` or freed. -/
  | remoteClient (r : RemotePtr)
  /-- A freed buffer is written or read. -/
  | nullBuffer
  /-- A copy runs past the end of its buffer. -/
  | outOfBounds
  /-- A packet length does not fit an `int`. -/
  | intOverflow
  /-- A pointer taken from the wire is dereferenced. -/
  | wildPointer
  /-- `NULL` is used as a string. -/
  | nullString
  /-- A mutex is locked by the thread that holds it. -/
  | relock
  /-- `remote_list_mutex` is requested by a thread that holds
  `client_list_mutex`: with the other order elsewhere, two threads can then
  wait for each other. -/
  | lockOrder
deriving DecidableEq

/-- The results of the system calls made while one event is handled. A call
that asks for `n` bytes gets at most `n` of what is offered here. -/
structure Sys where
  /-- `recv`: `none` for an error, the empty list for end of stream. -/
  recv : Option (List UInt8) := none
  /-- `send`: `none` for an error, else how many bytes the socket takes. -/
  send : Option Nat := none
  /-- The descriptor of a connection attempt, `none` when it fails. -/
  connect : Option Nat := none
  /-- Whether `realloc` to a size succeeds. -/
  realloc : Nat → Bool := fun _ => true
  /-- `mstime64`. -/
  now : Nat := 0

/-- `recv(fd, buf, len, 0)`. -/
def Sys.recvUpTo (sys : Sys) (len : Nat) : Option (List UInt8) :=
  sys.recv.map (List.take len)

/-- `send(fd, buf, len, 0)`: the number of bytes sent, `none` when it is not
positive. -/
def Sys.sendUpTo (sys : Sys) (len : Nat) : Option Nat :=
  (sys.send.map (min len)).filter (0 < ·)

namespace Core

def setClient (s : Core) (c : ClientPtr) (x : MuxClient) : Core :=
  { s with clients := Function.update s.clients c (some x) }

def setRemote (s : Core) (r : RemotePtr) (x : RemoteMux) : Core :=
  { s with remotes := Function.update s.remotes r (some x) }

def emit (s : Core) (acts : List Act) : Core := { s with log := s.log ++ acts }

/-- `collection_remove` and `free` of a client. -/
def dropClient (s : Core) (c : ClientPtr) : Core :=
  { s with
    clients := Function.update s.clients c none
    clientList := s.clientList.remove c }

/-- `collection_remove` and `free` of a remote. -/
def dropRemote (s : Core) (r : RemotePtr) : Core :=
  { s with
    remotes := Function.update s.remotes r none
    remoteList := s.remoteList.remove r }

/-- `malloc` and `collection_add` of a client. -/
def addClient (s : Core) (x : MuxClient) : Core :=
  { s with
    clients := Function.update s.clients ⟨s.nextClient⟩ (some x)
    clientList := s.clientList.add ⟨s.nextClient⟩
    nextClient := s.nextClient + 1 }

/-- `malloc` and `collection_add` of a remote. -/
def addRemote (s : Core) (x : RemoteMux) : Core :=
  { s with
    remotes := Function.update s.remotes ⟨s.nextRemote⟩ (some x)
    remoteList := s.remoteList.add ⟨s.nextRemote⟩
    nextRemote := s.nextRemote + 1 }

end Core

namespace Daemon

/-- Apply a change that concerns neither mutex. -/
def update (s : Daemon) (f : Core → Core) : Daemon := { s with toCore := f s.toCore }

/-- Dereference a client pointer. -/
def client (s : Daemon) (c : ClientPtr) : Except Fault MuxClient :=
  match s.clients c with
  | some x => .ok x
  | none => .error (.freedClient c)

/-- Dereference a remote pointer. -/
def remote (s : Daemon) (r : RemotePtr) : Except Fault RemoteMux :=
  match s.remotes r with
  | some x => .ok x
  | none => .error (.freedRemote r)

/-- Assign to fields of a client. -/
def modifyClient (s : Daemon) (c : ClientPtr) (f : MuxClient → MuxClient) :
    Except Fault Daemon := do
  let x ← s.client c
  pure (s.update (·.setClient c (f x)))

/-- Assign to fields of a remote. -/
def modifyRemote (s : Daemon) (r : RemotePtr) (f : RemoteMux → RemoteMux) :
    Except Fault Daemon := do
  let x ← s.remote r
  pure (s.update (·.setRemote r (f x)))

def emit (s : Daemon) (acts : List Act) : Daemon := s.update (·.emit acts)

/-- Follow `client->remote` to a live remote. -/
def clientRemote (s : Daemon) (c : ClientPtr) (x : MuxClient) :
    Except Fault (RemotePtr × RemoteMux) :=
  match x.remote with
  | none => .error (.clientRemote c)
  | some r =>
      match s.remotes r with
      | none => .error (.clientRemote c)
      | some y => .ok (r, y)

/-- Follow `remote->client` to a live client. -/
def remoteClient (s : Daemon) (r : RemotePtr) (x : RemoteMux) :
    Except Fault ClientPtr :=
  match x.client with
  | none => .error (.remoteClient r)
  | some c =>
      match s.clients c with
      | none => .error (.remoteClient r)
      | some _ => .ok c

/-- `pthread_mutex_lock(&remote_list_mutex)`. -/
def lockRemoteList (s : Daemon) : Except Fault Daemon :=
  if s.remoteListLocked then .error .relock
  else if s.clientListLocked then .error .lockOrder
  else .ok { s with remoteListLocked := true }

def unlockRemoteList (s : Daemon) : Daemon := { s with remoteListLocked := false }

/-- `pthread_mutex_lock(&client_list_mutex)`. -/
def lockClientList (s : Daemon) : Except Fault Daemon :=
  if s.clientListLocked then .error .relock else .ok { s with clientListLocked := true }

def unlockClientList (s : Daemon) : Daemon := { s with clientListLocked := false }

end Daemon

end Usbfluxd
