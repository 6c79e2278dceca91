import Usbfluxd.Model.Loop
import Usbfluxd.Proofs.Tables

/-!
# Moves: what the daemon can do to its state

The daemon's functions are long, but what they do between two points at which
the state makes sense is one of a few things: a client's buffers or its state
change, a remote's do, bytes are relayed, a connection is opened, an object
leaves its list together with whatever is linked to it, a device comes or
goes and every listening client is told. `Move` lists them, each with all it
requires and all it changes.

Every event is a chain of moves (`step_moves`, proved function by function in
the modules that follow), so an invariant of whole runs is proved once for
each kind of move and never for a function of the source again.

Moves are about `Core`: the mutexes do not appear. Some kinds of move are
restricted by a parameter, because statements about runs that meet a
condition are statements about runs in which these moves meet it.
-/

namespace Usbfluxd

open Lib

/-- A packet that `send_result` queues. -/
def IsResultPacket (protoVersion tag result : UInt32) (hdr : Header) (payload : Payload) :
    Prop :=
  hdr.version = protoVersion ∧ hdr.tag = tag ∧
    ((protoVersion = 1 ∧ hdr.message = messagePlist ∧
        ∃ xml, payload = .plist (resultPlist result) xml) ∨
      (protoVersion ≠ 1 ∧ hdr.message = messageResult ∧ payload = .binary (le32 result)))

/-- The bytes of a packet. -/
def packetBytes (hdr : Header) (payload : Payload) : List UInt8 := hdr.bytes ++ payload.wire

/-! ## One client, one remote -/

/-- An output buffer after bytes were queued on it. -/
structure Appended (b : Buf) (bs : List UInt8) (ob : Buf) : Prop where
  data : ob.data = b.data ++ bs
  isNull : ob.isNull = false

/-- The output buffer and the event mask of a client to which packets may have
been queued. -/
def MuxClient.Fed (x : MuxClient) (ob : Buf) (e : PollEvents) : Prop :=
  (ob = x.ob ∧ e = x.events) ∨ (ob.isNull = false ∧ x.ob.data <+: ob.data ∧
    e = { x.events with pollout := true })

theorem Appended.fed {x : MuxClient} {bs : List UInt8} {ob : Buf} (h : Appended x.ob bs ob) :
    x.Fed ob { x.events with pollout := true } :=
  Or.inr ⟨h.isNull, by rw [h.data]; exact List.prefix_append _ _, rfl⟩

/-- How the two event masks of a client change when nothing else does. -/
inductive ClientMasks (x : MuxClient) : PollEvents → PollEvents → Prop where
  /-- `client_or_events`. -/
  | wake {e : PollEvents} (hstate : x.state = .connected ∨ x.state = .connecting2) :
      ClientMasks x (if x.state = .connected then x.events.or e else x.events) (x.devents.or e)
  /-- `process_send` with nothing to send. -/
  | idle (hstate : x.state ≠ .connected) (hob : x.ob.data = []) :
      ClientMasks x { x.events with pollout := false } x.devents

/-- The event mask after a send: as it was, or without `POLLOUT` when all has
been sent. -/
def SentMask (e : PollEvents) (ob : Buf) (e' : PollEvents) : Prop :=
  (ob.data ≠ [] ∧ e' = e) ∨ (ob.data = [] ∧ e' = { e with pollout := false })

/-- What can happen to one client and nothing else, with what it adds to the
log. -/
inductive ClientStep (c : ClientPtr) : MuxClient → List Act → MuxClient → Prop where
  /-- A command queues its reply; outside `CLIENT_COMMAND` that is a result. -/
  | queue {x : MuxClient} {ob : Buf} {hdr : Header} {payload : Payload}
      (hinput : x.ib.isNull = false) (hver : hdr.version = x.protoVersion)
      (hkind : x.state = .command ∨ ∃ tag result,
        IsResultPacket x.protoVersion tag result hdr payload)
      (hob : Appended x.ob (packetBytes hdr payload) ob) :
      ClientStep c x [.queue c hdr payload]
        { x with ob := ob, events := { x.events with pollout := true } }
  | recv {x : MuxClient} {ib : Buf} {bs : List UInt8}
      (hib : ib.data = x.ib.data ++ bs) (hnull : ib.isNull = x.ib.isNull) :
      ClientStep c x (recvActs (.clientRecv c) bs) { x with ib := ib }
  | command {x : MuxClient} {frame : List UInt8} : ClientStep c x [.command c frame] x
  | inputDone {x : MuxClient} : ClientStep c x [] { x with ib := x.ib.reset }
  | proto {x : MuxClient} (hstate : x.state = .command) :
      ClientStep c x [] { x with protoVersion := 1 }
  | info {x : MuxClient} {i : Option Plist} : ClientStep c x [] { x with info := i }
  | events {x : MuxClient} {e d : PollEvents} (hmask : ClientMasks x e d) :
      ClientStep c x [] { x with events := e, devents := d }
  /-- `process_send`, before the client is connected. -/
  | send {x : MuxClient} {ob : Buf} {n : Nat} {e : PollEvents}
      (hstate : x.state ≠ .connected) (hob : ob.data = x.ob.data.drop n)
      (hnull : ob.isNull = x.ob.isNull) (hmask : SentMask x.events ob e)
      (hsent : x.state = .connecting2 → ob.data ≠ []) :
      ClientStep c x [.clientSend c (x.ob.data.take n)] { x with ob := ob, events := e }
  /-- The connect result has gone out. -/
  | connected {x : MuxClient} {ob : Buf} {e : PollEvents}
      (hstate : x.state = .connecting2) (hob : ob.data = []) (hnull : ob.isNull = true)
      (hmask : e = { x.devents with pollin := true }) :
      ClientStep c x [.clientSend c x.ob.data]
        { x with ob := ob, state := .connected, events := e }
  /-- `client_notify_connect` with an error. -/
  | notifyFail {x : MuxClient} {ob : Buf} {hdr : Header} {payload : Payload} {result : UInt32}
      {e : PollEvents} (hstate : x.state = .connecting1) (hres : result ≠ resultOk)
      (hpkt : IsResultPacket x.protoVersion x.connectTag result hdr payload)
      (hob : Appended x.ob (packetBytes hdr payload) ob)
      (hmask : e = { x.events with pollout := true }) :
      ClientStep c x [.queue c hdr payload, .notifyConnect c result]
        { x with ob := ob, state := .command, events := e }

/-- The frame is taken out of the input buffer. -/
def RemoteMux.frameDone (y : RemoteMux) : RemoteMux :=
  { y with ib := y.ib.reset, lastCommand := none }

/-- The remote still reads frames. -/
def RemoteMux.Framed (y : RemoteMux) : Prop := y.state ≠ .connected ∧ y.state ≠ .dead

/-- How the event mask of a remote changes when nothing else does. -/
inductive RemoteMask (x : RemoteMux) : PollEvents → Prop where
  /-- `remote_process_send` with nothing to send. -/
  | idle (hob : x.ob.data = []) : RemoteMask x { x.events with pollout := false }
  /-- A dead remote wakes the first live one. -/
  | wake : RemoteMask x { x.events with pollout := true }
  /-- `recv` on a connected remote returned 0. -/
  | ended (hstate : x.state = .connected) : RemoteMask x { x.events with pollin := false }

/-- What can happen to one remote and nothing else. -/
inductive RemoteStep (r : RemotePtr) : RemoteMux → List Act → RemoteMux → Prop where
  /-- `recv` of `remote_process_recv`. -/
  | recv {x : RemoteMux} {ib : Buf} {bs : List UInt8} {t : Nat} (hstate : x.Framed)
      (hib : ib.data = x.ib.data ++ bs) :
      RemoteStep r x (recvActs (.remoteRecv r) bs) { x with ib := ib, lastActive := t }
  /-- `recv` of a connected remote. -/
  | relayRecv {x : RemoteMux} {ib : Buf} {bs : List UInt8} {t : Nat}
      (hstate : x.state = .connected) (hib : ib.data = x.ib.data ++ bs) :
      RemoteStep r x [.relayRecv r bs] { x with ib := ib, lastActive := t }
  | frame {x : RemoteMux} {bs : List UInt8} : RemoteStep r x [.frame r bs] x
  /-- The frame is taken out of the input buffer. -/
  | inputDone {x : RemoteMux} (hstate : x.Framed) : RemoteStep r x [] x.frameDone
  /-- The input buffer is overwritten in place. -/
  | input {x : RemoteMux} {ib : Buf} (hstate : x.state = .listen) :
      RemoteStep r x [] { x with ib := ib }
  | events {x : RemoteMux} {e : PollEvents} (hmask : RemoteMask x e) :
      RemoteStep r x [] { x with events := e }
  | active {x : RemoteMux} {t : Nat} : RemoteStep r x [] { x with lastActive := t }
  | send {x : RemoteMux} {ob : Buf} {n : Nat} {e : PollEvents} {t : Nat}
      (hob : ob.data = x.ob.data.drop n) (hmask : SentMask x.events ob e) :
      RemoteStep r x [.remoteSend r (x.ob.data.take n)]
        { x with ob := ob, events := e, lastActive := t }
  | clearCommand {x : RemoteMux} : RemoteStep r x [] { x with lastCommand := none }
  /-- The `Listen` request was accepted. -/
  | listen {x : RemoteMux} (hstate : x.state = .command)
      (hcmd : x.lastCommand = some .listen) : RemoteStep r x [] { x with state := .listen }
  /-- The connect request was accepted, although the client was not told. -/
  | connected {x : RemoteMux} {e : PollEvents} (hstate : x.state = .connecting1)
      (hmask : e = { pollin := true, pollout := true }) :
      RemoteStep r x [.remoteConnected r]
        { x.frameDone with state := .connected, events := e }
  /-- The two transitions out of `REMOTE_CONNECTING2`. -/
  | connected2 {x : RemoteMux} {e : PollEvents} (hstate : x.state = .connecting2)
      (hmask : e = { x.devents with pollin := true }) :
      RemoteStep r x [.remoteConnected r] { x with state := .connected, events := e }

/-! ## Notifications -/

/-- A packet is queued on a client. -/
def Queued (c : ClientPtr) (x : MuxClient) (hdr : Header) (payload : Payload)
    (s s' : Core) : Prop :=
  s.clients c = some x ∧ hdr.version = x.protoVersion ∧ ∃ ob : Buf,
    Appended x.ob (packetBytes hdr payload) ob ∧
    s' = (s.setClient c
      { x with ob := ob, events := { x.events with pollout := true } }).emit
      [.queue c hdr payload]

/-- A packet that announces or withdraws a device, as a function of what the
client speaks. -/
structure Note where
  packet : UInt32 → Header → Payload → Prop

/-- `notify_device_add`. -/
def Note.attached (dev : Plist) : Note where
  packet proto hdr payload :=
    (proto = 1 ∧ hdr.message = messagePlist ∧ ∃ xml, payload = .plist dev xml) ∨
      (proto ≠ 1 ∧ hdr.message = messageDeviceAdd ∧ payload = .binary (deviceRecord dev))

/-- `notify_device_remove`. -/
def Note.detached (deviceId : UInt32) : Note where
  packet proto hdr payload :=
    (proto = 1 ∧ hdr.message = messagePlist ∧
        ∃ xml, payload = .plist (detachedPlist deviceId) xml) ∨
      (proto ≠ 1 ∧ hdr.message = messageDeviceRemove ∧ payload = .binary (le32 deviceId))

/-- The walk of `client_device_add` and `client_device_remove` over the
clients that are left to visit. A listening client is passed over only when
its packet cannot be queued, which takes a failed allocation or conversion. -/
inductive Notified (lossOk : Prop) (note : Note) : List ClientPtr → Core → Core → Prop where
  | nil {s : Core} : Notified lossOk note [] s s
  | skip {c : ClientPtr} {rest : List ClientPtr} {x : MuxClient} {s s' : Core}
      (hx : s.clients c = some x) (hstate : x.state ≠ .listen)
      (h : Notified lossOk note rest s s') : Notified lossOk note (c :: rest) s s'
  | lost {c : ClientPtr} {rest : List ClientPtr} {s s' : Core} (hloss : lossOk)
      (h : Notified lossOk note rest s s') : Notified lossOk note (c :: rest) s s'
  | sent {c : ClientPtr} {rest : List ClientPtr} {x : MuxClient} {hdr : Header}
      {payload : Payload} {s s₁ s' : Core} (hstate : x.state = .listen)
      (hpkt : note.packet x.protoVersion hdr payload) (hq : Queued c x hdr payload s s₁)
      (h : Notified lossOk note rest s₁ s') : Notified lossOk note (c :: rest) s s'

/-- The walk of `start_listen` over the devices that are left to announce to
one client. It ends early only at a packet that cannot be queued. -/
inductive Snapshot (lossOk : Prop) (c : ClientPtr) : List Plist → Core → Core → Prop where
  | nil {s : Core} : Snapshot lossOk c [] s s
  | lost {devs : List Plist} {s : Core} (hloss : lossOk) : Snapshot lossOk c devs s s
  | sent {dev : Plist} {rest : List Plist} {x : MuxClient} {hdr : Header} {payload : Payload}
      {s s₁ s' : Core} (hstate : x.state = .listen)
      (hpkt : (Note.attached dev).packet x.protoVersion hdr payload)
      (hq : Queued c x hdr payload s s₁) (h : Snapshot lossOk c rest s₁ s') :
      Snapshot lossOk c (dev :: rest) s s'

/-- One packet is queued on a client that listens. Both walks are chains of
these. -/
def Announce (s s' : Core) : Prop :=
  ∃ c x hdr payload, x.state = .listen ∧ Queued c x hdr payload s s'

def Announces : Core → Core → Prop := Relation.ReflTransGen Announce

theorem Notified.announces {lossOk : Prop} {note : Note} {cs : List ClientPtr} {s s' : Core}
    (h : Notified lossOk note cs s s') : Announces s s' := by
  induction h with
  | nil => exact .refl
  | skip _ _ _ ih | lost _ _ ih => exact ih
  | sent hstate _ hq _ ih => exact .head ⟨_, _, _, _, hstate, hq⟩ ih

theorem Snapshot.announces {lossOk : Prop} {c : ClientPtr} {devs : List Plist} {s s' : Core}
    (h : Snapshot lossOk c devs s s') : Announces s s' := by
  induction h with
  | nil | lost => exact .refl
  | sent hstate _ hq _ ih => exact .head ⟨_, _, _, _, hstate, hq⟩ ih

/-! ## Opening connections -/

/-- Where a new connection for remote id `k` goes: to the renamed socket for
0, else to the endpoint of a listener with that id. -/
def EndpointFor (s : Core) (k : UInt8) (y : RemoteMux) : Prop :=
  (k = 0 ∧ y.isUnix = true ∧ y.host = none) ∨
    (k ≠ 0 ∧ y.isUnix = false ∧ y.host ≠ none ∧
      ∃ r z, s.remotes r = some z ∧ z.id = k ∧ z.state = .listen ∧
        y.host = z.host ∧ y.port = z.port)

/-- What every connection opened for a client starts with. -/
structure NewConnection (y : RemoteMux) : Prop where
  isListener : y.isListener = false
  input : y.ib.data = []

/-- The remote of a connect request: it has its id and its client. -/
def ConnectRemote (c : ClientPtr) (k : UInt8) (y : RemoteMux) : Prop :=
  y.state = .connecting1 ∧ y.id = k ∧ y.client = some c ∧ y.lastCommand = none

/-- The remote of another request, with the reply it waits for. It has id 0
wherever it goes, and no client when the request could not be queued. -/
def RequestRemote (lossOk : Prop) (c : ClientPtr) (y : RemoteMux) : Prop :=
  y.state = .command ∧ y.id = 0 ∧
    ((y.client = some c ∧ ∃ cmd, cmd ≠ .listen ∧ y.lastCommand = some cmd) ∨
      (lossOk ∧ y.client = none ∧ y.lastCommand = none))

/-- What a new remote has in its output buffer is the one packet queued on
it, or nothing when it could not be queued, and it polls for what it has. -/
def FirstPacket (lossOk : Prop) (r : RemotePtr) (P : Payload → Prop) (y : RemoteMux)
    (acts : List Act) : Prop :=
  (lossOk ∧ acts = [] ∧ y.ob.data = [] ∧ y.events = { pollin := true }) ∨
    ∃ hdr payload, P payload ∧ acts = [.remoteQueue r hdr payload] ∧
      y.ob.data = packetBytes hdr payload ∧ y.events = { pollin := true, pollout := true }

/-- The payload of a forwarded connect request. -/
def IsForwardedConnect (deviceId : UInt32) (payload : Payload) : Prop :=
  ∃ req xml, payload = .plist (forwardedConnect deviceId req) xml

/-- A remote that `remote_mux_service_add` may add: no TCP listener has its
name or its endpoint, and its id is the least free one. -/
structure NewListener (s : Core) (y : RemoteMux) : Prop where
  isListener : y.isListener = true
  isUnix : y.isUnix = false
  name : ∃ n, y.serviceName = some n
  host : ∃ h, y.host = some h
  state : y.state = .command
  client : y.client = none
  lastCommand : y.lastCommand = none ∨ y.lastCommand = some .listen
  input : y.ib.data = []
  id : y.id = getNewRemoteId s.remoteIdMap
  id_ne : y.id ≠ 0
  distinct : ∀ r z, r ∈ s.remoteList.elems → s.remotes r = some z →
    z.isTcpListener = true →
    z.serviceName ≠ y.serviceName ∧ ¬ (z.host = y.host ∧ z.port = y.port)

/-! ## Moves -/

/-- What the moves of a run may be restricted to. -/
structure Allow where
  /-- A connection for remote id `k` is opened for a client. -/
  openOk : Core → ClientPtr → UInt8 → RemoteMux → Prop
  /-- A remote without a client is closed. -/
  closeOk : Core → RemotePtr → RemoteMux → Prop
  /-- A remote is disposed of although it was not dead: its descriptor became
  invalid. -/
  disposeOk : Core → RemotePtr → RemoteMux → Prop
  /-- A reply is passed on to a client in this state. -/
  forwardOk : ClientState → Prop
  /-- Dead remotes may be disposed of. -/
  reapOk : Prop
  /-- Allocations and conversions may fail. -/
  lossOk : Prop
  /-- Listeners may announce devices in binary frames. -/
  binaryOk : Prop
  /-- Listeners may be added, and clients may start to listen. -/
  growOk : Prop
  /-- A listener may be added under a name that is not its host. -/
  namedOk : Prop
  /-- A connection with this descriptor is accepted. -/
  acceptOk : Core → Nat → Prop
  /-- A new remote has this descriptor. -/
  remoteFdOk : Core → Nat → Prop
  /-- A remote's own event is handled: its state and its event mask change,
  and its client may be told that it is connected. -/
  remoteOk : Prop
  /-- All remotes with an id may die. -/
  killOk : Prop
  /-- A client is closed, and its remote with it. -/
  leaveOk : Core → ClientPtr → MuxClient → Prop

/-- A remote's event may change the remote and close its client. -/
structure Allow.Serves (A : Allow) : Prop where
  remote : A.remoteOk
  leave : ∀ s c x, A.leaveOk s c x

/-- No restriction. -/
def Allow.all : Allow where
  openOk _ _ _ _ := True
  closeOk _ _ _ := True
  disposeOk _ _ _ := True
  forwardOk _ := True
  reapOk := True
  lossOk := True
  binaryOk := True
  growOk := True
  namedOk := True
  acceptOk _ _ := True
  remoteFdOk _ _ := True
  remoteOk := True
  killOk := True
  leaveOk _ _ _ := True

/-- A stored device is the `Attached` message of its id. -/
def IsAttached (devid : UInt32) (dev : Plist) : Prop :=
  plistDictCopyStringVal dev "MessageType" = some "Attached" ∧
    plistDictGetItem dev "DeviceID" = some (.uint devid.toUInt64)

/-- A listening remote may announce a device: it has the remote's id, or the
message named none. -/
def Announced (s : Core) (devid : UInt32) : Prop :=
  ∃ r y, s.remotes r = some y ∧ y.state = .listen ∧
    (devid >>> 24 = y.id.toUInt32 ∨ devid = 0)

/-- `set_remote_id_used(remote->id, 0)` of a disposed TCP listener. -/
def Core.releaseId (s : Core) (y : RemoteMux) : Core :=
  if y.isListener ∧ y.host.isSome then
    { s with remoteIdMap := setRemoteIdUsed s.remoteIdMap y.id false }
  else s

/-- The remote is in the same state as before and waits for the same reply,
and it polls for output if it did before. -/
structure RemoteMux.StillWakes (y y' : RemoteMux) : Prop where
  state : y'.state = y.state
  pollout : y.events.pollout = true → y'.events.pollout = true
  lastCommand : y'.lastCommand = y.lastCommand

/-- What the death of an id does to a remote. -/
def RemoteMux.killed (k : UInt8) (z : RemoteMux) : RemoteMux :=
  if z.id = k then { z with state := .dead } else z

/-- Every remote with an id becomes dead. -/
def Core.killId (s : Core) (k : UInt8) : Core :=
  { s with remotes := fun r => (s.remotes r).map (RemoteMux.killed k) }

/-- Take out a client that may be `NULL`. -/
def Core.dropLinkedClient (s : Core) : Option ClientPtr → Core
  | none => s
  | some c => s.dropClient c

/-- Take out a remote that may be `NULL`. -/
def Core.dropLinkedRemote (s : Core) : Option RemotePtr → Core
  | none => s
  | some r => s.dropRemote r

/-- Take a client out, and its remote with it. -/
def Core.closeClient (s : Core) (c : ClientPtr) (x : MuxClient) : Core :=
  (s.dropLinkedRemote x.remote).dropClient c

/-- Take a disposed remote out, and its client with it. -/
def Core.dispose (s : Core) (r : RemotePtr) (y : RemoteMux) : Core :=
  ((s.dropRemote r).dropLinkedClient y.client).releaseId y

inductive Move (A : Allow) (s : Core) : Core → Prop where
  | client {c : ClientPtr} {x x' : MuxClient} {acts : List Act} (hx : s.clients c = some x)
      (h : ClientStep c x acts x') : Move A s ((s.setClient c x').emit acts)
  | remote {r : RemotePtr} {y y' : RemoteMux} {acts : List Act} (hy : s.remotes r = some y)
      (h : RemoteStep r y acts y') (hok : y.StillWakes y' ∨ A.remoteOk) :
      Move A s ((s.setRemote r y').emit acts)
  /-- Part of a reply is passed on to the client that waits for it. -/
  | forward {r : RemotePtr} {y : RemoteMux} {c : ClientPtr} {x : MuxClient} {ob : Buf}
      {cmd : RemoteCommand} {bytes : List UInt8} (hy : s.remotes r = some y)
      (hstate : y.state = .command) (hcmd : y.lastCommand = some cmd) (hne : cmd ≠ .listen)
      (hclient : y.client = some c) (hx : s.clients c = some x)
      (hob : Appended x.ob bytes ob) (hok : A.forwardOk x.state) :
      Move A s ((s.setClient c
        { x with ob := ob, events := { x.events with pollout := true } }).emit
        [.queueRaw c bytes])
  | relayRead {c : ClientPtr} {x : MuxClient} {r : RemotePtr} {y : RemoteMux} {ob : Buf}
      {bs : List UInt8} {e : PollEvents} (hx : s.clients c = some x)
      (hstate : x.state = .connected) (hremote : x.remote = some r)
      (hy : s.remotes r = some y) (hob : ob.data = y.ob.data ++ bs)
      (hmask : e = { x.events with pollin := false }) :
      Move A s (((s.setRemote r { y with
        ob := ob, events := { y.events with pollout := true } }).setClient c
        { x with events := e }).emit [.clientRead c bs])
  | relayWrite {c : ClientPtr} {x : MuxClient} {r : RemotePtr} {y : RemoteMux} {ib : Buf}
      {n : Nat} {e : PollEvents} (hx : s.clients c = some x)
      (hstate : x.state = .connected) (hremote : x.remote = some r)
      (hy : s.remotes r = some y) (hib : ib.data = y.ib.data.drop n)
      (hmask : (ib.data ≠ [] ∧ e = x.events) ∨
        (ib.data = [] ∧ e = { x.events with pollout := false, pollin := true })) :
      Move A s (((s.setRemote r { y with ib := ib }).setClient c
        { x with events := e }).emit [.clientWrite c (y.ib.data.take n)])
  | accept {fd : Nat} (hfd : A.acceptOk s fd) :
      Move A s { s.addClient (newClient fd s.clientNumber) with
        clientNumber := s.clientNumber + 1 }
  /-- A connect request: the client waits for its result from here on. -/
  | connect {c : ClientPtr} {x : MuxClient} {tag deviceId : UInt32} {y : RemoteMux}
      {acts : List Act} (hx : s.clients c = some x) (hstate : x.state = .command)
      (hend : EndpointFor s (deviceId >>> 24).toUInt8 y) (hnew : NewConnection y)
      (hkind : ConnectRemote c (deviceId >>> 24).toUInt8 y)
      (hacts : FirstPacket A.lossOk ⟨s.nextRemote⟩ (IsForwardedConnect deviceId) y acts)
      (hok : A.openOk s c (deviceId >>> 24).toUInt8 y) (hfd : A.remoteFdOk s y.fd) :
      Move A s (((s.setClient c { x with
        remote := some ⟨s.nextRemote⟩, connectTag := tag, connectDevice := deviceId,
        state := .connecting1 }).addRemote y).emit
        (.openRemote c ⟨s.nextRemote⟩ .connecting1 :: acts))
  /-- Another forwarded request: the client goes on sending commands. The new
  remote waits for a reply when the request is queued on it. -/
  | request {c : ClientPtr} {x : MuxClient} {k : UInt8} {y : RemoteMux} {acts : List Act}
      (hx : s.clients c = some x) (hstate : x.state = .command) (hend : EndpointFor s k y)
      (hnew : NewConnection y) (hkind : RequestRemote A.lossOk c y)
      (hacts : FirstPacket A.lossOk ⟨s.nextRemote⟩ (fun _ => True) y acts)
      (hok : A.openOk s c k y) (hfd : A.remoteFdOk s y.fd)
      (hqueued : y.lastCommand = none ↔ acts = []) :
      Move A s (((s.setClient c { x with remote := some ⟨s.nextRemote⟩ }).addRemote y).emit
        (.openRemote c ⟨s.nextRemote⟩ .command :: acts))
  /-- `client_notify_connect` with `RESULT_OK`: the two sides are connected
  from here on, and the frame that said so is taken out. -/
  | notifyOk {r : RemotePtr} {y : RemoteMux} {c : ClientPtr} {x : MuxClient} {ob : Buf}
      {hdr : Header} {payload : Payload} {e : PollEvents} (hy : s.remotes r = some y)
      (hconn : y.state = .connecting1) (hclient : y.client = some c)
      (hx : s.clients c = some x) (hstate : x.state = .connecting1)
      (hpkt : IsResultPacket x.protoVersion x.connectTag resultOk hdr payload)
      (hob : Appended x.ob (packetBytes hdr payload) ob)
      (hmask : e = { pollin := true, pollout := true }) (hok : A.remoteOk) :
      Move A s (((s.setRemote r { y.frameDone with
        state := .connected, events := e }).setClient c { x with
        ob := ob, state := .connecting2, events := { pollout := true },
        ib := x.ib.free }).emit
        [.queue c hdr payload, .notifyConnect c resultOk, .remoteConnected r])
  | addListener {y : RemoteMux} {acts : List Act} (hnew : NewListener s y)
      (hacts : FirstPacket True ⟨s.nextRemote⟩ (fun _ => True) y acts) (hok : A.growOk)
      (hname : y.serviceName = y.host ∨ A.namedOk) (hfd : A.remoteFdOk s y.fd) :
      Move A s ({ s.addRemote y with
        remoteIdMap := setRemoteIdUsed s.remoteIdMap y.id true }.emit acts)
  | closeClient {c : ClientPtr} {x : MuxClient} (hx : s.clients c = some x)
      (hlive : ∀ r, x.remote = some r → (s.remotes r).isSome) (hok : A.leaveOk s c x) :
      Move A s (s.closeClient c x)
  | closeRemote {r : RemotePtr} {y : RemoteMux} (hy : s.remotes r = some y)
      (hclient : y.client = none) (hok : A.closeOk s r y) : Move A s (s.dropRemote r)
  /-- The devices with a remote's id are gone before it is. -/
  | dispose {r : RemotePtr} {y : RemoteMux} (hy : s.remotes r = some y)
      (hlive : ∀ c, y.client = some c → (s.clients c).isSome)
      (hwhy : (y.state = .dead ∧ A.reapOk) ∨ A.disposeOk s r y)
      (hclear : ∀ key ∈ s.remoteDeviceList.keys, keyDevice key >>> 24 ≠ y.id.toUInt32) :
      Move A s (s.dispose r y)
  | killId {r : RemotePtr} {y : RemoteMux} (hy : s.remotes r = some y) (hok : A.killOk) :
      Move A s (s.killId y.id)
  | deviceSet {devid : UInt32} {dev : Plist} {s' : Core}
      (hdev : IsAttached devid dev ∨ A.binaryOk)
      (h : Notified A.lossOk (.attached dev) s.clientList.elems s s')
      (hfrom : Announced s devid) :
      Move A s { s' with
        remoteDeviceList := s.remoteDeviceList.set (deviceKey devid) dev }
  | deviceErase {key : String} {s' : Core}
      (hkey : key ∈ s.remoteDeviceList.keys ∨ ∃ devid, key = deviceKey devid)
      (h : Notified A.lossOk (.detached (keyDevice key)) s.clientList.elems s s') :
      Move A s { s' with remoteDeviceList := s.remoteDeviceList.erase key }
  | listen {c : ClientPtr} {x : MuxClient} {s' : Core} (hx : s.clients c = some x)
      (hstate : x.state = .command)
      (h : Snapshot A.lossOk c s.remoteDeviceList.values
        ((s.setClient c { x with state := .listen }).emit [.listen c]) s')
      (hok : A.growOk) : Move A s s'

/-- A chain of moves. -/
def Moves (A : Allow) : Core → Core → Prop := Relation.ReflTransGen (Move A)

theorem Move.single {A : Allow} {s s' : Core} (h : Move A s s') : Moves A s s' :=
  Relation.ReflTransGen.single h

theorem Moves.refl {A : Allow} {s : Core} : Moves A s s := Relation.ReflTransGen.refl

theorem Moves.trans {A : Allow} {s s' s'' : Core} (h : Moves A s s') (h' : Moves A s' s'') :
    Moves A s s'' :=
  Relation.ReflTransGen.trans h h'

/-! ## Well-formed states -/

/-- The lists hold the live objects, each once, and no pointer that is still
to be handed out. -/
structure WF (s : Core) : Prop where
  clients : ∀ c, c ∈ s.clientList.elems ↔ (s.clients c).isSome
  remotes : ∀ r, r ∈ s.remoteList.elems ↔ (s.remotes r).isSome
  clientsNodup : s.clientList.elems.Nodup
  remotesNodup : s.remoteList.elems.Nodup
  clientFresh : ∀ c, (s.clients c).isSome → c.block < s.nextClient
  remoteFresh : ∀ r, (s.remotes r).isSome → r.block < s.nextRemote

end Usbfluxd
