import Usbfluxd.Model.Client

/-!
# The registry of remotes

How remotes leave the list (`usbmux_remote_close`, `usbmux_remote_dispose`,
`remote_mark_dead`) and how listeners are added to it and removed from it.

A `FOREACH` that looks for a remote and breaks is `findRemote`; one that
changes remotes as it goes is `slotLoop` over the slots of the list. A walk
over the device dictionary is `plistDictForeach` over the pairs it had when
the walk began, which is what the iterator visits as long as a callback
removes no pair but its own.
-/

namespace Usbfluxd

open Lib

/-- A `FOREACH` over the remote list that breaks at the first match. -/
def findRemote (s : Daemon) (p : RemoteMux → Bool) :
    List RemotePtr → Except Fault (Option (RemotePtr × RemoteMux))
  | [] => .ok none
  | r :: rest => do
      let x ← s.remote r
      if p x then pure (some (r, x)) else findRemote s p rest

/-- A `FOREACH` over the remote list that changes what it visits. -/
def forRemotes (body : Daemon → RemotePtr → Except Fault Daemon) (s : Daemon) :
    Except Fault Daemon :=
  slotLoop (fun s i => s.remoteList.slot i) body (List.range s.remoteList.capacity) s

/-- `plist_dict_foreach`: a callback that returns a negative value ends the
walk. -/
def plistDictForeach {σ : Type} (func : String → Plist → σ → Except Fault (Int × σ)) :
    List (String × Plist) → σ → Except Fault σ
  | [], ctx => .ok ctx
  | (key, value) :: rest, ctx => do
      let (res, ctx) ← func key value ctx
      if res < 0 then pure ctx else plistDictForeach func rest ctx

/-! ## Leaving the list -/

def usbmuxRemoteClose (s : Daemon) (r : RemotePtr) : Except Fault Daemon := do
  let x ← s.remote r
  match x.client with
  | some _ => do
      let c ← s.remoteClient r x
      clientNotifyRemoteClose s c
  | none => do
      let s ← s.lockRemoteList
      let s ← remoteClose s r
      pure s.unlockRemoteList

/-- `remote_device_notify_remove`, for a remote with the given id. -/
def remoteDeviceNotifyRemove (plat : Platform) (sys : Sys) (id : UInt8) (key : String)
    (_value : Plist) (s : Daemon) : Except Fault (Int × Daemon) := do
  let val := keyDevice key
  if val >>> 24 = id.toUInt32 then
    let s ← clientDeviceRemove plat sys s val
    let s := s.update fun s => { s with remoteDeviceList := s.remoteDeviceList.erase key }
    pure (0, s)
  else pure (0, s)

/-- The client's part of `usbmux_remote_dispose`. -/
def disposeClient (s : Daemon) (r : RemotePtr) (x : RemoteMux) : Except Fault Daemon :=
  match x.client with
  | none => .ok s
  | some _ => do
      let c ← s.remoteClient r x
      let s ← clientClearRemote s c
      clientNotifyRemoteClose s c

/-- `usbmux_remote_dispose`: the caller holds the list mutex. -/
def usbmuxRemoteDispose (plat : Platform) (sys : Sys) (s : Daemon) (r : RemotePtr) :
    Except Fault Daemon := do
  let x ← s.remote r
  let s ← plistDictForeach (remoteDeviceNotifyRemove plat sys x.id)
    s.remoteDeviceList.entries s
  let s := s.update fun s => { s with remoteList := s.remoteList.remove r }
  let s ← disposeClient s r x
  let s := s.update fun s =>
    if x.isListener ∧ x.host.isSome then
      { s with remoteIdMap := setRemoteIdUsed s.remoteIdMap x.id false }
    else s
  let _ ← s.remote r
  pure (s.update fun s => { s with remotes := Function.update s.remotes r none })

/-- `remote_mark_dead`: the caller holds the list mutex. -/
def remoteMarkDead (plat : Platform) (sys : Sys) (s : Daemon) (r : RemotePtr) :
    Except Fault Daemon := do
  let x ← s.remote r
  -- mark as dead, and all others with same remote id
  let s ← s.modifyRemote r fun y => { y with state := .dead }
  let s ← forRemotes (fun s r' => do
    let y ← s.remote r'
    if y.id = x.id then s.modifyRemote r' fun y => { y with state := .dead } else pure s) s
  -- pick the first remote found to trigger a dummy event
  match ← findRemote s (fun y => y.state ≠ .dead) s.remoteList.elems with
  | some (r', _) =>
      s.modifyRemote r' fun y => { y with events := { y.events with pollout := true } }
  | none => forRemotes (usbmuxRemoteDispose plat sys) s

def usbmuxRemoteMarkDead (plat : Platform) (sys : Sys) (s : Daemon) (r : RemotePtr) :
    Except Fault Daemon := do
  let s ← s.lockRemoteList
  let s ← remoteMarkDead plat sys s r
  pure s.unlockRemoteList

/-! ## Adding and removing listeners -/

/-- `!r->is_unix && r->is_listener`. -/
def RemoteMux.isTcpListener (x : RemoteMux) : Bool := !x.isUnix && x.isListener

/-- What `remote_mux_service_add` calls already present. -/
def sameService (serviceName hostName : String) (port : UInt16) (x : RemoteMux) : Bool :=
  x.isTcpListener &&
    (x.serviceName = some serviceName || (x.host = some hostName && x.port = port))

def remoteMuxServiceAdd (plat : Platform) (sys : Sys) (s : Daemon)
    (serviceName hostName : String) (port : UInt16) : Except Fault (Int × Daemon) := do
  let s ← s.lockRemoteList
  match ← findRemote s (sameService serviceName hostName port) s.remoteList.elems with
  | some _ => pure (-2, s.unlockRemoteList)
  | none =>
      match remoteMuxNewWithHost sys (some hostName) port with
      | none => pure (-1, s.unlockRemoteList)
      | some x =>
          let newRemoteId := getNewRemoteId s.remoteIdMap
          if newRemoteId = 0 then pure (-1, s.unlockRemoteList)
          else
            let r : RemotePtr := ⟨s.nextRemote⟩
            let s := s.update fun s =>
              { s.addRemote { x with
                  id := newRemoteId, serviceName := some serviceName, isListener := true } with
                remoteIdMap := setRemoteIdUsed s.remoteIdMap newRemoteId true }
            let (_, s) ← remoteSendListenPacket plat sys s r
            pure (0, s.unlockRemoteList)

/-- What `remote_mux_service_remove` looks for; a `NULL` name matches
nothing. -/
def matchesService (serviceName hostName : Option String) (port : UInt16)
    (x : RemoteMux) : Bool :=
  x.isTcpListener &&
    ((serviceName.isSome && x.serviceName = serviceName) ||
      (hostName.isSome && x.host = hostName && x.port = port))

def remoteMuxServiceRemove (plat : Platform) (sys : Sys) (s : Daemon)
    (serviceName hostName : Option String) (port : UInt16) : Except Fault (Int × Daemon) := do
  let s ← s.lockRemoteList
  match ← findRemote s (matchesService serviceName hostName port) s.remoteList.elems with
  | none => pure (-1, s.unlockRemoteList)
  | some (r, _) => do
      let s ← remoteMarkDead plat sys s r
      pure (0, s.unlockRemoteList)

def usbmuxRemoteAddRemote (plat : Platform) (sys : Sys) (s : Daemon) (hostName : String)
    (port : UInt16) : Except Fault (Int × Daemon) :=
  remoteMuxServiceAdd plat sys s hostName hostName port

def usbmuxRemoteRemoveRemote (plat : Platform) (sys : Sys) (s : Daemon) (hostName : String)
    (port : UInt16) : Except Fault (Int × Daemon) :=
  remoteMuxServiceRemove plat sys s none (some hostName) port

/-! ## Instances -/

/-- `remote_device_get_for_instance`. -/
def remoteDeviceGetForInstance (id : UInt8) (key : String) (value : Plist)
    (array : List Plist) : Except Fault (Int × List Plist) :=
  if keyDevice key >>> 24 = id.toUInt32 then
    .ok (0, array ++ (plistAccessPath value "Properties" "SerialNumber").toList)
  else .ok (0, array)

/-- The entry of one listener. -/
def instanceEntry (x : RemoteMux) (devices : List Plist) : Plist :=
  .dict
    ([("IsUnix", .bool x.isUnix)] ++
     (if x.isUnix then []
      else [("ServiceName", .string (x.serviceName.getD "")),
            ("Host", .string (x.host.getD "")),
            ("Port", .uint x.port.toUInt64)]) ++
     [("DeviceCount", .uint (UInt64.ofNat devices.length)), ("Devices", .array devices)])

/-- The `FOREACH` of `usbmux_remote_copy_instances`. -/
def copyInstancesLoop (s : Daemon) : List RemotePtr → Plist → Except Fault Plist
  | [], dict => .ok dict
  | r :: rest, dict => do
      let x ← s.remote r
      if x.isListener ∧ x.state = .listen then
        let devices ← plistDictForeach (remoteDeviceGetForInstance x.id)
          s.remoteDeviceList.entries []
        copyInstancesLoop s rest
          (plistDictSetItem dict (toString x.id.toNat) (instanceEntry x devices))
      else copyInstancesLoop s rest dict

def usbmuxRemoteCopyInstances (s : Daemon) : Except Fault (Plist × Daemon) := do
  let s ← s.lockRemoteList
  let dict ← copyInstancesLoop s s.remoteList.elems (.dict [])
  pure (dict, s.unlockRemoteList)

def sendInstances (plat : Platform) (sys : Sys) (s : Daemon) (c : ClientPtr)
    (tag : UInt32) : Except Fault (Int × Daemon) := do
  let (instances, s) ← usbmuxRemoteCopyInstances s
  sendPlistPkt plat sys s c tag (.dict [("Instances", instances)])

end Usbfluxd
