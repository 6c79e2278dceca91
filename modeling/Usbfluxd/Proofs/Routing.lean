import Usbfluxd.Proofs.Locks
import Usbfluxd.Proofs.Registry

/-!
# Where a pair record is looked for

The three pair-record functions contain the same search written out three
times: a walk over the device dictionary for the serial number, the id read
back from the key, and a walk over the listeners for the one with the upper
eight bits of that id. The id 0 stands for no device as well as for device 0,
and both belong to the renamed socket, so nothing is lost.

`PairRecordRoute` says where a request has to go without any of this: it
names the first device with the serial number and the listener whose host it
is connected to. The registry invariant makes that listener unique.
-/

namespace Usbfluxd

open Lib

/-! ## The route -/

/-- Where a connection goes. -/
inductive Endpoint where
  | renamedSocket
  | host (hostName : Option String) (port : UInt16)
deriving DecidableEq

def RemoteMux.endpoint (y : RemoteMux) : Endpoint :=
  if y.isUnix then .renamedSocket else .host y.host y.port

def serialNumber (value : Plist) : Option String :=
  (plistAccessPath value "Properties" "SerialNumber").bind plistGetStringVal

/-- The id of the first device with a serial number. -/
def deviceWith (u : String) (devices : List (UInt32 × Plist)) : Option UInt32 :=
  (devices.find? fun d => serialNumber d.2 = some u).map Prod.fst

/-- The endpoint for a request about a device, or about none that is known. -/
inductive PairRecordRoute (s : Core) : Option UInt32 → Endpoint → Prop where
  | unknown : PairRecordRoute s none .renamedSocket
  | localDevice {g : UInt32} (hk : g >>> 24 = 0) : PairRecordRoute s (some g) .renamedSocket
  | listener {g : UInt32} {r : RemotePtr} {y : RemoteMux} (hk : g >>> 24 ≠ 0)
      (hy : s.remotes r = some y) (hlistener : y.isListener = true) (hstate : y.state = .listen)
      (hid : y.id.toUInt32 = g >>> 24) : PairRecordRoute s (some g) (.host y.host y.port)

section Route

variable {s : Core} {o : Option UInt32} {e e' : Endpoint} {g : UInt32} {y : RemoteMux}

/-- The upper eight bits are a remote id. -/
theorem toUInt32_upper : (g >>> 24).toUInt8.toUInt32 = g >>> 24 := by
  have hg := g.toNat_lt
  apply UInt32.toNat_inj.mp
  rw [UInt8.toNat_toUInt32, UInt32.toNat_toUInt8, UInt32.toNat_shiftRight]
  rw [show (24 : UInt32).toNat % 32 = 24 from rfl, Nat.shiftRight_eq_div_pow]
  omega

theorem toUInt8_eq_iff {k : UInt8} : (g >>> 24).toUInt8 = k ↔ g >>> 24 = k.toUInt32 := by
  constructor
  · intro h
    rw [← h, toUInt32_upper]
  · intro h
    rw [h]
    exact UInt8.toUInt8_toUInt32 k

/-- A listener with an id other than 0 is no Unix socket. -/
theorem Registry.isTcpListener (hreg : Registry s) {r : RemotePtr} (hy : s.remotes r = some y)
    (hlistener : y.isListener = true) (hid : y.id ≠ 0) : y.isTcpListener = true := by
  rw [isTcpListener_iff]
  refine ⟨?_, hlistener⟩
  cases hunix : y.isUnix with
  | false => rfl
  | true => exact absurd ((hreg.remote hy).unix hunix).1 hid

/-- There is one way to go at most. -/
theorem PairRecordRoute.unique (hreg : Registry s) (h : PairRecordRoute s o e)
    (h' : PairRecordRoute s o e') : e = e' := by
  cases h with
  | unknown =>
      cases h'
      rfl
  | localDevice hk =>
      cases h' with
      | localDevice => rfl
      | listener hk' => exact absurd hk hk'
  | @listener g r y hk hy hlistener hstate hid =>
      cases h' with
      | localDevice hk' => exact absurd hk' hk
      | @listener _ r' y' _ hy' hlistener' hstate' hid' =>
          have hne : ∀ z : RemoteMux, z.id.toUInt32 = g >>> 24 → z.id ≠ 0 := by
            intro z hz hzero
            rw [hzero] at hz
            exact hk hz.symm
          by_cases hr : r = r'
          · subst hr
            cases hy.symm.trans hy'
            rfl
          · have hunlike := hreg.unlike hy hy' (hreg.isTcpListener hy hlistener (hne y hid))
              (hreg.isTcpListener hy' hlistener' (hne y' hid')) hr
            have heq : y.id = y'.id := UInt8.toUInt32_inj.mp (hid.trans hid'.symm)
            exact absurd heq hunlike.1

end Route

/-! ## The search -/

section Search

variable {s : Daemon} {sys : Sys} {u : String} {devices : List (UInt32 × Plist)}

/-- The walk ends at the first device with the serial number. -/
theorem plistDictForeach_matchDevice {g : UInt32} :
    plistDictForeach (matchDevice (some u)) (devices.map fun d => (deviceKey d.1, d.2)) g =
      .ok ((deviceWith u devices).getD g) := by
  induction devices with
  | nil => rfl
  | cons d rest ih =>
      rw [List.map_cons, plistDictForeach, matchDevice, deviceWith]
      rw [show (plistAccessPath d.2 "Properties" "SerialNumber").bind plistGetStringVal =
        serialNumber d.2 from rfl]
      cases hserial : serialNumber d.2 with
      | none =>
          rw [List.find?_cons_of_neg (by simp [hserial])]
          exact ih
      | some udid =>
          dsimp only
          by_cases hudid : udid = u
          · rw [if_pos hudid, List.find?_cons_of_pos (by simp [hserial, hudid]),
              keyDevice_deviceKey]
            rfl
          · rw [if_neg hudid, List.find?_cons_of_neg (by simp [hserial, hudid])]
            exact ih

theorem pairRecordRemote_eq
    (hdevices : s.remoteDeviceList.entries = devices.map fun d => (deviceKey d.1, d.2)) :
    pairRecordRemote s (some u) = .ok (((deviceWith u devices).getD 0) >>> 24).toUInt8 := by
  rw [pairRecordRemote, hdevices, plistDictForeach_matchDevice]
  rfl

theorem findRemote_returns {p : RemoteMux → Bool} {l : List RemotePtr}
    (hl : ∀ r ∈ l, (s.remotes r).isSome) : ∃ o, findRemote s p l = .ok o := by
  induction l with
  | nil => exact ⟨none, rfl⟩
  | cons r rest ih =>
      rw [List.forall_mem_cons] at hl
      obtain ⟨y, hy⟩ := Option.isSome_iff_exists.mp hl.1
      rw [findRemote, Daemon.remote, hy]
      dsimp only [bind, Except.bind]
      split
      · exact ⟨some (r, y), rfl⟩
      · exact ih hl.2

/-- A new remote has an empty output buffer of the usual size. -/
theorem newRemoteFor_ob {k : UInt8} {y : RemoteMux} (h : newRemoteFor sys s k = .ok (some y)) :
    y.ob = Buf.malloc replyBufSize (by decide) := by
  have hhost : ∀ {host : Option String} {port : UInt16},
      remoteMuxNewWithHost sys host port = some y → y.ob = Buf.malloc replyBufSize (by decide) := by
    intro host port h
    obtain ⟨name, rfl, h⟩ := Option.bind_eq_some_iff.mp h
    obtain ⟨fd, _, rfl⟩ := Option.map_eq_some_iff.mp h
    rfl
  rw [newRemoteFor] at h
  split at h
  · obtain ⟨fd, _, rfl⟩ := Option.map_eq_some_iff.mp (Except.ok.inj h)
    rfl
  · obtain ⟨o, _, h⟩ := bind_eq_ok.mp h
    cases o with
    | none => cases h
    | some p => exact hhost (Except.ok.inj h)

/-- The connection is made where the request has to go, or not at all. -/
theorem newRemoteFor_route {o : Option UInt32} (hwf : WF s.toCore) (hreg : Registry s.toCore) :
    (newRemoteFor sys s ((o.getD 0) >>> 24).toUInt8 = .ok none ∧
      ((∀ e, ¬ PairRecordRoute s.toCore o e) ∨ sys.connect = none)) ∨
    ∃ y, newRemoteFor sys s ((o.getD 0) >>> 24).toUInt8 = .ok (some y) ∧
      PairRecordRoute s.toCore o y.endpoint ∧ sys.connect = some y.fd := by
  rw [newRemoteFor]
  split
  · next hk =>
      have hroute : PairRecordRoute s.toCore o .renamedSocket := by
        cases o with
        | none => exact .unknown
        | some g => exact .localDevice (toUInt8_eq_iff.mp hk)
      cases hconn : sys.connect with
      | none => exact Or.inl ⟨by rw [remoteMuxNewWithUnixSocket, hconn]; rfl, Or.inr rfl⟩
      | some fd =>
          exact Or.inr ⟨{ remoteMuxNewWithFd sys fd with isUnix := true },
            by rw [remoteMuxNewWithUnixSocket, hconn]; rfl, hroute, rfl⟩
  · next hk =>
      obtain ⟨g, rfl⟩ : ∃ g, o = some g := by
        cases o with
        | none => exact absurd rfl hk
        | some g => exact ⟨g, rfl⟩
      rw [Option.getD_some] at hk ⊢
      have hk' : g >>> 24 ≠ 0 := fun h => hk (toUInt8_eq_iff.mpr h)
      obtain ⟨found, hfound⟩ := findRemote_returns (s := s)
        (p := fun y => y.id = (g >>> 24).toUInt8 && y.state = .listen) fun r hr =>
          (hwf.remotes r).mp hr
      rw [hfound]
      have hruns : Runs .all s.toCore _ (findRemote s (fun y =>
        y.id = (g >>> 24).toUInt8 && y.state = .listen) s.remoteList.elems) := findRemote_runs
      rcases hruns.of_ok hfound with ⟨rfl, hnone⟩ | ⟨r, y, rfl, _, hy, hp⟩
      · refine Or.inl ⟨rfl, Or.inl fun e he => ?_⟩
        cases he with
        | localDevice h => exact hk' h
        | @listener _ r y _ hy _ hstate hid =>
            have hmem : r ∈ s.remoteList.elems := by
              rw [hwf.remotes, hy]
              rfl
            have hno := hnone r y hmem hy
            rw [(toUInt8_eq_iff.mpr hid.symm : (g >>> 24).toUInt8 = y.id), hstate] at hno
            simp at hno
      · simp only [Bool.and_eq_true, decide_eq_true_eq] at hp
        obtain ⟨hid, hstate⟩ := hp
        have hlistener := (hreg.remote hy).listening hstate
        have hid' : y.id.toUInt32 = g >>> 24 := (toUInt8_eq_iff.mp hid.symm).symm
        have htcp := hreg.isTcpListener hy hlistener (hid ▸ hk)
        obtain ⟨name, hname⟩ := Option.ne_none_iff_exists'.mp ((hreg.remote hy).tcp htcp).2.2
        have hroute := PairRecordRoute.listener hk' hy hlistener hstate hid'
        rw [hname] at hroute
        change (Except.ok (remoteMuxNewWithHost sys y.host y.port) = .ok none ∧ _) ∨
          ∃ z, Except.ok (remoteMuxNewWithHost sys y.host y.port) = .ok (some z) ∧ _
        rw [hname, remoteMuxNewWithHost]
        cases hconn : sys.connect with
        | none => exact Or.inl ⟨rfl, Or.inr rfl⟩
        | some fd =>
            exact Or.inr ⟨{ remoteMuxNewWithFd sys fd with host := some name, port := y.port }, rfl,
              hroute, rfl⟩

end Search

/-! ## The request -/

/-- `plist_to_xml` succeeds, and the packet is below 2 GiB. -/
def Printable (plat : Platform) (msg : Plist) : Prop :=
  ∃ xml, plat.plistToXml msg = some xml ∧ headerSize + xml.length < 2 ^ 31

/-- One remote more, with a connection to an endpoint. -/
structure Opened (e : Endpoint) (fd : Nat) (s s' : Core) : Prop where
  remote : ∃ y, s'.remotes = Function.update s.remotes ⟨s.nextRemote⟩ (some y) ∧
    y.endpoint = e ∧ y.fd = fd
  list : s'.remoteList = s.remoteList.add ⟨s.nextRemote⟩

/-- A request about a device goes where it has to go. It fails, and adds no
remote, when there is no such place or it cannot be reached. -/
def Routed (sys : Sys) (s : Core) (o : Option UInt32) (m : Except Fault (Int × Daemon)) : Prop :=
  ((∀ e, ¬ PairRecordRoute s o e) ∨ sys.connect = none →
    ∃ s', m = .ok (-1, s') ∧ s'.toCore = s) ∧
  ∀ e fd, PairRecordRoute s o e → sys.connect = some fd →
    ∃ s', m = .ok (0, s') ∧ Opened e fd s s'.toCore

section Request

variable {plat : Platform} {sys : Sys} {s : Daemon} {c : ClientPtr} {x : MuxClient} {tag : UInt32}
  {u : String} {devices : List (UInt32 × Plist)}

/-- A packet fits a new output buffer, or the buffer grows. -/
theorem queueBytes_malloc {bs : List UInt8} (hrealloc : ∀ n, sys.realloc n = true)
    (hlen : bs.length < 2 ^ 31) : ∃ ob, queueBytes sys.realloc
      (Buf.malloc replyBufSize (by decide)) bs = .ok (some ob) := by
  have hcap : (Buf.malloc replyBufSize (by decide)).capacity = 65536 := rfl
  have hsize : (Buf.malloc replyBufSize (by decide)).size = 0 := rfl
  rw [queueBytes]
  split
  · rw [if_pos (hrealloc _), dif_pos]
    · exact ⟨_, rfl⟩
    · rw [hsize, hcap, enlargedSize, Nat.mod_eq_of_lt (by omega)]
      omega
  · rw [if_neg (by decide)]
    exact ⟨_, rfl⟩

/-- The first packet of a new remote is queued. -/
theorem remoteSendPlistPkt_first {r : RemotePtr} {y : RemoteMux} {msg : Plist}
    (hrealloc : ∀ n, sys.realloc n = true) (hmsg : Printable plat msg)
    (hy : s.remotes r = some y) (hob : y.ob = Buf.malloc replyBufSize (by decide)) :
    Post (fun _ => False) (fun res : Int × Daemon => 0 < res.1 ∧ ∃ ob e acts,
      res.2.toCore = (s.toCore.setRemote r { y with ob := ob, events := e }).emit acts)
      (remoteSendPlistPkt plat sys s r tag msg) := by
  obtain ⟨xml, hxml, hlen⟩ := hmsg
  have hread : s.remote r = .ok y := by
    rw [Daemon.remote, hy]
  have hwire : headerSize + (Payload.plist msg xml).wire.length < 2 ^ 31 := hlen
  rw [remoteSendPlistPkt, hxml]
  dsimp only
  rw [remoteSendPkt, packetHeader, if_pos hwire, hread]
  refine Post.bind (P := fun hdr : Header => (0 : Int) < hdr.length.toNat) ?_ fun hdr hpos => ?_
  · show (0 : Int) < (UInt32.ofNat _).toNat
    rw [UInt32.toNat_ofNat', Nat.mod_eq_of_lt (by omega), headerSize]
    omega
  · refine Post.bind (P := fun z => z = y) rfl fun z hz => ?_
    subst hz
    have hbytes : (hdr.bytes ++ (Payload.plist msg xml).wire).length < 2 ^ 31 := by
      rw [List.length_append, length_headerBytes]
      exact hwire
    obtain ⟨ob, hqueue⟩ := queueBytes_malloc hrealloc hbytes
    rw [hob, hqueue]
    exact ⟨hpos, ob, _, _, rfl⟩

/-- With a connection made, the rest of a request succeeds. -/
theorem forwardRequest_opens {k : UInt8} {y : RemoteMux} {cmd : RemoteCommand} {msg : Plist}
    (hx : s.clients c = some x) (hrealloc : ∀ n, sys.realloc n = true) (hmsg : Printable plat msg)
    (hnew : newRemoteFor sys s k = .ok (some y)) :
    Post (fun _ => False)
      (fun res : Int × Daemon => res.1 = 0 ∧ Opened y.endpoint y.fd s.toCore res.2.toCore)
      (forwardRequest plat sys s k tag cmd (.ok msg) c) := by
  have hlink : linkNewRemote s c y = .ok (⟨s.nextRemote⟩,
      ((s.update (·.setClient c { x with remote := some ⟨s.nextRemote⟩ })).update
        (·.addRemote y)).emit [.openRemote c ⟨s.nextRemote⟩ y.state]) := by
    rw [linkNewRemote, clientSetRemote, Daemon.modifyClient, Daemon.client, hx]
    rfl
  rw [forwardRequest, hnew]
  refine Post.bind (P := fun o => o = some y) rfl fun o ho => ?_
  subst ho
  dsimp only
  rw [hlink]
  refine Post.bind (P := fun p : RemotePtr × Daemon => p.1 = ⟨s.nextRemote⟩ ∧
    p.2.toCore = ((s.toCore.setClient c { x with remote := some ⟨s.nextRemote⟩ }).addRemote y).emit
      [.openRemote c ⟨s.nextRemote⟩ y.state]) ⟨rfl, rfl⟩ fun p hp => ?_
  obtain ⟨r, s₁⟩ := p
  obtain ⟨rfl, h₁⟩ := hp
  change s₁.toCore = _ at h₁
  have hy₁ : s₁.unlockRemoteList.remotes ⟨s.nextRemote⟩ = some y := by
    show s₁.toCore.remotes _ = _
    rw [h₁]
    exact remotes_linkNewRemote
  refine Post.bind (P := fun p => p = msg) rfl fun p hp => ?_
  subst hp
  refine Post.bind (remoteSendPlistPkt_first hrealloc hmsg hy₁ (newRemoteFor_ob hnew))
    fun res hres => ?_
  obtain ⟨res, s₂⟩ := res
  obtain ⟨hpos, ob, e, acts, h₂⟩ := hres
  change s₂.toCore = (s₁.toCore.setRemote _ _).emit acts at h₂
  rw [h₁, setRemote_linkNewRemote] at h₂
  dsimp only
  rw [if_pos hpos, Daemon.modifyRemote, Daemon.remote,
    show s₂.remotes ⟨s.nextRemote⟩ = some { y with ob := ob, events := e } by
      rw [h₂]
      exact remotes_linkNewRemote]
  refine ⟨rfl, ⟨{ y with ob := ob, events := e, lastCommand := some cmd, client := some c }, ?_,
    rfl, rfl⟩, ?_⟩
  · show (s₂.toCore.setRemote _ _).remotes = _
    rw [h₂, setRemote_emit_addRemote]
    rfl
  · show (s₂.toCore.setRemote _ _).remoteList = _
    rw [h₂, setRemote_emit_addRemote]
    rfl

/-- The common part of the requests. -/
theorem forwardRequest_routed {o : Option UInt32} {cmd : RemoteCommand} {msg : Plist}
    (hwf : WF s.toCore) (hreg : Registry s.toCore) (hx : s.clients c = some x)
    (hrealloc : ∀ n, sys.realloc n = true) (hmsg : Printable plat msg) :
    Routed sys s.toCore o
      (forwardRequest plat sys s ((o.getD 0) >>> 24).toUInt8 tag cmd (.ok msg) c) := by
  rcases @newRemoteFor_route s sys o hwf hreg with ⟨hnew, hwhy⟩ | ⟨y, hnew, hroute, hfd⟩
  · refine ⟨fun _ => ⟨s.unlockRemoteList, by rw [forwardRequest, hnew]; rfl, rfl⟩,
      fun e fd he hconn => ?_⟩
    rcases hwhy with hnone | hconn'
    · exact absurd he (hnone e)
    · rw [hconn'] at hconn
      cases hconn
  · refine ⟨fun hwhy => ?_, fun e fd he hconn => ?_⟩
    · rcases hwhy with hnone | hconn
      · exact absurd hroute (hnone _)
      · rw [hconn] at hfd
        cases hfd
    · obtain rfl := hroute.unique hreg he
      cases hfd.symm.trans hconn
      have hopens : Post _ _ (forwardRequest plat sys s ((o.getD 0) >>> 24).toUInt8 tag cmd
        (.ok msg) c) := forwardRequest_opens hx hrealloc hmsg hnew
      cases hres : forwardRequest plat sys s ((o.getD 0) >>> 24).toUInt8 tag cmd (.ok msg) c with
      | error f => exact (hopens.of_error hres).elim
      | ok res =>
          obtain ⟨hzero, hopened⟩ := hopens.of_ok hres
          exact ⟨res.2, by rw [← hzero], hopened⟩

theorem pairRecordRequest_routed {cmd : RemoteCommand} {msg : Plist} (hwf : WF s.toCore)
    (hreg : Registry s.toCore) (hlock : s.Unlocked) (hx : s.clients c = some x)
    (hdevices : s.remoteDeviceList.entries = devices.map fun d => (deviceKey d.1, d.2))
    (hrealloc : ∀ n, sys.realloc n = true) (hmsg : Printable plat msg) :
    Routed sys s.toCore (deviceWith u devices)
      (pairRecordRequest plat sys s (some u) tag cmd (.ok msg) c) := by
  have hremote := @pairRecordRemote_eq { s with remoteListLocked := true } u devices hdevices
  rw [pairRecordRequest, lockRemoteList_of_free hlock.1 hlock.2]
  change Routed sys s.toCore _
    (pairRecordRemote { s with remoteListLocked := true } (some u) >>= _)
  rw [hremote]
  exact forwardRequest_routed (s := { s with remoteListLocked := true }) hwf hreg hx hrealloc hmsg

/-- The three requests about the pair record of a device go to one endpoint:
the renamed socket when the device is not known or has remote id 0, else the
host of the listener with its remote id. A request fails and adds no remote
exactly when there is no such listener or no connection. -/
theorem pairRecord_routed {req : Plist} (hwf : WF s.toCore) (hreg : Registry s.toCore)
    (hlock : s.Unlocked) (hx : s.clients c = some x)
    (hdevices : s.remoteDeviceList.entries = devices.map fun d => (deviceKey d.1, d.2))
    (hrealloc : ∀ n, sys.realloc n = true)
    (hread : Printable plat (plistDictSetItem (createPlistMessage "ReadPairRecord") "PairRecordID"
      (.string u)))
    (hsave : Printable plat req)
    (hdelete : Printable plat (plistDictSetItem (createPlistMessage "DeletePairRecord")
      "PairRecordID" (.string u))) :
    (∀ e e', PairRecordRoute s.toCore (deviceWith u devices) e →
      PairRecordRoute s.toCore (deviceWith u devices) e' → e = e') ∧
    Routed sys s.toCore (deviceWith u devices)
      (usbmuxRemoteReadPairRecord plat sys s (some u) tag c) ∧
    Routed sys s.toCore (deviceWith u devices)
      (usbmuxRemoteSavePairRecord plat sys s (some u) req tag c) ∧
    Routed sys s.toCore (deviceWith u devices)
      (usbmuxRemoteDeletePairRecord plat sys s (some u) tag c) :=
  ⟨fun _ _ h h' => h.unique hreg h',
    pairRecordRequest_routed hwf hreg hlock hx hdevices hrealloc hread,
    pairRecordRequest_routed hwf hreg hlock hx hdevices hrealloc hsave,
    pairRecordRequest_routed hwf hreg hlock hx hdevices hrealloc hdelete⟩

end Request

def pairedMessage : Plist :=
  .dict [("MessageType", .string "Attached"), ("DeviceID", .uint 5),
    ("Properties", .dict [("SerialNumber", .string "abcd")])]

/-- The device is one of the listener. -/
theorem pairRecord_routed_listener :
    ∃ s s₁ s₂ s₃ : Daemon, Reachable (platformWith [pairedMessage]) s ∧
      usbmuxRemoteReadPairRecord (platformWith [pairedMessage]) { connect := some 12 } s
        (some "abcd") 7 ⟨0⟩ = .ok (0, s₁) ∧
      usbmuxRemoteSavePairRecord (platformWith [pairedMessage]) { connect := some 12 } s
        (some "abcd") pairedMessage 7 ⟨0⟩ = .ok (0, s₂) ∧
      usbmuxRemoteDeletePairRecord (platformWith [pairedMessage]) { connect := some 12 } s
        (some "abcd") 7 ⟨0⟩ = .ok (0, s₃) ∧
      ∀ t ∈ [s₁, s₂, s₃], Opened (.host (some "hosta") 5000) 12 s.toCore t.toCore := by
  let run : List Event :=
    .addRemote "hosta" 5000 { connect := some 10 } ::
      (remoteSends 10 (resultFrame 0) ++ remoteSends 10 (plistFrame 1 0 pairedMessage) ++
        [.accept (some 5)])
  let test : Daemon → Bool := fun s =>
    decide (s.remoteDeviceList.entries.length = 1) &&
    (s.remoteDeviceList.entries.all fun d =>
      decide (d.1 = deviceKey 0x01000005) && decide (serialNumber d.2 = some "abcd")) &&
    (s.clients ⟨0⟩).isSome &&
    (s.remotes ⟨0⟩).any fun y => y.isListener && decide (y.state = .listen) &&
      decide (y.id = 1) && decide (y.host = some "hosta") && decide (y.port = 5000)
  obtain ⟨s, hrun, htest⟩ : ∃ s, runFrom (platformWith [pairedMessage]) {} (fun _ _ => true) run =
      some s ∧ test s = true := exists_of_runFrom (by decide +kernel)
  have hs := reachable_of_runFrom hrun
  obtain ⟨hwf, hreg⟩ := reachable_registry hs
  simp only [test, Bool.and_eq_true, decide_eq_true_eq, Option.any_eq_true, List.all_eq_true]
    at htest
  obtain ⟨⟨⟨hlength, hdevices⟩, hclient⟩, y, hy, ⟨⟨⟨hlistener, hstate⟩, hid⟩, hhost⟩, hport⟩ :=
    htest
  obtain ⟨⟨key, value⟩, hentries⟩ := List.length_eq_one_iff.mp hlength
  obtain ⟨x, hx⟩ := Option.isSome_iff_exists.mp hclient
  obtain ⟨rfl, hserial⟩ := hdevices (key, value) (by rw [hentries]; exact List.mem_singleton_self _)
  have hsend : ∀ p, (headerSize + (xmlDocument p).length < 2 ^ 31) →
      Printable (platformWith [pairedMessage]) p := fun p hp => ⟨_, rfl, hp⟩
  have hdevice : deviceWith "abcd" [(0x01000005, value)] = some 0x01000005 := by
    rw [deviceWith, List.find?_cons_of_pos (by simp [hserial])]
    rfl
  have hroute : PairRecordRoute s.toCore (deviceWith "abcd" [(0x01000005, value)])
      (.host (some "hosta") 5000) := by
    rw [hdevice, ← hhost, ← hport]
    exact .listener (by decide) hy hlistener hstate (by rw [hid]; decide)
  obtain ⟨_, hread, hsave, hdelete⟩ := @pairRecord_routed (platformWith [pairedMessage])
    { connect := some 12 } s ⟨0⟩ x 7 "abcd" [(0x01000005, value)] pairedMessage hwf hreg
    (reachable_unlocked hs) hx hentries (fun _ => rfl)
    (hsend _ (by decide +kernel)) (hsend pairedMessage (by decide +kernel))
    (hsend _ (by decide +kernel))
  obtain ⟨s₁, hs₁, h₁⟩ := hread.2 _ 12 hroute rfl
  obtain ⟨s₂, hs₂, h₂⟩ := hsave.2 _ 12 hroute rfl
  obtain ⟨s₃, hs₃, h₃⟩ := hdelete.2 _ 12 hroute rfl
  refine ⟨s, s₁, s₂, s₃, hs, hs₁, hs₂, hs₃, fun t ht => ?_⟩
  rcases List.mem_cons.mp ht with rfl | ht
  · exact h₁
  · rcases List.mem_cons.mp ht with rfl | ht
    · exact h₂
    · rw [List.mem_singleton.mp ht]
      exact h₃

end Usbfluxd
