import Usbfluxd.Proofs.Links

/-!
# Namespaces of devices

A listener owns the device ids whose high byte is its own id. Everything it
says about a device is packed into that range, with one exception: a plist
message without a `DeviceID` is taken to be about device 0, whoever sent it,
and device 0 belongs to the local listener.
-/

namespace Usbfluxd

open Lib

/-- The remote a device id belongs to. -/
def deviceOwner (devid : UInt32) : UInt8 := (devid >>> 24).toUInt8

/-- The device a packet to a client announces or withdraws. -/
def notifiedDevice (hdr : Header) : Payload → Option UInt32
  | .plist p _ =>
      match plistDeviceEvent p with
      | none => none
      | some _ => (requestUint p "DeviceID").map UInt64.toUInt32
  | .binary bytes =>
      if hdr.message = messageDeviceAdd ∨ hdr.message = messageDeviceRemove then
        some (le32At (fun i => bytes.getD i 0) 0)
      else none

/-- What may be logged: clients are told about devices of one remote and about
nothing else. -/
def Act.ConfinedTo (k : UInt8) : Act → Prop
  | .queue _ hdr payload => ∃ g, notifiedDevice hdr payload = some g ∧ deviceOwner g = k
  | .queueRaw _ _ => False
  | _ => True

/-- Only devices of one remote are inserted, replaced or removed, and clients
are told about no others. -/
structure ConfinedTo (k : UInt8) (s s' : Core) : Prop where
  devices : ∀ key, deviceOwner (keyDevice key) ≠ k →
    s'.remoteDeviceList.get key = s.remoteDeviceList.get key
  notices : ∃ acts, s'.log = s.log ++ acts ∧ ∀ a ∈ acts, a.ConfinedTo k

/-! ## What a notification is about -/

section Notices

variable {k : UInt8} {devid d : UInt32} {dev : Plist} {proto : UInt32} {hdr : Header}
  {payload : Payload}

@[simp] theorem deviceOwner_remoteDevid : deviceOwner (remoteDevid k d) = k := by
  have hk : k.toNat < 2 ^ 8 := k.toNat_lt
  have hd : d.toNat % 2 ^ 24 < 2 ^ 24 := Nat.mod_lt _ (by decide)
  apply UInt8.toNat_inj.mp
  rw [deviceOwner, UInt32.toNat_toUInt8, UInt32.toNat_shiftRight, toNat_remoteDevid,
    Nat.shiftRight_eq_div_pow, show UInt32.toNat 24 % 32 = 24 from rfl]
  omega

@[simp] theorem toUInt32_intToUint64 : (intToUint64 devid).toUInt32 = devid := by
  rw [intToUint64]
  split
  · simp
  · rw [UInt64.toUInt32_or, UInt32.toUInt32_toUInt64,
      show UInt64.toUInt32 0xFFFFFFFF00000000 = 0 from rfl, UInt32.or_zero]

/-- A stored device names its id, in the low half of the number at least. -/
def NamesDevice (devid : UInt32) (dev : Plist) : Prop :=
  plistDeviceEvent dev = some .add ∧
    (requestUint dev "DeviceID").map UInt64.toUInt32 = some devid

theorem namesDevice_attachedPlist {p : Plist} (h : plistDeviceEvent p = some .add) :
    NamesDevice devid (attachedPlist devid p) := by
  obtain ⟨hmsg, hid⟩ : IsAttached devid (attachedPlist devid p) := attachedPlist_isAttached h
  constructor
  · rw [plistDeviceEvent, hmsg]
    rfl
  · rw [requestUint, hid]
    simp [plistGetUintVal]

theorem namesDevice_createDeviceAttachedPlist {serial : String} {location : UInt32}
    {pid : UInt16} {speed : UInt64} :
    NamesDevice devid (createDeviceAttachedPlist devid serial location pid speed) := by
  constructor
  · rfl
  · simp [createDeviceAttachedPlist, requestUint, plistDictGetItem, plistGetUintVal,
      List.lookup_cons]

theorem le32At_append {n : UInt32} {rest : List UInt8} :
    le32At (fun i => (le32 n ++ rest).getD i 0) 0 = n := by
  apply le32At_le32
  intro i hi
  rw [Nat.zero_add, List.getD_eq_getElem?_getD, List.getD_eq_getElem?_getD,
    List.getElem?_append_left (by rw [length_le32]; exact hi)]

theorem notifiedDevice_attached (hdev : NamesDevice devid dev)
    (h : (Note.attached dev).packet proto hdr payload) :
    notifiedDevice hdr payload = some devid := by
  obtain ⟨hevent, hid⟩ := hdev
  rcases h with ⟨_, _, xml, rfl⟩ | ⟨_, hmsg, rfl⟩
  · simp only [notifiedDevice, hevent]
    exact hid
  · obtain ⟨n, hn, rfl⟩ := Option.map_eq_some_iff.mp hid
    obtain ⟨v, hv, rfl⟩ := Option.map_eq_some_iff.mp hn
    simp only [notifiedDevice, hmsg, true_or, if_true, deviceRecord, hv, List.append_assoc]
    exact congrArg some le32At_append

theorem notifiedDevice_detached (h : (Note.detached devid).packet proto hdr payload) :
    notifiedDevice hdr payload = some devid := by
  rcases h with ⟨_, _, xml, rfl⟩ | ⟨_, hmsg, rfl⟩
  · simp [notifiedDevice, detachedPlist, plistDeviceEvent, plistDictCopyStringVal,
      plistDictGetItem, plistGetStringVal, requestUint, plistGetUintVal, List.lookup_cons]
  · simp only [notifiedDevice, hmsg, or_true, if_true]
    rw [← List.append_nil (le32 devid)]
    exact congrArg some le32At_append

/-- The walk over the clients logs the packets it queues. -/
theorem Notified.acts {lossOk : Prop} {note : Note} {cs : List ClientPtr} {s s' : Core}
    (h : Notified lossOk note cs s s') :
    ∃ acts, s'.log = s.log ++ acts ∧ ∀ a ∈ acts, ∃ c proto hdr payload,
      a = .queue c hdr payload ∧ note.packet proto hdr payload := by
  induction h with
  | nil => exact ⟨[], by simp, by simp⟩
  | skip _ _ _ ih | lost _ _ ih => exact ih
  | @sent c _ x hdr payload _ _ _ _ hpkt hq _ ih =>
      obtain ⟨_, _, ob, _, rfl⟩ := hq
      obtain ⟨acts, hlog, hacts⟩ := ih
      refine ⟨.queue c hdr payload :: acts, ?_, ?_⟩
      · rw [hlog]
        simp [Core.emit, Core.setClient]
      · intro a ha
        rcases List.mem_cons.mp ha with rfl | ha
        · exact ⟨c, _, hdr, payload, rfl, hpkt⟩
        · exact hacts a ha

end Notices

/-! ## Packets that cannot be queued -/

/-- The bytes do not fit, and the buffer cannot be enlarged. -/
def NoRoom (sys : Sys) (b : Buf) (n : Nat) : Prop :=
  b.capacity - b.size < n ∧ sys.realloc (enlargedSize b.capacity n) = false

/-- A client cannot be told: what it would be sent in its own protocol has no
XML or finds no room. -/
def Untold (plat : Platform) (sys : Sys) (plist : Plist) (bytes : List UInt8)
    (x : MuxClient) : Prop :=
  if x.protoVersion = 1 then
    ∀ xml, plat.plistToXml plist = some xml → NoRoom sys x.ob (headerSize + xml.length)
  else NoRoom sys x.ob (headerSize + bytes.length)

section Untold

variable {A : Allow} {s₀ : Core} {plat : Platform} {sys : Sys} {s : Daemon} {c : ClientPtr}
  {x : MuxClient} {tag msg : UInt32}

/-- The packet was not queued, or it is in the log. -/
def ToldUnless (P : Prop) (c : ClientPtr) (s s' : Daemon) : Prop :=
  (P ∧ s' = s) ∨ (¬ P ∧ ∃ hdr payload, s'.log = s.log ++ [.queue c hdr payload])

theorem queueBytes_noRoom {b : Buf} {bs : List UInt8} :
    Runs A s₀ (fun o => o = none ↔ NoRoom sys b bs.length) (queueBytes sys.realloc b bs) := by
  rw [queueBytes]
  split
  · next hroom =>
      split
      · next hok =>
          split
          · simp [Runs, Post, NoRoom, hok]
          · exact Runs.fault trivial
      · next hfail =>
          simp [Runs, Post, NoRoom, hroom, hfail]
  · next hroom =>
      split
      · exact Runs.fault trivial
      · simp [Runs, Post, NoRoom, hroom]

theorem sendPkt_told {payload : Payload} (hx : s.clients c = some x) :
    Runs A s₀ (fun res => ToldUnless (NoRoom sys x.ob (headerSize + payload.wire.length)) c s
      res.2) (sendPkt sys s c tag msg payload) := by
  refine client_runs.bind fun x' hx' => ?_
  cases hx.symm.trans hx'
  refine packetHeader_runs.bind fun hdr _ => ?_
  refine queueBytes_noRoom.bind fun o ho => ?_
  rw [List.length_append, length_headerBytes] at ho
  cases o with
  | none => exact Or.inl ⟨ho.mp rfl, rfl⟩
  | some ob =>
      refine Or.inr ⟨fun hno => ?_, hdr, payload, rfl⟩
      cases ho.mpr hno

/-- Both notifications are sent in the client's own protocol. -/
theorem sendEither_told {plist : Plist} {bytes : List UInt8} {send : Except Fault (Int × Daemon)}
    (hx : s.clients c = some x)
    (hsend : send = if x.protoVersion = 1 then sendPlistPkt plat sys s c tag plist
      else sendPkt sys s c tag msg (.binary bytes)) :
    Runs A s₀ (fun res => ToldUnless (Untold plat sys plist bytes x) c s res.2) send := by
  rw [hsend, Untold]
  by_cases hproto : x.protoVersion = 1
  · rw [if_pos hproto, if_pos hproto, sendPlistPkt]
    cases hxml : plat.plistToXml plist with
    | none =>
        left
        simp
    | some xml =>
        simp only [Option.some.injEq, forall_eq']
        exact sendPkt_told hx
  · rw [if_neg hproto, if_neg hproto]
    exact sendPkt_told hx

theorem notifyDeviceAdd_told {dev : Plist} (hx : s.clients c = some x) :
    Runs A s₀ (fun res => ToldUnless (Untold plat sys dev (deviceRecord dev) x) c s res.2)
      (notifyDeviceAdd plat sys s c dev) := by
  refine client_runs.bind fun x' hx' => ?_
  cases hx.symm.trans hx'
  exact sendEither_told hx rfl

theorem notifyDeviceRemove_told {deviceId : UInt32} (hx : s.clients c = some x) :
    Runs A s₀ (fun res => ToldUnless
      (Untold plat sys (detachedPlist deviceId) (le32 deviceId) x) c s res.2)
      (notifyDeviceRemove plat sys s c deviceId) := by
  refine client_runs.bind fun x' hx' => ?_
  cases hx.symm.trans hx'
  exact sendEither_told hx rfl

/-- Nothing is logged exactly when no listening client can be told. -/
theorem forListeningClients_told {U : MuxClient → Prop}
    {notify : Daemon → ClientPtr → Except Fault (Int × Daemon)}
    (hlist : ∀ c x, s.clients c = some x → c ∈ s.clientList.elems)
    (hnotify : ∀ {t : Daemon} {c x}, t.clients c = some x →
      Runs A s₀ (fun res => ToldUnless (U x) c t res.2) (notify t c)) :
    Runs A s₀ (fun s' => s'.log = s.log ↔
      ∀ c x, s.clients c = some x → x.state = .listen → U x) (forListeningClients notify s) := by
  refine lockClientList_runs.bind fun s₁ h₁ => ?_
  -- either nothing happened and the clients passed could not be told, or one was told
  refine Runs.bind (slotLoop_post (P := fun idx (t : Daemon) =>
    (t.toCore = s.toCore ∧ ∀ c x, s.clients c = some x → x.state = .listen →
      c ∉ idx.filterMap s.clientList.slot → U x) ∨
    (s.log.length < t.log.length ∧ ∃ c x, s.clients c = some x ∧ x.state = .listen ∧ ¬ U x))
    ?_ ?_ ?_) fun s₂ h₂ => ?_
  · intro t i rest h hi
    rcases h with ⟨ht, hpassed⟩ | h
    · rw [ht] at hi
      rw [List.filterMap_cons_none hi] at hpassed
      exact Or.inl ⟨ht, hpassed⟩
    · exact Or.inr h
  · intro t i rest c h hi
    refine client_runs.bind fun x hx => ?_
    rcases h with ⟨ht, hpassed⟩ | ⟨hlog, htold⟩
    · rw [ht] at hi hx
      rw [List.filterMap_cons_some hi] at hpassed
      have hrest : ∀ {c' x'}, s.clients c' = some x' → x'.state = .listen → (c' = c → U x') →
          c' ∉ rest.filterMap s.clientList.slot → U x' := by
        intro c' x' hx' hstate' hself hnot
        by_cases hc : c' = c
        · exact hself hc
        · exact hpassed c' x' hx' hstate' (by simp [hc, hnot])
      refine Runs.ite (fun hstate => ?_) fun hstate => ?_
      · refine (hnotify (t := t) (x := x) (by rw [ht]; exact hx)).bind ?_
        intro res hres
        rcases hres with ⟨hU, heq⟩ | ⟨hU, hdr, payload, hlog⟩
        · refine Or.inl ⟨(congrArg Daemon.toCore heq).trans ht, fun c' x' hx' hstate' => ?_⟩
          refine hrest hx' hstate' fun hc => ?_
          subst hc
          cases hx.symm.trans hx'
          exact hU
        · refine Or.inr ⟨?_, c, x, hx, hstate, hU⟩
          rw [show res.2.log = t.log ++ _ from hlog, ht]
          simp
      · refine Or.inl ⟨ht, fun c' x' hx' hstate' => hrest hx' hstate' fun hc => ?_⟩
        subst hc
        cases hx.symm.trans hx'
        exact absurd hstate' hstate
    · refine Runs.ite (fun _ => ?_) fun _ => Or.inr ⟨hlog, htold⟩
      refine (hnotify hx).bind ?_
      intro res hres
      rcases hres with ⟨_, heq⟩ | ⟨_, hdr, payload, heq⟩
      · exact Or.inr ⟨(congrArg (fun d : Daemon => d.log) heq) ▸ hlog, htold⟩
      · refine Or.inr ⟨?_, htold⟩
        rw [show res.2.log = t.log ++ _ from heq]
        simp only [List.length_append]
        omega
  · refine Or.inl ⟨h₁, fun c x hx _ hnot => ?_⟩
    rw [h₁, Collection.filterMap_slot_range] at hnot
    exact absurd (hlist c x hx) hnot
  · rcases h₂ with ⟨heq, hall⟩ | ⟨hlog, c, x, hx, hstate, hU⟩
    · refine iff_of_true (congrArg Core.log heq) fun c x hx hstate => hall c x hx hstate ?_
      simp
    · refine iff_of_false (fun heq => ?_) fun hall => hU (hall c x hx hstate)
      rw [show s₂.log = s.log from heq] at hlog
      omega

end Untold

/-! ## Handling a frame of a listener -/

section Devices

variable {A : Allow} {s₀ : Core} {s : Daemon} {plat : Platform} {sys : Sys} {devid : UInt32}
  {k : UInt8}

/-- One device is stored or removed, and every packet is about it. -/
structure Reported (devid : UInt32) (s s' : Core) : Prop where
  devices : ∀ key, key ≠ deviceKey devid →
    s'.remoteDeviceList.get key = s.remoteDeviceList.get key
  notices : ∃ acts, s'.log = s.log ++ acts ∧ ∀ a ∈ acts, ∃ c hdr payload,
    a = .queue c hdr payload ∧ notifiedDevice hdr payload = some devid

theorem Reported.confinedTo {s s' : Core} (h : Reported devid s s') (hk : deviceOwner devid = k) :
    ConfinedTo k s s' where
  devices key hkey := by
    apply h.devices
    intro heq
    rw [heq, keyDevice_deviceKey] at hkey
    exact hkey hk
  notices := by
    obtain ⟨acts, hlog, hacts⟩ := h.notices
    refine ⟨acts, hlog, fun a ha => ?_⟩
    obtain ⟨c, hdr, payload, rfl, hdev⟩ := hacts a ha
    exact ⟨devid, hdev, hk⟩

/-- A report about another remote's device is confined only if nothing comes
of it. -/
theorem Reported.confinedTo_iff {s s' : Core} (h : Reported devid s s')
    (hk : deviceOwner devid ≠ k) :
    ConfinedTo k s s' ↔ s'.remoteDeviceList.get (deviceKey devid) =
      s.remoteDeviceList.get (deviceKey devid) ∧ s'.log = s.log := by
  constructor
  · intro hconf
    refine ⟨hconf.devices _ (by rw [keyDevice_deviceKey]; exact hk), ?_⟩
    obtain ⟨acts, hlog, hacts⟩ := h.notices
    obtain ⟨acts', hlog', hacts'⟩ := hconf.notices
    obtain rfl : acts' = acts := List.append_cancel_left (hlog'.symm.trans hlog)
    cases acts' with
    | nil => rw [hlog, List.append_nil]
    | cons a rest =>
        obtain ⟨c, hdr, payload, rfl, hdev⟩ := hacts a List.mem_cons_self
        obtain ⟨g, hg, hgk⟩ := hacts' _ List.mem_cons_self
        cases hdev.symm.trans hg
        exact absurd hgk hk
  · intro hvoid
    refine ⟨fun key _ => ?_, [], by rw [hvoid.2, List.append_nil], by simp⟩
    by_cases hkey : key = deviceKey devid
    · rw [hkey]
      exact hvoid.1
    · exact h.devices key hkey

theorem deviceAttached_reported {dev : Plist} (hdev : NamesDevice devid dev)
    (hlist : ∀ c x, s.clients c = some x → c ∈ s.clientList.elems) :
    Runs .all s₀ (fun s' => Reported devid s.toCore s'.toCore ∧
      s'.remoteDeviceList.get (deviceKey devid) = some dev ∧
      (s'.log = s.log ↔ ∀ c x, s.clients c = some x → x.state = .listen →
        Untold plat sys dev (deviceRecord dev) x)) (deviceAttached plat sys s devid dev) := by
  refine lockRemoteList_runs.bind ?_
  rintro ⟨core, locked, locked'⟩ h₁
  obtain rfl : core = s.toCore := h₁
  let t : Daemon := (⟨s.toCore, locked, locked'⟩ : Daemon).update fun s =>
    { s with remoteDeviceList := s.remoteDeviceList.set (deviceKey devid) dev }
  have hnotified : Runs .all s₀ _ (clientDeviceAdd plat sys t dev) :=
    clientDeviceAdd_runs fun _ => trivial
  have htold : Runs .all s₀ _ (clientDeviceAdd plat sys t dev) :=
    forListeningClients_told hlist fun hx => notifyDeviceAdd_told hx
  refine Runs.bind (Post.and hnotified htold) fun s₁ h₁ => ?_
  obtain ⟨hn, htold⟩ := h₁
  have hdevs : s₁.remoteDeviceList = s.remoteDeviceList.set (deviceKey devid) dev :=
    hn.announces.remoteDeviceList
  refine ⟨⟨fun key hkey => ?_, ?_⟩, ?_, htold⟩
  · show s₁.remoteDeviceList.get key = _
    rw [hdevs, OMap.get_set, if_neg hkey]
  · obtain ⟨acts, hlog, hacts⟩ := hn.acts
    refine ⟨acts, hlog, fun a ha => ?_⟩
    obtain ⟨c, proto, hdr, payload, rfl, hpkt⟩ := hacts a ha
    exact ⟨c, hdr, payload, rfl, notifiedDevice_attached hdev hpkt⟩
  · show s₁.remoteDeviceList.get _ = _
    rw [hdevs, OMap.get_set, if_pos rfl]

theorem deviceDetached_reported
    (hlist : ∀ c x, s.clients c = some x → c ∈ s.clientList.elems) :
    Runs .all s₀ (fun s' => Reported devid s.toCore s'.toCore ∧
      s'.remoteDeviceList.get (deviceKey devid) = none ∧
      (s'.log = s.log ↔ ∀ c x, s.clients c = some x → x.state = .listen →
        Untold plat sys (detachedPlist devid) (le32 devid) x))
      (deviceDetached plat sys s devid) := by
  refine lockRemoteList_runs.bind ?_
  rintro ⟨core, locked, locked'⟩ h₁
  obtain rfl : core = s.toCore := h₁
  let t : Daemon := (⟨s.toCore, locked, locked'⟩ : Daemon).update fun s =>
    { s with remoteDeviceList := s.remoteDeviceList.erase (deviceKey devid) }
  have hnotified : Runs .all s₀ _ (clientDeviceRemove plat sys t devid) :=
    clientDeviceRemove_runs fun _ => trivial
  have htold : Runs .all s₀ _ (clientDeviceRemove plat sys t devid) :=
    forListeningClients_told hlist fun hx => notifyDeviceRemove_told hx
  refine Runs.bind (Post.and hnotified htold) fun s₁ h₁ => ?_
  obtain ⟨hn, htold⟩ := h₁
  have hdevs : s₁.remoteDeviceList = s.remoteDeviceList.erase (deviceKey devid) :=
    hn.announces.remoteDeviceList
  refine ⟨⟨fun key hkey => ?_, ?_⟩, ?_, htold⟩
  · show s₁.remoteDeviceList.get key = _
    rw [hdevs, OMap.get_erase, if_neg hkey]
  · obtain ⟨acts, hlog, hacts⟩ := hn.acts
    refine ⟨acts, hlog, fun a ha => ?_⟩
    obtain ⟨c, proto, hdr, payload, rfl, hpkt⟩ := hacts a ha
    exact ⟨c, hdr, payload, rfl, notifiedDevice_detached hpkt⟩
  · show s₁.remoteDeviceList.get _ = _
    rw [hdevs, OMap.get_erase, if_pos rfl]

end Devices

/-- A plist message about a device it does not name. -/
def Unnumbered (plat : Platform) (b : Buf) (event : DeviceEvent) (p : Plist) : Prop :=
  ((bufHeader plat b).version = 0 ∨ (bufHeader plat b).version = 1) ∧
    framePlist plat b = some p ∧ plistDeviceEvent p = some event ∧
    plistDictGetItem p "DeviceID" = none

/-- The dictionary has device 0 as the message wants it already, and no
listening client can be told. -/
def Void (plat : Platform) (sys : Sys) (s : Core) (event : DeviceEvent) (p : Plist) : Prop :=
  match event with
  | .add => s.remoteDeviceList.get (deviceKey 0) = some (attachedPlist 0 p) ∧
      ∀ c x, s.clients c = some x → x.state = .listen →
        Untold plat sys (attachedPlist 0 p) (deviceRecord (attachedPlist 0 p)) x
  | .remove => s.remoteDeviceList.get (deviceKey 0) = none ∧
      ∀ c x, s.clients c = some x → x.state = .listen →
        Untold plat sys (detachedPlist 0) (le32 0) x

section Frames

variable {plat : Platform} {sys : Sys} {s : Daemon} {r : RemotePtr} {y : RemoteMux} {s₀ : Core}

/-- The log only grows, and what happened is confined exactly if `P`. -/
def ConfinedIff (P : Prop) (k : UInt8) (s s' : Core) : Prop :=
  (∃ acts, s'.log = s.log ++ acts) ∧ (ConfinedTo k s s' ↔ P)

theorem Reported.confinedIff {devid : UInt32} {k : UInt8} {P : Prop} {s s' : Core}
    (h : Reported devid s s') (hk : deviceOwner devid = k) (hP : P) : ConfinedIff P k s s' := by
  obtain ⟨acts, hlog, _⟩ := h.notices
  exact ⟨⟨acts, hlog⟩, iff_of_true (h.confinedTo hk) hP⟩

/-- What a message without a device id must meet. -/
def UnnumberedOk (plat : Platform) (sys : Sys) (s : Core) (k : UInt8) (msg : Option Plist) :
    Prop :=
  ∀ event p, msg = some p → plistDeviceEvent p = some event →
    plistDictGetItem p "DeviceID" = none → k = 0 ∨ Void plat sys s event p

theorem plistDevid_owner {k : UInt8} {p : Plist} (h : plistDictGetItem p "DeviceID" ≠ none) :
    deviceOwner (plistDevid k p) = k := by
  obtain ⟨v, hv⟩ := Option.ne_none_iff_exists'.mp h
  rw [plistDevid, requestUint, hv]
  exact deviceOwner_remoteDevid

theorem plistDevid_unnumbered {k : UInt8} {p : Plist}
    (h : plistDictGetItem p "DeviceID" = none) : plistDevid k p = 0 := by
  rw [plistDevid, requestUint, h]
  rfl

/-- A message about device 0 that is not the sender's to speak of. -/
theorem Reported.confinedIff_unnumbered {k : UInt8} {p : Plist} {event : DeviceEvent}
    {s s' : Core} (h : Reported (plistDevid k p) s s') (hevent : plistDeviceEvent p = some event)
    (hvoid : plistDevid k p = 0 → (s'.remoteDeviceList.get (deviceKey 0) =
      s.remoteDeviceList.get (deviceKey 0) ∧ s'.log = s.log ↔ Void plat sys s event p)) :
    ConfinedIff (UnnumberedOk plat sys s k (some p)) k s s' := by
  by_cases hid : plistDictGetItem p "DeviceID" = none
  · have hzero : plistDevid k p = 0 := plistDevid_unnumbered hid
    by_cases hk : k = 0
    · refine h.confinedIff ?_ fun _ _ _ _ _ => Or.inl hk
      rw [hzero, hk]
      rfl
    · obtain ⟨acts, hlog, _⟩ := h.notices
      refine ⟨⟨acts, hlog⟩, ?_⟩
      have hvoid' := hvoid hzero
      rw [hzero] at h
      rw [h.confinedTo_iff fun hzero => hk hzero.symm, hvoid']
      constructor
      · intro hv event' p' hp' hevent' _
        cases hp'
        cases hevent.symm.trans hevent'
        exact Or.inr hv
      · intro hok
        exact (hok event p rfl hevent hid).resolve_left hk
  · refine h.confinedIff (plistDevid_owner hid) ?_
    intro event' p' hp' _ hnone
    cases hp'
    exact absurd hnone hid

theorem remoteHandleCommandResult_listen (hy : s.remotes r = some y) (hstate : y.state = .listen) :
    remoteHandleCommandResult plat sys s r =
      let t := s.emit [.frame r (bufFrame plat y.ib)]
      if (bufHeader plat y.ib).version ≠ 0 ∧ (bufHeader plat y.ib).version ≠ 1 then .ok t
      else handleListenState plat sys t r y (framePlist plat y.ib) := by
  have hself : s.remote r = .ok y := by
    rw [Daemon.remote, hy]
  simp only [remoteHandleCommandResult, hself, bind, Except.bind, hstate]
  rfl

theorem handleListenState_confined
    (hlist : ∀ c x, s.clients c = some x → c ∈ s.clientList.elems) :
    Runs .all s₀ (fun s' => ConfinedIff
      (UnnumberedOk plat sys s.toCore y.id (framePlist plat y.ib)) y.id s.toCore s'.toCore)
      (handleListenState plat sys s r y (framePlist plat y.ib)) := by
  cases hp : framePlist plat y.ib with
  | some p =>
      rw [handleListenState, deviceMessage_of_framePlist hp]
      cases hevent : plistDeviceEvent p with
      | none =>
          refine ⟨⟨[], by simp⟩, iff_of_true ⟨fun _ _ => rfl, [], by simp, by simp⟩ ?_⟩
          intro event' p' hp' hevent'
          cases hp'
          cases hevent.symm.trans hevent'
      | some event =>
          cases event with
          | add =>
              refine (deviceAttached_reported (namesDevice_attachedPlist hevent) hlist).imp ?_
              intro s' hs'
              obtain ⟨hrep, hget, hlog⟩ := hs'
              refine hrep.confinedIff_unnumbered hevent fun hzero => ?_
              rw [hzero] at hget hlog
              rw [hget, hlog, Void, eq_comm]
          | remove =>
              refine (deviceDetached_reported hlist).imp ?_
              intro s' hs'
              obtain ⟨hrep, hget, hlog⟩ := hs'
              refine hrep.confinedIff_unnumbered hevent fun hzero => ?_
              rw [hzero] at hget hlog
              rw [hget, hlog, Void, eq_comm]
  | none =>
      have hok : UnnumberedOk plat sys s.toCore y.id none := by
        intro event p hp
        cases hp
      have howner : ∀ {event devid}, deviceMessage plat y.id y.ib none = (some event, devid) →
          deviceOwner devid = y.id := by
        intro event devid hdev
        rw [deviceMessage] at hdev
        split at hdev
        · cases hdev
          exact deviceOwner_remoteDevid
        · split at hdev
          · cases hdev
            exact deviceOwner_remoteDevid
          · cases hdev
      rw [handleListenState]
      split
      · next devid hdev =>
          refine modifyRemote_runs.bind ?_
          intro s₁ hs₁
          obtain ⟨y', _, rfl⟩ := hs₁
          have hinfo : Runs .all s₀ (NamesDevice devid) (deviceInfoPlist plat devid y.ib) := by
            rw [deviceInfoPlist]
            split
            · exact Runs.fault trivial
            · exact namesDevice_createDeviceAttachedPlist
          refine hinfo.bind fun dev hnames => ?_
          refine Runs.imp (deviceAttached_reported hnames hlist) ?_
          intro s' hs'
          have hrep : Reported devid s.toCore s'.toCore := ⟨hs'.1.devices, hs'.1.notices⟩
          exact hrep.confinedIff (howner hdev) hok
      · next devid hdev =>
          refine (deviceDetached_reported hlist).imp ?_
          intro s' hs'
          exact hs'.1.confinedIff (howner hdev) hok
      · exact ⟨⟨[], by simp⟩, iff_of_true ⟨fun _ _ => rfl, [], by simp, by simp⟩ hok⟩

end Frames

/-- A frame has arrived in a remote's input buffer and is handled. -/
def handleFrame (plat : Platform) (sys : Sys) (s : Daemon) (r : RemotePtr) (frame : Buf) :
    Except Fault Daemon := do
  let s ← s.modifyRemote r fun y => { y with ib := frame }
  remoteHandleCommandResult plat sys s r

/-- Whatever frame a listener sends, it touches its own devices only, but for
a message without a device id from a listener whose id is not 0. -/
theorem handling_confined_iff {plat : Platform} {sys : Sys} {s s' : Daemon} {r : RemotePtr}
    {y : RemoteMux} {frame : Buf} (hs : Reachable plat s) (hy : s.remotes r = some y)
    (hstate : y.state = .listen) (hrun : handleFrame plat sys s r frame = .ok s') :
    ConfinedTo y.id s.toCore s'.toCore ↔ ∀ event p, Unnumbered plat frame event p →
      y.id = 0 ∨ Void plat sys s.toCore event p := by
  have hlist : ∀ c x, s.clients c = some x → c ∈ s.clientList.elems := by
    intro c x hx
    rw [(reachable_wf hs).clients c, hx]
    rfl
  let t : Daemon := (s.update (·.setRemote r { y with ib := frame })).emit
    [.frame r (bufFrame plat frame)]
  -- the log entry of the frame itself changes nothing
  have hentry : ∀ {acts}, s'.log = t.log ++ acts →
      (ConfinedTo y.id s.toCore s'.toCore ↔ ConfinedTo y.id t.toCore s'.toCore) := by
    intro acts hlog
    have hlog' : s'.log = s.log ++ .frame r (bufFrame plat frame) :: acts := by
      rw [hlog]
      simp [t, Daemon.emit, Daemon.update, Core.emit, Core.setRemote]
    constructor
    · intro hconf
      obtain ⟨acts', hacts', hok⟩ := hconf.notices
      obtain rfl := List.append_cancel_left (hacts'.symm.trans hlog')
      exact ⟨hconf.devices, acts, hlog, fun a ha => hok a (List.mem_cons_of_mem _ ha)⟩
    · intro hconf
      obtain ⟨acts', hacts', hok⟩ := hconf.notices
      obtain rfl := List.append_cancel_left (hacts'.symm.trans hlog)
      refine ⟨hconf.devices, _, hlog', fun a ha => ?_⟩
      rcases List.mem_cons.mp ha with rfl | ha
      · trivial
      · exact hok a ha
  have hself : s.remote r = .ok y := by
    rw [Daemon.remote, hy]
  rw [handleFrame, Daemon.modifyRemote, hself] at hrun
  change remoteHandleCommandResult plat sys
    (s.update (·.setRemote r { y with ib := frame })) r = _ at hrun
  rw [remoteHandleCommandResult_listen (y := { y with ib := frame })
    (by simp [Daemon.update, Core.setRemote]) hstate] at hrun
  change (if _ then Except.ok t else _) = _ at hrun
  split at hrun
  · next hver =>
      obtain rfl : t = s' := Except.ok.inj hrun
      rw [hentry (List.append_nil _).symm]
      refine iff_of_true ⟨fun _ _ => rfl, [], by simp, by simp⟩ ?_
      intro event p hun
      exact absurd hun.1 (not_or.mpr hver)
  · next hver =>
      have hconf : Runs .all s.toCore _ (handleListenState plat sys t r { y with ib := frame }
          (framePlist plat frame)) := handleListenState_confined hlist
      obtain ⟨⟨acts, hlog⟩, hiff⟩ := Post.of_ok hconf hrun
      rw [hentry hlog, hiff]
      constructor
      · intro hok event p hun
        exact hok event p hun.2.1 hun.2.2.1 hun.2.2.2
      · intro hok event p hp hevent hid
        refine hok event p ⟨?_, hp, hevent, hid⟩
        by_contra hnot
        exact hver (not_or.mp hnot)

/-- A TCP listener is accepted. -/
def listeningRun : List Event :=
  .addRemote "hosta" 5000 { connect := some 10 } :: remoteSends 10 (resultFrame 0)

/-- An announcement with a device id, and one without. -/
def numberedMessage : Plist := .dict [("MessageType", .string "Attached"), ("DeviceID", .uint 5)]

def unnumberedMessage : Plist := .dict [("MessageType", .string "Attached")]

/-- The input buffer of a remote that has received a message. -/
def receivedFrame (p : Plist) (h : (plistFrame 1 0 p).length ≤ replyBufSize * 8) : Buf :=
  { data := plistFrame 1 0 p, stale := [], capacity := replyBufSize * 8, size_le := h,
    capacity_lt := replyBufSize_mul_lt }

theorem handling_confined_iff_numbered :
    ∃ s s' y, Reachable (platformWith [numberedMessage]) s ∧ s.remotes ⟨0⟩ = some y ∧
      y.state = .listen ∧ y.id = 1 ∧ handleFrame (platformWith [numberedMessage]) {} s ⟨0⟩
        (receivedFrame numberedMessage (by decide +kernel)) = .ok s' ∧
      s'.remoteDeviceList.keys = ["0x01000005"] ∧ ConfinedTo 1 s.toCore s'.toCore := by
  let frame := receivedFrame numberedMessage (by decide +kernel)
  let test : Daemon → Bool := fun s =>
    (s.remotes ⟨0⟩).any (fun y => decide (y.state = .listen) && decide (y.id = 1)) &&
    okAnd (fun s' => decide (s'.remoteDeviceList.keys = ["0x01000005"]))
      (handleFrame (platformWith [numberedMessage]) {} s ⟨0⟩ frame)
  obtain ⟨s, hrun, htest⟩ : ∃ s, runFrom (platformWith [numberedMessage]) {} (fun _ _ => true)
      listeningRun = some s ∧ test s = true := exists_of_runFrom (by decide +kernel)
  simp only [test, Bool.and_eq_true, decide_eq_true_eq, Option.any_eq_true] at htest
  obtain ⟨⟨y, hy, hstate, hid⟩, htest⟩ := htest
  have hreach := reachable_of_runFrom hrun
  obtain ⟨s', hs', htest⟩ := exists_of_okAnd htest
  refine ⟨s, s', y, hreach, hy, hstate, hid, hs', of_decide_eq_true htest, ?_⟩
  rw [← hid]
  refine (handling_confined_iff hreach hy hstate hs').mpr ?_
  intro event p hun
  obtain ⟨_, hp, _, hnone⟩ := hun
  rw [framePlist] at hp
  split at hp
  · have hmem := List.mem_of_find?_eq_some hp
    rw [List.mem_singleton.mp hmem] at hnone
    cases hnone
  · cases hp

/-- A message without a device id makes the listener with id 1 announce the
local device 0. -/
theorem unnumbered_not_confined :
    ∃ s s' y, Reachable (platformWith [unnumberedMessage]) s ∧ s.remotes ⟨0⟩ = some y ∧
      y.isListener = true ∧ y.state = .listen ∧ y.id = 1 ∧
      handleFrame (platformWith [unnumberedMessage]) {} s ⟨0⟩
        (receivedFrame unnumberedMessage (by decide +kernel)) = .ok s' ∧
      ¬ ConfinedTo 1 s.toCore s'.toCore := by
  let frame := receivedFrame unnumberedMessage (by decide +kernel)
  let test : Daemon → Bool := fun s =>
    (s.remotes ⟨0⟩).any (fun y => y.isListener && decide (y.state = .listen) &&
      decide (y.id = 1)) && (s.remoteDeviceList.get (deviceKey 0)).isNone &&
    okAnd (fun s' => (s'.remoteDeviceList.get (deviceKey 0)).isSome)
      (handleFrame (platformWith [unnumberedMessage]) {} s ⟨0⟩ frame)
  obtain ⟨s, hrun, htest⟩ : ∃ s, runFrom (platformWith [unnumberedMessage]) {} (fun _ _ => true)
      listeningRun = some s ∧ test s = true := exists_of_runFrom (by decide +kernel)
  simp only [test, Bool.and_eq_true, decide_eq_true_eq, Option.any_eq_true] at htest
  obtain ⟨⟨⟨y, hy, ⟨hlis, hstate⟩, hid⟩, hbefore⟩, htest⟩ := htest
  have hreach := reachable_of_runFrom hrun
  obtain ⟨s', hs', htest⟩ := exists_of_okAnd htest
  refine ⟨s, s', y, hreach, hy, hlis, hstate, hid, hs', fun hconf => ?_⟩
  have hsame := hconf.devices (deviceKey 0) (by rw [keyDevice_deviceKey]; decide)
  rw [hsame, Option.isNone_iff_eq_none.mp hbefore] at htest
  cases htest

end Usbfluxd
