import Usbfluxd.Lib.Replica
import Usbfluxd.Proofs.Departure

/-!
# What listening clients know

A client that listens is sent the devices there are, and from then on every
device that comes or goes. Devices come and go on many paths: a message of a
listener, a listener that dies, one that is disposed of, one that is removed
from the list of services. On each of them the dictionary is changed and the
listening clients are walked over, and nothing says that the two agree.

They do, in runs without losses whose listeners send property lists: the
daemon is a publisher (`publisher`), every move of it is a step of the
publisher (`Move.publishes`), and so the devices a client can put together
from its packets are those in the dictionary.
-/

namespace Usbfluxd

open Lib

/-! ## What a client is told -/

/-- The packet withdraws a device. -/
def withdrawsDevice (hdr : Header) : Payload → Bool
  | .plist p _ => plistDeviceEvent p = some .remove
  | .binary _ => hdr.message = messageDeviceRemove

/-- The change of the device list that a packet reports to its client. -/
def deviceChange (hdr : Header) (payload : Payload) : Option (KeyChange UInt32) :=
  (notifiedDevice hdr payload).map fun g =>
    if withdrawsDevice hdr payload then .del g else .put g

/-- The changes a client has been told about, after one more entry of the
log. A listen request starts them afresh. -/
def noteChange (c : ClientPtr) (changes : List (KeyChange UInt32)) : Act → List (KeyChange UInt32)
  | .listen c' => if c' = c then [] else changes
  | .queue c' hdr payload =>
      if c' = c then changes ++ (deviceChange hdr payload).toList else changes
  | _ => changes

/-- The changes a client has been told about since it began to listen. -/
def toldChanges (c : ClientPtr) (log : List Act) : List (KeyChange UInt32) :=
  log.foldl (noteChange c) []

/-- An entry of the log tells a client nothing about devices. -/
def Act.Silent (c : ClientPtr) (a : Act) : Prop := ∀ changes, noteChange c changes a = changes

section Told

variable {c c' : ClientPtr} {a : Act} {log acts : List Act} {hdr : Header} {payload : Payload}
  {proto devid : UInt32} {dev : Plist}

theorem toldChanges_append : toldChanges c (log ++ acts) =
    acts.foldl (noteChange c) (toldChanges c log) := List.foldl_append

theorem toldChanges_silent (h : ∀ a ∈ acts, a.Silent c) :
    toldChanges c (log ++ acts) = toldChanges c log := by
  rw [toldChanges_append]
  induction acts generalizing log with
  | nil => rfl
  | cons a rest ih =>
      rw [List.foldl_cons, h a List.mem_cons_self, ih]
      exact fun b hb => h b (List.mem_cons_of_mem a hb)

/-- What is logged about other objects. -/
theorem Act.silent_of_client (h : a.client ≠ some c) : a.Silent c := by
  intro changes
  cases a with
  | queue c' hdr payload => exact if_neg fun hc => h (congrArg some hc)
  | listen c' => exact if_neg fun hc => h (congrArg some hc)
  | queueRaw | clientRecv | clientSend | clientRead | clientWrite | command | notifyConnect
  | openRemote | remoteQueue | remoteSend | remoteRecv | remoteConnected | relayRecv | frame => rfl

theorem Act.silent_queue (h : deviceChange hdr payload = none) :
    (Act.queue c hdr payload).Silent c' := by
  intro changes
  rw [noteChange, h]
  split
  · exact List.append_nil _
  · rfl

theorem toldChanges_queue : toldChanges c (log ++ [.queue c hdr payload]) =
    toldChanges c log ++ (deviceChange hdr payload).toList := by
  rw [toldChanges_append, List.foldl_cons, List.foldl_nil, noteChange, if_pos rfl]

theorem deviceChange_attached (hdev : NamesDevice devid dev)
    (h : (Note.attached dev).packet proto hdr payload) :
    deviceChange hdr payload = some (.put devid) := by
  have hno : withdrawsDevice hdr payload = false := by
    rcases h with ⟨_, _, xml, rfl⟩ | ⟨_, hmsg, rfl⟩
    · simp [withdrawsDevice, hdev.1]
    · rw [withdrawsDevice, hmsg]
      rfl
  rw [deviceChange, notifiedDevice_attached hdev h, hno]
  rfl

theorem deviceChange_detached (h : (Note.detached devid).packet proto hdr payload) :
    deviceChange hdr payload = some (.del devid) := by
  have hyes : withdrawsDevice hdr payload = true := by
    rcases h with ⟨_, _, xml, rfl⟩ | ⟨_, hmsg, rfl⟩
    · rfl
    · rw [withdrawsDevice, hmsg]
      rfl
  rw [deviceChange, notifiedDevice_detached h, hyes]
  rfl

/-- A result is about no device. -/
theorem deviceChange_result {tag result : UInt32}
    (h : IsResultPacket proto tag result hdr payload) : deviceChange hdr payload = none := by
  obtain ⟨_, _, ⟨_, _, xml, rfl⟩ | ⟨_, hmsg, rfl⟩⟩ := h
  · rfl
  · rw [deviceChange, notifiedDevice, hmsg]
    rfl

end Told

/-! ## The daemon as a publisher -/

/-- The client listens. -/
def Listens (s : Core) (c : ClientPtr) : Prop :=
  ∃ x, s.clients c = some x ∧ x.state = .listen

/-- The devices there are, and what the listening clients have been told. -/
def publisher (s : Core) : Publisher ClientPtr UInt32 where
  keys := {g | deviceKey g ∈ s.remoteDeviceList.keys}
  sent c := (s.clients c).bind fun x =>
    if x.state = .listen then some (toldChanges c s.log) else none

/-- Every entry of the dictionary is the `Attached` message of the device its
key stands for. -/
def DevicesNamed (s : Core) : Prop :=
  ∀ p ∈ s.remoteDeviceList.entries, ∃ g, p.1 = deviceKey g ∧ IsAttached g p.2

theorem IsAttached.namesDevice {devid : UInt32} {dev : Plist} (h : IsAttached devid dev) :
    NamesDevice devid dev := by
  obtain ⟨hmsg, hid⟩ := h
  constructor
  · rw [plistDeviceEvent, hmsg]
    rfl
  · rw [requestUint, hid]
    simp [plistGetUintVal]

section Publisher

variable {s s' : Core} {c : ClientPtr} {changes : List (KeyChange UInt32)}

theorem sent_eq_some : (publisher s).sent c = some changes ↔
    Listens s c ∧ toldChanges c s.log = changes := by
  rw [publisher, Option.bind_eq_some_iff]
  constructor
  · intro h
    obtain ⟨x, hx, hsent⟩ := h
    split at hsent
    · next hstate => exact ⟨⟨x, hx, hstate⟩, Option.some.inj hsent⟩
    · cases hsent
  · intro h
    obtain ⟨⟨x, hx, hstate⟩, rfl⟩ := h
    exact ⟨x, hx, if_pos hstate⟩

theorem sent_of_listens (h : Listens s c) :
    (publisher s).sent c = some (toldChanges c s.log) := sent_eq_some.mpr ⟨h, rfl⟩

theorem sent_of_not_listens (h : ¬ Listens s c) : (publisher s).sent c = none := by
  cases hsent : (publisher s).sent c with
  | none => rfl
  | some changes => exact absurd (sent_eq_some.mp hsent).1 h

/-- The same clients listen and have been told the same. -/
structure SameView (s s' : Core) : Prop where
  listens : ∀ c, Listens s' c ↔ Listens s c
  told : ∀ c, Listens s' c → toldChanges c s'.log = toldChanges c s.log

theorem SameView.sent (h : SameView s s') : (publisher s').sent = (publisher s).sent := by
  funext c
  by_cases hc : Listens s' c
  · rw [sent_of_listens hc, sent_of_listens ((h.listens c).mp hc), h.told c hc]
  · rw [sent_of_not_listens hc, sent_of_not_listens fun hs => hc ((h.listens c).mpr hs)]

theorem publisher_congr (hdev : s'.remoteDeviceList = s.remoteDeviceList)
    (hsent : (publisher s').sent = (publisher s).sent) : publisher s' = publisher s := by
  have hkeys : (publisher s').keys = (publisher s).keys := by
    rw [publisher, publisher, hdev]
  cases hp : publisher s
  cases hp' : publisher s'
  rw [hp, hp'] at hkeys hsent
  cases hkeys
  cases hsent
  rfl

end Publisher

/-! ## Telling every listening client -/

section Walks

variable {lossOk : Prop} {s s' : Core} {c : ClientPtr}

theorem Listens.same (h : SameButClients s s') : Listens s' c ↔ Listens s c := by
  constructor
  · intro hl
    obtain ⟨x', hx', hstate⟩ := hl
    cases hx : s.clients c with
    | none => cases (h.noClient hx).symm.trans hx'
    | some x =>
        obtain ⟨ob, e, hx'', _⟩ := h.client hx
        cases hx''.symm.trans hx'
        exact ⟨x, hx, hstate⟩
  · intro hl
    obtain ⟨x, hx, hstate⟩ := hl
    obtain ⟨ob, e, hx', _⟩ := h.client hx
    exact ⟨_, hx', hstate⟩

theorem Queued.log {x : MuxClient} {hdr : Header} {payload : Payload}
    (h : Queued c x hdr payload s s') : s'.log = s.log ++ [.queue c hdr payload] := by
  obtain ⟨_, _, ob, _, rfl⟩ := h
  rfl

theorem Queued.told_of_ne {c' : ClientPtr} {x : MuxClient} {hdr : Header} {payload : Payload}
    (h : Queued c x hdr payload s s') (hne : c' ≠ c) :
    toldChanges c' s'.log = toldChanges c' s.log := by
  rw [h.log]
  refine toldChanges_silent fun a ha => ?_
  rw [List.mem_singleton.mp ha]
  exact Act.silent_of_client fun hc => hne (Option.some.inj hc).symm

/-- The walk over the clients tells each of them that listens once, and no
other. -/
theorem Notified.reports {note : Note} {cs : List ClientPtr} {change : KeyChange UInt32}
    (hloss : ¬ lossOk)
    (hnote : ∀ {proto hdr payload}, note.packet proto hdr payload →
      deviceChange hdr payload = some change)
    (h : Notified lossOk note cs s s') (hnodup : cs.Nodup) :
    (c ∈ cs → Listens s c → toldChanges c s'.log = toldChanges c s.log ++ [change]) ∧
      (c ∉ cs → toldChanges c s'.log = toldChanges c s.log) := by
  induction h with
  | nil => exact ⟨fun hc => absurd hc List.not_mem_nil, fun _ => rfl⟩
  | lost hl => exact absurd hl hloss
  | @skip c' rest x s s' hx hstate _ ih =>
      obtain ⟨_, hrest⟩ := List.nodup_cons.mp hnodup
      obtain ⟨htold, hother⟩ := ih hrest
      constructor
      · intro hc hl
        rcases List.mem_cons.mp hc with rfl | hc
        · obtain ⟨z, hz, hlisten⟩ := hl
          cases hx.symm.trans hz
          exact absurd hlisten hstate
        · exact htold hc hl
      · intro hc
        exact hother fun hmem => hc (List.mem_cons_of_mem _ hmem)
  | @sent c' rest x hdr payload s s₁ s' _ hpkt hq _ ih =>
      obtain ⟨hnot, hrest⟩ := List.nodup_cons.mp hnodup
      obtain ⟨htold, hother⟩ := ih hrest
      constructor
      · intro hc hl
        by_cases hcc : c = c'
        · subst hcc
          rw [hother hnot, hq.log, toldChanges_queue, hnote hpkt]
          rfl
        · have hmem := (List.mem_cons.mp hc).resolve_left hcc
          rw [htold hmem ((Listens.same hq.same).mpr hl), hq.told_of_ne hcc]
      · intro hc
        rw [List.mem_cons, not_or] at hc
        rw [hother hc.2, hq.told_of_ne hc.1]

/-- The snapshot tells one client about every entry of the dictionary. -/
theorem Snapshot.reports {entries : List (String × Plist)} (hloss : ¬ lossOk)
    (hnamed : ∀ p ∈ entries, ∃ g, p.1 = deviceKey g ∧ IsAttached g p.2)
    (h : Snapshot lossOk c (entries.map Prod.snd) s s') :
    toldChanges c s'.log =
        toldChanges c s.log ++ (entries.map fun p => keyDevice p.1).map .put ∧
      ∀ c', c' ≠ c → toldChanges c' s'.log = toldChanges c' s.log := by
  induction entries generalizing s with
  | nil =>
      cases h with
      | lost hl => exact absurd hl hloss
      | nil => exact ⟨(List.append_nil _).symm, fun _ _ => rfl⟩
  | cons p rest ih =>
      cases h with
      | lost hl => exact absurd hl hloss
      | @sent _ _ x hdr payload _ s₁ _ hstate hpkt hq hrest =>
          obtain ⟨g, hkey, hdev⟩ := hnamed p List.mem_cons_self
          obtain ⟨hself, hother⟩ := ih (fun q hq => hnamed q (List.mem_cons_of_mem _ hq)) hrest
          have hchange := deviceChange_attached hdev.namesDevice hpkt
          constructor
          · rw [hself, hq.log, toldChanges_queue, hchange]
            simp [hkey]
          · intro c' hne
            rw [hother c' hne, hq.told_of_ne hne]

end Walks

/-! ## Every move is a step of the publisher -/

section Views

variable {s s' : Core} {c : ClientPtr} {x x' : MuxClient} {acts : List Act}

/-- One client changes, and does not begin to listen. -/
theorem SameView.of_client (hx : s.clients c = some x)
    (hclients : ∀ c', s'.clients c' = if c' = c then some x' else s.clients c')
    (hlog : s'.log = s.log ++ acts) (hstate : x'.state = .listen ↔ x.state = .listen)
    (hother : ∀ a ∈ acts, a.client = some c ∨ a.client = none)
    (hself : x'.state = .listen → ∀ a ∈ acts, a.Silent c) : SameView s s' := by
  constructor
  · intro c'
    rw [Listens, Listens, hclients]
    by_cases hc : c' = c
    · subst hc
      simp [hx, hstate]
    · rw [if_neg hc]
  · intro c' hl
    obtain ⟨z, hz, hlisten⟩ := hl
    rw [hlog]
    refine toldChanges_silent fun a ha => ?_
    rw [hclients] at hz
    split at hz
    · next hc =>
        subst hc
        cases hz
        exact hself hlisten a ha
    · next hc =>
        refine Act.silent_of_client ?_
        rcases hother a ha with heq | heq
        · rw [heq]
          exact fun h => hc (Option.some.inj h).symm
        · simp [heq]

/-- No client changes. -/
theorem SameView.of_log (hclients : s'.clients = s.clients) (hlog : s'.log = s.log ++ acts)
    (hacts : ∀ a ∈ acts, a.client = none) : SameView s s' := by
  constructor
  · intro c
    rw [Listens, Listens, hclients]
  · intro c _
    rw [hlog]
    refine toldChanges_silent fun a ha => Act.silent_of_client ?_
    simp [hacts a ha]

theorem ClientStep.listen_iff (h : ClientStep c x acts x') :
    x'.state = .listen ↔ x.state = .listen := by
  constructor
  · exact fun hstate => (h.listening hstate).1
  · intro hstate
    cases h with
    | connected hconn => cases hconn.symm.trans hstate
    | notifyFail hconn => cases hconn.symm.trans hstate
    | queue | recv | command | inputDone | proto | info | events | send => exact hstate

/-- What a listening client is sent besides notifications are results. -/
theorem ClientStep.silent (h : ClientStep c x acts x') (hstate : x'.state = .listen) :
    ∀ a ∈ acts, a.Silent c := by
  intro a ha
  cases h with
  | queue _ _ hkind =>
      rw [List.mem_singleton.mp ha]
      rcases hkind with hcmd | ⟨tag, result, hpkt⟩
      · cases hcmd.symm.trans hstate
      · exact Act.silent_queue (deviceChange_result hpkt)
  | recv =>
      rw [recvActs] at ha
      split at ha
      · cases ha
      · rw [List.mem_singleton.mp ha]
        exact fun _ => rfl
  | command | send =>
      rw [List.mem_singleton.mp ha]
      exact fun _ => rfl
  | inputDone | proto | info | events => cases ha
  | connected | notifyFail => cases hstate

end Views

/-- Nothing is lost, and no device is announced in a binary frame. -/
def Allow.plistOnly : Allow := { Allow.all with lossOk := False, binaryOk := False }

/-- The publisher does something, or nothing that concerns it happens. -/
def Publishes (s s' : Core) : Prop :=
  publisher s' = publisher s ∨ (publisher s).Step (publisher s')

section Moves

variable {s s' : Core}

theorem DevicesNamed.congr (h : DevicesNamed s)
    (hdev : s'.remoteDeviceList = s.remoteDeviceList) : DevicesNamed s' := by
  rw [DevicesNamed, hdev]
  exact h

theorem DevicesNamed.mem_keys (h : DevicesNamed s) {key : String}
    (hkey : key ∈ s.remoteDeviceList.keys) : ∃ g, key = deviceKey g := by
  obtain ⟨p, hp, rfl⟩ := List.mem_map.mp hkey
  obtain ⟨g, hg, _⟩ := h p hp
  exact ⟨g, hg⟩

/-- Every move leaves devices that are named by their keys. -/
theorem DevicesNamed.move (hm : Move .plistOnly s s') (h : DevicesNamed s) : DevicesNamed s' := by
  cases hm with
  | client | remote | forward | relayRead | relayWrite | accept | connect | request | notifyOk
  | addListener | closeRemote | killId => exact h
  | @closeClient c x =>
      refine h.congr ?_
      rw [Core.closeClient]
      cases x.remote <;> rfl
  | dispose => exact h.congr Core.remoteDeviceList_dispose
  | @deviceSet devid dev s' hdev =>
      intro p hp
      rcases mem_assocSet hp with rfl | hp
      · exact ⟨devid, rfl, hdev.resolve_right id⟩
      · exact h p hp
  | @deviceErase key s' =>
      intro p hp
      rw [OMap.entries_erase] at hp
      exact h p (List.mem_filter.mp hp).1
  | listen _ _ hn => exact h.congr hn.announces.remoteDeviceList

/-- The devices change, and the walk over the clients reports the change. -/
theorem Publishes.of_change {note : Note} {change : KeyChange UInt32} {devs : OMap String Plist}
    (hwf : WF s)
    (hnote : ∀ {proto hdr payload}, note.packet proto hdr payload →
      deviceChange hdr payload = some change)
    (hn : Notified False note s.clientList.elems s s')
    (hkeys : ∀ g, deviceKey g ∈ devs.keys ↔ g ∈ change.apply (publisher s).keys) :
    Publishes s { s' with remoteDeviceList := devs } := by
  have hsame := hn.announces.same
  have hpub : publisher { s' with remoteDeviceList := devs } =
      { keys := change.apply (publisher s).keys,
        sent := fun c => ((publisher s).sent c).map (· ++ [change]) } := by
    have hsent : (publisher { s' with remoteDeviceList := devs }).sent =
        fun c => ((publisher s).sent c).map (· ++ [change]) := by
      funext c
      change (publisher s').sent c = _
      by_cases hc : Listens s c
      · have hmem : c ∈ s.clientList.elems := by
          obtain ⟨x, hx, _⟩ := hc
          rw [hwf.clients, hx]
          rfl
        rw [sent_of_listens hc, sent_of_listens ((Listens.same hsame).mpr hc),
          (hn.reports id hnote hwf.clientsNodup).1 hmem hc]
        rfl
      · rw [sent_of_not_listens hc,
          sent_of_not_listens fun hl => hc ((Listens.same hsame).mp hl)]
        rfl
    rw [← hsent, ← Set.ext hkeys]
    rfl
  right
  rw [hpub]
  exact .change change

theorem Publishes.of_view (hdev : s'.remoteDeviceList = s.remoteDeviceList)
    (h : SameView s s') : Publishes s s' :=
  Or.inl (publisher_congr hdev h.sent)

/-- Clients go and nothing is logged. -/
theorem Publishes.of_leaves (hdev : s'.remoteDeviceList = s.remoteDeviceList)
    (hlog : s'.log = s.log) (h : Leaves s s') : Publishes s s' := by
  have hpub : publisher s' = { publisher s with sent := (publisher s').sent } := by
    rw [publisher, publisher, hdev]
  right
  rw [hpub]
  refine .leave fun c changes hc => ?_
  obtain ⟨⟨x, hx, hstate⟩, htold⟩ := sent_eq_some.mp hc
  rw [hlog] at htold
  exact sent_eq_some.mpr ⟨⟨x, h.client hx, hstate⟩, htold⟩

/-- A client begins to listen. -/
theorem Publishes.of_listen {c : ClientPtr} {x : MuxClient} (hnamed : DevicesNamed s)
    (hx : s.clients c = some x)
    (hn : Snapshot False c s.remoteDeviceList.values
      ((s.setClient c { x with state := .listen }).emit [.listen c]) s') : Publishes s s' := by
  obtain ⟨hself, hother⟩ := hn.reports id hnamed
  have hsame := hn.announces.same
  have hpub : publisher s' = { publisher s with sent := (publisher s').sent } := by
    rw [publisher, publisher, hn.announces.remoteDeviceList]
    rfl
  -- the snapshot has the devices there are
  have hkeys : ∀ g, g ∈ s.remoteDeviceList.entries.map (fun p => keyDevice p.1) ↔
      g ∈ (publisher s).keys := by
    intro g
    constructor
    · intro hg
      obtain ⟨p, hp, rfl⟩ := List.mem_map.mp hg
      obtain ⟨g, hkey, _⟩ := hnamed p hp
      rw [hkey, keyDevice_deviceKey]
      change deviceKey g ∈ s.remoteDeviceList.keys
      rw [← hkey]
      exact List.mem_map_of_mem hp
    · intro hg
      obtain ⟨p, hp, hkey⟩ := List.mem_map.mp hg
      refine List.mem_map.mpr ⟨p, hp, ?_⟩
      rw [hkey, keyDevice_deviceKey]
  have hsent : (publisher s').sent c =
      some ((s.remoteDeviceList.entries.map fun p => keyDevice p.1).map .put) := by
    have hl : Listens s' c := by
      refine (Listens.same hsame).mpr ⟨{ x with state := .listen }, ?_, rfl⟩
      rw [Core.clients_emit, Core.clients_setClient, if_pos rfl]
    have hstart : toldChanges c (s.log ++ [.listen c]) = [] := by
      rw [toldChanges_append]
      exact if_pos rfl
    rw [sent_of_listens hl, hself]
    change some (toldChanges c (s.log ++ [.listen c]) ++ _) = _
    rw [hstart, List.nil_append]
  have hrest : ∀ c', c' ≠ c → (publisher s').sent c' = (publisher s).sent c' := by
    intro c' hne
    have hlisten : Listens s' c' ↔ Listens s c' := by
      rw [Listens.same hsame, Listens, Listens, Core.clients_emit, Core.clients_setClient,
        if_neg hne]
    have htold : toldChanges c' s'.log = toldChanges c' s.log := by
      rw [hother c' hne]
      refine toldChanges_silent fun a ha => ?_
      rw [List.mem_singleton.mp ha]
      exact Act.silent_of_client fun h => hne (Option.some.inj h).symm
    by_cases hc : Listens s' c'
    · rw [sent_of_listens hc, sent_of_listens (hlisten.mp hc), htold]
    · rw [sent_of_not_listens hc, sent_of_not_listens fun hs => hc (hlisten.mpr hs)]
  right
  rw [hpub]
  exact .subscribe hkeys hsent hrest

/-- Every move of the daemon is a step of the publisher it stands for. -/
theorem Move.publishes (hwf : WF s) (hnamed : DevicesNamed s) (hm : Move .plistOnly s s') :
    Publishes s s' := by
  cases hm with
  | client hx h =>
      exact .of_view rfl (.of_client hx (fun _ => Core.clients_setClient) rfl h.listen_iff
        (fun a ha => Or.inl (h.act_client a ha).1) h.silent)
  | remote hy h => exact .of_view rfl (.of_log rfl rfl fun a ha => (h.act_remote a ha).2)
  | @forward r y c x ob cmd bytes _ _ _ _ _ hx =>
      refine .of_view rfl (.of_client hx (fun _ => Core.clients_setClient) rfl Iff.rfl ?_ ?_)
      · intro a ha
        exact Or.inl (List.mem_singleton.mp ha ▸ rfl)
      · intro _ a ha
        rw [List.mem_singleton.mp ha]
        exact fun _ => rfl
  | relayRead hx | relayWrite hx =>
      refine .of_view rfl (.of_client hx (fun _ => Core.clients_setClient) rfl Iff.rfl ?_ ?_)
      · intro a ha
        exact Or.inl (List.mem_singleton.mp ha ▸ rfl)
      · intro _ a ha
        rw [List.mem_singleton.mp ha]
        exact fun _ => rfl
  | @accept fd =>
      refine .of_view rfl ⟨fun c => ?_, fun _ _ => rfl⟩
      constructor
      · intro hl
        obtain ⟨x, hx, hstate⟩ := hl
        rcases Core.clients_addClient_cases hx with ⟨_, rfl⟩ | hx
        · cases hstate
        · exact ⟨x, hx, hstate⟩
      · intro hl
        obtain ⟨x, hx, hstate⟩ := hl
        refine ⟨x, ?_, hstate⟩
        change (s.addClient _).clients c = _
        rw [Core.clients_addClient, if_neg ?_]
        · exact hx
        · intro heq
          rw [heq, hwf.nextClient_free] at hx
          cases hx
  | @connect c x tag deviceId y acts hx hstate _ _ _ hacts =>
      refine .of_view rfl (.of_client hx (fun _ => Core.clients_setClient) rfl ?_ ?_ ?_)
      · simp [hstate]
      · intro a ha
        rcases List.mem_cons.mp ha with rfl | ha
        · exact Or.inl rfl
        · exact Or.inr (hacts.act_remote a ha).2
      · intro h
        cases h
  | @request c x k y acts hx hstate _ _ _ hacts =>
      refine .of_view rfl (.of_client hx (fun _ => Core.clients_setClient) rfl Iff.rfl ?_ ?_)
      · intro a ha
        rcases List.mem_cons.mp ha with rfl | ha
        · exact Or.inl rfl
        · exact Or.inr (hacts.act_remote a ha).2
      · intro h
        cases hstate.symm.trans h
  | notifyOk _ _ _ hx hstate =>
      refine .of_view rfl (.of_client hx (fun _ => Core.clients_setClient) rfl ?_ ?_ ?_)
      · simp [hstate]
      · intro a ha
        simp only [List.mem_cons, List.not_mem_nil, or_false] at ha
        rcases ha with rfl | rfl | rfl
        · exact Or.inl rfl
        · exact Or.inl rfl
        · exact Or.inr rfl
      · intro h
        cases h
  | addListener _ hacts =>
      exact .of_view rfl (.of_log rfl rfl fun a ha => (hacts.act_remote a ha).2)
  | @closeClient c x =>
      refine .of_leaves ?_ Core.log_closeClient .closeClient
      rw [Core.closeClient]
      cases x.remote <;> rfl
  | closeRemote => exact .of_leaves rfl rfl .dropRemote
  | dispose => exact .of_leaves Core.remoteDeviceList_dispose Core.log_dispose .dispose
  | killId => exact .of_view rfl ⟨fun _ => Iff.rfl, fun _ _ => rfl⟩
  | @deviceSet devid dev s' hdev hn =>
      refine .of_change hwf (deviceChange_attached (hdev.resolve_right id).namesDevice) hn ?_
      intro g
      rw [OMap.mem_keys_set, mem_apply_put, deviceKey_injective.eq_iff]
      rfl
  | @deviceErase key s' hkey hn =>
      obtain ⟨devid, rfl⟩ : ∃ devid, key = deviceKey devid :=
        hkey.elim hnamed.mem_keys id
      rw [keyDevice_deviceKey] at hn
      refine .of_change hwf deviceChange_detached hn ?_
      intro g
      rw [OMap.mem_keys_erase, mem_apply_del, Ne, deviceKey_injective.eq_iff]
      rfl
  | listen hx _ hn => exact .of_listen hnamed hx hn

end Moves

/-! ## Runs -/

/-- The event loses nothing, and if it is the end of a frame that a listener
sends then the frame does not announce a device in the binary protocol. -/
def PlistOnly (plat : Platform) (s : Daemon) (e : Event) : Prop :=
  e.lossless plat ∧ ∀ fd revents sys r y, e = .remote fd revents sys → s.remotes r = some y →
    y.fd = fd → revents.pollin = true → ¬ BinaryAdd plat sys y

theorem allows_plistOnly {plat : Platform} {s : Daemon} {e : Event} (h : PlistOnly plat s e) :
    Allows .plistOnly plat s e := by
  refine allows_of .of_all (fun hn => hn h.1) (fun _ => Or.inr trivial)
    (fun _ _ _ _ _ _ _ _ _ _ _ _ _ _ => trivial) ?_
  intro fd revents sys r y he hy hfd _
  exact ⟨fun _ _ _ => trivial, fun _ _ _ => trivial, fun _ _ _ _ _ => trivial,
    fun hin hadd => h.2 fd revents sys r y he hy hfd hin hadd⟩

theorem publisher_initial {s : Core} (h : Initial s) :
    DevicesNamed s ∧ (publisher s).Consistent := by
  cases h with
  | empty | listener =>
      constructor
      · intro p hp
        cases hp
      · intro c changes hc
        obtain ⟨⟨x, hx, _⟩, _⟩ := sent_eq_some.mp hc
        cases hx

/-- In every reachable state the keys of the dictionary stand for devices, and
the devices that a listening client puts together from the packets queued to
it since it began to listen are exactly these. -/
theorem reachable_deviceView {plat : Platform} {s : Daemon}
    (h : ReachableBy plat (PlistOnly plat) s) :
    (∀ key ∈ s.remoteDeviceList.keys, ∃ g, key = deviceKey g) ∧
    ∀ c x, s.clients c = some x → x.state = .listen →
      replay (toldChanges c s.log) = {g | deviceKey g ∈ s.remoteDeviceList.keys} := by
  have hmove : ∀ {s s' : Core}, WF s → Move .plistOnly s s' →
      DevicesNamed s ∧ (publisher s).Consistent → DevicesNamed s' ∧ (publisher s').Consistent := by
    intro s s' hwf hm hs
    refine ⟨hs.1.move hm, ?_⟩
    rcases hm.publishes hwf hs.1 with heq | hstep
    · rw [heq]
      exact hs.2
    · exact hstep.consistent hs.2
  obtain ⟨_, hnamed, hview⟩ := reachable_inv publisher_initial
    (fun _ _ he => allows_plistOnly he) hmove h
  constructor
  · exact fun key hkey => hnamed.mem_keys hkey
  · intro c x hx hstate
    exact hview c _ (sent_of_listens ⟨x, hx, hstate⟩)

/-- No listening remote completes a binary announcement with this event. -/
def sendsNoBinaryAdd (plat : Platform) (s : Daemon) : Event → Bool
  | .remote _ _ sys => s.remoteList.elems.all fun r => (s.remotes r).all fun y =>
      y.state ≠ .listen || okAnd (fun rf => (bufHeader plat rf.ib).message ≠ messageDeviceAdd)
        (readFrame plat sys y.ib)
  | _ => true

theorem plistOnly_of_sends {plat : Platform} {s : Daemon} {e : Event} (hs : Reachable plat s)
    (hloss : e.lossless plat) (h : sendsNoBinaryAdd plat s e = true) : PlistOnly plat s e := by
  refine ⟨hloss, fun fd revents sys r y he hy _ _ hadd => ?_⟩
  subst he
  obtain ⟨hlisten, rf, hrf, _, hmsg⟩ := hadd
  have hmem : r ∈ s.remoteList.elems := by
    rw [(reachable_wf hs).remotes, hy]
    rfl
  have hr := List.all_eq_true.mp h r hmem
  rw [hy] at hr
  simp [hlisten, hrf, okAnd, hmsg] at hr

/-- Another device of the same listener, and the first one unplugged. -/
def secondMessage : Plist := .dict [("MessageType", .string "Attached"), ("DeviceID", .uint 6)]

def goneMessage : Plist := .dict [("MessageType", .string "Detached"), ("DeviceID", .uint 5)]

def deviceMessages : List Plist := [numberedMessage, secondMessage, goneMessage]

/-- A client listens, a device comes, another comes and the first one goes. -/
def comingAndGoing : List Event :=
  .addRemote "hosta" 5000 { connect := some 10 } ::
    .remote 10 { pollout := true } { send := some 20 } ::
    (remoteSends 10 (resultFrame 0) ++
      [.accept (some 5), .client 5 { pollin := true } { recv := some listenFrame }] ++
      remoteSends 10 (plistFrame 1 0 numberedMessage) ++
      remoteSends 10 (plistFrame 1 0 secondMessage) ++
      remoteSends 10 (plistFrame 1 0 goneMessage))

theorem comingAndGoing_lossless :
    ∀ e ∈ comingAndGoing, e.lossless (platformWith deviceMessages) := by
  intro e he
  have hloss : ∀ sys : Sys, (∀ n, sys.realloc n = true) →
      ¬ Loss (platformWith deviceMessages) sys := fun _ => not_loss_platformWith
  simp only [comingAndGoing, List.mem_cons, List.mem_append, List.not_mem_nil, or_false] at he
  rcases he with rfl | rfl | (((he | rfl | rfl) | he) | he) | he
  · exact hloss _ fun _ => rfl
  · exact hloss _ fun _ => rfl
  · exact (remoteSends_lossless e he).2
  · trivial
  · exact hloss _ fun _ => rfl
  · exact (remoteSends_lossless e he).2
  · exact (remoteSends_lossless e he).2
  · exact (remoteSends_lossless e he).2

theorem reachable_deviceView_coming :
    ∃ s x, ReachableBy (platformWith deviceMessages) (PlistOnly (platformWith deviceMessages)) s ∧
      s.clients ⟨0⟩ = some x ∧ x.state = .listen ∧
      s.remoteDeviceList.keys = ["0x01000006"] ∧
      replay (toldChanges ⟨0⟩ s.log) = {g | deviceKey g ∈ s.remoteDeviceList.keys} := by
  let test : Daemon → Bool := fun s =>
    (s.clients ⟨0⟩).any (fun x => decide (x.state = .listen)) &&
    decide (s.remoteDeviceList.keys = ["0x01000006"])
  obtain ⟨s, hrun, htest⟩ : ∃ s, runFrom (platformWith deviceMessages) {}
      (sendsNoBinaryAdd (platformWith deviceMessages)) comingAndGoing = some s ∧
      test s = true := exists_of_runFrom (by decide +kernel)
  simp only [test, Bool.and_eq_true, decide_eq_true_eq, Option.any_eq_true] at htest
  obtain ⟨⟨x, hx, hstate⟩, hkeys⟩ := htest
  have hreach := reachableBy_of_runFrom (C := PlistOnly (platformWith deviceMessages))
    (fun s e he hs hok => plistOnly_of_sends hs (comingAndGoing_lossless e he) hok) hrun
  exact ⟨s, x, hreach, hx, hstate, hkeys, (reachable_deviceView hreach).2 ⟨0⟩ x hx hstate⟩

end Usbfluxd
