import Usbfluxd.Lib.Iterate
import Usbfluxd.Proofs.Reaping

/-!
# Withdrawing the devices of a remote

`usbmux_remote_dispose` walks the device dictionary with a callback that tells
the listening clients about a device of the remote and then removes it from
the dictionary that is being walked. Three things have to be right for the
walk to be exact, and they are taken in this order.

* **The iterator.** It has moved on before the callback runs, and the callback
  removes no pair but its own. So `plistDictIterate`, which follows the
  iterator through the live dictionary, ends, and comes to the walk over the
  pairs there were at the start (`plistDictIterate_eq`).

* **What one client is told.** One `Detached` per device, in dictionary order,
  unless the packet could not be made or stored, in which case the client is
  passed over and the device goes all the same (`Informed`). A packet makes an
  output buffer grow by two pages at most, so with room for that no copy runs
  past the end of a buffer (`Detached.fits`).

* **Every client is told.** The walk over the slots of the client list comes to
  each client once (`Telling`), once per device that goes.
-/

namespace Usbfluxd

open Lib

/-! ## The iterator -/

/-- A callback goes on unless it returns a negative value. -/
def goesOn {σ : Type} (res : Int × σ) : Bool × σ := (decide (0 ≤ res.1), res.2)

/-- `plist_dict_foreach` on a dictionary that is part of the state, with the
iterator libplist has: it points at the next pair. -/
def plistDictIterate {σ : Type} (dict : σ → List (String × Plist))
    (func : String → Plist → σ → Except Fault (Int × σ)) (fuel : Nat) (ctx : σ) :
    Iterated (Except Fault σ) :=
  iterate dict (fun key value ctx => goesOn <$> func key value ctx) fuel (firstKey (dict ctx)) ctx

theorem plistDictForeach_eq_walk {σ : Type} {func : String → Plist → σ → Except Fault (Int × σ)}
    (l : List (String × Plist)) (ctx : σ) :
    plistDictForeach func l ctx =
      walk (fun key value ctx => goesOn <$> func key value ctx) l ctx := by
  induction l generalizing ctx with
  | nil => rfl
  | cons p rest ih =>
      obtain ⟨key, value⟩ := p
      rw [plistDictForeach, walk]
      cases func key value ctx with
      | error e => rfl
      | ok res =>
          obtain ⟨res, ctx'⟩ := res
          dsimp only [bind, Except.bind, Functor.map, Except.map, goesOn]
          by_cases hneg : res < 0
          · rw [if_pos hneg, decide_eq_false (by omega)]
            rfl
          · rw [if_neg hneg, decide_eq_true (by omega)]
            exact ih ctx'

section Iterator

variable {plat : Platform} {sys : Sys} {s s' : Daemon} {k : UInt8}

/-- The callback removes its own pair or none. -/
theorem remoteDeviceNotifyRemove_own {key : String} {value : Plist} {res : Int}
    (h : remoteDeviceNotifyRemove plat sys k key value s = .ok (res, s')) :
    s'.remoteDeviceList = s.remoteDeviceList ∨
      s'.remoteDeviceList = s.remoteDeviceList.erase key := by
  rw [remoteDeviceNotifyRemove] at h
  split at h
  · obtain ⟨t, ht, h⟩ := bind_eq_ok.mp h
    cases h
    have hruns : Runs .all s.toCore (fun t : Daemon => Notified Allow.all.lossOk
        (.detached (keyDevice key)) s.clientList.elems s.toCore t.toCore)
        (clientDeviceRemove plat sys s (keyDevice key)) := clientDeviceRemove_runs fun _ => trivial
    right
    show t.remoteDeviceList.erase key = _
    rw [(hruns.of_ok ht).announces.remoteDeviceList]
  · cases h
    exact Or.inl rfl

/-- With its real iterator the walk of `usbmux_remote_dispose` ends, and is the
walk over the pairs of the start. -/
theorem plistDictIterate_eq {fuel : Nat} (hfuel : s.remoteDeviceList.entries.length < fuel) :
    plistDictIterate (fun s : Daemon => s.remoteDeviceList.entries)
        (remoteDeviceNotifyRemove plat sys k) fuel s =
      .ended (plistDictForeach (remoteDeviceNotifyRemove plat sys k)
        s.remoteDeviceList.entries s) := by
  rw [plistDictIterate, plistDictForeach_eq_walk]
  refine @iterate_eq_walk _ _ _ _ _ (fun s : Daemon => s.remoteDeviceList.entries) _ ?_ s
    s.remoteDeviceList.nodup _ hfuel
  intro key value t go t' h
  cases hres : remoteDeviceNotifyRemove plat sys k key value t with
  | error e =>
      rw [hres] at h
      cases h
  | ok r =>
      rw [hres] at h
      cases h
      rcases remoteDeviceNotifyRemove_own hres with heq | heq
      · exact Or.inl (congrArg OMap.entries heq)
      · right
        show r.2.remoteDeviceList.entries = _
        rw [heq, OMap.entries_erase]

end Iterator

/-! ## One client -/

/-- The packets queued on a client. -/
def packetsTo (c : ClientPtr) (acts : List Act) : List (Header × Payload) :=
  acts.filterMap fun
    | .queue c' hdr payload => if c' = c then some (hdr, payload) else none
    | _ => none

theorem packetsTo_append {c : ClientPtr} {acts acts' : List Act} :
    packetsTo c (acts ++ acts') = packetsTo c acts ++ packetsTo c acts' :=
  List.filterMap_append

/-- Why a client is passed over: the message could not be converted to XML, or
there was no memory for it. -/
def PassedOver (plat : Platform) (sys : Sys) (x : MuxClient) (g : UInt32) : Prop :=
  (x.protoVersion = 1 ∧ plat.plistToXml (detachedPlist g) = none) ∨ ∃ n, sys.realloc n = false

/-- An output buffer can grow by some packets of at most a page. -/
def RoomFor (n : Nat) (b : Buf) : Prop := b.isNull = false ∧ b.capacity + n * 8192 < 2 ^ 32

theorem RoomFor.mono {m n : Nat} {b : Buf} (h : RoomFor n b) (hle : m ≤ n) : RoomFor m b :=
  ⟨h.1, Nat.lt_of_le_of_lt (Nat.add_le_add_left (Nat.mul_le_mul_right 8192 hle) _) h.2⟩

/-- The message that a device is gone, printed, fits a page with its header. -/
def PrintsSmall (plat : Platform) (g : UInt32) : Prop :=
  ∀ xml, plat.plistToXml (detachedPlist g) = some xml → headerSize + xml.length ≤ 4096

/-- A listening client after some devices are gone: it was told about each of
them once and in order, unless it was passed over. -/
structure Informed (plat : Platform) (sys : Sys) (gs : List UInt32) (x x' : MuxClient)
    (packets : List (Header × Payload)) : Prop where
  state : x'.state = x.state
  protoVersion : x'.protoVersion = x.protoVersion
  output : x'.ob.data = x.ob.data ++ packets.flatMap fun p => packetBytes p.1 p.2
  told : ∃ told, told.Sublist gs ∧ (∀ g ∈ gs, g ∈ told ∨ PassedOver plat sys x g) ∧
    ((∀ g ∈ gs, ¬ PassedOver plat sys x g) → told = gs) ∧
    List.Forall₂ (fun g p => (Note.detached g).packet x.protoVersion p.1 p.2) told packets
  room : (∀ g ∈ gs, PrintsSmall plat g) → ∀ n, RoomFor (n + gs.length) x.ob → RoomFor n x'.ob

/-- A client after some devices are gone. -/
def ClientInformed (plat : Platform) (sys : Sys) (gs : List UInt32) (x x' : MuxClient)
    (packets : List (Header × Payload)) : Prop :=
  if x.state = .listen then Informed plat sys gs x x' packets else x' = x ∧ packets = []

/-- All clients after some devices are gone. -/
structure Detached (plat : Platform) (sys : Sys) (gs : List UInt32) (s s' : Core) : Prop where
  same : SameButClients s s'
  clients : ∃ acts, s'.log = s.log ++ acts ∧ ∀ c x, s.clients c = some x →
    ∃ x', s'.clients c = some x' ∧ ClientInformed plat sys gs x x' (packetsTo c acts)

/-- Every listening client can be told about some more devices. -/
def HasRoom (s : Core) (n : Nat) : Prop :=
  ∀ c x, s.clients c = some x → x.state = .listen → RoomFor n x.ob

/-- Nothing overflows when some devices are withdrawn. -/
def Fits (plat : Platform) (gs : List UInt32) (s : Core) : Prop :=
  (∀ g ∈ gs, PrintsSmall plat g) ∧ HasRoom s gs.length

section Informed

variable {plat : Platform} {sys : Sys} {gs gs' : List UInt32} {x x' x'' : MuxClient}
  {packets packets' : List (Header × Payload)} {s s' s'' : Core}

theorem Informed.nil : Informed plat sys [] x x [] where
  state := rfl
  protoVersion := rfl
  output := (List.append_nil _).symm
  told := ⟨[], List.Sublist.slnil, fun _ h => (nomatch h), fun _ => rfl, .nil⟩
  room := fun _ _ h => h

theorem Informed.append (h : Informed plat sys gs x x' packets)
    (h' : Informed plat sys gs' x' x'' packets') :
    Informed plat sys (gs ++ gs') x x'' (packets ++ packets') where
  state := h'.state.trans h.state
  protoVersion := h'.protoVersion.trans h.protoVersion
  output := by
    rw [h'.output, h.output, List.flatMap_append, List.append_assoc]
  told := by
    obtain ⟨told, hsub, hall, heq, hpackets⟩ := h.told
    obtain ⟨told', hsub', hall', heq', hpackets'⟩ := h'.told
    have hpass : ∀ g, PassedOver plat sys x' g ↔ PassedOver plat sys x g := by
      intro g
      rw [PassedOver, h.protoVersion, PassedOver]
    rw [h.protoVersion] at hpackets'
    refine ⟨told ++ told', hsub.append hsub', fun g hg => ?_, fun hnone => ?_,
      List.rel_append hpackets hpackets'⟩
    · rcases List.mem_append.mp hg with hg | hg
      · exact (hall g hg).imp_left (List.mem_append_left _)
      · exact (hall' g hg).imp (List.mem_append_right _) (hpass g).mp
    · rw [heq fun g hg => hnone g (List.mem_append_left _ hg), heq' fun g hg hp =>
        hnone g (List.mem_append_right _ hg) ((hpass g).mp hp)]
  room hsmall n hroom := by
    refine h'.room (fun g hg => hsmall g (List.mem_append_right _ hg)) n ?_
    refine h.room (fun g hg => hsmall g (List.mem_append_left _ hg)) _ ?_
    rw [List.length_append] at hroom
    rwa [Nat.add_assoc, Nat.add_comm gs'.length]

theorem ClientInformed.nil : ClientInformed plat sys [] x x [] := by
  rw [ClientInformed]
  split
  · exact .nil
  · exact ⟨rfl, rfl⟩

theorem ClientInformed.append (h : ClientInformed plat sys gs x x' packets)
    (h' : ClientInformed plat sys gs' x' x'' packets') :
    ClientInformed plat sys (gs ++ gs') x x'' (packets ++ packets') := by
  by_cases hstate : x.state = .listen
  · rw [ClientInformed, if_pos hstate] at h ⊢
    rw [ClientInformed, if_pos (h.state.trans hstate)] at h'
    exact h.append h'
  · rw [ClientInformed, if_neg hstate] at h ⊢
    obtain ⟨rfl, rfl⟩ := h
    rw [ClientInformed, if_neg hstate] at h'
    exact h'

theorem Detached.nil : Detached plat sys [] s s where
  same := .refl
  clients := ⟨[], (List.append_nil _).symm, fun _ x hx => ⟨x, hx, .nil⟩⟩

theorem Detached.append (h : Detached plat sys gs s s') (h' : Detached plat sys gs' s' s'') :
    Detached plat sys (gs ++ gs') s s'' where
  same := h.same.trans h'.same
  clients := by
    obtain ⟨acts, hlog, hclients⟩ := h.clients
    obtain ⟨acts', hlog', hclients'⟩ := h'.clients
    refine ⟨acts ++ acts', by rw [hlog', hlog, List.append_assoc], fun c x hx => ?_⟩
    obtain ⟨x', hx', hinformed⟩ := hclients c x hx
    obtain ⟨x'', hx'', hinformed'⟩ := hclients' c x' hx'
    rw [packetsTo_append]
    exact ⟨x'', hx'', hinformed.append hinformed'⟩

theorem Detached.withDevices {d : OMap String Plist} (h : Detached plat sys gs s s') :
    Detached plat sys gs s { s' with remoteDeviceList := d } :=
  ⟨h.same.withDevices, h.clients⟩

/-- What is left of the room is enough for the devices that are left. -/
theorem Detached.fits (h : Detached plat sys gs s s') (hfits : Fits plat (gs ++ gs') s) :
    Fits plat gs' s' := by
  obtain ⟨hsmall, hroom⟩ := hfits
  refine ⟨fun g hg => hsmall g (List.mem_append_right _ hg), fun c x' hx' hstate => ?_⟩
  obtain ⟨acts, _, hclients⟩ := h.clients
  cases hx : s.clients c with
  | none =>
      rw [h.same.noClient hx] at hx'
      cases hx'
  | some x =>
      obtain ⟨x₁, hx₁, hinformed⟩ := hclients c x hx
      cases hx₁.symm.trans hx'
      by_cases hbefore : x.state = .listen
      · rw [ClientInformed, if_pos hbefore] at hinformed
        have hall := hroom c x hx hbefore
        rw [List.length_append, Nat.add_comm] at hall
        exact hinformed.room (fun g hg => hsmall g (List.mem_append_left _ hg)) _ hall
      · rw [ClientInformed, if_neg hbefore] at hinformed
        rw [hinformed.1] at hstate
        exact absurd hstate hbefore

theorem Fits.left (h : Fits plat (gs ++ gs') s) : Fits plat gs s := by
  refine ⟨fun g hg => h.1 g (List.mem_append_left _ hg), fun c x hx hstate => ?_⟩
  refine (h.2 c x hx hstate).mono ?_
  rw [List.length_append]
  exact Nat.le_add_right _ _

end Informed

/-! ## One device -/

section Device

variable {plat : Platform} {sys : Sys} {s : Daemon} {c : ClientPtr} {x : MuxClient} {g : UInt32}

/-- A packet of at most a page makes an output buffer grow by two pages at
most, and does not run past its end. -/
theorem queueBytes_post {b : Buf} {bs : List UInt8} :
    Post (fun _ => ¬ (bs.length ≤ 4096 ∧ RoomFor 1 b))
      (fun o => (o = none ∧ ∃ n, sys.realloc n = false) ∨ ∃ ob, o = some ob ∧
        Appended b bs ob ∧ ob.capacity ≤ b.capacity + bs.length + 4096)
      (queueBytes sys.realloc b bs) := by
  have hsize := b.size_le
  rw [queueBytes]
  split
  · split
    · split
      · refine Or.inr ⟨_, rfl, ⟨rfl, rfl⟩, ?_⟩
        show enlargedSize b.capacity bs.length ≤ _
        have hmod := Nat.mod_le (b.capacity + bs.length + 4096) (2 ^ 32)
        rw [enlargedSize]
        omega
      · next hover =>
          intro hfits
          obtain ⟨hlen, _, hcap⟩ := hfits
          rw [enlargedSize, Nat.mod_eq_of_lt (by omega), Buf.size] at hover
          omega
    · next hfail => exact Or.inl ⟨rfl, _, Bool.not_eq_true _ ▸ hfail⟩
  · split
    · next hnull =>
        intro hfits
        rw [hfits.2.1] at hnull
        cases hnull
    · next hnull =>
        refine Or.inr ⟨_, rfl, ⟨rfl, Bool.not_eq_true _ ▸ hnull⟩, ?_⟩
        show b.capacity ≤ _
        omega

/-- A listening client is told about a device, or it is passed over. -/
def ToldOne (plat : Platform) (sys : Sys) (g : UInt32) (c : ClientPtr) (x : MuxClient)
    (s s' : Core) : Prop :=
  (PassedOver plat sys x g ∧ s' = s) ∨ ∃ hdr payload ob,
    (Note.detached g).packet x.protoVersion hdr payload ∧
    Appended x.ob (packetBytes hdr payload) ob ∧
    (PrintsSmall plat g → ob.capacity ≤ x.ob.capacity + 8192) ∧
    s' = (s.setClient c
      { x with ob := ob, events := { x.events with pollout := true } }).emit
      [.queue c hdr payload]

theorem sendPkt_detached {tag msg : UInt32} {payload : Payload} (hx : s.clients c = some x)
    (hnote : ∀ hdr : Header, hdr.message = msg →
      (Note.detached g).packet x.protoVersion hdr payload)
    (hlen : PrintsSmall plat g → headerSize + payload.wire.length ≤ 4096) :
    Post (fun _ => ¬ (PrintsSmall plat g ∧ RoomFor 1 x.ob))
      (fun res : Int × Daemon => ToldOne plat sys g c x s.toCore res.2.toCore)
      (sendPkt sys s c tag msg payload) := by
  have hread : s.client c = .ok x := by
    rw [Daemon.client, hx]
  rw [sendPkt, hread]
  refine Post.bind (P := fun hdr : Header => hdr.message = msg) ?_ fun hdr hmsg => ?_
  · rw [packetHeader]
    split
    · exact rfl
    · next hlong =>
        intro hfits
        have hsmall := hlen hfits.1
        omega
  · have hbytes : PrintsSmall plat g → (hdr.bytes ++ payload.wire).length ≤ 4096 := by
      rw [List.length_append, length_headerBytes]
      exact hlen
    refine Post.bind (Post.imp queueBytes_post (fun _ hf hfits => ?_) fun _ h => h) fun o ho => ?_
    · exact hf ⟨hbytes hfits.1, hfits.2⟩
    · rcases ho with ⟨rfl, hfail⟩ | ⟨ob, rfl, hob, hcap⟩
      · exact Or.inl ⟨Or.inr hfail, rfl⟩
      · refine Or.inr ⟨hdr, payload, ob, hnote hdr hmsg, hob, fun hsmall => ?_, rfl⟩
        have hlen' := hbytes hsmall
        omega

theorem notifyDeviceRemove_detached (hx : s.clients c = some x) :
    Post (fun _ => ¬ (PrintsSmall plat g ∧ RoomFor 1 x.ob))
      (fun res : Int × Daemon => ToldOne plat sys g c x s.toCore res.2.toCore)
      (notifyDeviceRemove plat sys s c g) := by
  have hread : s.client c = .ok x := by
    rw [Daemon.client, hx]
  rw [notifyDeviceRemove, hread]
  dsimp only [bind, Except.bind]
  split
  · next hproto =>
      rw [sendPlistPkt]
      split
      · next hxml => exact Or.inl ⟨Or.inl ⟨hproto, hxml⟩, rfl⟩
      · next xml hxml =>
          exact sendPkt_detached hx (fun hdr hmsg => Or.inl ⟨hproto, hmsg, xml, rfl⟩)
            fun hsmall => hsmall xml hxml
  · next hproto =>
      exact sendPkt_detached hx (fun hdr hmsg => Or.inr ⟨hproto, hmsg, rfl⟩)
        fun _ => show headerSize + 4 ≤ 4096 by decide

theorem ToldOne.informed {s s' : Core} (h : ToldOne plat sys g c x s s')
    (hx : s.clients c = some x) : ∃ x' acts, s' = (s.setClient c x').emit acts ∧
      Informed plat sys [g] x x' (packetsTo c acts) ∧ ∀ c', c' ≠ c → packetsTo c' acts = [] := by
  rcases h with ⟨hpass, rfl⟩ | ⟨hdr, payload, ob, hnote, hob, hcap, rfl⟩
  · have hsame : s' = (s'.setClient c x).emit [] := by
      rw [Core.setClient, ← hx, Function.update_eq_self, Core.emit, List.append_nil]
    refine ⟨x, [], hsame, ⟨rfl, rfl, (List.append_nil _).symm, ?_, fun _ n hroom => ?_⟩,
      fun _ _ => rfl⟩
    · refine ⟨[], List.nil_sublist _, fun g' hg => Or.inr ?_, fun hnone => ?_, .nil⟩
      · rw [List.mem_singleton.mp hg]
        exact hpass
      · exact absurd hpass (hnone g (List.mem_singleton_self g))
    · exact hroom.mono (Nat.le_add_right n _)
  · have hto : packetsTo c [.queue c hdr payload] = [(hdr, payload)] := by simp [packetsTo]
    refine ⟨{ x with ob := ob, events := { x.events with pollout := true } },
      [.queue c hdr payload], rfl, ⟨rfl, rfl, ?_, ?_, fun hsmall n hroom => ?_⟩, fun c' hc => ?_⟩
    · rw [hto, List.flatMap_singleton]
      exact hob.data
    · rw [hto]
      exact ⟨[g], .refl _, fun _ h => Or.inl h, fun _ => rfl, .cons hnote .nil⟩
    · have hgrown := hcap (hsmall g (List.mem_singleton_self g))
      obtain ⟨hnull, hroom⟩ := hroom
      rw [List.length_singleton] at hroom
      refine ⟨hob.isNull, ?_⟩
      dsimp only
      omega
    · simp [packetsTo, hc.symm]

end Device

/-! ## All clients -/

section Clients

variable {plat : Platform} {sys : Sys} {s t t' : Core} {g : UInt32} {i : Nat} {rest : List Nat}
  {c : ClientPtr}

/-- The walk over the clients with some slots left to visit: those in them are
as they were, the others have been told. -/
structure Telling (plat : Platform) (sys : Sys) (g : UInt32) (s : Core) (idx : List Nat)
    (t : Core) : Prop where
  same : SameButClients s t
  devices : t.remoteDeviceList = s.remoteDeviceList
  nodup : (idx.filterMap s.clientList.slot).Nodup
  clients : ∃ acts, t.log = s.log ++ acts ∧ ∀ c x, s.clients c = some x →
    ∃ x', t.clients c = some x' ∧ if c ∈ idx.filterMap s.clientList.slot
      then x' = x ∧ packetsTo c acts = []
      else ClientInformed plat sys [g] x x' (packetsTo c acts)

theorem Telling.start (hwf : WF s) :
    Telling plat sys g s (List.range s.clientList.capacity) s where
  same := .refl
  devices := rfl
  nodup := by
    rw [Collection.filterMap_slot_range]
    exact hwf.clientsNodup
  clients := by
    refine ⟨[], (List.append_nil _).symm, fun c x hx => ⟨x, hx, ?_⟩⟩
    have hmem : c ∈ s.clientList.elems := by
      rw [hwf.clients, hx]
      rfl
    rw [Collection.filterMap_slot_range, if_pos hmem]
    exact ⟨rfl, rfl⟩

theorem Telling.skip (h : Telling plat sys g s (i :: rest) t)
    (hi : t.clientList.slot i = none) : Telling plat sys g s rest t := by
  obtain ⟨hsame, hdevices, hnodup, hclients⟩ := h
  rw [hsame.clientList] at hi
  rw [List.filterMap_cons_none hi] at hnodup hclients
  exact ⟨hsame, hdevices, hnodup, hclients⟩

/-- The client of the next slot is as it was. -/
theorem Telling.next (hwf : WF s) (h : Telling plat sys g s (i :: rest) t)
    (hi : t.clientList.slot i = some c) : ∃ x, s.clients c = some x ∧ t.clients c = some x := by
  have hsame := h.same
  obtain ⟨acts, _, hclients⟩ := h.clients
  rw [hsame.clientList] at hi
  rw [List.filterMap_cons_some hi] at hclients
  have hlive := (hwf.clients c).mp (Collection.slot_mem hi)
  obtain ⟨x, hx⟩ := Option.isSome_iff_exists.mp hlive
  obtain ⟨x', hx', hif⟩ := hclients c x hx
  rw [if_pos List.mem_cons_self] at hif
  rw [hif.1] at hx'
  exact ⟨x, hx, hx'⟩

/-- It does not listen. -/
theorem Telling.pass {x : MuxClient} (h : Telling plat sys g s (i :: rest) t)
    (hi : t.clientList.slot i = some c) (hx : s.clients c = some x) (hstate : x.state ≠ .listen) :
    Telling plat sys g s rest t := by
  obtain ⟨hsame, hdevices, hnodup, acts, hlog, hclients⟩ := h
  rw [hsame.clientList] at hi
  rw [List.filterMap_cons_some hi] at hnodup hclients
  rw [List.nodup_cons] at hnodup
  refine ⟨hsame, hdevices, hnodup.2, acts, hlog, fun c' z hz => ?_⟩
  obtain ⟨z', hz', hif⟩ := hclients c' z hz
  refine ⟨z', hz', ?_⟩
  by_cases hc : c' = c
  · rw [hc, if_pos List.mem_cons_self] at hif
    rw [hc] at hz ⊢
    cases hx.symm.trans hz
    rw [if_neg hnodup.1, ClientInformed, if_neg hstate]
    exact hif
  · simpa [List.mem_cons, hc] using hif

/-- It listens, and is told. -/
theorem Telling.tell {x : MuxClient} (h : Telling plat sys g s (i :: rest) t)
    (hi : t.clientList.slot i = some c) (hs : s.clients c = some x) (hx : t.clients c = some x)
    (hstate : x.state = .listen) (htold : ToldOne plat sys g c x t t') :
    Telling plat sys g s rest t' := by
  obtain ⟨hsame, hdevices, hnodup, acts, hlog, hclients⟩ := h
  rw [hsame.clientList] at hi
  rw [List.filterMap_cons_some hi] at hnodup hclients
  rw [List.nodup_cons] at hnodup
  have hsame' : SameButClients t t' := by
    rcases htold with ⟨_, rfl⟩ | ⟨hdr, payload, ob, _, hob, _, rfl⟩
    · exact .refl
    · exact .output hx hob.fed
  obtain ⟨x', acts', rfl, hinformed, hothers⟩ := htold.informed hx
  refine ⟨hsame.trans hsame', hdevices, hnodup.2, acts ++ acts', ?_, fun c' z hz => ?_⟩
  · show t.log ++ acts' = _
    rw [hlog, List.append_assoc]
  · obtain ⟨z', hz', hif⟩ := hclients c' z hz
    rw [packetsTo_append]
    by_cases hc : c' = c
    · rw [hc, if_pos List.mem_cons_self] at hif
      rw [hc] at hz ⊢
      cases hs.symm.trans hz
      refine ⟨x', by rw [Core.clients_emit, Core.clients_setClient, if_pos rfl], ?_⟩
      rw [if_neg hnodup.1, hif.2, List.nil_append, ClientInformed, if_pos hstate]
      exact hinformed
    · refine ⟨z', by rw [Core.clients_emit, Core.clients_setClient, if_neg hc, hz'], ?_⟩
      rw [hothers c' hc, List.append_nil]
      simpa [List.mem_cons, hc] using hif

end Clients

section Withdrawal

variable {plat : Platform} {sys : Sys} {s : Daemon} {g : UInt32} {k : UInt8}

/-- The walk over the clients tells all that listen about one device. -/
theorem clientDeviceRemove_detached (hwf : WF s.toCore) (hlock : s.clientListLocked = false) :
    Post (fun _ => ¬ Fits plat [g] s.toCore)
      (fun s' : Daemon => s'.clientListLocked = false ∧
        s'.remoteDeviceList = s.remoteDeviceList ∧ Detached plat sys [g] s.toCore s'.toCore)
      (clientDeviceRemove plat sys s g) := by
  rw [clientDeviceRemove, forListeningClients, lockClientList_of_free hlock]
  refine Post.bind (P := fun t : Daemon => t.toCore = s.toCore) rfl fun s₁ h₁ => ?_
  rw [← h₁] at hwf ⊢
  refine Post.bind (slotLoop_post
    (P := fun idx (t : Daemon) => Telling plat sys g s₁.toCore idx t.toCore)
    (fun h hi => h.skip hi) (fun {t i rest c} h hi => ?_) (.start hwf)) fun t h => ?_
  · obtain ⟨x, hs, hx⟩ := h.next hwf hi
    have hread : t.client c = .ok x := by
      rw [Daemon.client, hx]
    rw [hread]
    dsimp only [bind, Except.bind]
    split
    · next hstate =>
        refine Post.bind (Post.imp (notifyDeviceRemove_detached hx) (fun _ hf hfits => ?_)
          fun _ h => h) fun res htold => ?_
        · exact hf ⟨hfits.1 g (List.mem_singleton_self g), hfits.2 c x hs hstate⟩
        · exact h.tell hi hs hx hstate htold
    · next hstate => exact h.pass hi hs hstate
  · obtain ⟨hsame, hdevices, _, acts, hlog, hclients⟩ := h
    refine ⟨rfl, hdevices, hsame, acts, hlog, fun c x hx => ?_⟩
    obtain ⟨x', hx', hif⟩ := hclients c x hx
    exact ⟨x', hx', by simpa using hif⟩

/-- The walk over the dictionary withdraws the devices of an id. -/
theorem notifyDeviceList_detached {l : List (String × Plist)} {gs : List UInt32}
    (hwf : WF s.toCore) (hlock : s.clientListLocked = false)
    (hkeys : l.map Prod.fst = gs.map deviceKey) :
    Post (fun _ => ¬ Fits plat (gs.filter fun g => g >>> 24 = k.toUInt32) s.toCore)
      (fun s' : Daemon => Detached plat sys (gs.filter fun g => g >>> 24 = k.toUInt32)
        s.toCore s'.toCore)
      (plistDictForeach (remoteDeviceNotifyRemove plat sys k) l s) := by
  induction l generalizing s gs with
  | nil =>
      obtain rfl : gs = [] := List.map_eq_nil_iff.mp hkeys.symm
      exact Detached.nil
  | cons p rest ih =>
      obtain ⟨key, value⟩ := p
      obtain ⟨g, gs, rfl, rfl, hrest⟩ := List.map_eq_cons_iff.mp hkeys.symm
      rw [plistDictForeach, remoteDeviceNotifyRemove, keyDevice_deviceKey]
      by_cases hk : g >>> 24 = k.toUInt32
      · rw [if_pos hk, List.filter_cons_of_pos (by simpa using hk)]
        rw [← List.singleton_append, bind_assoc]
        refine Post.bind (Post.imp (clientDeviceRemove_detached hwf hlock) (fun _ hf hfits => ?_)
          fun _ h => h) fun s₁ h₁ => ?_
        · exact hf hfits.left
        · obtain ⟨hlock₁, _, hdetached⟩ := h₁
          have hwf₁ : WF (s₁.update fun t => { t with
              remoteDeviceList := t.remoteDeviceList.erase (deviceKey g) }).toCore :=
            hwf.same hdetached.same.withDevices
          refine Post.imp (ih hwf₁ hlock₁ hrest.symm) (fun _ hf hfits => ?_) fun s' h' => ?_
          · exact hf (hdetached.withDevices.fits hfits)
          · exact hdetached.withDevices.append h'
      · rw [if_neg hk, List.filter_cons_of_neg (by simpa using hk)]
        exact ih hwf hlock hrest.symm

/-- The walk over the dictionary as `usbmux_remote_dispose` runs it, for a
remote with a given id: it ends, what it removes is the devices of that id,
and every listening client is told about these and no others. -/
theorem withdrawal_exact {gs : List UInt32} (hwf : WF s.toCore)
    (hlock : s.clientListLocked = false) (hkeys : s.remoteDeviceList.keys = gs.map deviceKey) :
    ∃ res, plistDictForeach (remoteDeviceNotifyRemove plat sys k) s.remoteDeviceList.entries s =
        res ∧
      (∀ fuel, s.remoteDeviceList.entries.length < fuel →
        plistDictIterate (fun s : Daemon => s.remoteDeviceList.entries)
          (remoteDeviceNotifyRemove plat sys k) fuel s = .ended res) ∧
      (Fits plat (gs.filter fun g => g >>> 24 = k.toUInt32) s.toCore → ∃ s', res = .ok s') ∧
      ∀ s', res = .ok s' →
        s'.remoteDeviceList.entries =
          s.remoteDeviceList.entries.filter (fun p => keyDevice p.1 >>> 24 ≠ k.toUInt32) ∧
        Detached plat sys (gs.filter fun g => g >>> 24 = k.toUInt32) s.toCore s'.toCore := by
  have hdetached : Post _ _ (plistDictForeach (remoteDeviceNotifyRemove plat sys k)
      s.remoteDeviceList.entries s) := notifyDeviceList_detached hwf hlock hkeys
  have hruns : Runs .all s.toCore (fun s' : Daemon => Forgotten Allow.all.lossOk k
      s.remoteDeviceList.keys s.toCore s'.toCore) (plistDictForeach
      (remoteDeviceNotifyRemove plat sys k) s.remoteDeviceList.entries s) :=
    notifyDeviceList_runs (fun _ => trivial) s.remoteDeviceList.nodup fun _ h => h
  refine ⟨_, rfl, fun fuel hfuel => plistDictIterate_eq hfuel, fun hfits => ?_, fun s' hs' => ?_⟩
  · cases hres : plistDictForeach (remoteDeviceNotifyRemove plat sys k)
        s.remoteDeviceList.entries s with
    | ok s' => exact ⟨s', rfl⟩
    | error f => exact absurd hfits (hdetached.of_error hres)
  · exact ⟨(hruns.of_ok hs').entries_all, hdetached.of_ok hs'⟩

end Withdrawal

/-- The listener with the only device goes. -/
theorem withdrawal_exact_announced :
    ∃ s s' : Daemon, Reachable (platformWith [numberedMessage]) s ∧
      s.remoteDeviceList.keys = [0x01000005].map deviceKey ∧
      plistDictForeach (remoteDeviceNotifyRemove (platformWith [numberedMessage]) {} 1)
        s.remoteDeviceList.entries s = .ok s' ∧
      s'.remoteDeviceList.entries = [] ∧
      Detached (platformWith [numberedMessage]) {} [0x01000005] s.toCore s'.toCore := by
  let test : Daemon → Bool := fun s =>
    decide (s.remoteDeviceList.keys = [0x01000005].map deviceKey) &&
    s.clientList.elems.all fun c => (s.clients c).all fun x =>
      !x.ob.isNull && decide (x.ob.capacity + 8192 < 2 ^ 32)
  obtain ⟨s, hrun, htest⟩ : ∃ s, runFrom (platformWith [numberedMessage]) {} (fun _ _ => true)
      announcedRun = some s ∧ test s = true := exists_of_runFrom (by decide +kernel)
  have hs := reachable_of_runFrom hrun
  have hwf := reachable_wf hs
  simp only [test, Bool.and_eq_true, List.all_eq_true] at htest
  obtain ⟨hkeys, hroom⟩ := htest
  have hfits : Fits (platformWith [numberedMessage]) [0x01000005] s.toCore := by
    refine ⟨fun g hg xml hxml => ?_, fun c x hx _ => ?_⟩
    · rw [List.mem_singleton.mp hg] at hxml
      cases hxml
      decide +kernel
    · have hc : c ∈ s.clientList.elems := by
        rw [hwf.clients, hx]
        rfl
      have hcap := hroom c hc
      rw [hx, Option.all_some, Bool.and_eq_true] at hcap
      exact ⟨by simpa using hcap.1, of_decide_eq_true hcap.2⟩
  obtain ⟨res, hres, _, hok, hexact⟩ := @withdrawal_exact (platformWith [numberedMessage]) {} s 1
    _ hwf (reachable_unlocked hs).2 (of_decide_eq_true hkeys)
  obtain ⟨s', rfl⟩ := hok hfits
  obtain ⟨hentries, hdetached⟩ := hexact s' rfl
  refine ⟨s, s', hs, of_decide_eq_true hkeys, hres, ?_, hdetached⟩
  rw [hentries, List.filter_eq_nil_iff]
  intro p hp
  have hkey : p.1 ∈ s.remoteDeviceList.keys := List.mem_map_of_mem hp
  rw [of_decide_eq_true hkeys, List.map_singleton, List.mem_singleton] at hkey
  rw [hkey, keyDevice_deviceKey]
  decide

def listenRequest : Plist := .dict [("MessageType", .string "Listen")]

/-- A platform that has no memory left for one of its documents. -/
def platformWithout (lost : Plist) : Platform :=
  { platformWith [numberedMessage, listenRequest] with
    plistToXml := fun p =>
      if xmlDocument p = xmlDocument lost then none else some (xmlDocument p) }

/-- The client of `announcedRun` speaks plists, and is never told that the
device has gone. -/
theorem listener_not_told :
    ∃ s s' x x', Reachable (platformWithout (detachedPlist 0x01000005)) s ∧
      s.remoteDeviceList.keys = [0x01000005].map deviceKey ∧ s.clientListLocked = false ∧
      s.clients ⟨0⟩ = some x ∧ x.state = .listen ∧
      plistDictForeach (remoteDeviceNotifyRemove (platformWithout (detachedPlist 0x01000005)) {} 1)
        s.remoteDeviceList.entries s = .ok s' ∧
      s'.remoteDeviceList.entries = [] ∧ s'.log.length = s.log.length ∧
      s'.clients ⟨0⟩ = some x' ∧ x'.ob.data = x.ob.data := by
  let plat := platformWithout (detachedPlist 0x01000005)
  let run : List Event :=
    announcedRun.dropLast ++ clientSends 5 {} (plistFrame 1 7 listenRequest)
  let test : Daemon → Bool := fun s =>
    decide (s.remoteDeviceList.keys = [0x01000005].map deviceKey) &&
    (s.clients ⟨0⟩).any fun x => decide (x.state = .listen) &&
      okAnd (fun s' => decide (s'.remoteDeviceList.keys = []) &&
          decide (s'.log.length = s.log.length) &&
          (s'.clients ⟨0⟩).any fun x' => decide (x'.ob.data = x.ob.data))
        (plistDictForeach (remoteDeviceNotifyRemove plat {} 1) s.remoteDeviceList.entries s)
  obtain ⟨s, hrun, htest⟩ : ∃ s, runFrom plat {} (fun _ _ => true) run = some s ∧
      test s = true := exists_of_runFrom (by decide +kernel)
  have hs := reachable_of_runFrom hrun
  simp only [test, Bool.and_eq_true, decide_eq_true_eq, Option.any_eq_true] at htest
  obtain ⟨hkeys, x, hx, hstate, htest⟩ := htest
  obtain ⟨s', hs', htest⟩ := exists_of_okAnd htest
  simp only [Bool.and_eq_true, decide_eq_true_eq, Option.any_eq_true] at htest
  obtain ⟨⟨hempty, hlog⟩, x', hx', hsame⟩ := htest
  exact ⟨s, s', x, x', hs, hkeys, (reachable_unlocked hs).2, hx, hstate,
    hs', List.map_eq_nil_iff.mp hempty, hlog, hx', hsame⟩

end Usbfluxd
