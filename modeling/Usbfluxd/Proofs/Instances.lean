import Mathlib.Data.Finset.Card
import Mathlib.Order.Interval.Finset.Nat
import Usbfluxd.Lib.Text
import Usbfluxd.Proofs.Registry
import Usbfluxd.Proofs.Locks

/-!
# The report on instances

`usbmux_remote_copy_instances` joins two tables: for each listener in
`REMOTE_LISTEN` it walks the device dictionary and takes the devices whose id,
read back from the text of the key, has the listener's id in its high byte.
The report is one entry per listener because the decimal ids that key it are
all different, and that rests on two things that hold over whole runs: the
registry keeps the ids of the TCP listeners apart and away from zero, and the
local socket, whose id is zero, is never listened on twice.

The other invariant is about the dictionary: its keys are the formatted ids of
devices, so a listener has at most 2^24 of them and its count is exact.
-/

namespace Usbfluxd

open Lib

/-! ## What a report is made of -/

/-- The listeners in `REMOTE_LISTEN`, in slot order. -/
def listening (s : Core) : List RemoteMux :=
  (s.remoteList.elems.filterMap s.remotes).filter fun y => y.isListener ∧ y.state = .listen

/-- The `SerialNumber` of a device whose id has a given high byte. -/
def instanceSerial (k : UInt8) (p : String × Plist) : Option Plist :=
  if keyDevice p.1 >>> 24 = k.toUInt32 then plistAccessPath p.2 "Properties" "SerialNumber"
  else none

/-- The serial numbers of an instance, in dictionary order. -/
def instanceSerials (s : Core) (k : UInt8) : List Plist :=
  s.remoteDeviceList.entries.filterMap (instanceSerial k)

/-- The report on some listeners. -/
def instancesOf (s : Core) (ys : List RemoteMux) : List (String × Plist) :=
  ys.map fun y => (toString y.id.toNat, instanceEntry y (instanceSerials s y.id))

/-! ## The invariants -/

/-- The local socket is listened on at most once. -/
def OneLocal (s : Core) : Prop :=
  ∀ r r' y y', s.remotes r = some y → s.remotes r' = some y' →
    y.isListener = true → y.isUnix = true → y'.isListener = true → y'.isUnix = true → r = r'

/-- The keys of the device dictionary are formatted device ids. -/
def KeysFormatted (s : Core) : Prop := ∀ key ∈ s.remoteDeviceList.keys, ∃ g, key = deviceKey g

section Preservation

variable {A : Allow} {s s' : Core} {y : RemoteMux}

theorem OneLocal.sub (h : OneLocal s)
    (hsub : ∀ {r y}, s'.remotes r = some y → s.remotes r = some y) : OneLocal s' :=
  fun r r' y y' hy hy' => h r r' y y' (hsub hy) (hsub hy')

theorem OneLocal.inPlace (h : OneLocal s) (hm : InPlace s s') : OneLocal s' := by
  intro r r' z z' hz hz' hlistener hunix hlistener' hunix'
  obtain ⟨y, hy, he⟩ := hm.remote_before hz
  obtain ⟨y', hy', he'⟩ := hm.remote_before hz'
  rw [he.isListener] at hlistener
  rw [he.isUnix] at hunix
  rw [he'.isListener] at hlistener'
  rw [he'.isUnix] at hunix'
  exact h r r' y y' hy hy' hlistener hunix hlistener' hunix'

/-- What is added is no listener or not local. -/
theorem OneLocal.addRemote (h : OneLocal s) (hremotes : s'.remotes = (s.addRemote y).remotes)
    (hy : y.isListener = true → y.isUnix = false) : OneLocal s' := by
  intro r r' z z' hz hz' hlistener hunix hlistener' hunix'
  rw [hremotes] at hz hz'
  have hnew : ∀ z, z = y → z.isListener = true → z.isUnix = true → False := by
    rintro z rfl hl hu
    cases (hy hl).symm.trans hu
  rcases Core.remotes_addRemote_cases hz with ⟨_, hzy⟩ | hold
  · exact (hnew z hzy hlistener hunix).elim
  · rcases Core.remotes_addRemote_cases hz' with ⟨_, hzy'⟩ | hold'
    · exact (hnew z' hzy' hlistener' hunix').elim
    · exact h r r' z z' hold hold' hlistener hunix hlistener' hunix'

theorem OneLocal.move (hm : Move A s s') (h : OneLocal s) : OneLocal s' := by
  cases hm.shape with
  | inPlace hp => exact h.inPlace hp
  | accept _ heq =>
      rw [heq]
      exact h
  | opens ho =>
      rw [ho.result]
      refine h.addRemote rfl fun hl => ?_
      cases ho.new.isListener.symm.trans hl
  | addListener hnew heq =>
      rw [heq]
      exact h.addRemote rfl fun _ => hnew.isUnix
  | closeClient _ heq =>
      rw [heq]
      exact h.sub Leaves.closeClient.remote
  | closeRemote _ _ _ heq =>
      rw [heq]
      exact h.sub Leaves.dropRemote.remote
  | dispose _ _ heq =>
      rw [heq]
      exact h.sub Leaves.dispose.remote

theorem OneLocal.initial (h : Initial s) : OneLocal s := by
  intro r r' z z' hz hz' _ _ _ _
  cases h with
  | empty => cases hz
  | listener =>
      rcases Core.remotes_addRemote_cases hz with ⟨hr, _⟩ | hz
      · rcases Core.remotes_addRemote_cases hz' with ⟨hr', _⟩ | hz'
        · exact hr.trans hr'.symm
        · cases hz'
      · cases hz

theorem KeysFormatted.move (hm : Move A s s') (h : KeysFormatted s) : KeysFormatted s' := by
  intro key hkey
  rcases hm.devices with heq | ⟨devid, dev, _, heq⟩ | ⟨key', _, heq⟩
  · rw [heq] at hkey
    exact h key hkey
  · rw [heq, OMap.mem_keys_set] at hkey
    rcases hkey with rfl | hkey
    · exact ⟨devid, rfl⟩
    · exact h key hkey
  · rw [heq, OMap.mem_keys_erase] at hkey
    exact h key hkey.2

theorem KeysFormatted.initial (h : Initial s) : KeysFormatted s := by
  intro key hkey
  cases h <;> cases hkey

end Preservation

/-- What the report rests on, in every reachable state. -/
theorem reachable_instances {plat : Platform} {s : Daemon} (h : Reachable plat s) :
    OneLocal s.toCore ∧ KeysFormatted s.toCore :=
  (reachable_inv (A := .all) (P := fun s => OneLocal s ∧ KeysFormatted s)
    (fun h₀ => ⟨.initial h₀, .initial h₀⟩) (fun _ _ _ => allows_all)
    (fun _ hm hP => ⟨hP.1.move hm, hP.2.move hm⟩) h).2

/-! ## The ids of listeners -/

section Ids

variable {s : Core} {y y' : RemoteMux}

theorem mem_listening : y ∈ listening s ↔
    (∃ r ∈ s.remoteList.elems, s.remotes r = some y) ∧ y.isListener = true ∧ y.state = .listen := by
  simp [listening]

/-- Two listeners with one id are one remote. -/
theorem listener_eq_of_id (hreg : Registry s) (hlocal : OneLocal s) {r r' : RemotePtr}
    (hy : s.remotes r = some y) (hy' : s.remotes r' = some y') (hl : y.isListener = true)
    (hl' : y'.isListener = true) (hid : y.id = y'.id) : r = r' := by
  by_contra hne
  cases hu : y.isUnix with
  | true =>
      have hzero : y.id = 0 := ((hreg.remote hy).unix hu).1
      cases hu' : y'.isUnix with
      | true => exact hne (hlocal r r' y y' hy hy' hl hu hl' hu')
      | false =>
          have htcp := (hreg.remote hy').tcp (isTcpListener_iff.mpr ⟨hu', hl'⟩)
          exact htcp.1 (hid.symm.trans hzero)
  | false =>
      have htcp := isTcpListener_iff.mpr ⟨hu, hl⟩
      cases hu' : y'.isUnix with
      | true =>
          have hzero : y'.id = 0 := ((hreg.remote hy').unix hu').1
          exact ((hreg.remote hy).tcp htcp).1 (hid.trans hzero)
      | false =>
          exact (hreg.unlike hy hy' htcp (isTcpListener_iff.mpr ⟨hu', hl'⟩) hne).1 hid

/-- No two listeners of the list have one id. -/
theorem nodup_listening_ids (hwf : WF s) (hreg : Registry s) (hlocal : OneLocal s) :
    ((listening s).map RemoteMux.id).Nodup := by
  rw [listening, List.filter_filterMap, List.map_filterMap]
  refine hwf.remotesNodup.filterMap fun r r' k hk hk' => ?_
  simp only [Option.mem_def, Option.map_eq_some_iff, Option.filter_eq_some_iff,
    decide_eq_true_eq] at hk hk'
  obtain ⟨y, ⟨hy, hl, _⟩, hid⟩ := hk
  obtain ⟨y', ⟨hy', hl', _⟩, hid'⟩ := hk'
  exact listener_eq_of_id hreg hlocal hy hy' hl hl' (hid.trans hid'.symm)

theorem toString_toNat_injective :
    Function.Injective fun k : UInt8 => toString k.toNat := by
  intro k k' h
  exact UInt8.toNat_inj.mp (toString_injective h)

theorem nodup_instanceKeys (hwf : WF s) (hreg : Registry s) (hlocal : OneLocal s) :
    ((instancesOf s (listening s)).map Prod.fst).Nodup := by
  have hkeys : (instancesOf s (listening s)).map Prod.fst =
      ((listening s).map RemoteMux.id).map fun k => toString k.toNat := by
    simp [instancesOf]
  rw [hkeys]
  exact (nodup_listening_ids hwf hreg hlocal).map toString_toNat_injective

end Ids

/-! ## How many devices an instance has -/

/-- The ids with a given high byte are an interval of 2^24 numbers. -/
theorem shiftRight_eq_iff {g : UInt32} {k : UInt8} :
    g >>> 24 = k.toUInt32 ↔ k.toNat * 2 ^ 24 ≤ g.toNat ∧ g.toNat < (k.toNat + 1) * 2 ^ 24 := by
  rw [← UInt32.toNat_inj, UInt32.toNat_shiftRight, UInt8.toNat_toUInt32,
    show (24 : UInt32).toNat % 32 = 24 from rfl, Nat.shiftRight_eq_div_pow]
  omega

theorem length_instanceSerials_le {s : Core} (h : KeysFormatted s) (k : UInt8) :
    (instanceSerials s k).length ≤ 2 ^ 24 := by
  -- the devices that contribute have different ids in one interval
  let mine := s.remoteDeviceList.entries.filter fun p => keyDevice p.1 >>> 24 = k.toUInt32
  have hle : (instanceSerials s k).length ≤ mine.length := by
    have hserials : instanceSerials s k = mine.filterMap fun p =>
        plistAccessPath p.2 "Properties" "SerialNumber" := by
      rw [List.filterMap_filter]
      refine List.filterMap_congr fun p _ => ?_
      rw [instanceSerial]
      simp
    rw [hserials]
    exact List.length_filterMap_le _ _
  let ids := mine.map fun p => (keyDevice p.1).toNat
  have hnodup : ids.Nodup := by
    have hkeys : (mine.map Prod.fst).Nodup :=
      s.remoteDeviceList.nodup.sublist ((List.filter_sublist).map Prod.fst)
    have hids : ids = (mine.map Prod.fst).map fun key => (keyDevice key).toNat := by
      simp [ids]
    rw [hids]
    refine hkeys.map_on fun key hkey key' hkey' heq => ?_
    have hformatted : ∀ key ∈ mine.map Prod.fst, ∃ g, key = deviceKey g := by
      intro key hkey
      obtain ⟨p, hp, rfl⟩ := List.mem_map.mp hkey
      exact h _ (List.mem_map_of_mem (List.mem_filter.mp hp).1)
    obtain ⟨g, rfl⟩ := hformatted key hkey
    obtain ⟨g', rfl⟩ := hformatted key' hkey'
    rw [keyDevice_deviceKey, keyDevice_deviceKey, UInt32.toNat_inj] at heq
    rw [heq]
  have hsub : ids.toFinset ⊆ Finset.Ico (k.toNat * 2 ^ 24) ((k.toNat + 1) * 2 ^ 24) := by
    intro n hn
    obtain ⟨p, hp, rfl⟩ := List.mem_map.mp (List.mem_toFinset.mp hn)
    have hbyte := (List.mem_filter.mp hp).2
    exact Finset.mem_Ico.mpr (shiftRight_eq_iff.mp (by simpa using hbyte))
  have hcard := Finset.card_le_card hsub
  rw [List.toFinset_card_of_nodup hnodup, Nat.card_Ico] at hcard
  have hlen : ids.length = mine.length := List.length_map _
  omega

/-! ## The two loops -/

section Loops

variable {s : Daemon}

/-- The walk over the dictionary appends what the instance has. -/
theorem plistDictForeach_forInstance (k : UInt8) (l : List (String × Plist))
    (array : List Plist) :
    plistDictForeach (remoteDeviceGetForInstance k) l array =
      .ok (array ++ l.filterMap (instanceSerial k)) := by
  induction l generalizing array with
  | nil => simp [plistDictForeach]
  | cons p rest ih =>
      obtain ⟨key, value⟩ := p
      rw [plistDictForeach, remoteDeviceGetForInstance]
      by_cases hk : keyDevice key >>> 24 = k.toUInt32
      · rw [if_pos hk]
        refine (ih _).trans ?_
        have hserial : instanceSerial k (key, value) =
            plistAccessPath value "Properties" "SerialNumber" := if_pos hk
        cases hpath : plistAccessPath value "Properties" "SerialNumber" <;>
          simp [hserial, hpath]
      · rw [if_neg hk]
        refine (ih _).trans ?_
        have hnone : instanceSerial k (key, value) = none := if_neg hk
        simp [hnone]

/-- The walk over the remotes appends the entries of those that listen, as
long as their keys are new. -/
theorem copyInstancesLoop_eq {rs : List RemotePtr} (hlive : ∀ r ∈ rs, (s.remotes r).isSome)
    {entries : List (String × Plist)} (hnodup : ((entries ++ instancesOf s.toCore
      ((rs.filterMap s.remotes).filter fun y => y.isListener ∧ y.state = .listen)).map
        Prod.fst).Nodup) :
    copyInstancesLoop s rs (.dict entries) =
      .ok (.dict (entries ++ instancesOf s.toCore
        ((rs.filterMap s.remotes).filter fun y => y.isListener ∧ y.state = .listen))) := by
  induction rs generalizing entries with
  | nil => simp [copyInstancesLoop, instancesOf]
  | cons r rest ih =>
      obtain ⟨y, hy⟩ := Option.isSome_iff_exists.mp (hlive r List.mem_cons_self)
      have hrest : ∀ r ∈ rest, (s.remotes r).isSome :=
        fun r' hr' => hlive r' (List.mem_cons_of_mem r hr')
      have hread : s.remote r = .ok y := by
        rw [Daemon.remote, hy]
      rw [copyInstancesLoop, hread]
      rw [List.filterMap_cons_some hy] at hnodup ⊢
      dsimp only [bind, Except.bind]
      by_cases hl : y.isListener ∧ y.state = .listen
      · rw [List.filter_cons_of_pos (by simpa using hl)] at hnodup ⊢
        rw [if_pos hl, plistDictForeach_forInstance, List.nil_append]
        let entry := (toString y.id.toNat, instanceEntry y (instanceSerials s.toCore y.id))
        have hnew : entry.1 ∉ entries.map Prod.fst := by
          rw [List.map_append, List.nodup_append] at hnodup
          intro hmem
          exact hnodup.2.2 entry.1 hmem entry.1 (by simp [instancesOf, entry]) rfl
        have hset : plistDictSetItem (.dict entries) entry.1 entry.2 =
            .dict (entries ++ [entry]) := by
          rw [plistDictSetItem, keys_assocSet_of_not_mem hnew]
        have happend : ∀ ys, entries ++ instancesOf s.toCore (y :: ys) =
            (entries ++ [entry]) ++ instancesOf s.toCore ys := by
          intro ys
          rw [List.append_assoc]
          rfl
        rw [happend] at hnodup ⊢
        exact (congrArg (copyInstancesLoop s rest) hset).trans (ih hrest hnodup)
      · rw [List.filter_cons_of_neg (by simpa using hl)] at hnodup ⊢
        rw [if_neg hl]
        exact ih hrest hnodup

end Loops

/-- In every reachable state the report has exactly one entry per listener in
`REMOTE_LISTEN`, in slot order and under keys that are all different; the
entry of an id lists the serial numbers of the devices with that high byte in
dictionary order and counts them; and no device is in the entries of two
listeners. The state is as before. -/
theorem copyInstances_exact {plat : Platform} {s : Daemon} (h : Reachable plat s) :
    ∃ entries, usbmuxRemoteCopyInstances s = .ok (.dict entries, s) ∧
      entries = (listening s.toCore).map (fun y =>
        (toString y.id.toNat, instanceEntry y (instanceSerials s.toCore y.id))) ∧
      (entries.map Prod.fst).Nodup ∧
      (∀ y ∈ listening s.toCore, ∃ entry, entries.lookup (toString y.id.toNat) = some entry ∧
        plistDictGetItem entry "Devices" = some (.array (instanceSerials s.toCore y.id)) ∧
        ∃ count, plistDictGetItem entry "DeviceCount" = some (.uint count) ∧
          count.toNat = (instanceSerials s.toCore y.id).length) ∧
      ∀ p ∈ s.remoteDeviceList.entries, ∀ y ∈ listening s.toCore, ∀ y' ∈ listening s.toCore,
        (instanceSerial y.id p).isSome → (instanceSerial y'.id p).isSome → y = y' := by
  obtain ⟨hwf, hreg⟩ := reachable_registry h
  obtain ⟨hlocal, hkeys⟩ := reachable_instances h
  have hunlocked := reachable_unlocked h
  have hnodup := nodup_instanceKeys hwf hreg hlocal
  refine ⟨instancesOf s.toCore (listening s.toCore), ?_, rfl, hnodup, fun y hy => ?_, ?_⟩
  · have hloop : copyInstancesLoop { s with remoteListLocked := true } s.remoteList.elems
        (.dict []) = .ok (.dict ([] ++ instancesOf s.toCore (listening s.toCore))) :=
      copyInstancesLoop_eq (s := { s with remoteListLocked := true })
        (fun r hr => (hwf.remotes r).mp hr) hnodup
    rw [usbmuxRemoteCopyInstances, lockRemoteList_of_free hunlocked.1 hunlocked.2]
    dsimp only [bind, Except.bind]
    rw [hloop]
    have hsame : Daemon.unlockRemoteList { s with remoteListLocked := true } = s := by
      rw [Daemon.unlockRemoteList]
      exact congrArg (fun b => { s with remoteListLocked := b }) hunlocked.1.symm
    exact congrArg (fun t => Except.ok (_, t)) hsame
  · refine ⟨instanceEntry y (instanceSerials s.toCore y.id), ?_, ?_,
      UInt64.ofNat (instanceSerials s.toCore y.id).length, ?_, ?_⟩
    · exact (lookup_eq_some_iff hnodup).mpr (List.mem_map_of_mem hy)
    · cases hu : y.isUnix <;> simp [instanceEntry, plistDictGetItem, hu, List.lookup_cons]
    · cases hu : y.isUnix <;> simp [instanceEntry, plistDictGetItem, hu, List.lookup_cons]
    · have hle := length_instanceSerials_le hkeys y.id
      exact UInt64.toNat_ofNat_of_lt' (Nat.lt_of_le_of_lt hle (by decide))
  · intro p _ y hy y' hy' hp hp'
    have hbyte : ∀ k, (instanceSerial k p).isSome → keyDevice p.1 >>> 24 = k.toUInt32 := by
      intro k hk
      by_contra hne
      rw [instanceSerial, if_neg hne] at hk
      cases hk
    have hid : y.id = y'.id := UInt8.toUInt32_inj.mp ((hbyte _ hp).symm.trans (hbyte _ hp'))
    exact List.inj_on_of_nodup_map (nodup_listening_ids hwf hreg hlocal) hy hy' hid

/-! ## Two listeners -/

/-- A device with a serial number is attached. -/
def serialMessage : Plist :=
  .dict [("MessageType", .string "Attached"), ("DeviceID", .uint 5),
    ("Properties", .dict [("SerialNumber", .string "U1")])]

/-- A listener comes, is answered and announces a device. -/
def listenerRun (hostName : String) (fd : Nat) : List Event :=
  .addRemote hostName 5000 { connect := some fd } ::
    .remote fd { pollout := true } { send := some 300 } ::
    (remoteSends fd (resultFrame 0) ++ remoteSends fd (plistFrame 1 0 serialMessage))

/-- Both have a device with the number and the serial number of the other's. -/
theorem copyInstances_exact_twoListeners :
    ∃ s entries, Reachable (platformWith [serialMessage]) s ∧
      usbmuxRemoteCopyInstances s = .ok (.dict entries, s) ∧ entries.map Prod.fst = ["1", "2"] ∧
      (instanceSerials s.toCore 1).length = 1 ∧ (instanceSerials s.toCore 2).length = 1 := by
  let test : Daemon → Bool := fun s =>
    decide ((listening s.toCore).map (fun y => toString y.id.toNat) = ["1", "2"]) &&
    decide ((instanceSerials s.toCore 1).length = 1) &&
    decide ((instanceSerials s.toCore 2).length = 1)
  obtain ⟨s, hrun, htest⟩ : ∃ s, runFrom (platformWith [serialMessage]) {} (fun _ _ => true)
      (listenerRun "hosta" 10 ++ listenerRun "hostb" 11) = some s ∧ test s = true :=
    exists_of_runFrom (by decide +kernel)
  simp only [test, Bool.and_eq_true, decide_eq_true_eq] at htest
  obtain ⟨⟨hids, hfirst⟩, hsecond⟩ := htest
  have hreach := reachable_of_runFrom hrun
  obtain ⟨entries, hcopy, hentries, _⟩ := copyInstances_exact hreach
  refine ⟨s, entries, hreach, hcopy, ?_, hfirst, hsecond⟩
  rw [hentries, List.map_map]
  exact hids

end Usbfluxd
