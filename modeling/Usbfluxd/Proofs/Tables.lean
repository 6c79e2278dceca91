import Mathlib.Data.List.Perm.Basic
import Mathlib.Data.Nat.Bitwise
import Usbfluxd.Model.State

/-!
# Collections and the id map

A collection is read through its elements in slot order: adding puts one
element somewhere among them, removing takes its first occurrence out. The
id map is read through `idUsed`, on which setting a bit is a point update.
-/

namespace Usbfluxd

open Lib

namespace Collection

section Slots

variable {α : Type} {x y : α}

theorem filterMap_some {l : List (Option α)} :
    (some x :: l).filterMap id = x :: l.filterMap id := rfl

theorem filterMap_replicate_none {n : Nat} :
    (List.replicate n (none : Option α)).filterMap id = [] := by
  induction n with
  | zero => rfl
  | succ n ih => rw [List.replicate_succ, List.filterMap_cons]; exact ih

/-- Reading the slots one by one below the capacity gives the elements. -/
theorem filterMap_slot_range (col : Collection α) :
    (List.range col.capacity).filterMap col.slot = col.elems := by
  obtain ⟨slots⟩ := col
  show (List.range slots.length).filterMap (fun i => (slots[i]?).join) = slots.filterMap id
  induction slots with
  | nil => rfl
  | cons o rest ih =>
      rw [List.length_cons, List.range_succ_eq_map, List.filterMap_cons,
        List.filterMap_cons, List.filterMap_map]
      have hrest : List.filterMap ((fun i => ((o :: rest)[i]?).join) ∘ Nat.succ)
          (List.range rest.length) = rest.filterMap id := by
        rw [← ih]
        rfl
      rw [hrest]
      rfl

theorem slot_mem {col : Collection α} {i : Nat} (h : col.slot i = some x) :
    x ∈ col.elems := by
  rw [slot, Option.join_eq_some_iff] at h
  exact List.mem_filterMap.mpr ⟨some x, List.mem_of_getElem? h, rfl⟩

@[simp] theorem elems_init : (init : Collection α).elems = [] :=
  filterMap_replicate_none

theorem fillSlot_perm {l l' : List (Option α)} (h : fillSlot x l = some l') :
    (l'.filterMap id).Perm (x :: l.filterMap id) := by
  induction l generalizing l' with
  | nil => cases h
  | cons o rest ih =>
      cases o with
      | none =>
          cases h
          exact List.Perm.refl _
      | some y =>
          rw [fillSlot, Option.map_eq_some_iff] at h
          obtain ⟨l₁, h₁, rfl⟩ := h
          exact ((ih h₁).cons y).trans (List.Perm.swap x y _)

/-- Adding an element adds it to the elements, at some place. -/
theorem elems_add_perm (col : Collection α) :
    (col.add x).elems.Perm (x :: col.elems) := by
  rw [add]
  split
  · next slots h => exact fillSlot_perm h
  · show (List.filterMap id (col.slots ++ some x :: _)).Perm _
    rw [List.filterMap_append, filterMap_some, filterMap_replicate_none]
    exact List.perm_append_singleton x _

theorem mem_elems_add {col : Collection α} :
    y ∈ (col.add x).elems ↔ y = x ∨ y ∈ col.elems := by
  rw [(elems_add_perm col).mem_iff, List.mem_cons]

theorem nodup_elems_add {col : Collection α} (hx : x ∉ col.elems)
    (h : col.elems.Nodup) : (col.add x).elems.Nodup :=
  (elems_add_perm col).nodup_iff.mpr (List.nodup_cons.mpr ⟨hx, h⟩)

end Slots

variable {α : Type} [DecidableEq α] {x y : α}

theorem filterMap_clearSlot {l : List (Option α)} :
    (clearSlot x l).filterMap id = (l.filterMap id).erase x := by
  induction l with
  | nil => rfl
  | cons o rest ih =>
      rw [clearSlot]
      split
      · next h =>
          subst h
          rw [List.filterMap_cons_none rfl, filterMap_some,
            List.erase_cons_head]
      · next h =>
          cases o with
          | none => rw [List.filterMap_cons_none rfl, List.filterMap_cons_none rfl, ih]
          | some y =>
              have hne : y ≠ x := fun hyx => h (hyx ▸ rfl)
              rw [filterMap_some, filterMap_some, ih]
              exact (List.erase_cons_tail (by simpa using hne)).symm

/-- Removing takes the first occurrence out and keeps the order. -/
@[simp] theorem elems_remove (col : Collection α) :
    (col.remove x).elems = col.elems.erase x :=
  filterMap_clearSlot

theorem mem_elems_remove {col : Collection α} (h : col.elems.Nodup) :
    y ∈ (col.remove x).elems ↔ y ≠ x ∧ y ∈ col.elems := by
  rw [elems_remove, h.mem_erase_iff]

theorem clearSlot_getElem? {l : List (Option α)} {i : Nat}
    (h : (clearSlot x l)[i]? = some (some y)) : l[i]? = some (some y) := by
  induction l generalizing i with
  | nil => exact h
  | cons o rest ih =>
      rw [clearSlot] at h
      split at h
      · cases i with
        | zero => cases h
        | succ i => exact h
      · cases i with
        | zero => exact h
        | succ i => exact ih h

/-- Removing fills no slot. -/
theorem slot_remove {col : Collection α} {i : Nat} (h : (col.remove x).slot i = some y) :
    col.slot i = some y := by
  rw [slot, Option.join_eq_some_iff] at h ⊢
  exact clearSlot_getElem? h

/-- Removing clears no slot of another element. -/
theorem slot_remove_of_ne {col : Collection α} {i : Nat} (h : col.slot i = some y)
    (hne : y ≠ x) : (col.remove x).slot i = some y := by
  have hkept : ∀ (l : List (Option α)) (i : Nat), l[i]? = some (some y) →
      (clearSlot x l)[i]? = some (some y) := by
    intro l
    induction l with
    | nil => exact fun _ hi => hi
    | cons o rest ih =>
        intro i hi
        rw [clearSlot]
        split
        · next hx =>
            cases i with
            | zero =>
                rw [hx, List.getElem?_cons_zero, Option.some_inj, Option.some_inj] at hi
                exact absurd hi.symm hne
            | succ i => exact hi
        · cases i with
          | zero => exact hi
          | succ i => exact ih i hi
  rw [slot, Option.join_eq_some_iff] at h ⊢
  exact hkept col.slots i h

/-- Removing clears the slot of the element and no other. -/
theorem slot_remove_eq {col : Collection α} {i : Nat} (h : col.elems.Nodup) :
    (col.remove x).slot i = (col.slot i).filter (· ≠ x) := by
  cases hs : (col.remove x).slot i with
  | some y =>
      have hne := ((mem_elems_remove h).mp (slot_mem hs)).1
      rw [slot_remove hs, Option.filter_some, if_pos (decide_eq_true hne)]
  | none =>
      cases hc : col.slot i with
      | none => rfl
      | some y =>
          by_cases hne : y = x
          · rw [Option.filter_some, if_neg (by simpa using hne)]
          · cases hs.symm.trans (slot_remove_of_ne hc hne)

omit [DecidableEq α] in
theorem slot_lt {col : Collection α} {i : Nat} (h : col.slot i = some y) :
    i < col.capacity := by
  rw [slot, Option.join_eq_some_iff] at h
  exact (List.getElem?_eq_some_iff.mp h).1

omit [DecidableEq α] in
theorem mem_elems_iff {col : Collection α} : y ∈ col.elems ↔ ∃ i, col.slot i = some y := by
  constructor
  · intro h
    obtain ⟨o, ho, hy⟩ := List.mem_filterMap.mp h
    obtain ⟨i, hi⟩ := List.mem_iff_getElem?.mp ho
    cases hy
    exact ⟨i, Option.join_eq_some_iff.mpr hi⟩
  · rintro ⟨i, hi⟩
    exact slot_mem hi

theorem length_clearSlot {l : List (Option α)} : (clearSlot x l).length = l.length := by
  induction l with
  | nil => rfl
  | cons o rest ih =>
      rw [clearSlot]
      split
      · rfl
      · rw [List.length_cons, List.length_cons, ih]

end Collection

/-! ## The id map -/

theorem idBit_toNat (id : UInt8) : (idBit id).toNat = 2 ^ (id.toNat % 8) := by
  have h : ∀ i : Fin 256, (idBit (UInt8.ofNat i.val)).toNat = 2 ^ (i.val % 8) := by
    decide +kernel
  have hid := h ⟨id.toNat, id.toNat_lt⟩
  simpa using hid

theorem idByte_val (id : UInt8) : (idByte id).val = id.toNat / 8 := by
  show (id >>> 3).toNat = id.toNat / 8
  rw [UInt8.toNat_shiftRight, Nat.shiftRight_eq_div_pow]
  rfl

/-- A bit of the map is a bit of its byte. -/
theorem idUsed_eq_testBit (m : IdMap) (id : UInt8) :
    idUsed m id = (m (idByte id)).toNat.testBit (id.toNat % 8) := by
  have hz : m (idByte id) &&& idBit id = 0 ↔
      (m (idByte id)).toNat.testBit (id.toNat % 8) = false := by
    rw [← UInt8.toNat_inj, UInt8.toNat_and, idBit_toNat, Nat.and_two_pow]
    cases (m (idByte id)).toNat.testBit (id.toNat % 8) <;> simp
  rw [idUsed, Bool.eq_iff_iff, decide_eq_true_eq, Ne, hz]
  simp

theorem idByte_bit_inj {i j : UInt8} (hbyte : idByte i = idByte j)
    (hbit : i.toNat % 8 = j.toNat % 8) : i = j := by
  have hdiv := congrArg Fin.val hbyte
  rw [idByte_val, idByte_val] at hdiv
  exact UInt8.toNat_inj.mp (by omega)

/-- Setting or clearing an id changes that id and no other. -/
theorem idUsed_setRemoteIdUsed (m : IdMap) (i j : UInt8) (used : Bool) :
    idUsed (setRemoteIdUsed m i used) j = if j = i then used else idUsed m j := by
  rw [idUsed_eq_testBit, idUsed_eq_testBit, setRemoteIdUsed]
  by_cases hbyte : idByte j = idByte i
  · rw [hbyte, Function.update_self]
    have hlt : j.toNat % 8 < 8 := Nat.mod_lt _ (by decide)
    by_cases hij : j = i
    · subst hij
      cases used
      · rw [if_pos rfl, if_neg Bool.false_ne_true, UInt8.toNat_and, UInt8.toNat_not,
          Nat.testBit_and, idBit_toNat]
        have : (UInt8.size - 1 - 2 ^ (j.toNat % 8)).testBit (j.toNat % 8) = false := by
          generalize j.toNat % 8 = k at hlt
          revert k
          decide
        rw [this, Bool.and_false]
      · rw [if_pos rfl, if_pos rfl, UInt8.toNat_or, Nat.testBit_or, idBit_toNat,
          Nat.testBit_two_pow_self, Bool.or_true]
    · have hbit : i.toNat % 8 ≠ j.toNat % 8 := fun h => hij (idByte_bit_inj hbyte h.symm)
      rw [if_neg hij]
      cases used
      · rw [if_neg Bool.false_ne_true, UInt8.toNat_and, UInt8.toNat_not,
          Nat.testBit_and, idBit_toNat]
        have : (UInt8.size - 1 - 2 ^ (i.toNat % 8)).testBit (j.toNat % 8) = true := by
          have hi : i.toNat % 8 < 8 := Nat.mod_lt _ (by decide)
          generalize i.toNat % 8 = k at hi hbit
          generalize j.toNat % 8 = l at hlt hbit
          revert hbit
          revert l
          revert k
          decide
        rw [this, Bool.and_true]
      · rw [if_pos rfl, UInt8.toNat_or, Nat.testBit_or, idBit_toNat,
          Nat.testBit_two_pow_of_ne hbit, Bool.or_false]
  · have hij : j ≠ i := fun h => hbyte (h ▸ rfl)
    rw [Function.update_of_ne hbyte, if_neg hij]

/-- A nonzero answer of `get_new_remote_id` is the least free id from 1 on. -/
theorem getNewRemoteId_spec {m : IdMap} (h : getNewRemoteId m ≠ 0) :
    idUsed m (getNewRemoteId m) = false ∧
      ∀ j : UInt8, j ≠ 0 → j < getNewRemoteId m → idUsed m j = true := by
  have hdef : getNewRemoteId m =
      (((List.range' 1 255).map UInt8.ofNat).find? fun i => !idUsed m i).getD 0 := rfl
  cases hf : ((List.range' 1 255).map UInt8.ofNat).find? (fun i => !idUsed m i) with
  | none =>
      rw [hf] at hdef
      exact absurd hdef h
  | some i =>
      rw [hf, Option.getD_some] at hdef
      rw [hdef]
      obtain ⟨hi, as, bs, hsplit, hbefore⟩ := List.find?_eq_some_iff_append.mp hf
      refine ⟨by simpa using hi, fun j hj hji => ?_⟩
      -- every id from 1 to 255 is in the list, and what is below `i` comes before it
      have hsorted : ((List.range' 1 255).map UInt8.ofNat).Pairwise (· < ·) := by
        rw [List.pairwise_map]
        refine List.Pairwise.imp_of_mem (fun {a b} ha hb hab => ?_) (List.pairwise_lt_range' 1)
        rw [List.mem_range'_1] at ha hb
        rw [UInt8.lt_iff_toNat_lt, UInt8.toNat_ofNat_of_lt' (show a < 256 by omega),
          UInt8.toNat_ofNat_of_lt' (show b < 256 by omega)]
        exact hab
      have hj1 : 1 ≤ j.toNat := by
        have : j.toNat ≠ 0 := fun h0 => hj (UInt8.toNat_inj.mp h0)
        omega
      have hmem : j ∈ (List.range' 1 255).map UInt8.ofNat := by
        refine List.mem_map.mpr ⟨j.toNat, ?_, UInt8.ofNat_toNat⟩
        have := j.toNat_lt
        rw [List.mem_range'_1]
        omega
      rw [hsplit, List.mem_append, List.mem_cons] at hmem
      rw [hsplit, List.pairwise_append, List.pairwise_cons] at hsorted
      rcases hmem with hmem | rfl | hmem
      · simpa using hbefore j hmem
      · exact absurd hji (UInt8.lt_irrefl _)
      · have hlt := hsorted.2.1.1 j hmem
        exact absurd (UInt8.lt_trans hji hlt) (UInt8.lt_irrefl _)

end Usbfluxd
