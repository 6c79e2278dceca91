import Mathlib.Data.List.Nodup
import Mathlib.Data.List.Lemmas

/-!
# Insertion-ordered maps

Dictionaries that remember the order of insertion: setting a present key
replaces its value in place, setting a new one appends it, erasing closes
the gap. The list operations come first, since a dictionary nested in a
tree is a bare list of pairs; `OMap` is the same list with the proof that
no key occurs twice.
-/

namespace Lib

section Assoc

variable {κ β : Type} [DecidableEq κ]

/-- Set a key: in place when it is present, at the end when it is not. -/
def assocSet (k : κ) (v : β) : List (κ × β) → List (κ × β)
  | [] => [(k, v)]
  | (k', v') :: rest =>
      if k == k' then (k', v) :: rest else (k', v') :: assocSet k v rest

/-- Remove the pair of a key, if there is one. -/
def assocErase (k : κ) (l : List (κ × β)) : List (κ × β) :=
  l.eraseP fun p => k == p.1

variable {k j : κ} {v : β} {l : List (κ × β)}

theorem lookup_assocSet :
    (assocSet k v l).lookup j = if j = k then some v else l.lookup j := by
  induction l with
  | nil =>
      by_cases h : j = k
      · subst h
        simp [assocSet]
      · simp [assocSet, List.lookup_cons, beq_false_of_ne h, h]
  | cons p rest ih =>
      obtain ⟨k', v'⟩ := p
      by_cases hk : k = k'
      · subst hk
        by_cases hj : j = k
        · subst hj
          simp [assocSet]
        · simp [assocSet, List.lookup_cons, beq_false_of_ne hj, hj]
      · by_cases hj : j = k'
        · subst hj
          have hne : ¬ j = k := fun h => hk h.symm
          simp [assocSet, hk, hne]
        · simp [assocSet, hk, List.lookup_cons, beq_false_of_ne hj, ih]

theorem keys_assocSet_of_mem (h : k ∈ l.map Prod.fst) :
    (assocSet k v l).map Prod.fst = l.map Prod.fst := by
  induction l with
  | nil => cases h
  | cons p rest ih =>
      obtain ⟨k', v'⟩ := p
      by_cases hk : k = k'
      · simp [assocSet, hk]
      · have hmem : k ∈ rest.map Prod.fst := by
          rcases List.mem_cons.mp h with h | h
          · exact absurd h hk
          · exact h
        simp [assocSet, hk, ih hmem]

theorem keys_assocSet_of_not_mem (h : k ∉ l.map Prod.fst) :
    assocSet k v l = l ++ [(k, v)] := by
  induction l with
  | nil => rfl
  | cons p rest ih =>
      obtain ⟨k', v'⟩ := p
      have hk : k ≠ k' := fun hk => h (by simp [hk])
      have hrest : k ∉ rest.map Prod.fst := fun hm => h (by simp [hm])
      simp [assocSet, hk, ih hrest]

theorem mem_keys_assocSet :
    j ∈ (assocSet k v l).map Prod.fst ↔ j = k ∨ j ∈ l.map Prod.fst := by
  by_cases h : k ∈ l.map Prod.fst
  · rw [keys_assocSet_of_mem h]
    constructor
    · exact Or.inr
    · rintro (rfl | hj)
      · exact h
      · exact hj
  · rw [keys_assocSet_of_not_mem h, List.map_append, List.mem_append]
    simp [or_comm]

theorem mem_assocSet {p : κ × β} (h : p ∈ assocSet k v l) :
    p = (k, v) ∨ p ∈ l := by
  induction l with
  | nil => exact Or.inl (List.mem_singleton.mp h)
  | cons q rest ih =>
      obtain ⟨k', v'⟩ := q
      by_cases hk : k = k'
      · subst hk
        rw [assocSet, if_pos (beq_self_eq_true k)] at h
        rcases List.mem_cons.mp h with h | h
        · exact Or.inl h
        · exact Or.inr (List.mem_cons_of_mem _ h)
      · rw [assocSet, if_neg (by simpa using hk)] at h
        rcases List.mem_cons.mp h with h | h
        · exact Or.inr (h ▸ List.mem_cons_self)
        · rcases ih h with h | h
          · exact Or.inl h
          · exact Or.inr (List.mem_cons_of_mem _ h)

theorem nodup_assocSet (h : (l.map Prod.fst).Nodup) :
    ((assocSet k v l).map Prod.fst).Nodup := by
  by_cases hk : k ∈ l.map Prod.fst
  · rw [keys_assocSet_of_mem hk]
    exact h
  · rw [keys_assocSet_of_not_mem hk, List.map_append, List.nodup_append]
    refine ⟨h, List.nodup_singleton _, ?_⟩
    rintro a ha b hb rfl
    have hak : a = k := List.mem_singleton.mp hb
    exact hk (hak ▸ ha)

theorem keys_assocErase : (assocErase k l).map Prod.fst = (l.map Prod.fst).erase k := by
  induction l with
  | nil => rfl
  | cons p rest ih =>
      obtain ⟨k', v'⟩ := p
      by_cases hk : k = k'
      · subst hk
        simp [assocErase]
      · have hk' : (k' == k) = false := beq_false_of_ne fun h => hk h.symm
        have hk'' : (k == k') = false := beq_false_of_ne hk
        rw [assocErase, List.eraseP_cons_of_neg (by simp [hk'']), List.map_cons,
          List.map_cons, List.erase_cons, if_neg (by simp [hk'])]
        exact congrArg _ ih

theorem nodup_assocErase (h : (l.map Prod.fst).Nodup) :
    ((assocErase k l).map Prod.fst).Nodup := by
  rw [keys_assocErase]
  exact h.erase k

/-- With every key once, erasing a key is filtering it out. -/
theorem assocErase_eq_filter (h : (l.map Prod.fst).Nodup) :
    assocErase k l = l.filter fun p => p.1 ≠ k := by
  induction l with
  | nil => rfl
  | cons p rest ih =>
      rw [List.map_cons, List.nodup_cons] at h
      by_cases hk : k = p.1
      · have hrest : rest.filter (fun p => p.1 ≠ k) = rest := by
          rw [List.filter_eq_self]
          intro q hq
          have hne : q.1 ≠ k := by
            rw [hk]
            exact fun heq => h.1 (heq ▸ List.mem_map_of_mem hq)
          simpa using hne
        rw [assocErase, List.eraseP_cons_of_pos (by simpa using hk),
          List.filter_cons_of_neg (by simpa using hk.symm), hrest]
      · rw [assocErase, List.eraseP_cons_of_neg (by simpa using hk),
          List.filter_cons_of_pos (by simpa using fun h => hk h.symm)]
        exact congrArg _ (ih h.2)

theorem lookup_isSome_iff : (l.lookup k).isSome ↔ k ∈ l.map Prod.fst := by
  induction l with
  | nil => simp
  | cons p rest ih =>
      obtain ⟨k', v'⟩ := p
      by_cases hk : k = k'
      · simp [hk]
      · simp [List.lookup_cons, beq_false_of_ne hk, hk, ih]

theorem lookup_eq_some_iff (h : (l.map Prod.fst).Nodup) :
    l.lookup k = some v ↔ (k, v) ∈ l := by
  induction l with
  | nil => simp
  | cons p rest ih =>
      obtain ⟨k', v'⟩ := p
      rw [List.map_cons, List.nodup_cons] at h
      by_cases hk : k = k'
      · subst hk
        have hnot : (k, v) ∉ rest := fun hm =>
          h.1 (List.mem_map.mpr ⟨(k, v), hm, rfl⟩)
        simp [hnot, eq_comm]
      · simp [List.lookup_cons, beq_false_of_ne hk, hk, ih h.2]

theorem lookup_assocErase (h : (l.map Prod.fst).Nodup) :
    (assocErase k l).lookup j = if j = k then none else l.lookup j := by
  induction l with
  | nil => simp [assocErase]
  | cons p rest ih =>
      obtain ⟨k', v'⟩ := p
      rw [List.map_cons, List.nodup_cons] at h
      by_cases hk : k = k'
      · subst hk
        rw [assocErase, List.eraseP_cons_of_pos (by simp)]
        by_cases hj : j = k
        · subst hj
          rw [if_pos rfl]
          exact Option.not_isSome_iff_eq_none.mp (mt lookup_isSome_iff.mp h.1)
        · simp [List.lookup_cons, beq_false_of_ne hj, hj]
      · rw [assocErase, List.eraseP_cons_of_neg (by simpa using hk)]
        by_cases hj : j = k'
        · subst hj
          have hne : ¬ j = k := fun h => hk h.symm
          simp [hne]
        · rw [List.lookup_cons, List.lookup_cons, beq_false_of_ne hj]
          exact ih h.2

end Assoc

/-- A dictionary in insertion order, each key once. -/
structure OMap (κ β : Type) where
  entries : List (κ × β)
  nodup : (entries.map Prod.fst).Nodup

namespace OMap

variable {κ β : Type}

theorem ext_entries {m n : OMap κ β} (h : m.entries = n.entries) : m = n := by
  cases m
  cases n
  cases h
  rfl

def empty : OMap κ β := ⟨[], List.nodup_nil⟩

def keys (m : OMap κ β) : List κ := m.entries.map Prod.fst

def values (m : OMap κ β) : List β := m.entries.map Prod.snd

variable [DecidableEq κ]

def get (m : OMap κ β) (k : κ) : Option β := m.entries.lookup k

def set (m : OMap κ β) (k : κ) (v : β) : OMap κ β :=
  ⟨assocSet k v m.entries, nodup_assocSet m.nodup⟩

def erase (m : OMap κ β) (k : κ) : OMap κ β :=
  ⟨assocErase k m.entries, nodup_assocErase m.nodup⟩

variable {m : OMap κ β} {j k : κ} {v : β}

@[simp] theorem get_set : (m.set k v).get j = if j = k then some v else m.get j :=
  lookup_assocSet

@[simp] theorem get_erase : (m.erase k).get j = if j = k then none else m.get j :=
  lookup_assocErase m.nodup

theorem entries_erase : (m.erase k).entries = m.entries.filter fun p => p.1 ≠ k :=
  assocErase_eq_filter m.nodup

theorem mem_keys_iff : k ∈ m.keys ↔ (m.get k).isSome := lookup_isSome_iff.symm

theorem get_eq_some_iff : m.get k = some v ↔ (k, v) ∈ m.entries :=
  lookup_eq_some_iff m.nodup

theorem mem_keys_set : j ∈ (m.set k v).keys ↔ j = k ∨ j ∈ m.keys :=
  mem_keys_assocSet

theorem mem_keys_erase : j ∈ (m.erase k).keys ↔ j ≠ k ∧ j ∈ m.keys := by
  rw [mem_keys_iff, mem_keys_iff, get_erase]
  by_cases h : j = k <;> simp [h]

end OMap

end Lib
