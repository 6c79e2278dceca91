import Usbfluxd.Lib.Exec

/-!
# Refinement

Two systems, one written out further than the other. A relation between their
states that every step of the first one carries over to a step of the second
is a simulation, and then every run of the first one is a run of the second
(`simulation_run`).

What is written out further here is memory. `Cells` is what a pointer to an
array points to: nothing when it is `NULL`, else a number of cells, of which
the ones behind the elements in use hold anything. `Begins` relates it to the
list of the elements, and the operations of C arrays to those of lists: a
store behind the last element appends, and a reallocation changes nothing.
-/

namespace Lib

/-! ## Simulations -/

section Simulation

variable {σ τ : Type*} {C : σ → σ → Prop} {A : τ → τ → Prop} {R : σ → τ → Prop}

/-- A run of the concrete system is one of the abstract system. -/
theorem simulation_run (hstep : ∀ {s s' t}, R s t → C s s' → ∃ t', A t t' ∧ R s' t') {s s' : σ}
    {t : τ} (h : Relation.ReflTransGen C s s') (ht : R s t) :
    ∃ t', Relation.ReflTransGen A t t' ∧ R s' t' := by
  induction h with
  | refl => exact ⟨t, .refl, ht⟩
  | tail _ hlast ih =>
      obtain ⟨u, hrun, hu⟩ := ih
      obtain ⟨t', hA, ht'⟩ := hstep hu hlast
      exact ⟨t', hrun.tail hA, ht'⟩

end Simulation

/-! ## Loops over a table that stays as it is -/

section Loop

variable {σ σ' ι ε : Type} {slot : σ → Nat → Option ι} {slot' : σ' → Nat → Option ι}
  {body : σ → ι → Except ε σ} {body' : σ' → ι → Except ε σ'}

/-- The rule for a loop that visits what the slots hold: what is said of the
elements visited so far. -/
theorem slotLoop_visits {v : Nat → Option ι} {P : List ι → σ → Prop} {idx : List Nat} {s s' : σ}
    (h : slotLoop slot body idx s = .ok s') (hs : P [] s)
    (hslot : ∀ {xs s}, P xs s → slot s = v)
    (hbody : ∀ {xs s x s'}, P xs s → body s x = .ok s' → P (xs ++ [x]) s') :
    P (idx.filterMap v) s' := by
  suffices hfrom : ∀ {idx xs s}, P xs s → slotLoop slot body idx s = .ok s' →
      P (xs ++ idx.filterMap v) s' by
    have hP := hfrom hs h
    rw [List.nil_append] at hP
    exact hP
  intro idx
  induction idx with
  | nil =>
      intro xs s hP hl
      cases hl
      rw [List.filterMap_nil, List.append_nil]
      exact hP
  | cons i rest ih =>
      intro xs s hP hl
      rw [slotLoop, hslot hP] at hl
      rw [List.filterMap_cons]
      cases hi : v i with
      | none =>
          rw [hi] at hl
          exact ih hP hl
      | some x =>
          rw [hi] at hl
          obtain ⟨t, ht, hl⟩ := bind_eq_ok.mp hl
          dsimp only
          rw [List.append_cons]
          exact ih (hbody hP ht) hl

/-- The loop returns when its body does, for what there is to visit. -/
theorem slotLoop_returns {v : Nat → Option ι} {P : List ι → σ → Prop} {idx : List Nat} {s : σ}
    (hs : P [] s) (hslot : ∀ {xs s}, P xs s → slot s = v)
    (hbody : ∀ {xs s x}, xs ++ [x] <+: idx.filterMap v → P xs s →
      ∃ s', body s x = .ok s' ∧ P (xs ++ [x]) s') :
    ∃ s', slotLoop slot body idx s = .ok s' ∧ P (idx.filterMap v) s' := by
  suffices hfrom : ∀ {rest xs s}, xs ++ rest.filterMap v = idx.filterMap v → P xs s →
      ∃ s', slotLoop slot body rest s = .ok s' ∧ P (idx.filterMap v) s' from
    hfrom (List.nil_append _) hs
  intro rest
  induction rest with
  | nil =>
      intro xs s hxs hP
      rw [List.filterMap_nil, List.append_nil] at hxs
      rw [← hxs]
      exact ⟨s, rfl, hP⟩
  | cons i rest ih =>
      intro xs s hxs hP
      rw [List.filterMap_cons] at hxs
      rw [slotLoop, hslot hP]
      cases hi : v i with
      | none =>
          rw [hi] at hxs
          exact ih hxs hP
      | some x =>
          rw [hi] at hxs
          dsimp only at hxs
          rw [List.append_cons] at hxs
          obtain ⟨t, ht, hP'⟩ := hbody ⟨_, hxs⟩ hP
          obtain ⟨s', hs', h⟩ := ih hxs hP'
          exact ⟨s', bind_eq_ok.mpr ⟨t, ht, hs'⟩, h⟩

/-- A loop that does something besides. -/
theorem slotLoop_forget {g : σ' → σ} (hslot : ∀ u i, slot' u i = slot (g u) i)
    (hbody : ∀ {u x u'}, body' u x = .ok u' → body (g u) x = .ok (g u')) {idx : List Nat}
    {u u' : σ'} (h : slotLoop slot' body' idx u = .ok u') :
    slotLoop slot body idx (g u) = .ok (g u') := by
  induction idx generalizing u with
  | nil =>
      cases h
      rfl
  | cons i rest ih =>
      rw [slotLoop, hslot] at h
      rw [slotLoop]
      cases hi : slot (g u) i with
      | none =>
          rw [hi] at h
          exact ih h
      | some x =>
          rw [hi] at h
          obtain ⟨t, ht, h⟩ := bind_eq_ok.mp h
          exact bind_eq_ok.mpr ⟨g t, hbody ht, ih h⟩

end Loop

/-! ## Arrays -/

/-- The cells of an array, or `NULL`. -/
abbrev Cells (α : Type) := Option (List α)

namespace Cells

variable {α β ε : Type}

/-- `realloc`, or `malloc` of `NULL`: what is there stays there, and new cells
hold anything. -/
def realloc (ok : Bool) (junk : Nat → α) (m : Cells α) (capacity : Nat) : Cells α :=
  if ok then
    some ((m.getD []).take capacity ++
      (List.range' (m.getD []).length (capacity - (m.getD []).length)).map junk)
  else none

/-- `m[i] = a`, with the errors of a `NULL` pointer and of an index behind the
last cell. -/
def store (null bounds : ε) (m : Cells α) (i : Nat) (a : α) : Except ε (Cells α) :=
  match m with
  | none => .error null
  | some cs => if i < cs.length then .ok (some (cs.set i a)) else .error bounds

/-- Read `m[i]`. -/
def load (null bounds : ε) (m : Cells α) (i : Nat) : Except ε α :=
  match m with
  | none => .error null
  | some cs =>
      match cs[i]? with
      | none => .error bounds
      | some a => .ok a

/-- Write the first `n` cells, each by its index and what it holds. -/
def rewrite (m : Cells α) (n : Nat) (f : Nat → α → α) : Cells α :=
  m.map fun cs => (cs.take n).mapIdx f ++ cs.drop n

/-- The array has that many cells, and the first of them are the list. `NULL`
is the array of a list without elements. -/
def Begins (m : Cells α) (capacity : Nat) (l : List α) : Prop :=
  (m = none ∧ l = []) ∨ ∃ rest, m = some (l ++ rest) ∧ l.length + rest.length = capacity

variable {m m' : Cells α} {capacity capacity' n i : Nat} {l : List α} {null bounds : ε} {a : α}

theorem Begins.empty : Begins (none : Cells α) capacity [] := Or.inl ⟨rfl, rfl⟩

@[simp] theorem isSome_realloc {junk : Nat → α} :
    (m.realloc true junk capacity).isSome = true := rfl

theorem Begins.length_le (h : m.Begins capacity l) : l.length ≤ capacity := by
  rcases h with ⟨_, rfl⟩ | ⟨rest, _, hlen⟩
  · exact Nat.zero_le _
  · omega

theorem Begins.nil (h : m.Begins capacity l) : m.Begins capacity [] := by
  rcases h with ⟨rfl, _⟩ | ⟨rest, rfl, hlen⟩
  · exact .empty
  · exact Or.inr ⟨l ++ rest, rfl, by simpa using hlen⟩

/-- The elements stay when the array does not get smaller. -/
theorem Begins.realloc (h : m.Begins capacity l) (hle : capacity ≤ capacity') {ok : Bool}
    {junk : Nat → α} (hok : l ≠ [] → ok = true) :
    (m.realloc ok junk capacity').Begins capacity' l := by
  cases ok with
  | false =>
      by_cases hl : l = []
      · rw [hl]
        exact .empty
      · cases hok hl
  | true =>
      rcases h with ⟨rfl, rfl⟩ | ⟨rest, rfl, hlen⟩
      · exact Or.inr ⟨_, rfl, by simp⟩
      · have htake : (l ++ rest).take capacity' = l ++ rest :=
          List.take_of_length_le (by rw [List.length_append]; omega)
        refine Or.inr ⟨rest ++ (List.range' (l ++ rest).length
          (capacity' - (l ++ rest).length)).map junk, ?_, ?_⟩
        · rw [Cells.realloc, if_pos rfl, Option.getD_some, htake, List.append_assoc]
        · simp
          omega

/-- A store behind the last element appends. -/
theorem Begins.store (h : m.Begins capacity l) (hi : i = l.length)
    (hs : m.store null bounds i a = .ok m') : m'.Begins capacity (l ++ [a]) := by
  subst hi
  rcases h with ⟨rfl, _⟩ | ⟨rest, rfl, hlen⟩
  · cases hs
  · rw [Cells.store] at hs
    split at hs
    · next hlt =>
        cases hs
        cases rest with
        | nil => simp at hlt
        | cons b rest =>
            refine Or.inr ⟨rest, ?_, ?_⟩
            · rw [List.set_append_right _ _ (Nat.le_refl _), Nat.sub_self, List.set_cons_zero,
                List.append_assoc, List.singleton_append]
            · simp at hlen ⊢
              omega
    · cases hs

/-- The same in an array that was just given more cells. -/
theorem Begins.realloc_store (h : m.Begins capacity l) (hle : capacity ≤ capacity') {ok : Bool}
    {junk : Nat → α} (hi : i = l.length)
    (hs : (m.realloc ok junk capacity').store null bounds i a = .ok m') :
    m'.Begins capacity' (l ++ [a]) := by
  cases ok with
  | false => cases hs
  | true => exact (h.realloc hle fun _ => rfl).store hi hs

theorem store_isSome (hs : m.store null bounds i a = .ok m') : m'.isSome = true := by
  cases m with
  | none => cases hs
  | some cs =>
      rw [Cells.store] at hs
      split at hs <;> cases hs
      rfl

/-- It goes well when there are that many cells. -/
theorem store_returns (e e' : ε) (a : α) (hm : m.isSome = true) (h : m.Begins capacity l)
    (hi : i = l.length) (hlt : i < capacity) :
    ∃ m', m.store e e' i a = .ok m' ∧ m'.isSome = true := by
  rcases h with ⟨rfl, _⟩ | ⟨rest, rfl, hlen⟩
  · cases hm
  · refine ⟨some ((l ++ rest).set i a), ?_, rfl⟩
    rw [Cells.store, if_pos]
    rw [List.length_append]
    omega

theorem Begins.getElem? (h : m.Begins capacity l) (hi : l[i]? = some a) :
    (m.getD [])[i]? = some a := by
  rcases h with ⟨rfl, rfl⟩ | ⟨rest, rfl, _⟩
  · cases hi
  · have hlt := (List.getElem?_eq_some_iff.mp hi).1
    exact (List.getElem?_append_left hlt).trans hi

/-- What is read of the elements. -/
theorem Begins.load (h : m.Begins capacity l) (hi : l[i]? = some a) :
    m.load null bounds i = .ok a := by
  have hget := h.getElem? hi
  rcases h with ⟨rfl, rfl⟩ | ⟨rest, rfl, _⟩
  · cases hi
  · rw [Option.getD_some] at hget
    rw [Cells.load, hget]

theorem Begins.rewrite (h : m.Begins capacity l) {f : Nat → α → α} :
    (m.rewrite l.length f).Begins capacity (l.mapIdx f) := by
  rcases h with ⟨rfl, rfl⟩ | ⟨rest, rfl, hlen⟩
  · exact .empty
  · refine Or.inr ⟨rest, ?_, ?_⟩
    · rw [Cells.rewrite, Option.map_some, List.take_left, List.drop_left]
    · rw [List.length_mapIdx, hlen]

end Cells

end Lib
