import Usbfluxd.Lib.Exec

/-!
# Walking a table that its own loop body empties

`forEach` is an index loop over the slots of a table. The bound is read again
at every turn, an empty slot is skipped, and an occupied one is handed to a
body that may change the table, the slots ahead included. It returns what it
visited and how it ended; `fuel` bounds the number of turns, and `none` means
that they did not suffice.

Everything about such a loop is said through `reached`, the state in which it
gets to an index. A body that leaves the bound alone makes the loop terminate,
and it visits at each index what the slot holds when that index is reached
(`forEach_eq`). A body that also fills no slot makes that a part of what the
slots held at the start (`visitAt_eq`).
-/

namespace Lib

variable {σ ι ε : Type} (slot : σ → Nat → Option ι) (capacity : σ → Nat)
  (body : σ → ι → Except ε σ)

/-- The loop from index `i` on: what it visits, and how it ends. -/
def forEach : Nat → Nat → σ → Option (List ι × Except ε σ)
  | 0, _, _ => none
  | fuel + 1, i, s =>
      if i < capacity s then
        match slot s i with
        | none => forEach fuel (i + 1) s
        | some x =>
            match body s x with
            | .error e => some ([x], .error e)
            | .ok s' => (forEach fuel (i + 1) s').map fun r => (x :: r.1, r.2)
      else some ([], .ok s)

/-- The state in which a loop from `s` gets to an index. -/
def reached (s : σ) : Nat → Except ε σ
  | 0 => .ok s
  | i + 1 => do
      let t ← reached s i
      match slot t i with
      | none => .ok t
      | some x => body t x

/-- What the slot of an index holds when the loop gets there. -/
def visitAt (s : σ) (i : Nat) : Option ι :=
  match reached slot body s i with
  | .ok t => slot t i
  | .error _ => none

variable {slot capacity body}

theorem reached_succ {s t : σ} {i : Nat} (h : reached slot body s i = .ok t) :
    reached slot body s (i + 1) = match slot t i with
      | none => .ok t
      | some x => body t x := by
  rw [reached, h]
  rfl

/-- A fault in the body ends the loop. -/
theorem reached_error {s : σ} {e : ε} {i : Nat} (h : reached slot body s i = .error e)
    (n : Nat) : reached slot body s (i + n) = .error e := by
  induction n with
  | zero => exact h
  | succ n ih =>
      rw [← Nat.add_assoc, reached, ih]
      rfl

theorem visitAt_error {s : σ} {e : ε} {i : Nat} (h : reached slot body s i = .error e)
    (n : Nat) : visitAt slot body s (i + n) = none := by
  rw [visitAt, reached_error h]

/-- What an invariant of the body says of every state the loop gets to. -/
theorem reached_inv {P : σ → Prop} (hbody : ∀ {s s' x}, P s → body s x = .ok s' → P s')
    {s : σ} (hs : P s) : ∀ {i : Nat} {t : σ}, reached slot body s i = .ok t → P t := by
  intro i
  induction i with
  | zero =>
      intro t h
      cases h
      exact hs
  | succ i ih =>
      intro t h
      rw [reached, bind_eq_ok] at h
      obtain ⟨u, hu, h⟩ := h
      split at h
      · cases h
        exact ih hu
      · exact hbody (ih hu) h

/-! ## Termination -/

/-- From any index the loop visits what the slots hold when it gets to them,
and the distance to the bound is fuel enough. -/
theorem forEach_from (hcap : ∀ {s s' x}, body s x = .ok s' → capacity s' = capacity s)
    {s : σ} : ∀ {fuel i : Nat} {t : σ}, reached slot body s i = .ok t →
      i ≤ capacity s → capacity s - i < fuel →
      forEach slot capacity body fuel i t =
        some ((List.range' i (capacity s - i)).filterMap (visitAt slot body s),
          reached slot body s (capacity s)) := by
  intro fuel
  induction fuel with
  | zero => exact fun _ _ h => absurd h (Nat.not_lt_zero _)
  | succ fuel ih =>
      intro i t ht hi hfuel
      have hct : capacity t = capacity s :=
        reached_inv (P := fun u => capacity u = capacity s)
          (fun hu hb => (hcap hb).trans hu) rfl ht
      rw [forEach, hct]
      by_cases hlt : i < capacity s
      · have hlen : capacity s - i = capacity s - (i + 1) + 1 := by omega
        have hvisit : visitAt slot body s i = slot t i := by
          rw [visitAt, ht]
        have hnext := reached_succ ht
        rw [if_pos hlt, hlen, List.range'_succ, List.filterMap_cons, hvisit]
        cases hslot : slot t i with
        | none =>
            rw [hslot] at hnext
            exact ih hnext hlt (by omega)
        | some x =>
            rw [hslot] at hnext
            dsimp only at hnext ⊢
            cases hb : body t x with
            | error e =>
                have hend := hnext.trans hb
                have hskip : (List.range' (i + 1) (capacity s - (i + 1))).filterMap
                    (visitAt slot body s) = [] := by
                  refine List.filterMap_eq_nil_iff.mpr fun j hj => ?_
                  obtain ⟨n, rfl⟩ := Nat.exists_eq_add_of_le (List.mem_range'_1.mp hj).1
                  exact visitAt_error hend n
                obtain ⟨n, hn⟩ := Nat.exists_eq_add_of_le hlt
                rw [hskip, hn, reached_error hend n]
            | ok u =>
                dsimp only
                rw [ih (hnext.trans hb) hlt (by omega)]
                rfl
      · obtain rfl : i = capacity s := by omega
        rw [if_neg hlt, Nat.sub_self, ht]
        rfl

/-- A loop whose body leaves the bound alone terminates, and visits at each
index what its slot holds when the index is reached. -/
theorem forEach_eq (hcap : ∀ {s s' x}, body s x = .ok s' → capacity s' = capacity s)
    {s : σ} {fuel : Nat} (hfuel : capacity s < fuel) :
    forEach slot capacity body fuel 0 s =
      some ((List.range (capacity s)).filterMap (visitAt slot body s),
        reached slot body s (capacity s)) := by
  rw [forEach_from (s := s) hcap rfl (Nat.zero_le _) hfuel, Nat.sub_zero,
    List.range_eq_range']

/-! ## Bodies that only empty slots -/

/-- A body that fills no slot: what the loop visits at an index is what its
slot held at the start, if it still does. -/
theorem visitAt_eq
    (hclear : ∀ {s s' x}, body s x = .ok s' → ∀ {j y}, slot s' j = some y → slot s j = some y)
    {s : σ} (i : Nat) {x : ι} (h : visitAt slot body s i = some x) : slot s i = some x := by
  rw [visitAt] at h
  split at h
  · next t ht =>
      exact reached_inv (P := fun u => ∀ {j y}, slot u j = some y → slot s j = some y)
        (fun hu hb _ _ hj => hu (hclear hb hj)) (fun hj => hj) ht h
  · cases h

/-! ## The loop over a fixed list of indices -/

/-- A loop over the indices below a bound read once, at the start. -/
theorem slotLoop_reached {s t : σ} {i n : Nat} (h : reached slot body s i = .ok t) :
    slotLoop slot body (List.range' i n) t = reached slot body s (i + n) := by
  induction n generalizing i t with
  | zero => exact h.symm
  | succ n ih =>
      have hnext := reached_succ h
      rw [List.range'_succ, slotLoop, ← Nat.add_assoc, Nat.add_right_comm]
      cases hslot : slot t i with
      | none =>
          rw [hslot] at hnext
          exact ih hnext
      | some x =>
          rw [hslot] at hnext
          dsimp only at hnext ⊢
          cases hb : body t x with
          | error e =>
              rw [reached_error (hnext.trans hb)]
              rfl
          | ok u => exact ih (hnext.trans hb)

/-- Where the body leaves the bound alone, reading it once comes to the same. -/
theorem forEach_slotLoop (hcap : ∀ {s s' x}, body s x = .ok s' → capacity s' = capacity s)
    {s : σ} {fuel : Nat} (hfuel : capacity s < fuel) :
    (forEach slot capacity body fuel 0 s).map Prod.snd =
      some (slotLoop slot body (List.range (capacity s)) s) := by
  rw [forEach_eq hcap hfuel, List.range_eq_range', slotLoop_reached (s := s) rfl, Nat.zero_add]
  rfl

end Lib
