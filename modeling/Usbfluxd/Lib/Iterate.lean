import Mathlib.Data.List.Nodup
import Mathlib.Data.List.Lemmas

/-!
# Iterating over a dictionary that loses pairs on the way

An iterator over a dictionary that is a linked list of pairs is a pointer to
the next pair, and it moves on before the pair it yields is handed to the
body. A body that removes the pair it was given therefore leaves the iterator
where it is; one that removes the pair after it leaves the iterator dangling.

`iterate` runs such a loop on the live dictionary, with the pointer given as
the key it points at. `walk` runs the body over a list of pairs. They agree
(`iterate_eq_walk`) when a body removes at most its own pair.
-/

namespace Lib

/-- How a loop with an iterator stands. -/
inductive Iterated (ρ : Type) where
  /-- It has ended. -/
  | ended (result : ρ)
  /-- The next pair is gone. -/
  | dangling
  /-- It has not ended within the turns it was given. -/
  | running

section Iterate

variable {κ β σ ε : Type} [DecidableEq κ] (dict : σ → List (κ × β))
  (body : κ → β → σ → Except ε (Bool × σ))

/-- The key of the first pair. -/
def firstKey (l : List (κ × β)) : Option κ := l.head?.map Prod.fst

/-- The key of the pair after the one with a given key. -/
def nextKey (k : κ) (l : List (κ × β)) : Option κ :=
  firstKey (l.dropWhile fun p => p.1 ≠ k).tail

/-- The loop from the pair the iterator points at. The body says whether to go
on. -/
def iterate : Nat → Option κ → σ → Iterated (Except ε σ)
  | 0, _, _ => .running
  | _ + 1, none, s => .ended (.ok s)
  | fuel + 1, some k, s =>
      match (dict s).lookup k with
      | none => .dangling
      | some v =>
          match body k v s with
          | .error e => .ended (.error e)
          | .ok (true, s') => iterate fuel (nextKey k (dict s)) s'
          | .ok (false, s') => .ended (.ok s')

/-- The body over the pairs of a list. -/
def walk : List (κ × β) → σ → Except ε σ
  | [], s => .ok s
  | (k, v) :: rest, s =>
      match body k v s with
      | .error e => .error e
      | .ok (true, s') => walk rest s'
      | .ok (false, s') => .ok s'

end Iterate

section Agreement

variable {κ β σ ε : Type} [DecidableEq κ] {dict : σ → List (κ × β)}
  {body : κ → β → σ → Except ε (Bool × σ)} {pre rest : List (κ × β)} {k : κ} {v : β}

omit [DecidableEq κ] in
/-- A key that occurs once does not occur before its place or after it. -/
theorem not_mem_of_nodup_split (h : ((pre ++ (k, v) :: rest).map Prod.fst).Nodup) :
    k ∉ pre.map Prod.fst ∧ k ∉ rest.map Prod.fst := by
  rw [List.map_append, List.map_cons, List.nodup_append, List.nodup_cons] at h
  exact ⟨fun hk => h.2.2 k hk k List.mem_cons_self rfl, h.2.1.1⟩

theorem dropWhile_split (h : ((pre ++ (k, v) :: rest).map Prod.fst).Nodup) :
    (pre ++ (k, v) :: rest).dropWhile (fun p => p.1 ≠ k) = (k, v) :: rest := by
  have hpre : ∀ p ∈ pre, decide (p.1 ≠ k) = true := by
    intro p hp
    refine decide_eq_true fun heq => ?_
    exact (not_mem_of_nodup_split h).1 (heq ▸ List.mem_map_of_mem hp)
  rw [List.dropWhile_append_of_pos hpre, List.dropWhile_cons_of_neg (by simp)]

theorem nextKey_split (h : ((pre ++ (k, v) :: rest).map Prod.fst).Nodup) :
    nextKey k (pre ++ (k, v) :: rest) = firstKey rest := by
  rw [nextKey, dropWhile_split h, List.tail_cons]

theorem lookup_at_split (h : ((pre ++ (k, v) :: rest).map Prod.fst).Nodup) :
    (pre ++ (k, v) :: rest).lookup k = some v := by
  have hpre : pre.lookup k = none := by
    rw [List.lookup_eq_none_iff]
    intro p hp
    have hne : k ≠ p.1 := fun heq =>
      (not_mem_of_nodup_split h).1 (heq ▸ List.mem_map_of_mem hp)
    simpa using hne
  rw [List.lookup_append, hpre, List.lookup_cons_self]
  rfl

/-- Without its own pair the rest of the dictionary is what it was. -/
theorem filter_split (h : ((pre ++ (k, v) :: rest).map Prod.fst).Nodup) :
    (pre ++ (k, v) :: rest).filter (fun p => p.1 ≠ k) = pre ++ rest := by
  have hkeep : ∀ l : List (κ × β), k ∉ l.map Prod.fst → l.filter (fun p => p.1 ≠ k) = l := by
    intro l hl
    refine List.filter_eq_self.mpr fun p hp => decide_eq_true fun heq => ?_
    exact hl (heq ▸ List.mem_map_of_mem hp)
  rw [List.filter_append, List.filter_cons_of_neg (by simp),
    hkeep pre (not_mem_of_nodup_split h).1, hkeep rest (not_mem_of_nodup_split h).2]

/-- From any place in the dictionary on: the iterator points at the first of
the pairs that are left. -/
theorem iterate_from
    (hown : ∀ {k v s go s'}, body k v s = .ok (go, s') →
      dict s' = dict s ∨ dict s' = (dict s).filter fun p => p.1 ≠ k) :
    ∀ {fuel : Nat} {pre rest : List (κ × β)} {s : σ}, dict s = pre ++ rest →
      ((dict s).map Prod.fst).Nodup → rest.length < fuel →
      iterate dict body fuel (firstKey rest) s = .ended (walk body rest s) := by
  intro fuel
  induction fuel with
  | zero => exact fun _ _ h => absurd h (Nat.not_lt_zero _)
  | succ fuel ih =>
      intro pre rest s hdict hnodup hfuel
      cases rest with
      | nil => rfl
      | cons p rest =>
          obtain ⟨k, v⟩ := p
          rw [hdict] at hnodup
          have hlookup : (dict s).lookup k = some v := by rw [hdict, lookup_at_split hnodup]
          have hnext : nextKey k (dict s) = firstKey rest := by rw [hdict, nextKey_split hnodup]
          rw [firstKey, List.head?_cons, Option.map_some, iterate, hlookup, walk]
          dsimp only
          cases hb : body k v s with
          | error e => rfl
          | ok r =>
              obtain ⟨go, s'⟩ := r
              cases go with
              | false => rfl
              | true =>
                  -- what is behind the iterator may have lost a pair, what is ahead has not
                  obtain ⟨pre', hdict'⟩ : ∃ pre', dict s' = pre' ++ rest := by
                    rcases hown hb with heq | heq
                    · exact ⟨pre ++ [(k, v)], by rw [heq, hdict, List.append_cons]⟩
                    · exact ⟨pre, by rw [heq, hdict, filter_split hnodup]⟩
                  have hnodup' : ((dict s').map Prod.fst).Nodup := by
                    rcases hown hb with heq | heq
                    · rw [heq, hdict]
                      exact hnodup
                    · rw [heq, hdict]
                      exact hnodup.sublist ((List.filter_sublist).map Prod.fst)
                  dsimp only
                  rw [hnext]
                  exact ih hdict' hnodup' (Nat.lt_of_succ_lt_succ hfuel)

/-- A body that removes at most its own pair: the loop ends after as many
turns as there are pairs, and has run over those the dictionary had when it
began. -/
theorem iterate_eq_walk
    (hown : ∀ {k v s go s'}, body k v s = .ok (go, s') →
      dict s' = dict s ∨ dict s' = (dict s).filter fun p => p.1 ≠ k)
    {s : σ} (hnodup : ((dict s).map Prod.fst).Nodup) {fuel : Nat}
    (hfuel : (dict s).length < fuel) :
    iterate dict body fuel (firstKey (dict s)) s = .ended (walk body (dict s) s) :=
  iterate_from hown (List.nil_append _).symm hnodup hfuel

end Agreement

end Lib
