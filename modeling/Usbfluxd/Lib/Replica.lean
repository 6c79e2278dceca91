import Mathlib.Data.Set.Insert
import Mathlib.Logic.Function.Basic
import Mathlib.Logic.Relation
import Usbfluxd.Lib.Exec

/-!
# Publishers and their subscribers

A publisher keeps a set of keys. Whoever subscribes is sent the whole set and
from then on every change of it, and keeps a set of its own by carrying the
changes out in the order they were sent. `Publisher.Steps.consistent` is the
one fact there is about it: whatever happens in whatever order, the set a
subscriber has put together is the publisher's.

An implementation need only show that each of its own steps is a step of the
publisher it stands for.
-/

namespace Lib

section Replay

variable {κ : Type}

/-- What a subscriber is told. -/
inductive KeyChange (κ : Type) where
  | put (k : κ)
  | del (k : κ)
deriving DecidableEq

/-- What a change does to a set. A key that is there may be put again, and
one that is not may be deleted. -/
def KeyChange.apply (ks : Set κ) : KeyChange κ → Set κ
  | .put k => insert k ks
  | .del k => ks \ {k}

/-- The set that comes of carrying out changes from the start. -/
def replay (changes : List (KeyChange κ)) : Set κ := changes.foldl KeyChange.apply ∅

variable {changes changes' : List (KeyChange κ)} {ks : List κ} {k j : κ}

@[simp] theorem replay_nil : replay ([] : List (KeyChange κ)) = ∅ := rfl

theorem replay_concat {c : KeyChange κ} : replay (changes ++ [c]) = c.apply (replay changes) := by
  rw [replay, List.foldl_append]
  rfl

theorem mem_apply_put {s : Set κ} : j ∈ (KeyChange.put k).apply s ↔ j = k ∨ j ∈ s := Iff.rfl

theorem mem_apply_del {s : Set κ} : j ∈ (KeyChange.del k).apply s ↔ j ≠ k ∧ j ∈ s :=
  and_comm

/-- Putting keys one after the other puts them all. -/
theorem mem_foldl_put {s : Set κ} : j ∈ (ks.map KeyChange.put).foldl KeyChange.apply s ↔
    j ∈ ks ∨ j ∈ s := by
  induction ks generalizing s with
  | nil => simp
  | cons k rest ih =>
      rw [List.map_cons, List.foldl_cons, ih, mem_apply_put, List.mem_cons, or_left_comm,
        or_assoc]

theorem mem_replay_put : j ∈ replay (ks.map KeyChange.put) ↔ j ∈ ks := by
  rw [replay, mem_foldl_put]
  simp

end Replay

/-- The keys there are, and what each subscriber has been sent since it
subscribed. -/
structure Publisher (σ κ : Type) where
  keys : Set κ
  sent : σ → Option (List (KeyChange κ))

namespace Publisher

variable {σ κ : Type}

/-- What can happen. -/
inductive Step (p : Publisher σ κ) : Publisher σ κ → Prop where
  /-- The keys change, and every subscriber is told. -/
  | change (c : KeyChange κ) :
      Step p { keys := c.apply p.keys, sent := fun i => (p.sent i).map (· ++ [c]) }
  /-- A subscriber is sent all the keys, in some order. -/
  | subscribe {i : σ} {sent : σ → Option (List (KeyChange κ))} {ks : List κ}
      (hks : ∀ k, k ∈ ks ↔ k ∈ p.keys) (hi : sent i = some (ks.map .put))
      (hrest : ∀ j, j ≠ i → sent j = p.sent j) : Step p { p with sent := sent }
  /-- Subscribers leave. -/
  | leave {sent : σ → Option (List (KeyChange κ))}
      (h : ∀ i changes, sent i = some changes → p.sent i = some changes) :
      Step p { p with sent := sent }

def Steps : Publisher σ κ → Publisher σ κ → Prop := Relation.ReflTransGen Step

/-- Every subscriber can put together the keys there are. -/
def Consistent (p : Publisher σ κ) : Prop :=
  ∀ i changes, p.sent i = some changes → replay changes = p.keys

variable {p p' : Publisher σ κ}

theorem Step.consistent (h : Step p p') (hp : p.Consistent) : p'.Consistent := by
  intro i changes hi
  cases h with
  | change c =>
      obtain ⟨before, hbefore, rfl⟩ := Option.map_eq_some_iff.mp hi
      rw [replay_concat, hp i before hbefore]
  | @subscribe j sent ks hks hj hrest =>
      by_cases hij : i = j
      · subst hij
        obtain rfl : ks.map .put = changes := Option.some.inj (hj.symm.trans hi)
        ext k
        rw [mem_replay_put]
        exact hks k
      · exact hp i changes ((hrest i hij).symm.trans hi)
  | leave hsub => exact hp i changes (hsub i changes hi)

theorem Steps.consistent (h : Steps p p') (hp : p.Consistent) : p'.Consistent :=
  invariant_of_step (R := Step) (P := Consistent) Step.consistent h hp

end Publisher

end Lib
