import Mathlib.Order.Defs.Unbundled
import Usbfluxd.Lib.Exec

/-!
# Programs that stay within a preorder

What a function leaves alone is a relation between the state it starts in and
the one it returns, and such a relation is a preorder: nothing done leaves
everything alone, and two functions in a row leave alone what each of them
does. `Within` says that a program respects one. A frame condition for a whole
call tree is then a frame condition for its leaves, put together by the rules
below, with no word about the state in between.

A result may carry more than a state. `get` says where the state is in it.
-/

namespace Lib

section Within

variable {ε σ α β : Type} {R : σ → σ → Prop} {get : α → σ} {get' : β → σ} {s t : σ}

/-- Whatever the program returns is related to the state it started in. -/
def Within (R : σ → σ → Prop) (get : α → σ) (s : σ) (m : Except ε α) : Prop :=
  ∀ a, m = .ok a → R s (get a)

theorem Within.mono {R' : σ → σ → Prop} {m : Except ε α} (h : Within R get s m)
    (hR : ∀ s t, R s t → R' s t) : Within R' get s m :=
  fun a ha => hR s (get a) (h a ha)

theorem Within.error {e : ε} : Within R get s (.error e : Except ε α) := by
  intro a ha
  cases ha

theorem Within.pure {a : α} (h : R s (get a)) : Within R get s (Pure.pure a : Except ε α) := by
  intro b hb
  cases hb
  exact h

/-- What is known of the results is enough. -/
theorem Within.of_post {F : ε → Prop} {Q : α → Prop} {m : Except ε α} (h : Post F Q m)
    (hQ : ∀ a, Q a → R s (get a)) : Within R get s m :=
  fun a ha => hQ a (h.of_ok ha)

/-- A computation that only reads. -/
theorem Within.read {m : Except ε β} {f : β → Except ε α}
    (hf : ∀ b, m = .ok b → Within R get s (f b)) : Within R get s (m >>= f) := by
  intro a ha
  obtain ⟨b, hb, ha⟩ := bind_eq_ok.mp ha
  exact hf b hb a ha

theorem Within.map {m : Except ε β} {f : β → α} (hm : Within R get' s m)
    (hf : ∀ b, get (f b) = get' b) : Within R get s (f <$> m) := by
  intro a ha
  cases m with
  | error e => cases ha
  | ok b =>
      cases ha
      rw [hf]
      exact hm b rfl

theorem Within.ite {p : Prop} [Decidable p] {m m' : Except ε α} (h : p → Within R get s m)
    (h' : ¬ p → Within R get s m') : Within R get s (if p then m else m') := by
  by_cases hp : p
  · rw [if_pos hp]
    exact h hp
  · rw [if_neg hp]
    exact h' hp

section Trans

variable [IsTrans σ R]

/-- A step within the relation before the program starts. -/
theorem Within.after {m : Except ε α} (hst : R s t) (h : Within R get t m) :
    Within R get s m :=
  fun a ha => IsTrans.trans _ _ _ hst (h a ha)

/-- The rule of sequence. -/
theorem Within.bind {m : Except ε β} {f : β → Except ε α} (hm : Within R get' s m)
    (hf : ∀ b, m = .ok b → Within R get (get' b) (f b)) : Within R get s (m >>= f) :=
  .read fun b hb => .after (hm b hb) (hf b hb)

/-- A loop over a table respects what its body respects. -/
theorem Within.slotLoop [Std.Refl R] {ι τ : Type} {core : τ → σ} {slot : τ → Nat → Option ι}
    {body : τ → ι → Except ε τ} (hbody : ∀ u i, Within R core (core u) (body u i)) {idx : List Nat}
    {u : τ} : Within R core (core u) (slotLoop slot body idx u) := by
  induction idx generalizing u with
  | nil => exact .pure (Std.Refl.refl _)
  | cons i rest ih =>
      rw [Lib.slotLoop]
      split
      · exact ih
      · exact .bind (hbody u _) fun v _ => ih

end Trans

end Within

end Lib
