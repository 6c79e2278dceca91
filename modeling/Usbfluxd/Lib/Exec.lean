import Mathlib.Logic.Relation

/-!
# Programs that may fault, and what their runs preserve

A C function is modelled as a total Lean function into `Except`: the error
side is a fault, that is, undefined behaviour or a crash, and the `ok` side
carries the state the function leaves. What such a function guarantees is
said by `Post`, with one condition on the results and one on the faults, and
proved statement by statement with the rules below.

The second half is about transition systems. A run is the reflexive
transitive closure of a step relation, and an invariant is something the
initial states have and every step keeps. Its counterpart for a fold over a
list closes the file.
-/

namespace Lib

/-! ## Postconditions -/

section Except

variable {ε α β : Type} {F F' : ε → Prop} {P Q : α → Prop} {R : β → Prop}

/-- Every result satisfies `Q`, and every fault satisfies `F`. -/
def Post (F : ε → Prop) (Q : α → Prop) : Except ε α → Prop
  | .ok a => Q a
  | .error e => F e

theorem Post.intro {m : Except ε α} (hok : ∀ a, m = .ok a → Q a)
    (herr : ∀ e, m = .error e → F e) : Post F Q m := by
  cases m with
  | ok a => exact hok a rfl
  | error e => exact herr e rfl

theorem Post.of_ok {m : Except ε α} {a : α} (h : Post F Q m) (hm : m = .ok a) : Q a := by
  subst hm
  exact h

theorem Post.of_error {m : Except ε α} {e : ε} (h : Post F Q m) (hm : m = .error e) :
    F e := by
  subst hm
  exact h

theorem Post.pure {a : α} (h : Q a) : Post F Q (Pure.pure a : Except ε α) := h

theorem Post.imp {m : Except ε α} (h : Post F P m) (hF : ∀ e, F e → F' e)
    (hQ : ∀ a, P a → Q a) : Post F' Q m := by
  cases m with
  | ok a => exact hQ a h
  | error e => exact hF e h

/-- Two accounts of one program. -/
theorem Post.and {m : Except ε α} (h : Post F P m) (h' : Post F' Q m) :
    Post F (fun a => P a ∧ Q a) m := by
  cases m with
  | ok a => exact ⟨h, h'⟩
  | error e => exact h

/-- The rule of sequence. -/
theorem Post.bind {m : Except ε α} {f : α → Except ε β} (hm : Post F P m)
    (hf : ∀ a, P a → Post F R (f a)) : Post F R (m >>= f) := by
  cases m with
  | ok a => exact hf a hm
  | error e => exact hm

theorem Post.map {m : Except ε α} {f : α → β} (hm : Post F P m) (hf : ∀ a, P a → R (f a)) :
    Post F R (f <$> m) := by
  cases m with
  | ok a => exact hf a hm
  | error e => exact hm

theorem ok_bind {a : α} {f : α → Except ε β} : (Except.ok a >>= f) = f a := rfl

/-- A sequence that succeeded did so one statement at a time. -/
theorem bind_eq_ok {m : Except ε α} {f : α → Except ε β} {b : β} :
    (m >>= f) = .ok b ↔ ∃ a, m = .ok a ∧ f a = .ok b := by
  cases m with
  | error e =>
      constructor
      · intro h
        cases h
      · rintro ⟨_, h, _⟩
        cases h
  | ok a =>
      refine ⟨fun h => ⟨a, rfl, h⟩, ?_⟩
      rintro ⟨a', ha, h⟩
      cases ha
      exact h

/-- And one that failed did so at one of them. -/
theorem bind_eq_error {m : Except ε α} {f : α → Except ε β} {e : ε}
    (h : (m >>= f) = .error e) : m = .error e ∨ ∃ a, m = .ok a ∧ f a = .error e := by
  cases m with
  | error e' =>
      cases h
      exact Or.inl rfl
  | ok a => exact Or.inr ⟨a, rfl, h⟩

/-- The program returns, and its result passes a test. -/
def okAnd (p : α → Bool) : Except ε α → Bool
  | .ok a => p a
  | .error _ => false

theorem exists_of_okAnd {p : α → Bool} {m : Except ε α} (h : okAnd p m = true) :
    ∃ a, m = .ok a ∧ p a = true := by
  cases m with
  | ok a => exact ⟨a, rfl, h⟩
  | error e => cases h

/-- The program ends in this fault. -/
def failsWith [DecidableEq ε] (e : ε) : Except ε α → Bool
  | .ok _ => false
  | .error e' => e' = e

theorem eq_of_failsWith [DecidableEq ε] {e : ε} {m : Except ε α} (h : failsWith e m = true) :
    m = .error e := by
  cases m with
  | ok a => cases h
  | error e' => rw [of_decide_eq_true h]

end Except

/-! ## Two programs in step

`Both` relates two runs of a program from states that differ in something it
is not supposed to look at. -/

section Both

variable {ε α α' β β' : Type} {F : ε → Prop} {R R' : α → α' → Prop} {S : β → β' → Prop}

/-- Both return, with related results, or both fault, in the same way and for
a reason that satisfies `F`. -/
def Both (F : ε → Prop) (R : α → α' → Prop) : Except ε α → Except ε α' → Prop
  | .ok a, .ok a' => R a a'
  | .error e, .error e' => e = e' ∧ F e
  | _, _ => False

theorem Both.pure {a : α} {a' : α'} (h : R a a') :
    Both F R (Pure.pure a : Except ε α) (Pure.pure a' : Except ε α') := h

theorem Both.error {e : ε} (h : F e) :
    Both F R (.error e : Except ε α) (.error e : Except ε α') := ⟨rfl, h⟩

/-- A computation that depends on nothing that differs. -/
theorem Both.same {m : Except ε α} (h : ∀ e, m = .error e → F e) :
    Both F (fun a a' => a' = a) m m := by
  cases m with
  | ok a => rfl
  | error e => exact ⟨rfl, h e rfl⟩

theorem Both.imp {m : Except ε α} {m' : Except ε α'} (h : Both F R m m')
    (hR : ∀ {a a'}, R a a' → R' a a') : Both F R' m m' := by
  cases m <;> cases m' <;> first | exact hR h | exact h

/-- The rule of sequence. -/
theorem Both.bind {m : Except ε α} {m' : Except ε α'} {f : α → Except ε β}
    {f' : α' → Except ε β'} (hm : Both F R m m')
    (hf : ∀ {a a'}, R a a' → Both F S (f a) (f' a')) : Both F S (m >>= f) (m' >>= f') := by
  cases m <;> cases m' <;> first | exact hf hm | exact hm.elim | exact hm

theorem Both.map {m : Except ε α} {m' : Except ε α'} {f : α → β} {f' : α' → β'}
    (hm : Both F R m m') (hf : ∀ {a a'}, R a a' → S (f a) (f' a')) :
    Both F S (f <$> m) (f' <$> m') := by
  cases m <;> cases m' <;> first | exact hf hm | exact hm.elim | exact hm

theorem Both.ite {p : Prop} [Decidable p] {m n : Except ε α} {m' n' : Except ε α'}
    (h : p → Both F R m m') (h' : ¬ p → Both F R n n') :
    Both F R (if p then m else n) (if p then m' else n') := by
  by_cases hp : p
  · rw [if_pos hp, if_pos hp]
    exact h hp
  · rw [if_neg hp, if_neg hp]
    exact h' hp

theorem Both.of_ok {m : Except ε α} {m' : Except ε α'} {a : α} {a' : α'} (h : Both F R m m')
    (hm : m = .ok a) (hm' : m' = .ok a') : R a a' := by
  subst hm hm'
  exact h

theorem Both.of_error {m : Except ε α} {m' : Except ε α'} {e : ε} (h : Both F R m m')
    (hm : m = .error e) : F e := by
  subst hm
  cases m' with
  | ok a' => exact h.elim
  | error e' => exact h.2

/-- A program in step with itself. -/
theorem Both.post {m : Except ε α} {R : α → α → Prop} (h : Both F R m m) :
    Post F (fun a => R a a) m := by
  cases m with
  | ok a => exact h
  | error e => exact h.2

end Both

/-! ## Loops over an indexed table

`slotLoop` is the shape of a C loop that walks the slots of a table by
index, skips the empty ones and runs its body on the others. The slot is
read when the loop gets there, so a body that empties a later slot is
honoured. -/

section Loop

variable {σ ι ε : Type}

/-- Run `body` on the occupied slots among `idx`, each read in the state the
loop has reached. -/
def slotLoop (slot : σ → Nat → Option ι) (body : σ → ι → Except ε σ) :
    List Nat → σ → Except ε σ
  | [], s => .ok s
  | i :: rest, s =>
      match slot s i with
      | none => slotLoop slot body rest s
      | some x => do
          let s ← body s x
          slotLoop slot body rest s

/-- The loop rule: an invariant of the state and the indices left to visit. -/
theorem slotLoop_post {slot : σ → Nat → Option ι} {body : σ → ι → Except ε σ}
    {F : ε → Prop} {P : List Nat → σ → Prop}
    (hskip : ∀ {s i rest}, P (i :: rest) s → slot s i = none → P rest s)
    (hbody : ∀ {s i rest x}, P (i :: rest) s → slot s i = some x →
      Post F (P rest) (body s x)) :
    ∀ {idx : List Nat} {s : σ}, P idx s → Post F (P []) (slotLoop slot body idx s) := by
  intro idx
  induction idx with
  | nil =>
      intro s hs
      exact hs
  | cons i rest ih =>
      intro s hs
      rw [slotLoop]
      split
      · next hi => exact ih (hskip hs hi)
      · next x hx => exact (hbody hs hx).bind fun s' hs' => ih hs'

/-- The loop rule for two loops in step. -/
theorem slotLoop_both {σ' : Type} {slot : σ → Nat → Option ι} {slot' : σ' → Nat → Option ι}
    {body : σ → ι → Except ε σ} {body' : σ' → ι → Except ε σ'} {F : ε → Prop}
    {P : σ → σ' → Prop} (hslot : ∀ {s s' i}, P s s' → slot' s' i = slot s i)
    (hbody : ∀ {s s' i x}, P s s' → slot s i = some x → Both F P (body s x) (body' s' x)) :
    ∀ {idx : List Nat} {s : σ} {s' : σ'}, P s s' →
      Both F P (slotLoop slot body idx s) (slotLoop slot' body' idx s') := by
  intro idx
  induction idx with
  | nil =>
      intro s s' hs
      exact hs
  | cons i rest ih =>
      intro s s' hs
      rw [slotLoop, slotLoop, hslot hs]
      split
      · exact ih hs
      · next x hx => exact (hbody hs hx).bind fun hs' => ih hs'

end Loop

/-! ## Runs and invariants -/

section Runs

variable {σ : Type*} {R : σ → σ → Prop} {P : σ → Prop}

/-- The invariant rule: a property every step keeps is kept by every run. -/
theorem invariant_of_step (hstep : ∀ {s s'}, R s s' → P s → P s') {s s' : σ}
    (h : Relation.ReflTransGen R s s') (hs : P s) : P s' := by
  induction h with
  | refl => exact hs
  | tail _ hlast ih => exact hstep hlast ih

end Runs

/-! ## Folds -/

/-- What no element of the list changes is the same after the fold. -/
theorem foldl_keeps {α σ τ : Type*} {f : σ → α → σ} {p : σ → τ} {l : List α} {s : σ}
    (h : ∀ a ∈ l, ∀ s, p (f s a) = p s) : p (l.foldl f s) = p s := by
  induction l generalizing s with
  | nil => rfl
  | cons a l ih =>
      rw [List.foldl_cons, ih fun a ha => h a (List.mem_cons_of_mem _ ha)]
      exact h a List.mem_cons_self s

end Lib
