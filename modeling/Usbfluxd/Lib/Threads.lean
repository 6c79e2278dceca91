import Mathlib.Logic.Function.Basic

/-!
# Threads that share one mutex

A program is a tree of system calls, and each outcome of a call leads to a
subtree. Taking and giving back the mutex are steps of their own. Threads
run such programs in any order, and a thread that wants the mutex while
another one has it (or it itself) can take no step.

Two properties of a program are enough for what is needed here. `Releases`
says that every path through it that avoids some outcomes ends without the
mutex. `Leaks` says that on every other path it ends with it. Both are
carried from the programs to whole runs of any number of threads, where a
thread that ends while it holds the mutex keeps it for good.
-/

namespace Lib

/-- A program that makes calls `κ` with outcomes `ρ` and returns an `α`. -/
inductive Prog (κ : Type) (ρ : κ → Type) (α : Type) where
  | ret (a : α)
  | lock (next : Prog κ ρ α)
  | unlock (next : Prog κ ρ α)
  | call (c : κ) (next : ρ c → Prog κ ρ α)

namespace Prog

variable {κ : Type} {ρ : κ → Type} {α : Type}

/-- Every path with only `ok` outcomes takes and gives back the mutex in turn
and ends without it. -/
def Releases (ok : (c : κ) → ρ c → Prop) : Bool → Prog κ ρ α → Prop
  | held, ret _ => held = false
  | held, lock next => held = false ∧ Releases ok true next
  | held, unlock next => held = true ∧ Releases ok false next
  | held, call c next => ∀ r, ok c r → Releases ok held (next r)

/-- The next step of the program is not to give the mutex back: it ends, or
it takes the mutex. -/
def Keeps : Prog κ ρ α → Prop
  | ret _ | lock _ => True
  | _ => False

/-- An outcome that is not `ok` finds the mutex held and leaves it so, and
the mutex is given back only where it is held. -/
def Leaks (ok : (c : κ) → ρ c → Prop) : Bool → Prog κ ρ α → Prop
  | _, ret _ => True
  | _, lock next => Leaks ok true next
  | held, unlock next => held = true ∧ Leaks ok false next
  | held, call c next =>
      ∀ r, (¬ ok c r → held = true ∧ (next r).Keeps) ∧ Leaks ok held (next r)

end Prog

/-- What each thread still has to run, and which one has the mutex. A thread
that is outside has nothing to run. -/
structure Threads (τ κ : Type) (ρ : κ → Type) (α : Type) where
  prog : τ → Option (Prog κ ρ α)
  owner : Option τ

/-- What happens in one step. -/
inductive Label (τ κ : Type) (ρ : κ → Type) (α : Type) where
  | enter (t : τ) (p : Prog κ ρ α)
  | lock (t : τ)
  | unlock (t : τ)
  | call (t : τ) (c : κ) (r : ρ c)
  | leave (t : τ) (a : α)

namespace Threads

variable {τ κ : Type} {ρ : κ → Type} {α : Type} [DecidableEq τ]

/-- Thread `t` goes on with `p`. -/
def advance (s : Threads τ κ ρ α) (t : τ) (p : Option (Prog κ ρ α)) (owner : Option τ) :
    Threads τ κ ρ α :=
  { prog := Function.update s.prog t p, owner := owner }

@[simp] theorem advance_self {s : Threads τ κ ρ α} {t : τ} {p : Option (Prog κ ρ α)}
    {owner : Option τ} : (s.advance t p owner).prog t = p := Function.update_self _ _ _

theorem advance_other {s : Threads τ κ ρ α} {t u : τ} {p : Option (Prog κ ρ α)}
    {owner : Option τ} (h : u ≠ t) : (s.advance t p owner).prog u = s.prog u :=
  Function.update_of_ne h _ _

/-- One step of one thread. -/
inductive Step : Threads τ κ ρ α → Label τ κ ρ α → Threads τ κ ρ α → Prop
  | enter {s : Threads τ κ ρ α} {t : τ} {p : Prog κ ρ α} (h : s.prog t = none) :
      Step s (.enter t p) (s.advance t (some p) s.owner)
  | lock {s : Threads τ κ ρ α} {t : τ} {next : Prog κ ρ α} (h : s.prog t = some (.lock next))
      (hfree : s.owner = none) : Step s (.lock t) (s.advance t (some next) (some t))
  | unlock {s : Threads τ κ ρ α} {t : τ} {next : Prog κ ρ α}
      (h : s.prog t = some (.unlock next)) :
      Step s (.unlock t) (s.advance t (some next) none)
  | call {s : Threads τ κ ρ α} {t : τ} {c : κ} {next : ρ c → Prog κ ρ α}
      (h : s.prog t = some (.call c next)) (r : ρ c) :
      Step s (.call t c r) (s.advance t (some (next r)) s.owner)
  | leave {s : Threads τ κ ρ α} {t : τ} {a : α} (h : s.prog t = some (.ret a)) :
      Step s (.leave t a) (s.advance t none s.owner)

/-- A run, with its labels in order. -/
inductive Run : Threads τ κ ρ α → List (Label τ κ ρ α) → Threads τ κ ρ α → Prop
  | nil {s : Threads τ κ ρ α} : Run s [] s
  | cons {s s' t : Threads τ κ ρ α} {l : Label τ κ ρ α} {ls : List (Label τ κ ρ α)}
      (h : Step s l s') (rest : Run s' ls t) : Run s (l :: ls) t

/-- No thread is inside. -/
def Idle (s : Threads τ κ ρ α) : Prop := ∀ t, s.prog t = none

variable {s s' : Threads τ κ ρ α} {l : Label τ κ ρ α} {ls : List (Label τ κ ρ α)}

/-- What a step preserves, a run preserves. -/
theorem Run.induct {P : Threads τ κ ρ α → Prop} {A : Label τ κ ρ α → Prop} (h : Run s ls s')
    (hstep : ∀ {s s' l}, Step s l s' → A l → P s → P s') (hall : ∀ l ∈ ls, A l) (hs : P s) :
    P s' := by
  induction h with
  | nil => exact hs
  | cons h rest ih =>
      exact ih (fun l hl => hall l (List.mem_cons_of_mem _ hl))
        (hstep h (hall _ List.mem_cons_self) hs)

theorem Run.append_inv {ls ls' : List (Label τ κ ρ α)} (h : Run s (ls ++ ls') s') :
    ∃ u, Run s ls u ∧ Run u ls' s' := by
  induction ls generalizing s with
  | nil => exact ⟨s, .nil, h⟩
  | cons l ls ih =>
      obtain _ | ⟨h, rest⟩ := h
      obtain ⟨u, hu, hu'⟩ := ih rest
      exact ⟨u, .cons h hu, hu'⟩

/-! ## The mutex is given back -/

section Released

variable {ok : (c : κ) → ρ c → Prop}

/-- What a thread still has to run ends without the mutex; a thread that is
outside does not have it. -/
def OutReleases (ok : (c : κ) → ρ c → Prop) (held : Bool) : Option (Prog κ ρ α) → Prop
  | none => held = false
  | some p => p.Releases ok held

/-- Each thread gives the mutex back if it has it. -/
def Released (ok : (c : κ) → ρ c → Prop) (s : Threads τ κ ρ α) : Prop :=
  ∀ t, OutReleases ok (decide (s.owner = some t)) (s.prog t)

/-- Only programs that release are entered, and all outcomes are `ok`. -/
def ReleasesLabel (ok : (c : κ) → ρ c → Prop) : Label τ κ ρ α → Prop
  | .enter _ p => p.Releases ok false
  | .call _ c r => ok c r
  | _ => True

theorem Released.outside (h : Released ok s) {t : τ} (ht : s.prog t = none) :
    s.owner ≠ some t := by
  have := h t
  rw [ht] at this
  exact of_decide_eq_false this

theorem Released.inside (h : Released ok s) {t : τ} {p : Prog κ ρ α} (ht : s.prog t = some p) :
    p.Releases ok (decide (s.owner = some t)) := by
  have := h t
  rwa [ht] at this

/-- One thread moves: the others have the mutex or not as before. -/
theorem Released.advance {t : τ} {p : Option (Prog κ ρ α)} {owner : Option τ}
    (h : Released ok s) (hother : ∀ u, u ≠ t → (owner = some u ↔ s.owner = some u))
    (hself : OutReleases ok (decide (owner = some t)) p) :
    Released ok (s.advance t p owner) := by
  intro u
  by_cases hu : u = t
  · subst hu
    rw [advance_self]
    exact hself
  · have hown : decide ((s.advance t p owner).owner = some u) = decide (s.owner = some u) :=
      decide_eq_decide.mpr (hother u hu)
    rw [advance_other hu, hown]
    exact h u

theorem Step.released (h : Step s l s') (hl : ReleasesLabel ok l) (hs : Released ok s) :
    Released ok s' := by
  cases h with
  | enter hp =>
      refine hs.advance (fun _ _ => Iff.rfl) ?_
      rw [decide_eq_false (hs.outside hp)]
      exact hl
  | @lock t next hp hfree =>
      refine hs.advance (fun u hu => ?_) ?_
      · rw [hfree]
        simp [Ne.symm hu]
      · rw [decide_eq_true rfl]
        exact (hs.inside hp).2
  | @unlock t next hp =>
      obtain ⟨howner, hrel⟩ := hs.inside hp
      refine hs.advance (fun u hu => ?_) ?_
      · rw [of_decide_eq_true howner]
        simp [Ne.symm hu]
      · exact hrel
  | call hp r => exact hs.advance (fun _ _ => Iff.rfl) (hs.inside hp r hl)
  | leave hp => exact hs.advance (fun _ _ => Iff.rfl) (hs.inside hp)

/-- Between the runs of the programs the mutex is free. -/
theorem Released.owner_eq_none (h : Released ok s) (hidle : s.Idle) : s.owner = none := by
  cases ho : s.owner with
  | none => rfl
  | some t => exact absurd ho (h.outside (hidle t))

end Released

/-! ## The mutex is kept -/

section Kept

variable {ok : (c : κ) → ρ c → Prop}

/-- What each thread still has to run keeps the mutex where an outcome is not
`ok`. -/
def Leaking (ok : (c : κ) → ρ c → Prop) (s : Threads τ κ ρ α) : Prop :=
  ∀ t p, s.prog t = some p → p.Leaks ok (decide (s.owner = some t))

/-- Only such programs are entered, and they do not begin by giving the mutex
back. -/
def LeaksLabel (ok : (c : κ) → ρ c → Prop) : Label τ κ ρ α → Prop
  | .enter _ p => p.Keeps ∧ ∀ held, p.Leaks ok held
  | _ => True

/-- An outcome that is not `ok`. -/
def FailsLabel (ok : (c : κ) → ρ c → Prop) : Label τ κ ρ α → Prop
  | .call _ c r => ¬ ok c r
  | _ => False

theorem Leaking.advance {t : τ} {p : Option (Prog κ ρ α)} {owner : Option τ}
    (h : Leaking ok s) (hother : ∀ u, u ≠ t → (owner = some u ↔ s.owner = some u))
    (hself : ∀ q, p = some q → q.Leaks ok (decide (owner = some t))) :
    Leaking ok (s.advance t p owner) := by
  intro u q hq
  by_cases hu : u = t
  · subst hu
    exact hself q (advance_self.symm.trans hq)
  · rw [advance_other hu] at hq
    have hown : decide ((s.advance t p owner).owner = some u) = decide (s.owner = some u) :=
      decide_eq_decide.mpr (hother u hu)
    rw [hown]
    exact h u q hq

theorem Step.leaking (h : Step s l s') (hl : LeaksLabel ok l) (hs : Leaking ok s) :
    Leaking ok s' := by
  cases h with
  | enter hp =>
      refine hs.advance (fun _ _ => Iff.rfl) ?_
      rintro _ ⟨⟩
      exact hl.2 _
  | @lock t next hp hfree =>
      refine hs.advance (fun u hu => ?_) ?_
      · rw [hfree]
        simp [Ne.symm hu]
      · rintro _ ⟨⟩
        rw [decide_eq_true rfl]
        exact hs t _ hp
  | @unlock t next hp =>
      obtain ⟨howner, hrest⟩ := hs t _ hp
      refine hs.advance (fun u hu => ?_) ?_
      · rw [of_decide_eq_true howner]
        simp [Ne.symm hu]
      · rintro _ ⟨⟩
        exact hrest
  | @call t c next hp r =>
      refine hs.advance (fun _ _ => Iff.rfl) ?_
      rintro _ ⟨⟩
      exact (hs t _ hp r).2
  | leave hp =>
      refine hs.advance (fun _ _ => Iff.rfl) ?_
      rintro _ ⟨⟩

/-- Thread `t` has the mutex and nothing left to run that gives it back. -/
def Stuck (t : τ) (s : Threads τ κ ρ α) : Prop :=
  s.owner = some t ∧ ∀ p, s.prog t = some p → p.Keeps

/-- After an outcome that is not `ok` the mutex stays with the thread. -/
theorem Step.stuck_of_fails (h : Step s l s') (hl : FailsLabel ok l) (hs : Leaking ok s) :
    ∃ t, Stuck t s' := by
  cases h with
  | @call t c next hp r =>
      obtain ⟨howner, hkeeps⟩ := (hs t _ hp r).1 hl
      refine ⟨t, of_decide_eq_true howner, fun p hp' => ?_⟩
      obtain rfl : next r = p := Option.some_inj.mp (advance_self.symm.trans hp')
      exact hkeeps
  | enter | lock | unlock | leave => exact hl.elim

/-- A thread that keeps the mutex once keeps it for good, since it would have
to take it again before it gives it back. -/
theorem Step.stuck {t : τ} (h : Step s l s') (hl : LeaksLabel ok l) (hleak : Leaking ok s)
    (hs : Stuck t s) : Stuck t s' := by
  obtain ⟨howner, hkeeps⟩ := hs
  have hother : ∀ {u : τ} {p : Option (Prog κ ρ α)}, (∀ q, u = t → p = some q → q.Keeps) →
      Stuck t (s.advance u p s.owner) := by
    intro u p hp
    refine ⟨howner, fun q hq => ?_⟩
    by_cases hu : u = t
    · subst hu
      exact hp q rfl (advance_self.symm.trans hq)
    · rw [advance_other (Ne.symm hu)] at hq
      exact hkeeps q hq
  cases h with
  | enter hp =>
      refine hother ?_
      rintro _ _ ⟨⟩
      exact hl.1
  | lock hp hfree =>
      rw [hfree] at howner
      cases howner
  | @unlock u next hp =>
      have hu : s.owner = some u := of_decide_eq_true (hleak u _ hp).1
      obtain rfl : u = t := Option.some_inj.mp (hu.symm.trans howner)
      exact (hkeeps _ hp).elim
  | @call u c next hp r =>
      refine hother ?_
      rintro _ rfl _
      exact (hkeeps _ hp).elim
  | leave hp =>
      refine hother ?_
      rintro _ _ ⟨⟩

/-- In a run with an outcome that is not `ok` the mutex is held from then
on. -/
theorem Run.owner_ne_none (h : Run s ls s') (hs : Leaking ok s)
    (hall : ∀ l ∈ ls, LeaksLabel ok l) (hl : l ∈ ls) (hfails : FailsLabel ok l) :
    s'.owner ≠ none := by
  obtain ⟨before, after, rfl⟩ := List.append_of_mem hl
  obtain ⟨u, hbefore, hafter⟩ := h.append_inv
  have hu : Leaking ok u := hbefore.induct Step.leaking
    (fun l hl => hall l (List.mem_append_left _ hl)) hs
  obtain _ | ⟨hstep, hafter⟩ := hafter
  obtain ⟨t, ht⟩ := hstep.stuck_of_fails hfails hu
  have hend : Leaking ok s' ∧ Stuck t s' := by
    refine hafter.induct (P := fun v => Leaking ok v ∧ Stuck t v) (fun hst hl hP => ?_)
      (fun l hl => hall l (List.mem_append_right _ (List.mem_cons_of_mem _ hl))) ?_
    · exact ⟨hst.leaking hl hP.1, hst.stuck hl hP.1 hP.2⟩
    · exact ⟨hstep.leaking (hall _ hl) hu, ht⟩
  rw [hend.2.1]
  exact Option.some_ne_none t

end Kept

end Threads

end Lib
