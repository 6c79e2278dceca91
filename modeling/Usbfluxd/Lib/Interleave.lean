import Mathlib.Logic.Function.Basic
import Mathlib.Logic.Relation
import Usbfluxd.Lib.Exec

/-!
# Processes that share a world

A script is a tree of system calls, and each outcome of a call leads to a
subtree. Any number of processes run scripts, one call at a time and in any
order; each may be started at any time and may be killed between any two of
its calls.

What a process does is judged by itself. `Safe` says that it meets a
precondition before each of its calls and keeps a guarantee with each of
them, as long as what happens in between are steps that the others guarantee.
It is defined by recursion over the script, and proved call by call from an
assertion that the others cannot invalidate (`Stable`, `Safe.call`). Then
every process of a whole system is safe at every moment of every run
(`Interleaving.reachable_safe`).
-/

namespace Lib

/-- A program that makes calls `κ` with outcomes `ρ` and returns an `α`. -/
inductive Script (κ : Type) (ρ : κ → Type) (α : Type) where
  | ret (a : α)
  | call (c : κ) (next : ρ c → Script κ ρ α)

namespace Script

variable {κ : Type} {ρ : κ → Type} {α β : Type}

def bind : Script κ ρ α → (α → Script κ ρ β) → Script κ ρ β
  | ret a, f => f a
  | call c next, f => call c fun r => (next r).bind f

instance : Monad (Script κ ρ) where
  pure := ret
  bind := bind

/-- One call whose outcome is the result. -/
def ask (c : κ) : Script κ ρ (ρ c) := call c ret

@[simp] theorem pure_bind (a : α) (f : α → Script κ ρ β) :
    ((pure a : Script κ ρ α) >>= f) = f a := rfl

@[simp] theorem ret_bind (a : α) (f : α → Script κ ρ β) : (ret a >>= f) = f a := rfl

@[simp] theorem ask_bind (c : κ) (f : ρ c → Script κ ρ β) : (ask c >>= f) = call c f := rfl

@[simp] theorem call_bind (c : κ) (next : ρ c → Script κ ρ α) (f : α → Script κ ρ β) :
    (call c next >>= f) = call c fun r => next r >>= f := rfl

end Script

/-! ## One process among others -/

section Safe

variable {τ κ ω : Type} {ρ : κ → Type} {α β : Type}

/-- How calls act on a shared world, and what is required and promised of
each process. -/
structure Contract (τ κ : Type) (ρ : κ → Type) (ω : Type) where
  /-- A call of a process may have this outcome and this effect. -/
  sem : τ → (c : κ) → ω → ρ c → ω → Prop
  /-- What holds whenever a process is about to make a call. -/
  pre : τ → κ → ω → Prop
  /-- How a process may change the world. -/
  guar : τ → ω → ω → Prop

variable (C : Contract τ κ ρ ω)

/-- The steps of the other processes, any number of them. -/
def Contract.Rely (t : τ) : ω → ω → Prop :=
  Relation.ReflTransGen fun w w' => ∃ u, u ≠ t ∧ C.guar u w w'

/-- Whatever others do between its calls, the process keeps its side, and
what it returns satisfies `Q`. -/
def Safe (t : τ) (Q : α → ω → Prop) : Script κ ρ α → ω → Prop
  | .ret a, w => ∀ w', C.Rely t w w' → Q a w'
  | .call c next, w => ∀ w', C.Rely t w w' → C.pre t c w' ∧
      ∀ r w'', C.sem t c w' r w'' → C.guar t w' w'' ∧ Safe t Q (next r) w''

/-- The other processes cannot invalidate an assertion. -/
def Stable (t : τ) (P : ω → Prop) : Prop :=
  ∀ u w w', u ≠ t → P w → C.guar u w w' → P w'

variable {C} {t : τ} {P : ω → Prop} {Q Q' : α → ω → Prop} {R : β → ω → Prop} {w w' : ω}

theorem Stable.rely (h : Stable C t P) (hP : P w) (hw : C.Rely t w w') : P w' := by
  refine invariant_of_step (R := fun w w' => ∃ u, u ≠ t ∧ C.guar u w w') ?_ hw hP
  intro v v' hv hP
  obtain ⟨u, hu, hg⟩ := hv
  exact h u v v' hu hP hg

theorem Stable.and {P' : ω → Prop} (h : Stable C t P) (h' : Stable C t P') :
    Stable C t fun w => P w ∧ P' w :=
  fun u w w' hu hP hg => ⟨h u w w' hu hP.1 hg, h' u w w' hu hP.2 hg⟩

theorem Stable.imp {p : Prop} (h : p → Stable C t P) : Stable C t fun w => p → P w :=
  fun u w w' hu hP hg hp => h hp u w w' hu (hP hp) hg

theorem Stable.ite {p : Prop} [Decidable p] {P' : ω → Prop} (h : Stable C t P)
    (h' : Stable C t P') : Stable C t fun w => if p then P w else P' w := by
  intro u w w' hu hP hg
  by_cases hp : p
  · rw [if_pos hp] at hP ⊢
    exact h u w w' hu hP hg
  · rw [if_neg hp] at hP ⊢
    exact h' u w w' hu hP hg

/-- Safety does not depend on what others do in between. -/
theorem Safe.rely {p : Script κ ρ α} (h : Safe C t Q p w) (hw : C.Rely t w w') :
    Safe C t Q p w' := by
  cases p with
  | ret a => exact fun v hv => h v (hw.trans hv)
  | call c next => exact fun v hv => h v (hw.trans hv)

theorem Safe.imp {p : Script κ ρ α} (h : Safe C t Q p w) (hQ : ∀ {a w}, Q a w → Q' a w) :
    Safe C t Q' p w := by
  induction p generalizing w with
  | ret a => exact fun v hv => hQ (h v hv)
  | call c next ih =>
      intro v hv
      obtain ⟨hpre, hnext⟩ := h v hv
      refine ⟨hpre, fun r v' hr => ?_⟩
      obtain ⟨hg, hs⟩ := hnext r v' hr
      exact ⟨hg, ih r hs⟩

/-- The rule for returning. -/
theorem Safe.ret {a : α} (hstable : Stable C t (Q a)) (hQ : Q a w) :
    Safe C t Q (.ret a) w :=
  fun _ hv => hstable.rely hQ hv

/-- The rule for a call, from an assertion that is stable. -/
theorem Safe.call {c : κ} {next : ρ c → Script κ ρ α} (hstable : Stable C t P) (hP : P w)
    (hpre : ∀ w, P w → C.pre t c w)
    (hnext : ∀ w r w', P w → C.sem t c w r w' → C.guar t w w' ∧ Safe C t Q (next r) w') :
    Safe C t Q (.call c next) w := by
  intro v hv
  have hPv := hstable.rely hP hv
  exact ⟨hpre v hPv, fun r v' hr => hnext v r v' hPv hr⟩

/-- The rule for one call, with what is known of its outcome. -/
theorem Safe.ask {c : κ} {R : ρ c → ω → Prop} (hstable : Stable C t P) (hP : P w)
    (hR : ∀ r, Stable C t (R r)) (hpre : ∀ w, P w → C.pre t c w)
    (hnext : ∀ w r w', P w → C.sem t c w r w' → C.guar t w w' ∧ R r w') :
    Safe C t R (.ask c) w := by
  refine .call hstable hP hpre fun v r v' hPv hr => ?_
  obtain ⟨hg, hRr⟩ := hnext v r v' hPv hr
  exact ⟨hg, .ret (hR r) hRr⟩

theorem Safe.ite {p : Prop} [Decidable p] {a b : Script κ ρ α} (ha : p → Safe C t Q a w)
    (hb : ¬ p → Safe C t Q b w) : Safe C t Q (if p then a else b) w := by
  by_cases hp : p
  · rw [if_pos hp]
    exact ha hp
  · rw [if_neg hp]
    exact hb hp

/-- The rule of sequence. -/
theorem Safe.bind {p : Script κ ρ β} {f : β → Script κ ρ α} (h : Safe C t R p w)
    (hf : ∀ {b w}, R b w → Safe C t Q (f b) w) : Safe C t Q (p >>= f) w := by
  induction p generalizing w with
  | ret b => exact hf (h w .refl)
  | call c next ih =>
      intro v hv
      obtain ⟨hpre, hnext⟩ := h v hv
      refine ⟨hpre, fun r v' hr => ?_⟩
      obtain ⟨hg, hs⟩ := hnext r v' hr
      exact ⟨hg, ih r hs⟩

end Safe

/-! ## Systems -/

/-- What each process has left to run, and the world. -/
structure Interleaving (τ κ : Type) (ρ : κ → Type) (α ω : Type) where
  procs : τ → Option (Script κ ρ α)
  world : ω

namespace Interleaving

variable {τ κ ω : Type} {ρ : κ → Type} {α : Type}

section

variable [DecidableEq τ] (sem : τ → (c : κ) → ω → ρ c → ω → Prop)
  (start : τ → Script κ ρ α → ω → ω → Prop)
  (stop : τ → ω → ω)

/-- A process starts, makes its next call, or stops: at its end, or killed
anywhere before. -/
inductive Step : Interleaving τ κ ρ α ω → Interleaving τ κ ρ α ω → Prop where
  | start {s : Interleaving τ κ ρ α ω} {t : τ} {p : Script κ ρ α} {w : ω}
      (hidle : s.procs t = none) (h : start t p s.world w) :
      Step s { procs := Function.update s.procs t (some p), world := w }
  | call {s : Interleaving τ κ ρ α ω} {t : τ} {c : κ} {next : ρ c → Script κ ρ α} {r : ρ c}
      {w : ω} (hp : s.procs t = some (.call c next)) (h : sem t c s.world r w) :
      Step s { procs := Function.update s.procs t (some (next r)), world := w }
  | stop {s : Interleaving τ κ ρ α ω} {t : τ} {p : Script κ ρ α} (hp : s.procs t = some p) :
      Step s { procs := Function.update s.procs t none, world := stop t s.world }

/-- A run from a world in which no process has started. -/
def Reachable (init : ω → Prop) (s : Interleaving τ κ ρ α ω) : Prop :=
  ∃ w, init w ∧ Relation.ReflTransGen (Step sem start stop) { procs := fun _ => none, world := w } s

end

variable {C : Contract τ κ ρ ω} {start : τ → Script κ ρ α → ω → ω → Prop} {stop : τ → ω → ω}
  {init : ω → Prop} {I : ω → Prop} {Q : α → ω → Prop}

/-- What holds at every moment of a run. -/
structure AllSafe (C : Contract τ κ ρ ω) (I : ω → Prop) (Q : α → ω → Prop)
    (s : Interleaving τ κ ρ α ω) : Prop where
  inv : I s.world
  safe : ∀ {t p}, s.procs t = some p → Safe C t Q p s.world

/-- A process is about to make a call, and so its precondition holds. -/
theorem AllSafe.pre {s : Interleaving τ κ ρ α ω} (h : AllSafe C I Q s) {t : τ} {c : κ}
    {next : ρ c → Script κ ρ α} (hp : s.procs t = some (.call c next)) : C.pre t c s.world :=
  (h.safe hp s.world .refl).1

variable [DecidableEq τ]

/-- A step of one process within its guarantee leaves the others safe. -/
theorem AllSafe.advance {s : Interleaving τ κ ρ α ω} (h : AllSafe C I Q s) {t : τ}
    {o : Option (Script κ ρ α)} {w : ω} (hinv : I w) (hg : C.guar t s.world w)
    (ho : ∀ p, o = some p → Safe C t Q p w) :
    AllSafe C I Q { procs := Function.update s.procs t o, world := w } where
  inv := hinv
  safe {u p} hp := by
    dsimp only at hp ⊢
    by_cases hu : u = t
    · subst hu
      rw [Function.update_self] at hp
      exact ho p hp
    · rw [Function.update_of_ne hu] at hp
      exact (h.safe hp).rely (.single ⟨t, fun heq => hu heq.symm, hg⟩)

/-- If every process is safe when it starts, all are at every moment. -/
theorem reachable_safe (hinit : ∀ w, init w → I w)
    (hguar : ∀ {t w w'}, I w → C.guar t w w' → I w')
    (hstart : ∀ {t p w w'}, I w → start t p w w' → C.guar t w w' ∧ Safe C t Q p w')
    (hstop : ∀ {t w}, I w → C.guar t w (stop t w)) {s : Interleaving τ κ ρ α ω}
    (h : Reachable C.sem start stop init s) : AllSafe C I Q s := by
  obtain ⟨w, hw, hrun⟩ := h
  refine invariant_of_step (P := AllSafe C I Q) ?_ hrun ⟨hinit w hw, by simp⟩
  intro s s' hstep hs
  cases hstep with
  | start hidle h =>
      obtain ⟨hg, hsafe⟩ := hstart hs.inv h
      refine hs.advance (hguar hs.inv hg) hg ?_
      rintro p ⟨⟩
      exact hsafe
  | call hp h =>
      obtain ⟨hg, hsafe⟩ := (hs.safe hp s.world .refl).2 _ _ h
      refine hs.advance (hguar hs.inv hg) hg ?_
      rintro p ⟨⟩
      exact hsafe
  | stop hp =>
      have hg := hstop (t := ‹τ›) hs.inv
      exact hs.advance (hguar hs.inv hg) hg (by simp)

end Interleaving

end Lib
