import Mathlib.Data.List.Basic

/-!
# Cutting a stream into frames

A framing says how long the header of a frame is, how the length of the frame
is read off its header, and how long a frame may be. `cut` takes a whole
stream and cuts it at once: the frames that are complete, and what is left
over, which either does not reach to the end of its frame or starts a frame
that has no good length.

A reader that gets the stream in pieces collects `Unfinished` data until it is
a `Whole` frame or is `Refused`. `cut_flatten` is what makes the two agree:
whole frames, followed by something that is neither, are cut exactly there.
-/

namespace Lib

/-- How frames are marked off in a stream. -/
structure Framing (α : Type) where
  header : Nat
  cap : Nat
  len : List α → Nat
  header_pos : 0 < header
  /-- The length is read off the header. -/
  len_take : ∀ l, len (l.take header) = len l

/-- The complete frames of a stream, and the rest. -/
structure Cut (α : Type) where
  frames : List (List α)
  rest : List α

namespace Framing

variable {α : Type} (F : Framing α)

/-- The length that the header gives is one a frame can have. -/
def Good (d : List α) : Prop := F.header ≤ F.len d ∧ F.len d ≤ F.cap

/-- Exactly one frame. -/
def Whole (d : List α) : Prop := F.Good d ∧ d.length = F.len d

/-- A header that gives no good length. -/
def Refused (d : List α) : Prop := F.header ≤ d.length ∧ ¬ F.Good d

/-- The beginning of a frame. -/
def Unfinished (d : List α) : Prop := d.length < F.header ∨ (F.Good d ∧ d.length < F.len d)

instance (d : List α) : Decidable (F.Good d) := inferInstanceAs (Decidable (_ ∧ _))

/-- Cut a stream at its length fields. -/
def cut (stream : List α) : Cut α :=
  if F.Good stream ∧ F.len stream ≤ stream.length then
    let c := cut (stream.drop (F.len stream))
    ⟨stream.take (F.len stream) :: c.frames, c.rest⟩
  else ⟨[], stream⟩
termination_by stream.length
decreasing_by
  next h =>
    have := F.header_pos
    have := h.1.1
    rw [List.length_drop]
    omega

variable {F} {d e : List α}

/-- The header decides, whatever comes after it. -/
theorem len_append (h : F.header ≤ d.length) : F.len (d ++ e) = F.len d := by
  rw [← F.len_take (d ++ e), List.take_append_of_le_length h, F.len_take]

theorem good_append (h : F.header ≤ d.length) : F.Good (d ++ e) ↔ F.Good d := by
  rw [Good, Good, len_append h]

theorem Whole.header (h : F.Whole d) : F.header ≤ d.length := by
  rw [h.2]
  exact h.1.1

theorem unfinished_nil : F.Unfinished [] := Or.inl F.header_pos

/-- What is not finished is no good length, or is too short for it. -/
theorem Unfinished.not_complete (h : F.Unfinished d) :
    ¬ (F.Good d ∧ F.len d ≤ d.length) := by
  rintro ⟨hgood, hlen⟩
  have := hgood.1
  rcases h with h | ⟨_, h⟩ <;> omega

theorem Unfinished.not_refused (h : F.Unfinished d) : ¬ F.Refused d := by
  rintro ⟨hlen, hbad⟩
  rcases h with h | ⟨hgood, _⟩
  · omega
  · exact hbad hgood

theorem cut_of_unfinished (h : F.Unfinished d) : F.cut d = ⟨[], d⟩ := by
  rw [cut, if_neg h.not_complete]

theorem cut_of_refused (h : F.Refused d) : F.cut d = ⟨[], d⟩ := by
  rw [cut, if_neg fun hc => h.2 hc.1]

theorem cut_append (h : F.Whole d) :
    F.cut (d ++ e) = ⟨d :: (F.cut e).frames, (F.cut e).rest⟩ := by
  have hlen : F.len (d ++ e) = d.length := (len_append h.header).trans h.2.symm
  have hgood : F.Good (d ++ e) := (good_append h.header).mpr h.1
  rw [cut, if_pos ⟨hgood, by rw [hlen, List.length_append]; omega⟩, hlen, List.drop_left,
    List.take_left]

/-- Whole frames and then something else are cut there. -/
theorem cut_flatten {frames : List (List α)} (h : ∀ f ∈ frames, F.Whole f)
    (hd : F.Unfinished d ∨ F.Refused d) : F.cut (frames.flatten ++ d) = ⟨frames, d⟩ := by
  induction frames with
  | nil => exact hd.elim cut_of_unfinished cut_of_refused
  | cons f frames ih =>
      rw [List.flatten_cons, List.append_assoc, cut_append (h f List.mem_cons_self),
        ih fun g hg => h g (List.mem_cons_of_mem _ hg)]

end Framing

end Lib
