import Mathlib.Algebra.Group.Nat.Defs
import Mathlib.Data.List.Basic
import Mathlib.Data.List.TakeWhile

/-!
# Texts of C

What the formatting functions of the C library do, on texts that are lists of
characters or of bytes: `snprintf` cuts a text to fit its buffer, and a number
is printed as its decimal digits. A digit takes one byte, and reading the
digits gives the number back.
-/

namespace Lib

/-- What `snprintf` leaves of a text in a buffer of a given size, before the
terminator. -/
def snprintf {α : Type} (size : Nat) (text : List α) : List α := text.take (size - 1)

theorem snprintf_eq_self_iff {α : Type} {size : Nat} {text : List α} :
    snprintf size text = text ↔ text.length ≤ size - 1 := by
  rw [snprintf]
  constructor
  · intro h
    have hlen := congrArg List.length h
    rw [List.length_take] at hlen
    omega
  · exact List.take_of_length_le

/-! ## Decimal numbers -/

theorem toString_injective {m n : Nat} (h : toString m = toString n) : m = n := by
  have hdigits : Nat.toDigits 10 m = Nat.toDigits 10 n := by
    simpa using congrArg String.toList h
  have hval := congrArg (fun cs => Nat.ofDigitChars 10 cs 0) hdigits
  simpa using hval

theorem utf8Size_of_isDigit {c : Char} (h : c.isDigit) : c.utf8Size = 1 := by
  rw [Char.isDigit_iff_toNat] at h
  refine Char.utf8Size_eq_one_iff.mpr (UInt32.le_iff_toNat_le.mpr ?_)
  exact Nat.le_trans h.2 (by decide)

theorem utf8ByteSize_ofList {cs : List Char} (h : ∀ c ∈ cs, c.utf8Size = 1) :
    (String.ofList cs).utf8ByteSize = cs.length := by
  induction cs with
  | nil => rfl
  | cons c rest ih =>
      have hcons : String.ofList (c :: rest) = String.singleton c ++ String.ofList rest := by
        rw [← String.toList_inj]
        simp
      rw [hcons, String.utf8ByteSize_append, String.utf8ByteSize_singleton,
        h c List.mem_cons_self, ih fun c' hc' => h c' (List.mem_cons_of_mem c hc'),
        List.length_cons, Nat.add_comm]

/-- The bytes of a printed number are its digits. -/
theorem utf8ByteSize_toString (n : Nat) :
    (toString n).utf8ByteSize = (Nat.toDigits 10 n).length := by
  rw [Nat.toString_eq_ofList_toDigits]
  refine utf8ByteSize_ofList fun c hc => utf8Size_of_isDigit ?_
  exact Nat.isDigit_of_mem_toDigits (by omega) (by omega) hc

/-- A 32-bit number has at most ten digits. -/
theorem length_toDigits_uint32 (n : UInt32) : (Nat.toDigits 10 n.toNat).length ≤ 10 := by
  have hlt := n.toNat_lt
  exact (Nat.length_toDigits_le_iff (by omega) (by omega)).mpr (by omega)

/-! ## Reading numbers -/

/-- `isspace`. -/
def isSpace (c : Char) : Bool := c = ' ' || (9 ≤ c.toNat && c.toNat ≤ 13)

/-- The number a text starts with, at most `ULONG_MAX`. -/
def digitsPrefix (text : List Char) : Nat :=
  min (2 ^ 64 - 1) (Nat.ofDigitChars 10 (text.takeWhile Char.isDigit) 0)

/-- `strtoul(text, NULL, 10)` with a 64-bit `unsigned long`. -/
def strtoul (text : List Char) : UInt64 :=
  match text.dropWhile isSpace with
  | [] => 0
  | c :: rest =>
      if c = '+' then UInt64.ofNat (digitsPrefix rest)
      else if c = '-' then
        if digitsPrefix rest < 2 ^ 64 - 1 then -UInt64.ofNat (digitsPrefix rest)
        else UInt64.ofNat (digitsPrefix rest)
      else UInt64.ofNat (digitsPrefix (c :: rest))

/-- A number without blanks or sign is read as what its digits say. -/
theorem strtoul_digits {ds : List Char} (hds : ∀ c ∈ ds, c.isDigit)
    (hlt : Nat.ofDigitChars 10 ds 0 < 2 ^ 64 - 1) :
    strtoul ds = UInt64.ofNat (Nat.ofDigitChars 10 ds 0) := by
  cases ds with
  | nil => rfl
  | cons c rest =>
      have hc : 48 ≤ c.toNat ∧ c.toNat ≤ 57 :=
        Char.isDigit_iff_toNat.mp (hds c List.mem_cons_self)
      have hne : ∀ d : Char, d.toNat < 48 → c ≠ d := by
        intro d hd heq
        rw [heq] at hc
        omega
      have hspace : isSpace c = false := by
        simp only [isSpace, Bool.or_eq_false_iff, decide_eq_false_iff_not, Bool.and_eq_false_iff]
        exact ⟨hne ' ' (by decide), Or.inr (by omega)⟩
      have hprefix : digitsPrefix (c :: rest) = Nat.ofDigitChars 10 (c :: rest) 0 := by
        rw [digitsPrefix, List.takeWhile_eq_self_iff.mpr hds]
        omega
      rw [strtoul, List.dropWhile_cons_of_neg (by simp [hspace])]
      dsimp only
      rw [if_neg (hne '+' (by decide)), if_neg (hne '-' (by decide)), hprefix]

/-! ## Texts that are cut short

A text that ends with a closing tag, and whose closing tag is nowhere else,
does not end with it when it is cut anywhere before its end. -/

section Cut

variable {α : Type} {tag x y : List α}

/-- However much there is before it, no beginning of a text ends with a tag. -/
def NeverEnds (tag x : List α) : Prop :=
  ∀ pre j, 0 < j → j ≤ x.length → ¬ tag <:+ pre ++ x.take j

theorem NeverEnds.append (hx : NeverEnds tag x) (hy : NeverEnds tag y) :
    NeverEnds tag (x ++ y) := by
  intro pre j hpos hj
  rw [List.length_append] at hj
  by_cases hle : j ≤ x.length
  · rw [List.take_append_of_le_length hle]
    exact hx pre j hpos hle
  · obtain ⟨i, rfl⟩ : ∃ i, j = x.length + i := ⟨j - x.length, by omega⟩
    rw [List.take_length_add_append, ← List.append_assoc]
    exact hy (pre ++ x) i (by omega) (by omega)

/-- A text without the last character of the tag. -/
theorem NeverEnds.of_not_mem {a : α} (h : a ∉ x) : NeverEnds (tag ++ [a]) x := by
  intro pre j hpos hj hsuffix
  obtain ⟨w, hw⟩ := hsuffix
  have hne : x.take j ≠ [] := by
    intro hnil
    have hlen := congrArg List.length hnil
    rw [List.length_take, List.length_nil] at hlen
    omega
  have hlast := congrArg List.getLast? hw
  rw [← List.append_assoc, List.getLast?_concat, List.getLast?_append_of_ne_nil _ hne] at hlast
  exact h (List.mem_of_mem_take (List.mem_of_getLast? hlast.symm))

/-- Two texts differ at some place from the end. -/
def clashes [DecidableEq α] (x y : List α) : Bool :=
  (x.reverse.zip y.reverse).any fun p => p.1 ≠ p.2

theorem not_suffix_of_clashes [DecidableEq α] {pre : List α} (h : clashes tag x = true) :
    ¬ tag <:+ pre ++ x := by
  intro hsuffix
  rw [clashes, List.any_eq_true] at h
  obtain ⟨p, hp, hne⟩ := h
  obtain ⟨i, hi, rfl⟩ := List.getElem_of_mem hp
  rw [List.length_zip, Nat.lt_min] at hi
  have hprefix : tag.reverse <+: x.reverse ++ pre.reverse := by
    rw [← List.reverse_append]
    exact List.reverse_prefix.mpr hsuffix
  have hget := hprefix.getElem hi.1
  rw [List.getElem_append_left hi.2] at hget
  rw [List.getElem_zip] at hne
  exact (of_decide_eq_true hne) hget

/-- A given text is checked at each of its places. -/
theorem NeverEnds.of_clashes [DecidableEq α]
    (h : ∀ j ∈ List.range' 1 x.length, clashes tag (x.take j) = true) : NeverEnds tag x := by
  intro pre j hpos hj
  exact not_suffix_of_clashes (h j (by rw [List.mem_range'_1]; omega))

/-- Whatever is cut off before the last character, the rest does not end with
the tag. -/
theorem NeverEnds.not_suffix_take {a : α} {n : Nat} (h : NeverEnds tag x) (hne : tag ≠ [])
    (hn : n < (x ++ [a]).length) : ¬ tag <:+ (x ++ [a]).take n := by
  rw [List.length_append, List.length_singleton] at hn
  rw [List.take_append_of_le_length (by omega)]
  by_cases hzero : n = 0
  · rw [hzero, List.take_zero, List.suffix_nil]
    exact hne
  · exact h [] n (by omega) (by omega)

end Cut

end Lib
