import Mathlib.Algebra.Group.Nat.Defs
import Mathlib.Data.List.Basic

/-!
# Byte buffers with a fill level

A heap buffer with a fill level and a capacity, the way C code keeps a
`buf`, `size`, `capacity` triple. The bytes below the fill level are `data`;
the bytes an earlier use left behind above it are `stale`, because C code
that reads past the fill level sees exactly those. What lies beyond both was
never written, and reading it is reading uninitialised memory.

The two bounds every size computation relies on are fields, so a buffer
filled past its capacity cannot be built: a write that does not fit has to
be refused by whoever builds the new value.
-/

namespace Lib

structure Buf where
  /-- The pointer was freed and set to `NULL`; size and capacity keep their
  last values. -/
  isNull : Bool := false
  data : List UInt8
  stale : List UInt8
  capacity : Nat
  size_le : data.length ≤ capacity
  capacity_lt : capacity < 2 ^ 32

namespace Buf

/-- The fill level. -/
def size (b : Buf) : Nat := b.data.length

/-- A fresh allocation: nothing written yet. -/
def malloc (n : Nat) (h : n < 2 ^ 32) : Buf :=
  { data := [], stale := [], capacity := n, size_le := Nat.zero_le n,
    capacity_lt := h }

/-- Copy `bs` to the fill level and raise the level past it. -/
def append (b : Buf) (bs : List UInt8) (h : b.size + bs.length ≤ b.capacity) : Buf :=
  { b with
    data := b.data ++ bs
    stale := b.stale.drop bs.length
    size_le := by rw [List.length_append]; exact h }

/-- Drop the first `n` bytes and move the rest to the front. -/
def consume (b : Buf) (n : Nat) : Buf :=
  { b with
    data := b.data.drop n
    stale := b.data.drop (b.data.length - n) ++ b.stale
    size_le := by
      rw [List.length_drop]
      exact Nat.le_trans (Nat.sub_le _ _) b.size_le }

/-- Set the fill level to zero; the bytes stay where they are. -/
def reset (b : Buf) : Buf :=
  { b with
    data := []
    stale := b.data ++ b.stale
    size_le := Nat.zero_le _ }

/-- `realloc` to `n` bytes, which also allocates when the pointer is `NULL`. -/
def resize (b : Buf) (n : Nat) (hn : b.size ≤ n) (hlt : n < 2 ^ 32) : Buf :=
  { b with
    isNull := false
    capacity := n
    stale := b.stale.take (n - b.size)
    size_le := hn
    capacity_lt := hlt }

/-- `free` followed by setting the pointer to `NULL`. -/
def free (b : Buf) : Buf := { b with isNull := true }

/-- The byte at an offset, stale ones included; `uninit` stands for memory
that was never written. -/
def byteAt (uninit : Nat → UInt8) (b : Buf) (i : Nat) : UInt8 :=
  (b.data ++ b.stale).getD i (uninit i)

/-- The `n` bytes from offset `off` on. -/
def slice (uninit : Nat → UInt8) (b : Buf) (off n : Nat) : List UInt8 :=
  (List.range n).map fun i => b.byteAt uninit (off + i)

/-- Overwrite the bytes from offset `off` on with `bs`, leaving the fill
level where it is. -/
def patch (uninit : Nat → UInt8) (b : Buf) (off : Nat) (bs : List UInt8) : Buf :=
  let mem := (List.range (max (b.data ++ b.stale).length (off + bs.length))).map fun i =>
    if off ≤ i then bs.getD (i - off) (b.byteAt uninit i) else b.byteAt uninit i
  { b with
    data := mem.take b.size
    stale := mem.drop b.size
    size_le := by
      rw [List.length_take]
      exact Nat.le_trans (Nat.min_le_left _ _) b.size_le }

variable {b : Buf} {bs : List UInt8} {n : Nat}

@[simp] theorem data_malloc {h : n < 2 ^ 32} : (malloc n h).data = [] := rfl

@[simp] theorem data_append {h : b.size + bs.length ≤ b.capacity} :
    (b.append bs h).data = b.data ++ bs := rfl

@[simp] theorem data_consume : (b.consume n).data = b.data.drop n := rfl

@[simp] theorem data_reset : b.reset.data = [] := rfl

@[simp] theorem data_resize {hn : b.size ≤ n} {hlt : n < 2 ^ 32} :
    (b.resize n hn hlt).data = b.data := rfl

@[simp] theorem data_free : b.free.data = b.data := rfl

theorem byteAt_patch {u : Nat → UInt8} {off i : Nat} :
    (b.patch u off bs).byteAt u i =
      if off ≤ i then bs.getD (i - off) (b.byteAt u i) else b.byteAt u i := by
  rw [byteAt, patch]
  dsimp only
  rw [List.take_append_drop]
  by_cases hi : i < max (b.data ++ b.stale).length (off + bs.length)
  · rw [List.getD_eq_getElem?_getD, List.getElem?_map, List.getElem?_range hi]
    rfl
  · have hout : (b.data ++ b.stale).length ≤ i := by omega
    have hbs : bs.length ≤ i - off := by omega
    have hself : b.byteAt u i = u i := by
      rw [byteAt, List.getD_eq_getElem?_getD, List.getElem?_eq_none hout]
      rfl
    rw [List.getD_eq_getElem?_getD, List.getElem?_eq_none (by simpa using hi),
      List.getD_eq_getElem?_getD, List.getElem?_eq_none hbs, hself]
    simp

theorem size_patch {u : Nat → UInt8} {off : Nat} : (b.patch u off bs).size = b.size := by
  rw [size, patch]
  simp only [List.length_take, List.length_map, List.length_range, List.length_append, size]
  omega

theorem slice_add {u : Nat → UInt8} {off m : Nat} :
    b.slice u off (m + n) = b.slice u off m ++ b.slice u (off + m) n := by
  rw [slice, List.range_add, List.map_append, List.map_map]
  refine congrArg _ (List.map_congr_left fun i _ => ?_)
  rw [Function.comp_apply, Nat.add_assoc]

theorem slice_congr {u : Nat → UInt8} {b' : Buf} {off : Nat}
    (h : ∀ i, off ≤ i → i < off + n → b'.byteAt u i = b.byteAt u i) :
    b'.slice u off n = b.slice u off n := by
  refine List.map_congr_left fun i hi => h _ (Nat.le_add_right _ _) ?_
  have := List.mem_range.mp hi
  omega

end Buf

/-! ## Little-endian words -/

/-- The four bytes of a 32-bit word, least significant first. -/
def le32 (n : UInt32) : List UInt8 :=
  [n.toUInt8, (n >>> 8).toUInt8, (n >>> 16).toUInt8, (n >>> 24).toUInt8]

/-- The two bytes of a 16-bit word, least significant first. -/
def le16 (n : UInt16) : List UInt8 := [n.toUInt8, (n >>> 8).toUInt8]

/-- The 16-bit word at an offset. -/
def le16At (mem : Nat → UInt8) (off : Nat) : UInt16 :=
  (mem off).toUInt16 ||| ((mem (off + 1)).toUInt16 <<< 8)

/-- The 32-bit word at an offset. -/
def le32At (mem : Nat → UInt8) (off : Nat) : UInt32 :=
  (mem off).toUInt32 ||| ((mem (off + 1)).toUInt32 <<< 8) |||
    ((mem (off + 2)).toUInt32 <<< 16) ||| ((mem (off + 3)).toUInt32 <<< 24)

/-- The 64-bit word at an offset. -/
def le64At (mem : Nat → UInt8) (off : Nat) : UInt64 :=
  (le32At mem off).toUInt64 ||| ((le32At mem (off + 4)).toUInt64 <<< 32)

theorem length_le32 {n : UInt32} : (le32 n).length = 4 := rfl

theorem toNat_le16At {mem : Nat → UInt8} {off : Nat} :
    (le16At mem off).toNat = (mem off).toNat + 2 ^ 8 * (mem (off + 1)).toNat := by
  have h0 := (mem off).toNat_lt
  have h1 := (mem (off + 1)).toNat_lt
  rw [le16At, UInt16.toNat_or, UInt16.toNat_shiftLeft, UInt8.toNat_toUInt16,
    UInt8.toNat_toUInt16, Nat.or_comm, Nat.shiftLeft_eq]
  have hm : (mem (off + 1)).toNat * 2 ^ (UInt16.toNat 8 % 16) % 2 ^ 16 =
      2 ^ 8 * (mem (off + 1)).toNat := by
    rw [show UInt16.toNat 8 % 16 = 8 from rfl, Nat.mod_eq_of_lt (by omega), Nat.mul_comm]
  rw [hm, ← Nat.two_pow_add_eq_or_of_lt h0, Nat.add_comm]

theorem toNat_le32At {mem : Nat → UInt8} {off : Nat} :
    (le32At mem off).toNat = (mem off).toNat + 2 ^ 8 * (mem (off + 1)).toNat +
      2 ^ 16 * (mem (off + 2)).toNat + 2 ^ 24 * (mem (off + 3)).toNat := by
  have h0 := (mem off).toNat_lt
  have h1 := (mem (off + 1)).toNat_lt
  have h2 := (mem (off + 2)).toNat_lt
  have h3 := (mem (off + 3)).toNat_lt
  have hshift : ∀ (x : UInt8) (k : UInt32), k.toNat ≤ 24 →
      (x.toUInt32 <<< k).toNat = 2 ^ k.toNat * x.toNat := by
    intro x k hk
    have hx := x.toNat_lt
    have hpow : 2 ^ k.toNat ≤ 2 ^ 24 := Nat.pow_le_pow_right (by decide) hk
    have hmul : x.toNat * 2 ^ k.toNat ≤ 255 * 2 ^ 24 := Nat.mul_le_mul (by omega) hpow
    rw [UInt32.toNat_shiftLeft, UInt8.toNat_toUInt32, Nat.shiftLeft_eq,
      Nat.mod_eq_of_lt (show k.toNat < 32 by omega), Nat.mod_eq_of_lt (by omega), Nat.mul_comm]
  rw [le32At, UInt32.toNat_or, UInt32.toNat_or, UInt32.toNat_or, hshift _ 8 (by decide),
    hshift _ 16 (by decide), hshift _ 24 (by decide), UInt8.toNat_toUInt32,
    show UInt32.toNat 8 = 8 from rfl, show UInt32.toNat 16 = 16 from rfl,
    show UInt32.toNat 24 = 24 from rfl]
  -- the parts do not overlap, so joining them is adding them
  rw [Nat.or_comm _ (2 ^ 8 * _), ← Nat.two_pow_add_eq_or_of_lt h0, Nat.or_comm _ (2 ^ 16 * _),
    ← Nat.two_pow_add_eq_or_of_lt (show _ < 2 ^ 16 by omega), Nat.or_comm _ (2 ^ 24 * _),
    ← Nat.two_pow_add_eq_or_of_lt (show _ < 2 ^ 24 by omega)]
  omega

theorem toNat_le64At {mem : Nat → UInt8} {off : Nat} :
    (le64At mem off).toNat = (le32At mem off).toNat + 2 ^ 32 * (le32At mem (off + 4)).toNat := by
  have h0 := (le32At mem off).toNat_lt
  have h1 := (le32At mem (off + 4)).toNat_lt
  rw [le64At, UInt64.toNat_or, UInt64.toNat_shiftLeft, UInt32.toNat_toUInt64,
    UInt32.toNat_toUInt64, Nat.or_comm, Nat.shiftLeft_eq]
  have hm : (le32At mem (off + 4)).toNat * 2 ^ (UInt64.toNat 32 % 64) % 2 ^ 64 =
      2 ^ 32 * (le32At mem (off + 4)).toNat := by
    rw [show UInt64.toNat 32 % 64 = 32 from rfl, Nat.mod_eq_of_lt (by omega), Nat.mul_comm]
  rw [hm, ← Nat.two_pow_add_eq_or_of_lt h0, Nat.add_comm]

/-- A word whose last byte differs. -/
theorem le32At_ne_of_last {mem mem' : Nat → UInt8} {off : Nat}
    (h : ∀ i, off ≤ i → i < off + 3 → mem' i = mem i) (h' : mem' (off + 3) ≠ mem (off + 3)) :
    le32At mem' off ≠ le32At mem off := by
  intro heq
  have hnat := congrArg UInt32.toNat heq
  rw [toNat_le32At, toNat_le32At, h off (by omega) (by omega), h (off + 1) (by omega) (by omega),
    h (off + 2) (by omega) (by omega)] at hnat
  exact h' (UInt8.toNat_inj.mp (by omega))

theorem le32At_congr {mem mem' : Nat → UInt8} {off : Nat}
    (h : ∀ i, off ≤ i → i < off + 4 → mem' i = mem i) : le32At mem' off = le32At mem off := by
  rw [le32At, le32At, h off (by omega) (by omega), h (off + 1) (by omega) (by omega),
    h (off + 2) (by omega) (by omega), h (off + 3) (by omega) (by omega)]

theorem le16At_congr {mem mem' : Nat → UInt8} {off : Nat}
    (h : ∀ i, off ≤ i → i < off + 2 → mem' i = mem i) : le16At mem' off = le16At mem off := by
  rw [le16At, le16At, h off (by omega) (by omega), h (off + 1) (by omega) (by omega)]

theorem le64At_congr {mem mem' : Nat → UInt8} {off : Nat}
    (h : ∀ i, off ≤ i → i < off + 8 → mem' i = mem i) : le64At mem' off = le64At mem off := by
  rw [le64At, le64At, le32At_congr fun i h₁ h₂ => h i h₁ (by omega),
    le32At_congr fun i h₁ h₂ => h i (by omega) (by omega)]

/-- A word at another place of another memory. -/
theorem le16At_shift {mem mem' : Nat → UInt8} {off off' : Nat}
    (h : ∀ i < 2, mem' (off' + i) = mem (off + i)) : le16At mem' off' = le16At mem off := by
  have h0 : mem' off' = mem off := h 0 (by decide)
  rw [le16At, le16At, h0, h 1 (by decide)]

theorem le32At_shift {mem mem' : Nat → UInt8} {off off' : Nat}
    (h : ∀ i < 4, mem' (off' + i) = mem (off + i)) : le32At mem' off' = le32At mem off := by
  have h0 : mem' off' = mem off := h 0 (by decide)
  rw [le32At, le32At, h0, h 1 (by decide), h 2 (by decide), h 3 (by decide)]

theorem le64At_shift {mem mem' : Nat → UInt8} {off off' : Nat}
    (h : ∀ i < 8, mem' (off' + i) = mem (off + i)) : le64At mem' off' = le64At mem off := by
  have h0 : le32At mem' off' = le32At mem off := le32At_shift fun i hi => h i (by omega)
  have h4 : le32At mem' (off' + 4) = le32At mem (off + 4) := by
    refine le32At_shift fun i hi => ?_
    rw [Nat.add_assoc, Nat.add_assoc]
    exact h (4 + i) (by omega)
  rw [le64At, le64At, h0, h4]

/-- Writing a word and reading it back. -/
theorem le32At_le32 {mem : Nat → UInt8} {off : Nat} {n : UInt32}
    (h : ∀ i < 4, mem (off + i) = (le32 n).getD i 0) : le32At mem off = n := by
  have hn := n.toNat_lt
  have h0 : mem off = n.toUInt8 := h 0 (by decide)
  have h1 : mem (off + 1) = (n >>> 8).toUInt8 := h 1 (by decide)
  have h2 : mem (off + 2) = (n >>> 16).toUInt8 := h 2 (by decide)
  have h3 : mem (off + 3) = (n >>> 24).toUInt8 := h 3 (by decide)
  apply UInt32.toNat_inj.mp
  rw [toNat_le32At, h0, h1, h2, h3]
  simp only [UInt32.toNat_toUInt8, UInt32.toNat_shiftRight, Nat.shiftRight_eq_div_pow]
  rw [show UInt32.toNat 8 % 32 = 8 from rfl, show UInt32.toNat 16 % 32 = 16 from rfl,
    show UInt32.toNat 24 % 32 = 24 from rfl]
  omega

/-- The low three bytes of a word. -/
theorem and_le32At_congr {mem mem' : Nat → UInt8} {off : Nat}
    (h : ∀ i, off ≤ i → i < off + 3 → mem' i = mem i) :
    le32At mem' off &&& 0xFFFFFF = le32At mem off &&& 0xFFFFFF := by
  apply UInt32.toNat_inj.mp
  rw [UInt32.toNat_and, UInt32.toNat_and, show UInt32.toNat 0xFFFFFF = 2 ^ 24 - 1 from rfl,
    Nat.and_two_pow_sub_one_eq_mod, Nat.and_two_pow_sub_one_eq_mod, toNat_le32At, toNat_le32At,
    h off (by omega) (by omega), h (off + 1) (by omega) (by omega),
    h (off + 2) (by omega) (by omega)]
  omega

end Lib
