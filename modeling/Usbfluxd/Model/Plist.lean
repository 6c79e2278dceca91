import Mathlib.Algebra.Group.Nat.Defs
import Usbfluxd.Lib.OMap

/-!
# Property lists

The part of libplist the daemon uses. Nodes are values: the daemon copies a
node before it stores it, so sharing never shows. A dictionary is a list of
pairs in insertion order. The accessors follow libplist on nodes of the
wrong type: a read of a missing or ill-typed item leaves the caller's
variable alone, and setting an item of a node that is not a dictionary does
nothing.

Conversion to and from XML is not modelled: it is a parameter of the
platform the daemon runs on, next to the two kinds of memory the code can
read without having written it.
-/

namespace Usbfluxd

open Lib

/-- A property list node. `other` stands for the node types the daemon only
passes on (reals, dates, data, uids). -/
inductive Plist where
  | bool (b : Bool)
  | uint (n : UInt64)
  | string (s : String)
  | array (items : List Plist)
  | dict (entries : List (String × Plist))
  | other (raw : List UInt8)

/-- What the daemon calls and does not contain. -/
structure Platform where
  /-- `plist_from_xml`: `none` when the document does not parse. -/
  plistFromXml : List UInt8 → Option Plist
  /-- `plist_to_xml`: `none` when it leaves the output pointer `NULL`. -/
  plistToXml : Plist → Option (List UInt8)
  /-- The C string at an address the code did not obtain from anywhere;
  `none` when reading it crashes. -/
  stringAt : UInt64 → Option String
  /-- The content of memory that was allocated and never written. -/
  uninit : Nat → UInt8

def plistDictGetItem (node : Plist) (key : String) : Option Plist :=
  match node with
  | .dict entries => entries.lookup key
  | _ => none

def plistDictSetItem (node : Plist) (key : String) (item : Plist) : Plist :=
  match node with
  | .dict entries => .dict (assocSet key item entries)
  | _ => node

/-- `plist_get_string_val`: only a string node yields a string. -/
def plistGetStringVal : Plist → Option String
  | .string s => some s
  | _ => none

/-- `plist_get_uint_val` on a variable that holds `dflt`. -/
def plistGetUintVal (node : Plist) (dflt : UInt64) : UInt64 :=
  match node with
  | .uint n => n
  | _ => dflt

/-- One step of `plist_access_path`: a dictionary is entered by key, an array
is indexed by the key's pointer value and so has nothing there, any other
node stays where it is. -/
def plistAccessStep (node : Plist) (key : String) : Option Plist :=
  match node with
  | .dict entries => entries.lookup key
  | .array _ => none
  | node => some node

/-- `plist_access_path` with two keys. -/
def plistAccessPath (node : Plist) (key₁ key₂ : String) : Option Plist :=
  (plistAccessStep node key₁).bind fun n => plistAccessStep n key₂

/-- `plist_dict_copy_string_val` of `client.c`. -/
def plistDictCopyStringVal (dict : Plist) (key : String) : Option String :=
  (plistDictGetItem dict key).bind plistGetStringVal

section Accessors

variable {node item : Plist} {key key' : String}

theorem plistDictGetItem_set_self {entries : List (String × Plist)} :
    plistDictGetItem (plistDictSetItem (.dict entries) key item) key = some item := by
  rw [plistDictSetItem, plistDictGetItem]
  exact lookup_assocSet.trans (if_pos rfl)

theorem plistDictGetItem_set_of_ne (h : key' ≠ key) :
    plistDictGetItem (plistDictSetItem node key item) key' =
      plistDictGetItem node key' := by
  cases node with
  | dict entries =>
      rw [plistDictSetItem, plistDictGetItem, plistDictGetItem]
      exact lookup_assocSet.trans (if_neg h)
  | bool | uint | string | array | other => rfl

/-- Having an item at all makes a node a dictionary. -/
theorem isDict_of_getItem {v : Plist} (h : plistDictGetItem node key = some v) :
    ∃ entries, node = .dict entries := by
  cases node with
  | dict entries => exact ⟨entries, rfl⟩
  | bool | uint | string | array | other => cases h

end Accessors

/-! ## Device keys

`snprintf("0x%08x")` and `strtol(_, NULL, 16)`, the two directions between a
device id and its key in the device dictionary. -/

/-- The key of a device id. -/
def deviceKey (g : UInt32) : String :=
  String.ofList ('0' :: 'x' ::
    (List.range 8).map fun i => Nat.digitChar (g.toNat / 16 ^ (7 - i) % 16))

/-- The value of a hexadecimal digit. -/
def hexDigitVal (c : Char) : Option Nat :=
  if '0' ≤ c ∧ c ≤ '9' then some (c.toNat - 48)
  else if 'a' ≤ c ∧ c ≤ 'f' then some (c.toNat - 87)
  else if 'A' ≤ c ∧ c ≤ 'F' then some (c.toNat - 55)
  else none

/-- The number a run of hexadecimal digits spells, up to the first other
character. -/
def hexPrefixVal (acc : Nat) : List Char → Nat
  | [] => acc
  | c :: rest =>
      match hexDigitVal c with
      | none => acc
      | some d => hexPrefixVal (16 * acc + d) rest

/-- `strtol(key, NULL, 16)` with a 64-bit `long`, for texts without blanks or
a sign. -/
def strtolHex (key : String) : Nat :=
  min (2 ^ 63 - 1) <|
    match key.toList with
    | '0' :: x :: rest =>
        if x = 'x' ∨ x = 'X' then hexPrefixVal 0 rest else hexPrefixVal 0 (x :: rest)
    | cs => hexPrefixVal 0 cs

/-- The device id of a key, as `(uint32_t)strtol(key, NULL, 16)`. -/
def keyDevice (key : String) : UInt32 := UInt32.ofNat (strtolHex key)

theorem hexDigitVal_digitChar {d : Nat} (h : d < 16) :
    hexDigitVal (Nat.digitChar d) = some d := by
  have hall : ∀ d : Fin 16, hexDigitVal (Nat.digitChar d.val) = some d.val := by decide
  exact hall ⟨d, h⟩

theorem hexPrefixVal_digits {ds : List Nat} (h : ∀ d ∈ ds, d < 16) (acc : Nat) :
    hexPrefixVal acc (ds.map Nat.digitChar) = ds.foldl (fun a d => 16 * a + d) acc := by
  induction ds generalizing acc with
  | nil => rfl
  | cons d rest ih =>
      rw [List.map_cons, hexPrefixVal, hexDigitVal_digitChar (h d List.mem_cons_self)]
      exact ih (fun d' hd => h d' (List.mem_cons_of_mem _ hd)) _

/-- Parsing a key gives back the id it was formatted from. -/
@[simp] theorem keyDevice_deviceKey (g : UInt32) : keyDevice (deviceKey g) = g := by
  have hg : g.toNat < 2 ^ 32 := g.toNat_lt
  have hdigits : (List.range 8).map (fun i => Nat.digitChar (g.toNat / 16 ^ (7 - i) % 16)) =
      ((List.range 8).map fun i => g.toNat / 16 ^ (7 - i) % 16).map Nat.digitChar := by
    rw [List.map_map]
    rfl
  have hlt : ∀ d ∈ (List.range 8).map (fun i => g.toNat / 16 ^ (7 - i) % 16), d < 16 := by
    intro d hd
    obtain ⟨i, _, rfl⟩ := List.mem_map.mp hd
    exact Nat.mod_lt _ (by decide)
  have hval : hexPrefixVal 0
      ((List.range 8).map fun i => Nat.digitChar (g.toNat / 16 ^ (7 - i) % 16)) = g.toNat := by
    rw [hdigits, hexPrefixVal_digits hlt]
    simp only [List.range, List.range.loop, List.map, List.foldl]
    omega
  have hstr : strtolHex (deviceKey g) = g.toNat := by
    rw [strtolHex, deviceKey, String.toList_ofList]
    simp only [true_or, if_true, hval]
    omega
  rw [keyDevice, hstr]
  exact UInt32.ofNat_toNat

theorem deviceKey_injective : Function.Injective deviceKey := by
  intro g g' h
  have := congrArg keyDevice h
  rwa [keyDevice_deviceKey, keyDevice_deviceKey] at this

end Usbfluxd
