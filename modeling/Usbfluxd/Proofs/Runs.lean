import Usbfluxd.Moves.Step

/-!
# Runs that can be evaluated

A list of events is a run, and whether it meets a condition at every step is
decided by evaluating it. What evaluation needs besides is a platform: one is
built here from the documents a run exchanges, with XML printed the way
libplist prints it.
-/

namespace Usbfluxd

open Lib

/-! ## XML documents -/

/-- The decimal digits of a number. -/
def decimal (n : Nat) : List Char := Nat.toDigits 10 n

def tabs (n : Nat) : List Char := List.replicate n '\t'

/-- An element on a line of its own. -/
def xmlElement (indent : Nat) (tag : String) (text : List Char) : List Char :=
  tabs indent ++ '<' :: tag.toList ++ '>' :: text ++ '<' :: '/' :: tag.toList ++ ['>', '\n']

/-- A node at an indentation. The printing stops at the given depth, and
texts are taken not to need escaping. -/
def xmlNode : Nat → Nat → Plist → List Char
  | _, indent, .bool b =>
      tabs indent ++ (if b then "<true/>\n" else "<false/>\n").toList
  | _, indent, .uint n => xmlElement indent "integer" (decimal n.toNat)
  | _, indent, .string s => xmlElement indent "string" s.toList
  | depth + 1, indent, .array items =>
      tabs indent ++ "<array>\n".toList ++ items.flatMap (xmlNode depth (indent + 1)) ++
        tabs indent ++ "</array>\n".toList
  | depth + 1, indent, .dict entries =>
      tabs indent ++ "<dict>\n".toList ++
        entries.flatMap (fun p => xmlElement (indent + 1) "key" p.1.toList ++
          xmlNode depth (indent + 1) p.2) ++
        tabs indent ++ "</dict>\n".toList
  | _, _, _ => []

/-- What stands before the root node. The text is in short pieces because a
long literal takes the kernel quadratic time to unfold. -/
def xmlProlog : List Char :=
  ["<?xml version=", "\"1.0\" ", "encoding=", "\"UTF-8\"?>\n",
   "<!DOCTYPE plist ", "PUBLIC ", "\"-//Apple//DTD ", "PLIST 1.0//EN\" ",
   "\"http://", "www.apple.com/", "DTDs/", "PropertyList-", "1.0.dtd\">\n",
   "<plist version=", "\"1.0\">\n"].flatMap String.toList

/-- A document as it goes over the wire. -/
def xmlDocument (p : Plist) : List UInt8 :=
  (xmlProlog ++ xmlNode 3 0 p ++ "</plist>\n".toList).map fun c => UInt8.ofNat c.toNat

/-- A platform that prints every plist and parses the documents of a list. -/
def platformWith (known : List Plist) : Platform where
  plistFromXml bytes := known.find? fun p => xmlDocument p = bytes
  plistToXml p := some (xmlDocument p)
  stringAt _ := none
  uninit _ := 0

/-- A plist packet. -/
def plistFrame (version tag : UInt32) (p : Plist) : List UInt8 :=
  ({ length := UInt32.ofNat (headerSize + (xmlDocument p).length), version := version,
     message := messagePlist, tag := tag : Header }).bytes ++ xmlDocument p

/-- A binary listen request. -/
def listenFrame : List UInt8 :=
  ({ length := 16, version := 0, message := messageListen, tag := 7 : Header }).bytes

/-- A binary connect request. -/
def connectFrame (tag deviceId : UInt32) (port : UInt16) : List UInt8 :=
  ({ length := 24, version := 0, message := messageConnect, tag := tag : Header }).bytes ++
    le32 deviceId ++ le16 port ++ [0, 0]

/-- A binary result. -/
def resultFrame (result : UInt32) : List UInt8 :=
  ({ length := 20, version := 0, message := messageResult, tag := 0 : Header }).bytes ++
    le32 result

/-- A `ReadBUID` request, and the answer to it. -/
def readBuidRequest : Plist := .dict [("MessageType", .string "ReadBUID")]

def buidReply : Plist := .dict [("BUID", .string "A1B2")]

/-- A client sends a frame, which takes an event for the header and one for
the rest. `sys` answers the other calls made while the frame is handled. -/
def clientSends (fd : Nat) (sys : Sys) (bytes : List UInt8) : List Event :=
  [.client fd { pollin := true } { recv := some (bytes.take headerSize) },
   .client fd { pollin := true } { sys with recv := some (bytes.drop headerSize) }]

/-- A remote sends a frame. -/
def remoteSends (fd : Nat) (bytes : List UInt8) : List Event :=
  [.remote fd { pollin := true } { recv := some (bytes.take headerSize) },
   .remote fd { pollin := true } { recv := some (bytes.drop headerSize) }]

section Lossless

variable {known : List Plist} {sys : Sys}

theorem not_loss_platformWith (h : ∀ n, sys.realloc n = true) :
    ¬ Loss (platformWith known) sys := by
  rintro (⟨p, hp⟩ | ⟨n, hn⟩)
  · cases hp
  · cases (h n).symm.trans hn

theorem clientSends_lossless {fd : Nat} {bytes : List UInt8} (h : ∀ n, sys.realloc n = true) :
    ∀ e ∈ clientSends fd sys bytes, e.singleThreaded ∧ e.lossless (platformWith known) := by
  intro e he
  rw [clientSends, List.mem_cons, List.mem_singleton] at he
  rcases he with rfl | rfl
  · exact ⟨trivial, not_loss_platformWith fun _ => rfl⟩
  · exact ⟨trivial, not_loss_platformWith h⟩

theorem remoteSends_lossless {fd : Nat} {bytes : List UInt8} :
    ∀ e ∈ remoteSends fd bytes, e.singleThreaded ∧ e.lossless (platformWith known) := by
  intro e he
  rw [remoteSends, List.mem_cons, List.mem_singleton] at he
  rcases he with rfl | rfl <;> exact ⟨trivial, not_loss_platformWith fun _ => rfl⟩

end Lossless

/-! ## Evaluating a run -/

section Runs

variable {plat : Platform} {sys : Sys} {C : Daemon → Event → Prop}
  {ok : Daemon → Event → Bool} {s : Daemon} {es : List Event}

/-- Handle events one after the other, each of which has to pass a test. -/
def runEvents (plat : Platform) (ok : Daemon → Event → Bool) :
    List Event → Daemon → Option Daemon
  | [], s => some s
  | e :: es, s =>
      if ok s e then
        match step plat s e with
        | .ok s => runEvents plat ok es s
        | .error _ => none
      else none

/-- A run from the initial state. -/
def runFrom (plat : Platform) (sys : Sys) (ok : Daemon → Event → Bool) (es : List Event) :
    Option Daemon :=
  match usbmuxRemoteInit plat sys with
  | .ok s => runEvents plat ok es s
  | .error _ => none

theorem steps_of_runEvents (hok : ∀ s, ∀ e ∈ es, Reachable plat s → ok s e = true → C s e)
    {s s' : Daemon} (hs : Reachable plat s) (h : runEvents plat ok es s = some s') :
    Steps plat C s s' := by
  induction es generalizing s with
  | nil =>
      cases h
      exact .refl
  | cons e es ih =>
      rw [runEvents] at h
      split at h
      · next he =>
          split at h
          · next s₁ hs₁ =>
              have hstep : Step plat C s s₁ := ⟨e, hok s e List.mem_cons_self hs he, hs₁⟩
              obtain ⟨sys, s₀, h₀, hrun⟩ := hs
              exact .head hstep (ih (fun s e' he' => hok s e' (List.mem_cons_of_mem _ he'))
                ⟨sys, s₀, h₀, hrun.tail ⟨e, trivial, hs₁⟩⟩ h)
          · cases h
      · cases h

/-- A run that passes its tests reaches its last state. -/
theorem reachableBy_of_runFrom (hok : ∀ s, ∀ e ∈ es, Reachable plat s → ok s e = true → C s e)
    (h : runFrom plat sys ok es = some s) : ReachableBy plat C s := by
  rw [runFrom] at h
  split at h
  · next s₀ h₀ =>
      exact ⟨sys, s₀, h₀, steps_of_runEvents hok ⟨sys, s₀, h₀, .refl⟩ h⟩
  · cases h

theorem reachable_of_runFrom (h : runFrom plat sys (fun _ _ => true) es = some s) :
    Reachable plat s :=
  reachableBy_of_runFrom (fun _ _ _ _ _ => trivial) h

/-- Evaluate a test in the last state of a run. -/
theorem exists_of_runFrom {p : Daemon → Bool}
    (h : ((runFrom plat sys ok es).map p).getD false = true) :
    ∃ s, runFrom plat sys ok es = some s ∧ p s = true := by
  cases hs : runFrom plat sys ok es with
  | none =>
      rw [hs] at h
      cases h
  | some s =>
      rw [hs] at h
      exact ⟨s, rfl, h⟩

end Runs

end Usbfluxd
