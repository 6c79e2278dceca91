import Usbfluxd.Model.Control

/-!
# Naming an instance

`usbfluxctl add` and `usbfluxctl del` print the host and the port of their
argument into a document, and the daemon reads them back. On the way the port
is read as an `unsigned long`, printed, parsed and cut to 16 bits, which
changes nothing for a port.

The document is printed into 256 bytes. One that does not fit loses its end,
and with it at least the tag that closes the root element, which occurs
nowhere else (`not_document_of_cut`). A host name may be three times as long
as what fits.
-/

namespace Usbfluxd

open Lib

/-! ## Documents -/

def xmlTagged (tag text : List Char) : List Char :=
  '<' :: tag ++ '>' :: text ++ '<' :: '/' :: tag ++ ['>']

/-- A string or a number. -/
def valueXml : Plist → List Char
  | .string s => xmlTagged "string".toList s.toList
  | .uint n => xmlTagged "integer".toList (Nat.toDigits 10 n.toNat)
  | _ => []

/-- The document of a dictionary of strings that need no escaping and
numbers. -/
def dictDocument (entries : List (String × Plist)) : List Char :=
  xmlOpening ++ "<dict>".toList ++
    entries.flatMap (fun p => xmlTagged "key".toList p.1.toList ++ valueXml p.2) ++
    "</dict>".toList ++ xmlClosing

/-- A complete document: its root element is opened and closed. -/
def IsDocument (text : List Char) : Prop := ∃ body, text = xmlOpening ++ body ++ xmlClosing

/-- What a request says. -/
def instanceEntries (messageType : String) (host : List Char) (port : UInt64) :
    List (String × Plist) :=
  [("MessageType", .string messageType), ("HostAddress", .string (String.ofList host)),
    ("PortNumber", .uint port)]

/-- `plist_from_xml` on the document of a dictionary yields the dictionary. -/
def ReadsBack (plat : Platform) (entries : List (String × Plist)) : Prop :=
  plat.plistFromXml (textBytes (dictDocument entries)) = some (.dict entries)

/-- The request is a complete document, and the daemon reads this host and
port out of it in the branch of its message type. -/
structure Agreed (plat : Platform) (messageType : String) (text host : List Char)
    (port : UInt16) : Prop where
  document : IsDocument text
  decoded : ∃ dict, plat.plistFromXml (textBytes text) = some dict ∧
    plistDictCopyStringVal dict "MessageType" = some messageType ∧
    instanceRequest dict = some (String.ofList host, port)

/-- A host name is made of letters, digits, dots and dashes. -/
def IsHostName (host : List Char) : Prop := ∀ c ∈ host, c.isAlphanum ∨ c = '.' ∨ c = '-'

/-- An argument names a host and a port, which is 5000 when it is left out. -/
def Names (arg host : List Char) (port : UInt16) : Prop :=
  (∃ ds, ds ≠ [] ∧ (∀ c ∈ ds, c.isDigit) ∧ Nat.ofDigitChars 10 ds 0 = port.toNat ∧
    arg = host ++ ':' :: ds) ∨ (port = 5000 ∧ arg = host)

section Argument

variable {arg host : List Char} {port : UInt16}

theorem IsHostName.not_mem {c : Char} (h : IsHostName host) (hc : c.isAlphanum = false)
    (hdot : c ≠ '.') (hdash : c ≠ '-') : c ∉ host := by
  intro hmem
  rcases h c hmem with halnum | heq | heq
  · rw [hc] at halnum
    cases halnum
  · exact hdot heq
  · exact hdash heq

/-- The splitter and the number parser find what the argument names. -/
theorem remoteOfArg_names (hhost : IsHostName host) (h : Names arg host port) :
    remoteOfArg arg = (host, UInt64.ofNat port.toNat) := by
  have hcolon : ∀ c ∈ host, decide (c ≠ ':') = true := by
    intro c hc
    refine decide_eq_true fun heq => ?_
    exact hhost.not_mem (by decide) (by decide) (by decide) (heq ▸ hc)
  have hport := port.toNat_lt
  rcases h with ⟨ds, hne, hds, hval, rfl⟩ | ⟨rfl, rfl⟩
  · rw [remoteOfArg, List.dropWhile_append_of_pos hcolon, List.takeWhile_append_of_pos hcolon]
    rw [List.dropWhile_cons_of_neg (by simp), List.takeWhile_cons_of_neg (by simp),
      List.append_nil]
    dsimp only
    rw [strtoul_digits hds (by omega), hval]
  · rw [remoteOfArg, List.dropWhile_eq_nil_iff.mpr (by simpa using hcolon)]
    rfl

end Argument

/-! ## What is printed -/

section Printed

variable {plat : Platform} {messageType : String} {host : List Char} {port : UInt64}

theorem instanceFormat_eq : instanceFormat messageType host port =
    dictDocument (instanceEntries messageType host port) := by
  simp only [instanceFormat, dictDocument, instanceEntries, List.flatMap_cons, List.flatMap_nil,
    xmlTagged, valueXml, String.toList_ofList, List.append_assoc, List.cons_append,
    List.nil_append, List.append_nil]
  rfl

theorem length_instanceFormat : (instanceFormat messageType host port).length =
    160 + messageType.length + host.length + (Nat.toDigits 10 port.toNat).length := by
  have hmessage : beforeMessageType.length = 57 := by decide
  have hhost : beforeHostAddress.length = 39 := by decide
  have hport : beforePortNumber.length = 39 := by decide
  have hafter : afterPortNumber.length = 25 := by decide
  simp only [instanceFormat, List.length_append, hmessage, hhost, hport, hafter,
    String.length_toList]
  omega

/-- The document up to its last character is cut in one of its pieces, and
none of them ends with the closing tag wherever it is cut. -/
theorem neverEnds_instanceFormat (hhost : IsHostName host)
    (hmessage : '>' ∉ messageType.toList) :
    ∃ text, instanceFormat messageType host port = text ++ ['>'] ∧ NeverEnds xmlClosing text := by
  have hclosing : xmlClosing = "</plist".toList ++ ['>'] := by decide
  have hafter : afterPortNumber = ("</integer></dict>".toList ++ "</plist".toList) ++ ['>'] := by
    decide
  -- what is filled in has no tags
  have hfilled : ∀ text : List Char, '>' ∉ text → NeverEnds xmlClosing text := by
    intro text h
    rw [hclosing]
    exact .of_not_mem h
  have hdigits : '>' ∉ Nat.toDigits 10 port.toNat := by
    intro hmem
    have hdigit := Nat.isDigit_of_mem_toDigits (by omega) (by omega) hmem
    exact absurd hdigit (by decide)
  have hhost' : '>' ∉ host := hhost.not_mem (by decide) (by decide) (by decide)
  refine ⟨_, by rw [instanceFormat, hafter, ← List.append_assoc], ?_⟩
  refine NeverEnds.append ?_ (.of_clashes (by decide +kernel))
  refine NeverEnds.append (NeverEnds.append ?_ (.of_clashes (by decide +kernel)))
    (hfilled _ hdigits)
  refine NeverEnds.append (NeverEnds.append ?_ (.of_clashes (by decide +kernel)))
    (hfilled _ hhost')
  exact NeverEnds.append (.of_clashes (by decide +kernel)) (hfilled _ hmessage)

/-- A document that was cut is none. -/
theorem not_document_of_cut {n : Nat} (hhost : IsHostName host)
    (hmessage : '>' ∉ messageType.toList)
    (hn : n < (instanceFormat messageType host port).length) :
    ¬ IsDocument ((instanceFormat messageType host port).take n) := by
  intro h
  obtain ⟨body, hbody⟩ := h
  obtain ⟨text, heq, hends⟩ := @neverEnds_instanceFormat _ _ port hhost hmessage
  rw [heq] at hn hbody
  refine hends.not_suffix_take (by decide) hn ?_
  rw [hbody]
  exact List.suffix_append _ _

theorem isDocument_instanceFormat : IsDocument (instanceFormat messageType host port) := by
  refine ⟨"<dict>".toList ++ (instanceEntries messageType host port).flatMap (fun p =>
    xmlTagged "key".toList p.1.toList ++ valueXml p.2) ++ "</dict>".toList, ?_⟩
  rw [instanceFormat_eq, dictDocument]
  simp only [List.append_assoc]

/-- What the daemon reads out of the dictionary of a request. -/
theorem instanceRequest_entries {port : UInt16} :
    plistDictCopyStringVal (.dict (instanceEntries messageType host (UInt64.ofNat port.toNat)))
      "MessageType" = some messageType ∧
    instanceRequest (.dict (instanceEntries messageType host (UInt64.ofNat port.toNat))) =
      some (String.ofList host, port) := by
  refine ⟨rfl, ?_⟩
  show some (String.ofList host, (UInt64.ofNat port.toNat).toUInt16) = _
  have hport := port.toNat_lt
  have hcut : (UInt64.ofNat port.toNat).toUInt16 = port := by
    apply UInt16.toNat_inj.mp
    rw [UInt64.toNat_toUInt16, UInt64.toNat_ofNat']
    omega
  rw [hcut]

end Printed

/-! ## What is agreed on -/

section Agreement

variable {plat : Platform} {messageType : String} {arg host : List Char} {port : UInt16}

/-- One request is understood if and only if its document fits the buffer. -/
theorem agreed_iff (hreads : ReadsBack plat
      (instanceEntries messageType host (UInt64.ofNat port.toNat)))
    (hmessage : '>' ∉ messageType.toList) (hhost : IsHostName host)
    (hnames : Names arg host port) :
    Agreed plat messageType (instanceRequestXml messageType arg) host port ↔
      160 + messageType.length + host.length + (Nat.toDigits 10 port.toNat).length ≤ 255 := by
  have hport := port.toNat_lt
  have hlength : (instanceFormat messageType host (UInt64.ofNat port.toNat)).length =
      160 + messageType.length + host.length + (Nat.toDigits 10 port.toNat).length := by
    rw [length_instanceFormat, UInt64.toNat_ofNat', Nat.mod_eq_of_lt (by omega)]
  rw [← hlength, instanceRequestXml, remoteOfArg_names hhost hnames]
  dsimp only
  constructor
  · intro h
    by_contra hlong
    exact not_document_of_cut hhost hmessage (by omega) h.document
  · intro hfits
    rw [snprintf_eq_self_iff.mpr hfits]
    refine ⟨isDocument_instanceFormat, _, ?_, instanceRequest_entries⟩
    rw [instanceFormat_eq]
    exact hreads

/-- The two tools and the daemon agree on the instance if and only if the host
name and the port have at most 81 characters together. -/
theorem instance_agreed_iff
    (hadd : ReadsBack plat (instanceEntries "AddInstance" host (UInt64.ofNat port.toNat)))
    (hdel : ReadsBack plat (instanceEntries "RemoveInstance" host (UInt64.ofNat port.toNat)))
    (hhost : IsHostName host) (hnames : Names arg host port) :
    (Agreed plat "AddInstance" (handleAdd arg) host port ∧
      Agreed plat "RemoveInstance" (handleDel arg) host port) ↔
      host.length + (Nat.toDigits 10 port.toNat).length ≤ 81 := by
  rw [handleAdd, handleDel, agreed_iff hadd (by decide) hhost hnames,
    agreed_iff hdel (by decide) hhost hnames]
  have hadd' : "AddInstance".length = 11 := rfl
  have hdel' : "RemoveInstance".length = 14 := rfl
  omega

end Agreement

/-- A platform that knows the two requests about one instance. -/
def platformForInstance (host : List Char) (port : UInt16) : Platform where
  plistFromXml bytes := ["AddInstance", "RemoveInstance"].findSome? fun messageType =>
    if textBytes (dictDocument (instanceEntries messageType host (UInt64.ofNat port.toNat))) = bytes
    then some (.dict (instanceEntries messageType host (UInt64.ofNat port.toNat))) else none
  plistToXml _ := none
  stringAt _ := none
  uninit _ := 0

theorem instance_agreed_iff_named :
    ∃ plat, Agreed plat "AddInstance" (handleAdd "a-1.example.com:62078".toList)
        "a-1.example.com".toList 62078 ∧
      Agreed plat "RemoveInstance" (handleDel "a-1.example.com:62078".toList)
        "a-1.example.com".toList 62078 := by
  have hne : textBytes (dictDocument (instanceEntries "AddInstance" "a-1.example.com".toList
      (UInt64.ofNat (62078 : UInt16).toNat))) ≠ textBytes (dictDocument (instanceEntries
      "RemoveInstance" "a-1.example.com".toList (UInt64.ofNat (62078 : UInt16).toNat))) := by
    decide +kernel
  have hadd : ReadsBack (platformForInstance "a-1.example.com".toList 62078) (instanceEntries
      "AddInstance" "a-1.example.com".toList (UInt64.ofNat (62078 : UInt16).toNat)) := by
    rw [ReadsBack, platformForInstance]
    dsimp only
    rw [List.findSome?_cons, if_pos rfl]
  have hdel : ReadsBack (platformForInstance "a-1.example.com".toList 62078) (instanceEntries
      "RemoveInstance" "a-1.example.com".toList (UInt64.ofNat (62078 : UInt16).toNat)) := by
    rw [ReadsBack, platformForInstance]
    dsimp only
    rw [List.findSome?_cons, if_neg hne]
    dsimp only
    rw [List.findSome?_cons, if_pos rfl]
  have hhost : IsHostName "a-1.example.com".toList := by
    have hall : ("a-1.example.com".toList.all fun c =>
        decide (c.isAlphanum ∨ c = '.' ∨ c = '-')) = true := by decide +kernel
    intro c hc
    exact of_decide_eq_true (List.all_eq_true.mp hall c hc)
  have hnames : Names "a-1.example.com:62078".toList "a-1.example.com".toList 62078 :=
    Or.inl ⟨"62078".toList, by decide +kernel, List.all_eq_true.mp (by decide +kernel),
      by decide +kernel, by decide +kernel⟩
  exact ⟨_, (instance_agreed_iff hadd hdel hhost hnames).mpr (by decide +kernel)⟩

/-- A name of 100 letters is cut, and the request has no end. -/
theorem long_name_cut :
    ∃ arg host, IsHostName host ∧ host.length ≤ 253 ∧ Names arg host 5000 ∧
      ∀ plat, ¬ Agreed plat "AddInstance" (handleAdd arg) host 5000 := by
  have hhost : IsHostName (List.replicate 100 'a') := by
    intro c hc
    rw [List.eq_of_mem_replicate hc]
    decide
  have hnames : Names (List.replicate 100 'a') (List.replicate 100 'a') 5000 := Or.inr ⟨rfl, rfl⟩
  refine ⟨_, _, hhost, by decide, hnames, fun plat h => ?_⟩
  have hdocument := h.document
  rw [handleAdd, instanceRequestXml, remoteOfArg_names hhost hnames] at hdocument
  refine not_document_of_cut hhost (by decide) ?_ hdocument
  rw [length_instanceFormat]
  decide +kernel

end Usbfluxd
