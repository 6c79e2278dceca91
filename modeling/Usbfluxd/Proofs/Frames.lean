import Usbfluxd.Lib.Frames
import Usbfluxd.Proofs.Leftovers
import Usbfluxd.Proofs.Locks
import Usbfluxd.Proofs.Trace

/-!
# Reading a frame

The two receive functions collect a frame over several events: first the
header, then the body, with a check of the length once the header is there.
`ReadFrame.Spec` says what one call adds to the input buffer and what it makes
of it, in the terms in which a whole stream is cut.

What was received and which frames were handled is read off the log
(`remoteInput`, `clientInput`), and `Account` is the relation between the two
that both receive functions keep.
-/

namespace Usbfluxd

open Lib

/-- Frames of at most `cap` bytes, marked off by the length in their
header. -/
def usbmuxFraming (cap : Nat) : Framing UInt8 where
  header := headerSize
  cap := cap
  len d := (frameHeader d).length.toNat
  header_pos := by decide
  len_take d := by
    have hbyte : ∀ i < headerSize, (d.take headerSize).getD i 0 = d.getD i 0 := by
      intro i hi
      rw [List.getD_eq_getElem?_getD, List.getD_eq_getElem?_getD, List.getElem?_take_of_lt hi]
    rw [frameHeader, frameHeader, headerAt_congr hbyte]

/-- Bytes of the buffer that were received. -/
theorem byteAt_data {uninit : Nat → UInt8} {b : Buf} {i : Nat} (h : i < b.size) :
    b.byteAt uninit i = b.data.getD i 0 := by
  rw [Buf.byteAt, List.getD_eq_getElem?_getD, List.getElem?_append_left h,
    List.getD_eq_getElem?_getD, List.getElem?_eq_getElem h]
  rfl

/-- A header that was received. -/
theorem bufHeader_data {plat : Platform} {b : Buf} (h : headerSize ≤ b.size) :
    bufHeader plat b = frameHeader b.data :=
  headerAt_congr fun _ hi => byteAt_data (Nat.lt_of_lt_of_le hi h)

/-- A buffer with exactly one frame in it. -/
theorem bufFrame_whole {plat : Platform} {b : Buf} {cap : Nat}
    (h : (usbmuxFraming cap).Whole b.data) : bufFrame plat b = b.data := by
  have hhdr : bufHeader plat b = frameHeader b.data := bufHeader_data h.header
  have hlen : (frameHeader b.data).length.toNat = b.data.length := h.2.symm
  rw [bufFrame, hhdr, hlen]
  refine List.ext_getElem? fun i => ?_
  rw [Buf.slice, List.getElem?_map]
  by_cases hi : i < b.data.length
  · rw [List.getElem?_range hi, Option.map_some, Nat.zero_add, byteAt_data hi,
      List.getD_eq_getElem?_getD, List.getElem?_eq_getElem hi]
    rfl
  · rw [List.getElem?_eq_none (by rw [List.length_range]; omega),
      List.getElem?_eq_none (by omega)]
    rfl

/-- A buffer that frames are collected in. -/
structure Collects (cap : Nat) (b : Buf) : Prop where
  isNull : b.isNull = false
  capacity : b.capacity = cap

/-- What one call of a receive function does with the data collected so far:
nothing comes and the stream is over, or some bytes come and leave the frame
unfinished, complete it, or show that its length is not good. -/
structure ReadFrame.Spec (cap : Nat) (sys : Sys) (b : Buf) (rf : ReadFrame) : Prop where
  data : rf.ib.data = b.data ++ rf.got
  collects : Collects cap rf.ib
  outcome : (rf.outcome = .dead ∧ rf.got = [] ∧ ∀ bs, sys.recv = some bs → bs = []) ∨
    (rf.got ≠ [] ∧
      ((rf.outcome = .dead ∧ (usbmuxFraming cap).Refused rf.ib.data) ∨
        (rf.outcome = .more ∧ (usbmuxFraming cap).Unfinished rf.ib.data) ∨
        (rf.outcome = .frame ∧ (usbmuxFraming cap).Whole rf.ib.data)))

section Read

variable {plat : Platform} {sys : Sys} {b : Buf} {cap : Nat}

/-- One `recv`. -/
theorem recvInto_spec {len : Nat} {o : Option (List UInt8 × Buf)} (hb : Collects cap b)
    (hpos : 0 < len) (h : recvInto sys b len = .ok o) :
    (o = none ∧ ∀ bs, sys.recv = some bs → bs = []) ∨
      ∃ bs b', o = some (bs, b') ∧ bs ≠ [] ∧ bs.length ≤ len ∧ b'.data = b.data ++ bs ∧
        Collects cap b' := by
  rw [recvInto, hb.isNull, if_neg (by decide)] at h
  split at h
  · next hr =>
      cases h
      refine Or.inl ⟨rfl, fun bs hbs => ?_⟩
      rw [Sys.recvUpTo, hbs] at hr
      cases hr
  · next hr =>
      cases h
      refine Or.inl ⟨rfl, fun bs hbs => ?_⟩
      rw [Sys.recvUpTo, hbs] at hr
      rcases List.take_eq_nil_iff.mp (Option.some_inj.mp hr) with hzero | hnil
      · exact absurd hzero (Nat.ne_of_gt hpos)
      · exact hnil
  · next bs hne hr =>
      split at h
      · next hroom =>
          cases h
          refine Or.inr ⟨bs, _, rfl, hne, ?_, rfl, hb.isNull,
            hb.capacity⟩
          obtain ⟨all, _, rfl⟩ := Option.map_eq_some_iff.mp hr
          exact List.length_take_le _ _
      · cases h

/-- The part after the header, when the header has just come in. -/
theorem readBody_spec_some {bs : List UInt8} {rf : ReadFrame} (hb : Collects cap b)
    (hlen : b.size = headerSize) (h : readBody plat sys (some bs) b = .ok rf) :
    rf.ib = b ∧ rf.got = bs ∧
      ((rf.outcome = .dead ∧ (usbmuxFraming cap).Refused b.data) ∨
        (rf.outcome = .more ∧ (usbmuxFraming cap).Unfinished b.data) ∨
        (rf.outcome = .frame ∧ (usbmuxFraming cap).Whole b.data)) := by
  rw [readBody, hb.isNull, if_neg (by decide)] at h
  dsimp only at h
  rw [bufHeader_data (Nat.le_of_eq hlen.symm), hb.capacity] at h
  have hsize : b.data.length = headerSize := hlen
  split at h
  · next hbad =>
      cases h
      refine ⟨rfl, rfl, Or.inl ⟨rfl, Nat.le_of_eq hsize.symm, fun hgood => ?_⟩⟩
      rcases hbad with hbad | hbad
      · exact absurd hgood.2 (Nat.not_le_of_lt hbad)
      · exact absurd hgood.1 (Nat.not_le_of_lt hbad)
  · next hok =>
      have hgood : (usbmuxFraming cap).Good b.data :=
        ⟨Nat.le_of_not_lt fun h' => hok (Or.inr h'), Nat.le_of_not_lt fun h' => hok (Or.inl h')⟩
      split at h
      · next hmore =>
          cases h
          exact ⟨rfl, rfl, Or.inr (Or.inl ⟨rfl, Or.inr ⟨hgood, hmore⟩⟩)⟩
      · next hfull =>
          cases h
          refine ⟨rfl, rfl, Or.inr (Or.inr ⟨rfl, hgood, ?_⟩)⟩
          have h₁ : headerSize ≤ (frameHeader b.data).length.toNat := hgood.1
          have h₂ : ¬ b.data.length < (frameHeader b.data).length.toNat := hfull
          show b.data.length = (frameHeader b.data).length.toNat
          omega

/-- The body phase of an unfinished frame. -/
theorem readBody_spec_none {rf : ReadFrame} (hb : Collects cap b)
    (hlen : headerSize ≤ b.size) (hgood : (usbmuxFraming cap).Good b.data)
    (hmore : b.size < (frameHeader b.data).length.toNat)
    (h : readBody plat sys none b = .ok rf) : rf.Spec cap sys b := by
  have hhdr : bufHeader plat b = frameHeader b.data := bufHeader_data hlen
  have hok : ¬ ((frameHeader b.data).length.toNat > b.capacity ∨
      (frameHeader b.data).length.toNat < headerSize) := by
    rw [hb.capacity]
    rintro (h' | h')
    · exact Nat.not_le_of_lt h' hgood.2
    · exact Nat.not_le_of_lt h' hgood.1
  rw [readBody, hb.isNull, if_neg (by decide)] at h
  dsimp only at h
  rw [hhdr, if_neg hok, if_pos hmore] at h
  cases hr : recvInto sys b ((frameHeader b.data).length.toNat - b.size) with
  | error f =>
      rw [hr] at h
      cases h
  | ok o =>
      rw [hr] at h
      obtain ⟨rfl, hover⟩ | ⟨bs, b', rfl, hne, hbs, hdata, hb'⟩ :=
        recvInto_spec hb (Nat.sub_pos_of_lt hmore) hr
      · cases h
        exact ⟨(List.append_nil _).symm, hb, Or.inl ⟨rfl, rfl, hover⟩⟩
      · cases h
        have hlen' : (usbmuxFraming cap).len b'.data = (frameHeader b.data).length.toNat := by
          rw [hdata]
          exact Framing.len_append hlen
        have hgood' : (usbmuxFraming cap).Good b'.data := by
          rw [hdata]
          exact (Framing.good_append hlen).mpr hgood
        have hsize : b'.data.length = b.data.length + bs.length := by
          rw [hdata, List.length_append]
        refine ⟨hdata, hb', Or.inr ⟨hne, Or.inr ?_⟩⟩
        dsimp only
        by_cases hfull : b'.size < (frameHeader b.data).length.toNat
        · rw [if_pos hfull]
          exact Or.inl ⟨rfl, Or.inr ⟨hgood', by rw [hlen']; exact hfull⟩⟩
        · rw [if_neg hfull]
          refine Or.inr ⟨rfl, hgood', ?_⟩
          have h₁ : ¬ b'.data.length < (frameHeader b.data).length.toNat := hfull
          have h₂ : b.data.length < (frameHeader b.data).length.toNat := hmore
          have h₃ : bs.length ≤ (frameHeader b.data).length.toNat - b.data.length := hbs
          rw [hlen']
          omega

/-- One call of `process_recv` or `remote_process_recv` on unfinished data. -/
theorem readFrame_spec {rf : ReadFrame} (hb : Collects cap b)
    (hdata : (usbmuxFraming cap).Unfinished b.data) (h : readFrame plat sys b = .ok rf) :
    rf.Spec cap sys b := by
  rw [readFrame] at h
  split at h
  · next hsmall =>
      cases hr : recvInto sys b (headerSize - b.size) with
      | error f =>
          rw [hr] at h
          cases h
      | ok o =>
          rw [hr] at h
          obtain ⟨rfl, hover⟩ | ⟨bs, b', rfl, hne, hbs, hdata', hb'⟩ :=
            recvInto_spec hb (Nat.sub_pos_of_lt hsmall) hr
          · cases h
            exact ⟨(List.append_nil _).symm, hb, Or.inl ⟨rfl, rfl, hover⟩⟩
          · have hsize : b'.data.length = b.data.length + bs.length := by
              rw [hdata', List.length_append]
            have hsmall' : b.data.length < headerSize := hsmall
            have hbs' : bs.length ≤ headerSize - b.data.length := hbs
            change (if b'.size < headerSize then _ else _) = _ at h
            split at h
            · next hless =>
                cases h
                exact ⟨hdata', hb', Or.inr ⟨hne, Or.inr (Or.inl ⟨rfl, Or.inl hless⟩)⟩⟩
            · next hfull =>
                have hfull' : ¬ b'.data.length < headerSize := hfull
                have hlen : b'.size = headerSize := by
                  show b'.data.length = headerSize
                  omega
                obtain ⟨hib, hgot, hout⟩ := readBody_spec_some hb' hlen h
                refine ⟨?_, ?_, Or.inr ⟨?_, ?_⟩⟩
                · rw [hib, hgot, hdata']
                · rw [hib]
                  exact hb'
                · rw [hgot]
                  exact hne
                · rw [hib]
                  exact hout
  · next hlen =>
      have hlen' : headerSize ≤ b.size := Nat.le_of_not_lt hlen
      rcases hdata with hshort | ⟨hgood, hmore⟩
      · exact absurd hshort hlen
      · exact readBody_spec_none hb hlen' hgood hmore h

end Read

/-! ## What the log says about input -/

/-- The bytes received so far, the frames handled so far, and whether the
stream of frames is over. -/
structure InputTrace where
  received : List UInt8 := []
  frames : List (List UInt8) := []
  ended : Bool := false

def InputTrace.remoteAct (r : RemotePtr) (t : InputTrace) : Act → InputTrace
  | .remoteRecv r' bs => if r' = r then { t with received := t.received ++ bs } else t
  | .frame r' f => if r' = r then { t with frames := t.frames ++ [f] } else t
  | .remoteConnected r' => if r' = r then { t with ended := true } else t
  | _ => t

def InputTrace.clientAct (c : ClientPtr) (t : InputTrace) : Act → InputTrace
  | .clientRecv c' bs => if c' = c then { t with received := t.received ++ bs } else t
  | .command c' f => if c' = c then { t with frames := t.frames ++ [f] } else t
  | _ => t

/-- The frames of a remote. -/
def remoteInput (r : RemotePtr) (log : List Act) : InputTrace :=
  log.foldl (InputTrace.remoteAct r) {}

/-- The frames of a client. -/
def clientInput (c : ClientPtr) (log : List Act) : InputTrace :=
  log.foldl (InputTrace.clientAct c) {}

section Traces

variable {r : RemotePtr} {c : ClientPtr} {log acts : List Act} {t : InputTrace}

theorem remoteInput_append :
    remoteInput r (log ++ acts) = acts.foldl (InputTrace.remoteAct r) (remoteInput r log) :=
  List.foldl_append

theorem clientInput_append :
    clientInput c (log ++ acts) = acts.foldl (InputTrace.clientAct c) (clientInput c log) :=
  List.foldl_append

theorem remoteAct_of_ne {a : Act} (h : a.remote ≠ some r ∨ a.isInput = false) :
    t.remoteAct r a = t := by
  cases a with
  | remoteRecv r' | frame r' | remoteConnected r' =>
      rcases h with h | h
      · exact if_neg fun heq => h (congrArg some heq)
      · cases h
  | _ => rfl

theorem clientAct_of_ne {a : Act} (h : a.client ≠ some c ∨ a.isInput = false) :
    t.clientAct c a = t := by
  cases a with
  | clientRecv c' | command c' =>
      rcases h with h | h
      · exact if_neg fun heq => h (congrArg some heq)
      · cases h
  | _ => rfl

theorem remoteInput_other (h : ∀ a ∈ acts, a.remote ≠ some r ∨ a.isInput = false) :
    remoteInput r (log ++ acts) = remoteInput r log := by
  rw [remoteInput_append]
  exact foldl_keeps (p := id) fun a ha _ => remoteAct_of_ne (h a ha)

theorem clientInput_other (h : ∀ a ∈ acts, a.client ≠ some c ∨ a.isInput = false) :
    clientInput c (log ++ acts) = clientInput c log := by
  rw [clientInput_append]
  exact foldl_keeps (p := id) fun a ha _ => clientAct_of_ne (h a ha)

theorem mem_recvActs {act : List UInt8 → Act} {bs : List UInt8} {a : Act}
    (h : a ∈ recvActs act bs) : a = act bs := by
  rw [recvActs] at h
  split at h
  · cases h
  · exact List.mem_singleton.mp h

theorem remoteInput_recv {bs : List UInt8} :
    remoteInput r (log ++ recvActs (.remoteRecv r) bs) =
      { remoteInput r log with received := (remoteInput r log).received ++ bs } := by
  rw [remoteInput_append, recvActs]
  split
  · next h =>
      rw [h, List.append_nil]
      rfl
  · exact if_pos rfl

theorem clientInput_recv {bs : List UInt8} :
    clientInput c (log ++ recvActs (.clientRecv c) bs) =
      { clientInput c log with received := (clientInput c log).received ++ bs } := by
  rw [clientInput_append, recvActs]
  split
  · next h =>
      rw [h, List.append_nil]
      rfl
  · exact if_pos rfl

theorem remoteInput_frame {f : List UInt8} :
    remoteInput r (log ++ [.frame r f]) =
      { remoteInput r log with frames := (remoteInput r log).frames ++ [f] } := by
  rw [remoteInput_append]
  exact if_pos rfl

theorem clientInput_command {f : List UInt8} :
    clientInput c (log ++ [.command c f]) =
      { clientInput c log with frames := (clientInput c log).frames ++ [f] } := by
  rw [clientInput_append]
  exact if_pos rfl

theorem remoteInput_connected :
    remoteInput r (log ++ [.remoteConnected r]) = { remoteInput r log with ended := true } := by
  rw [remoteInput_append]
  exact if_pos rfl

end Traces

/-! ## Accounts of a stream -/

/-- What was received is the frames handled so far, each of them whole, and
then some rest that is not a frame. -/
structure Account (cap : Nat) (t : InputTrace) (rest : List UInt8) : Prop where
  whole : ∀ f ∈ t.frames, (usbmuxFraming cap).Whole f
  received : t.received = t.frames.flatten ++ rest
  rest : (usbmuxFraming cap).Unfinished rest ∨ (usbmuxFraming cap).Refused rest

section Account

variable {cap : Nat} {t : InputTrace} {rest : List UInt8}

theorem Account.empty : Account cap {} [] :=
  ⟨fun _ h => (nomatch h), rfl, Or.inl Framing.unfinished_nil⟩

/-- An account is the one-shot cut of what was received. -/
theorem Account.cut (h : Account cap t rest) :
    (usbmuxFraming cap).cut t.received = ⟨t.frames, rest⟩ := by
  rw [h.received]
  exact Framing.cut_flatten h.whole h.rest

theorem Account.congr {t' : InputTrace} (h : Account cap t rest)
    (hreceived : t'.received = t.received) (hframes : t'.frames = t.frames) :
    Account cap t' rest :=
  ⟨by rw [hframes]; exact h.whole, by rw [hreceived, hframes]; exact h.received, h.rest⟩

/-- More bytes that do not complete the frame. -/
theorem Account.recv {bs : List UInt8} (h : Account cap t rest)
    (hrest : (usbmuxFraming cap).Unfinished (rest ++ bs) ∨
      (usbmuxFraming cap).Refused (rest ++ bs)) :
    Account cap { t with received := t.received ++ bs } (rest ++ bs) :=
  ⟨h.whole, by rw [h.received, List.append_assoc], hrest⟩

/-- More bytes that do, and the frame is handled. -/
theorem Account.frame {bs : List UInt8} (h : Account cap t rest)
    (hwhole : (usbmuxFraming cap).Whole (rest ++ bs)) :
    Account cap { t with received := t.received ++ bs, frames := t.frames ++ [rest ++ bs] } [] := by
  refine ⟨fun f hf => ?_, ?_, Or.inl Framing.unfinished_nil⟩
  · rcases List.mem_append.mp hf with hf | hf
    · exact h.whole f hf
    · rw [List.mem_singleton.mp hf]
      exact hwhole
  · show t.received ++ bs = (t.frames ++ [rest ++ bs]).flatten ++ []
    rw [h.received]
    simp

end Account

end Usbfluxd
