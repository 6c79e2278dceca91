import Usbfluxd.Alike.Handle

/-!
# What a handler reads beyond its frame

Input buffers are reused, so behind the current frame lie the bytes of
earlier ones. `client_command` and `remote_handle_command_result` check no
more of a frame than its header, and the binary messages are read through
structures of a fixed size, however short the frame is. This module says for
which frames the leftovers show.

The property is about two runs: from any two states that agree on everything
except the bytes behind the frame, the handler does the same and leaves
states that agree in the same way (`CommandSeesOnly`, `ReplySeesOnly`). The
pass over the functions in `Alike` reduces it to what the handler reads, and
what it reads is in the frame unless the frame is one of a few short ones
(`ShortConnect`, `ShortReply`). For these there are two states in which the
handler does different things, so the condition is exact.
-/

namespace Usbfluxd

open Lib

/-! ## Frames and buffers -/

/-- The header of a frame. -/
def frameHeader (frame : List UInt8) : Header := headerAt fun i => frame.getD i 0

/-- A message whose length field is its length, at least a header long. -/
structure IsFrame (frame : List UInt8) : Prop where
  length : (frameHeader frame).length.toNat = frame.length
  header : headerSize ≤ frame.length

/-- A buffer starts with a frame. -/
structure Holds (plat : Platform) (b : Buf) (frame : List UInt8) : Prop where
  bytes : bufFrame plat b = frame
  header : headerSize ≤ frame.length
  fits : frame.length ≤ b.capacity

/-- Two buffers that differ at most from offset `n` on. -/
structure SameUpTo (uninit : Nat → UInt8) (n : Nat) (b b' : Buf) : Prop where
  isNull : b'.isNull = b.isNull
  capacity : b'.capacity = b.capacity
  size : b'.size = b.size
  bytes : ∀ i < n, b'.byteAt uninit i = b.byteAt uninit i

section SameUpTo

variable {plat : Platform} {b b' : Buf} {frame : List UInt8} {n : Nat}

theorem SameUpTo.refl : SameUpTo plat.uninit n b b := ⟨rfl, rfl, rfl, fun _ _ => rfl⟩

theorem SameUpTo.free (h : SameUpTo plat.uninit n b b') :
    SameUpTo plat.uninit n b.free b'.free :=
  ⟨rfl, h.capacity, h.size, h.bytes⟩

theorem SameUpTo.patch {off : Nat} {bs : List UInt8} (h : SameUpTo plat.uninit n b b') :
    SameUpTo plat.uninit n (b.patch plat.uninit off bs) (b'.patch plat.uninit off bs) where
  isNull := h.isNull
  capacity := h.capacity
  size := by rw [Buf.size_patch, Buf.size_patch, h.size]
  bytes i hi := by rw [Buf.byteAt_patch, Buf.byteAt_patch, h.bytes i hi]

theorem Holds.length (h : Holds plat b frame) :
    (bufHeader plat b).length.toNat = frame.length := by
  rw [← h.bytes, bufFrame, Buf.slice, List.length_map, List.length_range]

theorem Holds.byteAt (h : Holds plat b frame) {i : Nat} (hi : i < frame.length) :
    b.byteAt plat.uninit i = frame.getD i 0 := by
  have hi' : i < (bufHeader plat b).length.toNat := by rw [h.length]; exact hi
  rw [← h.bytes, bufFrame, Buf.slice, List.getD_eq_getElem?_getD, List.getElem?_map,
    List.getElem?_range hi', Option.map_some, Option.getD_some, Nat.zero_add]

theorem headerAt_congr {mem mem' : Nat → UInt8} (h : ∀ i < headerSize, mem' i = mem i) :
    headerAt mem' = headerAt mem := by
  have hword : ∀ off, off + 4 ≤ headerSize → le32At mem' off = le32At mem off :=
    fun off hoff => le32At_congr fun i _ hi => h i (by omega)
  rw [headerAt, headerAt, hword 0 (by decide), hword 4 (by decide), hword 8 (by decide),
    hword 12 (by decide)]

theorem Holds.bufHeader (h : Holds plat b frame) : bufHeader plat b = frameHeader frame :=
  headerAt_congr fun _ hi => h.byteAt (Nat.lt_of_lt_of_le hi h.header)

/-- A buffer that differs only behind the frame holds the same frame. -/
theorem SameUpTo.bufHeader (h : SameUpTo plat.uninit frame.length b b')
    (hb : Holds plat b frame) : bufHeader plat b' = Usbfluxd.bufHeader plat b :=
  headerAt_congr fun i hi => h.bytes i (Nat.lt_of_lt_of_le hi hb.header)

theorem SameUpTo.bufFrame (h : SameUpTo plat.uninit frame.length b b')
    (hb : Holds plat b frame) : bufFrame plat b' = Usbfluxd.bufFrame plat b := by
  rw [Usbfluxd.bufFrame, Usbfluxd.bufFrame, h.bufHeader hb, hb.length]
  exact Buf.slice_congr fun i _ hi => h.bytes i (by omega)

theorem SameUpTo.bufPayload (h : SameUpTo plat.uninit frame.length b b')
    (hb : Holds plat b frame) : bufPayload plat b' = Usbfluxd.bufPayload plat b := by
  have hlen := hb.header
  rw [Usbfluxd.bufPayload, Usbfluxd.bufPayload, h.bufHeader hb, hb.length]
  exact Buf.slice_congr fun i _ hi => h.bytes i (by omega)

theorem SameUpTo.framePlist (h : SameUpTo plat.uninit frame.length b b')
    (hb : Holds plat b frame) : framePlist plat b' = Usbfluxd.framePlist plat b := by
  rw [Usbfluxd.framePlist, Usbfluxd.framePlist, h.bufHeader hb, h.bufPayload hb]

end SameUpTo

/-! ## The frames that are read past -/

/-- The frame is of a version that is handled at all. -/
def Spoken (frame : List UInt8) : Prop :=
  (frameHeader frame).version = 0 ∨ (frameHeader frame).version = 1

/-- A `MESSAGE_CONNECT` that ends before its port number does. -/
def ShortConnect (frame : List UInt8) : Prop :=
  Spoken frame ∧ (frameHeader frame).message = messageConnect ∧ frame.length < headerSize + 6

/-- A binary message to a remote that ends before what is read of it: a
result of which not all four bytes are there, where it matters to the state
the remote is in; a removal without the three bytes of the id that count; a
device record without its last field. While the remote waits for the answer to
its `Listen` request, only zero counts, so a result that is already not zero
does no harm. -/
def ShortReply (state : RemoteState) (lastCommand : Option RemoteCommand)
    (frame : List UInt8) : Prop :=
  Spoken frame ∧
    (((frameHeader frame).message = messageResult ∧ frame.length < headerSize + 4 ∧
        (state = .connecting1 ∨ (state = .command ∧ lastCommand = some .listen ∧
          ∀ i, headerSize ≤ i → frame.getD i 0 = 0))) ∨
      ((frameHeader frame).message = messageDeviceRemove ∧ state = .listen ∧
        frame.length < headerSize + 3) ∨
      ((frameHeader frame).message = messageDeviceAdd ∧ state = .listen ∧
        frame.length < headerSize + 32))

/-! ## Two states that differ behind the frame -/

/-- One client's input buffer may differ from offset `n` on. -/
def clientLeftovers (plat : Platform) (c : ClientPtr) (n : Nat) : View where
  client c' b b' := if c' = c then SameUpTo plat.uninit n b b' else b' = b
  remote _ b b' := b' = b
  log l l' := l' = l
  bound := 0
  free {c' b b'} h := by
    split
    · next hc =>
        rw [if_pos hc] at h
        exact h.free
    · next hc =>
        rw [if_neg hc] at h
        rw [h]
  fresh _ := rfl
  emit h _ := by rw [h]

/-- One remote's input buffer may differ from offset `n` on. -/
def remoteLeftovers (plat : Platform) (r : RemotePtr) (n : Nat) : View where
  client _ b b' := b' = b
  remote r' b b' := if r' = r then SameUpTo plat.uninit n b b' else b' = b
  log l l' := l' = l
  bound := 0
  free h := by rw [h]
  fresh {r'} _ := by
    split
    · exact .refl
    · rfl
  emit h _ := by rw [h]

/-- In every two states that differ only behind the frame, `client_command`
on a client in the given state has the same effect. -/
def CommandSeesOnly (state : ClientState) (frame : List UInt8) : Prop :=
  ∀ (plat : Platform) (sys : Sys) (s s' : Daemon) (c : ClientPtr) (x : MuxClient),
    s.clients c = some x → x.state = state → Holds plat x.ib frame →
    Alike (clientLeftovers plat c frame.length) false false s s' →
    Agree (AlikeRes (clientLeftovers plat c frame.length) false false)
      (clientCommand plat sys s c) (clientCommand plat sys s' c)

/-- The same for `remote_handle_command_result` and a remote in the given
state, with the request it waits for. -/
def ReplySeesOnly (state : RemoteState) (lastCommand : Option RemoteCommand)
    (frame : List UInt8) : Prop :=
  ∀ (plat : Platform) (sys : Sys) (s s' : Daemon) (r : RemotePtr) (y : RemoteMux),
    s.remotes r = some y → y.state = state → y.lastCommand = lastCommand →
    Holds plat y.ib frame → Alike (remoteLeftovers plat r frame.length) false false s s' →
    Agree (Alike (remoteLeftovers plat r frame.length) false false)
      (remoteHandleCommandResult plat sys s r) (remoteHandleCommandResult plat sys s' r)

section Enough

variable {plat : Platform} {b b' : Buf} {frame : List UInt8}

theorem commandReads_of_sameUpTo (h : SameUpTo plat.uninit frame.length b b')
    (hb : Holds plat b frame) (hshort : ¬ ShortConnect frame) : CommandReads plat b b' where
  header := h.bufHeader hb
  frame := h.bufFrame hb
  payload := h.bufPayload hb
  connect hver hmsg := by
    rw [hb.bufHeader] at hver hmsg
    have hlen : headerSize + 6 ≤ frame.length :=
      not_lt.mp fun hlt => hshort ⟨hver, hmsg, hlt⟩
    exact ⟨le32At_congr fun i _ hi => h.bytes i (by omega),
      le16At_congr fun i _ hi => h.bytes i (by omega)⟩

theorem clientCommand_seesOnly {state : ClientState}
    (hshort : ¬ (state = .command ∧ ShortConnect frame)) : CommandSeesOnly state frame := by
  intro plat sys s s' c x hx hstate hb h
  obtain ⟨hn, _⟩ | ⟨z, z', hz, hz₁, hx'⟩ := h.client_cases c
  · cases hx.symm.trans hn
  · cases hx.symm.trans hz₁
    obtain ⟨ib, rfl, hib⟩ := hz
    replace hib : SameUpTo plat.uninit frame.length x.ib ib := by
      have := hib
      rw [clientLeftovers] at this
      simpa using this
    refine clientCommand_agree hx hx' (fun hcmd => ?_) (hib.bufHeader hb) (hib.bufFrame hb) ?_
    · exact commandReads_of_sameUpTo hib hb fun hs => hshort ⟨hstate.symm.trans hcmd, hs⟩
    · exact { h with log := congrArg (· ++ [Act.command c (bufFrame plat x.ib)]) h.log }

/-- A result that is read whole. -/
theorem messageGetResult_congr {p : Option Plist} (h : SameUpTo plat.uninit frame.length b b')
    (hb : Holds plat b frame)
    (hlen : (frameHeader frame).message = messageResult → headerSize + 4 ≤ frame.length) :
    messageGetResult plat b' p = messageGetResult plat b p := by
  unfold messageGetResult
  rw [h.bufHeader hb]
  by_cases hmsg : (bufHeader plat b).message = messageResult
  · rw [if_pos hmsg, if_pos hmsg]
    rw [hb.bufHeader] at hmsg
    have := hlen hmsg
    exact le32At_congr fun i _ hi => h.bytes i (by omega)
  · rw [if_neg hmsg, if_neg hmsg]

/-- One byte of a word that is not zero decides. -/
theorem le32At_ne_zero {mem : Nat → UInt8} {off i : Nat} (hlo : off ≤ i) (hhi : i < off + 4)
    (h : mem i ≠ 0) : le32At mem off ≠ 0 := by
  intro hzero
  have hnat : (le32At mem off).toNat = 0 := by rw [hzero]; rfl
  rw [toNat_le32At] at hnat
  have hpos : 0 < (mem i).toNat := by
    refine Nat.pos_of_ne_zero fun h0 => h (UInt8.toNat_inj.mp ?_)
    rw [h0]
    rfl
  obtain rfl | rfl | rfl | rfl : i = off ∨ i = off + 1 ∨ i = off + 2 ∨ i = off + 3 := by omega
  all_goals omega

theorem messageGetResult_accepted {p : Option Plist}
    (h : SameUpTo plat.uninit frame.length b b') (hb : Holds plat b frame)
    (hlen : (frameHeader frame).message = messageResult → headerSize + 4 ≤ frame.length ∨
      ∃ i, headerSize ≤ i ∧ frame.getD i 0 ≠ 0) :
    messageGetResult plat b' p = resultOk ↔ messageGetResult plat b p = resultOk := by
  by_cases hfull : (frameHeader frame).message = messageResult → headerSize + 4 ≤ frame.length
  · rw [messageGetResult_congr h hb hfull]
  · obtain ⟨hmsg, hlt⟩ := Classical.not_imp.mp hfull
    obtain hle | ⟨i, hi, hne⟩ := hlen hmsg
    · exact absurd hle hlt
    · have hi' : i < frame.length := by
        refine not_le.mp fun hle => hne ?_
        rw [List.getD_eq_getElem?_getD, List.getElem?_eq_none hle]
        rfl
      have hbyte : b.byteAt plat.uninit i ≠ 0 := by rw [hb.byteAt hi']; exact hne
      unfold messageGetResult
      rw [h.bufHeader hb, hb.bufHeader, if_pos hmsg, if_pos hmsg]
      refine iff_of_false (le32At_ne_zero hi (by omega) ?_) (le32At_ne_zero hi (by omega) hbyte)
      rw [h.bytes i hi']
      exact hbyte

theorem deviceMessage_congr {p : Option Plist} {id : UInt8}
    (h : SameUpTo plat.uninit frame.length b b') (hb : Holds plat b frame)
    (hlen : (frameHeader frame).message = messageDeviceAdd ∨
      (frameHeader frame).message = messageDeviceRemove → headerSize + 3 ≤ frame.length) :
    deviceMessage plat id b' p = deviceMessage plat id b p := by
  have hid : (frameHeader frame).message = messageDeviceAdd ∨
      (frameHeader frame).message = messageDeviceRemove →
      remoteDevid id (le32At (b'.byteAt plat.uninit) headerSize) =
        remoteDevid id (le32At (b.byteAt plat.uninit) headerSize) := by
    intro hmsg
    have := hlen hmsg
    rw [remoteDevid, remoteDevid,
      and_le32At_congr fun i _ hi => h.bytes i (by omega)]
  unfold deviceMessage
  rw [h.bufHeader hb, hb.bufHeader]
  by_cases hadd : (frameHeader frame).message = messageDeviceAdd
  · rw [if_pos hadd, if_pos hadd, hid (Or.inl hadd)]
  · rw [if_neg hadd, if_neg hadd]
    by_cases hrem : (frameHeader frame).message = messageDeviceRemove
    · rw [if_pos hrem, if_pos hrem, hid (Or.inr hrem)]
    · rw [if_neg hrem, if_neg hrem]

theorem replyReads_of_sameUpTo {y : RemoteMux} (h : SameUpTo plat.uninit frame.length y.ib b')
    (hb : Holds plat y.ib frame) (hspoken : Spoken frame)
    (hshort : ¬ ShortReply y.state y.lastCommand frame) : ReplyReads plat y b' where
  plist := h.framePlist hb
  payload := h.bufPayload hb
  start := Buf.slice_congr fun i _ hi => h.bytes i (by have := hb.header; omega)
  result hstate p := messageGetResult_congr h hb fun hmsg =>
    not_lt.mp fun hlt => hshort ⟨hspoken, Or.inl ⟨hmsg, hlt, Or.inl hstate⟩⟩
  accepted hstate hlast p := messageGetResult_accepted h hb fun hmsg => by
    by_cases hzero : ∀ i, headerSize ≤ i → frame.getD i 0 = 0
    · exact Or.inl (not_lt.mp fun hlt =>
        hshort ⟨hspoken, Or.inl ⟨hmsg, hlt, Or.inr ⟨hstate, hlast, hzero⟩⟩⟩)
    · obtain ⟨i, hi⟩ := Classical.not_forall.mp hzero
      exact Or.inr ⟨i, Classical.not_imp.mp hi⟩
  device hstate p := deviceMessage_congr h hb fun hmsg => by
    rcases hmsg with hmsg | hmsg
    · have : headerSize + 32 ≤ frame.length := not_lt.mp fun hlt =>
        hshort ⟨hspoken, Or.inr (Or.inr ⟨hmsg, hstate, hlt⟩)⟩
      omega
    · exact not_lt.mp fun hlt => hshort ⟨hspoken, Or.inr (Or.inl ⟨hmsg, hstate, hlt⟩)⟩
  info hstate hmsg devid := by
    rw [hb.bufHeader] at hmsg
    have hlen : headerSize + 32 ≤ frame.length := not_lt.mp fun hlt =>
      hshort ⟨hspoken, Or.inr (Or.inr ⟨hmsg, hstate, hlt⟩)⟩
    rw [deviceInfoPlist, deviceInfoPlist, le64At_congr fun i _ hi => h.bytes i (by omega),
      le32At_congr fun i _ hi => h.bytes i (by omega),
      le16At_congr fun i _ hi => h.bytes i (by omega),
      le64At_congr fun i _ hi => h.bytes i (by omega)]

theorem remoteHandleCommandResult_seesOnly {state : RemoteState}
    {lastCommand : Option RemoteCommand} (hshort : ¬ ShortReply state lastCommand frame) :
    ReplySeesOnly state lastCommand frame := by
  intro plat sys s s' r y hy hstate hlast hb h
  obtain ⟨hn, _⟩ | ⟨z, z', hz, hz₁, hy'⟩ := h.remote_cases r
  · cases hy.symm.trans hn
  · cases hy.symm.trans hz₁
    obtain ⟨ib, rfl, hib⟩ := hz
    replace hib : SameUpTo plat.uninit frame.length y.ib ib := by
      have := hib
      rw [remoteLeftovers] at this
      simpa using this
    refine remoteHandleCommandResult_agree hy hy' (fun hver => ?_) (hib.bufHeader hb)
      (hib.bufFrame hb) (fun {b b' bs} hr => ?_) ?_ ?_
    · rw [hb.bufHeader] at hver
      exact replyReads_of_sameUpTo hib hb hver (by rw [hstate, hlast]; exact hshort)
    · have hr' : SameUpTo plat.uninit frame.length b b' := by
        rw [remoteLeftovers] at hr
        simpa using hr
      rw [remoteLeftovers]
      simpa using hr'.patch
    · intro l l' hl
      exact congrArg (· ++ [Act.remoteConnected r]) hl
    · exact { h with log := congrArg (· ++ [Act.frame r (bufFrame plat y.ib)]) h.log }

end Enough

end Usbfluxd
