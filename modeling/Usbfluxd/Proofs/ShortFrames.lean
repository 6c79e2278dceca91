import Mathlib.Data.List.GetD
import Usbfluxd.Proofs.Leftovers
import Usbfluxd.Model.Loop

/-!
# Short frames are completed with leftovers

For every frame that `ShortConnect` or `ShortReply` names there are two states
that differ in one byte behind the frame and in which the handler does
different things. With the other direction this gives the exact condition
under which a handler sees only its frame.

The states are small: one client and one remote, with the frame in the input
buffer of one of them and either zeros or a one behind it. What differs
afterwards is the port in the forwarded request, the result a client is told,
whether a remote is a listener, or the device dictionary.
-/

namespace Usbfluxd

open Lib

/-! ## Two states for each short frame -/

/-- A platform on which every conversion and every pointer is good. -/
def probePlatform : Platform where
  plistFromXml _ := none
  plistToXml _ := some []
  stringAt _ := some ""
  uninit _ := 0

/-- A buffer with a frame and what lies behind it. -/
def probeBuf (frame stale : List UInt8) (h : frame.length ≤ replyBufSize) : Buf :=
  { data := frame, stale := stale, capacity := replyBufSize, size_le := h,
    capacity_lt := replyBufSize_lt }

/-- Zeros, and a one at offset `n`. -/
def oneAt (frame : List UInt8) (n : Nat) : List UInt8 :=
  List.replicate (n - frame.length) 0 ++ [1]

/-- One client and one remote, and the devices there are. -/
def probeState (x : MuxClient) (y : RemoteMux) (devices : OMap String Plist) : Daemon :=
  { emptyDaemon with
    remoteDeviceList := devices
    clients := fun c => if c = ⟨0⟩ then some x else none
    remotes := fun r => if r = ⟨0⟩ then some y else none
    clientList := ⟨[some ⟨0⟩]⟩
    remoteList := ⟨[some ⟨0⟩]⟩
    nextClient := 1
    nextRemote := 1 }

/-- A client in some state. -/
def probeClient (state : ClientState) (b : Buf) : MuxClient :=
  { newClient 0 0 with state := state, ib := b }

/-- A remote in some state, with the client as its client. -/
def probeRemote (state : RemoteState) (lastCommand : Option RemoteCommand) (id : UInt8)
    (b : Buf) : RemoteMux :=
  { remoteMuxNewWithFd {} 0 with
    state := state, lastCommand := lastCommand, id := id, host := some "host",
    client := some ⟨0⟩, ib := b }

section Probes

variable {frame : List UInt8} {n : Nat} {x x' : MuxClient} {y y' : RemoteMux}

theorem byteAt_probeBuf {h : frame.length ≤ replyBufSize} {i : Nat} :
    (probeBuf frame [] h).byteAt probePlatform.uninit i = frame.getD i 0 := by
  rw [Buf.byteAt, probeBuf, List.append_nil]
  rfl

theorem byteAt_oneAt {h : frame.length ≤ replyBufSize} (hn : frame.length ≤ n) {i : Nat} :
    (probeBuf frame (oneAt frame n) h).byteAt probePlatform.uninit i =
      if i = n then 1 else frame.getD i 0 := by
  rw [Buf.byteAt, probeBuf, oneAt]
  dsimp only [probePlatform]
  rw [List.getD_eq_getElem?_getD, List.getD_eq_getElem?_getD, ← List.append_assoc]
  have hlen : (frame ++ List.replicate (n - frame.length) (0 : UInt8)).length = n := by
    rw [List.length_append, List.length_replicate]
    omega
  by_cases hi : i = n
  · subst hi
    rw [List.getElem?_append_right (by omega), hlen]
    simp
  · rw [if_neg hi]
    by_cases hlt : i < n
    · rw [List.getElem?_append_left (by omega)]
      by_cases hf : i < frame.length
      · rw [List.getElem?_append_left hf]
      · rw [List.getElem?_append_right (by omega), List.getElem?_replicate,
          List.getElem?_eq_none (by omega : frame.length ≤ i)]
        split <;> rfl
    · rw [List.getElem?_eq_none (by rw [List.length_append, hlen, List.length_singleton]; omega),
        List.getElem?_eq_none (by omega : frame.length ≤ i)]

theorem holds_probeBuf {stale : List UInt8} {h : frame.length ≤ replyBufSize}
    (hframe : IsFrame frame) : Holds probePlatform (probeBuf frame stale h) frame := by
  have hbyte : ∀ i < frame.length, (probeBuf frame stale h).byteAt probePlatform.uninit i =
      frame.getD i 0 := by
    intro i hi
    rw [Buf.byteAt, probeBuf, List.getD_eq_getElem?_getD, List.getElem?_append_left hi,
      List.getD_eq_getElem?_getD]
    rfl
  have hhdr : bufHeader probePlatform (probeBuf frame stale h) = frameHeader frame :=
    headerAt_congr fun i hi => hbyte i (Nat.lt_of_lt_of_le hi hframe.header)
  refine ⟨?_, hframe.header, h⟩
  rw [bufFrame, hhdr, hframe.length]
  refine List.ext_getElem? fun i => ?_
  rw [Buf.slice, List.getElem?_map]
  by_cases hi : i < frame.length
  · rw [List.getElem?_range hi, Option.map_some, Nat.zero_add, hbyte i hi,
      List.getD_eq_getElem?_getD, List.getElem?_eq_getElem hi]
    rfl
  · rw [List.getElem?_eq_none (by rw [List.length_range]; omega),
      List.getElem?_eq_none (by omega)]
    rfl

/-- The two buffers differ only from `n` on. -/
theorem sameUpTo_oneAt {h : frame.length ≤ replyBufSize} (hn : frame.length ≤ n) :
    SameUpTo probePlatform.uninit n (probeBuf frame [] h) (probeBuf frame (oneAt frame n) h) :=
  ⟨rfl, rfl, rfl, fun i hi => by
    rw [byteAt_oneAt hn, byteAt_probeBuf, if_neg (Nat.ne_of_lt hi)]⟩

theorem SameUpTo.mono {uninit : Nat → UInt8} {m : Nat} {b b' : Buf} (h : SameUpTo uninit n b b')
    (hm : m ≤ n) : SameUpTo uninit m b b' :=
  ⟨h.isNull, h.capacity, h.size, fun i hi => h.bytes i (Nat.lt_of_lt_of_le hi hm)⟩

theorem clientLeftovers_self {plat : Platform} {c : ClientPtr} {b b' : Buf} :
    (clientLeftovers plat c n).client c b b' ↔ SameUpTo plat.uninit n b b' := by
  rw [clientLeftovers]
  simp

theorem remoteLeftovers_self {plat : Platform} {r : RemotePtr} {b b' : Buf} :
    (remoteLeftovers plat r n).remote r b b' ↔ SameUpTo plat.uninit n b b' := by
  rw [remoteLeftovers]
  simp

theorem probeState_alike {V : View} {devices : OMap String Plist}
    (hx : LikeClient (V.client ⟨0⟩) x x')
    (hy : LikeRemote (V.remote ⟨0⟩) y y') (hlog : V.log [] []) (hbound : V.bound = 0) :
    Alike V false false (probeState x y devices) (probeState x' y' devices) where
  clients c := by
    show Option.Rel _ (if c = ⟨0⟩ then some x else none) (if c = ⟨0⟩ then some x' else none)
    split
    · next hc => exact .some (hc ▸ hx)
    · exact .none
  remotes r := by
    show Option.Rel _ (if r = ⟨0⟩ then some y else none) (if r = ⟨0⟩ then some y' else none)
    split
    · next hr => exact .some (hr ▸ hy)
    · exact .none
  clientList := rfl
  remoteList := rfl
  clientNumber := rfl
  remoteDeviceList := rfl
  remoteIdMap := rfl
  nextClient := rfl
  nextRemote := rfl
  log := hlog
  bound := by rw [hbound]; exact Nat.zero_le _
  remoteLock := ⟨rfl, rfl⟩
  clientLock := ⟨rfl, rfl⟩

theorem queueBytes_ok {realloc : Nat → Bool} {b : Buf} {bs : List UInt8}
    (hnull : b.isNull = false) (hroom : b.size + bs.length ≤ b.capacity) :
    queueBytes realloc b bs = .ok (some (b.append bs hroom)) := by
  rw [queueBytes, dif_neg (by omega), hnull]
  rfl

theorem packetHeader_ok {version tag msg : UInt32} {payload : Payload}
    (h : payload.wire.length ≤ 4) : ∃ hdr, packetHeader version tag msg payload = .ok hdr :=
  ⟨_, if_pos (by rw [headerSize]; omega)⟩

/-- A small packet on a new remote. -/
theorem remoteSendPkt_ok {sys : Sys} {s : Daemon} {r : RemotePtr} {tag msg : UInt32}
    {payload : Payload} (hy : s.remotes r = some y)
    (hob : y.ob = Buf.malloc replyBufSize (by decide)) (hlen : payload.wire.length ≤ 4) :
    ∃ res hdr y', remoteSendPkt sys s r tag msg payload =
      .ok (res, (s.update (·.setRemote r y')).emit [.remoteQueue r hdr payload]) := by
  obtain ⟨hdr, hhdr⟩ : ∃ hdr, packetHeader 1 tag msg payload = .ok hdr := packetHeader_ok hlen
  rw [remoteSendPkt, hhdr, Daemon.remote, hy]
  dsimp only [bind, Except.bind]
  rw [queueBytes_ok (by rw [hob]; rfl) (by
    rw [hob, List.length_append, length_headerBytes]
    show 0 + (16 + payload.wire.length) ≤ replyBufSize
    rw [replyBufSize]
    omega)]
  exact ⟨_, _, _, rfl⟩

/-- A small packet on a new client. -/
theorem sendPkt_ok {sys : Sys} {s : Daemon} {c : ClientPtr} {tag msg : UInt32}
    {payload : Payload} (hx : s.clients c = some x)
    (hob : x.ob = Buf.malloc replyBufSize (by decide)) (hlen : payload.wire.length ≤ 4) :
    ∃ hdr ob, sendPkt sys s c tag msg payload =
      .ok (hdr.length.toNat, (s.update (·.setClient c { x with
        ob := ob, events := { x.events with pollout := true } })).emit
        [.queue c hdr payload]) := by
  obtain ⟨hdr, hhdr⟩ : ∃ hdr, packetHeader x.protoVersion tag msg payload = .ok hdr :=
    packetHeader_ok hlen
  rw [sendPkt, Daemon.client, hx]
  dsimp only [bind, Except.bind]
  rw [hhdr]
  dsimp only
  rw [queueBytes_ok (by rw [hob]; rfl) (by
    rw [hob, List.length_append, length_headerBytes]
    show 0 + (16 + payload.wire.length) ≤ replyBufSize
    rw [replyBufSize]
    omega)]
  exact ⟨_, _, rfl⟩

theorem newRemoteFor_ok {s : Daemon} {k : UInt8} {r : RemotePtr} {z : RemoteMux}
    (hlist : s.remoteList.elems = [r]) (hz : s.remotes r = some z) (hid : z.id = k)
    (hstate : z.state = .listen) (hhost : z.host = some "host") :
    ∃ y, newRemoteFor { connect := some 0 } s k = .ok (some y) ∧
      y.ob = Buf.malloc replyBufSize (by decide) := by
  by_cases hk : k = 0
  · exact ⟨_, by rw [newRemoteFor, if_pos hk]; rfl, rfl⟩
  · refine ⟨{ remoteMuxNewWithFd { connect := some 0 } 0 with
      host := some "host", port := z.port }, ?_, rfl⟩
    rw [newRemoteFor, if_neg hk, hlist, findRemote, Daemon.remote, hz]
    dsimp only [bind, Except.bind]
    rw [hid, hstate, decide_eq_true rfl, decide_eq_true rfl]
    simp only [Bool.and_self, if_true]
    dsimp only [pure, Except.pure]
    rw [hhost]
    rfl

theorem probe_connect (b : Buf) (tag d : UInt32) (port : UInt16) (acts : List Act) :
    ∃ res t hdr, clientConnect probePlatform { connect := some 0 }
      ((probeState (probeClient .command b)
        (probeRemote .listen none (d >>> 24).toUInt8 newInput) .empty).emit acts) ⟨0⟩
      tag d (connectPlist d port) = .ok (res, t) ∧
      t.log = [] ++ acts ++ [.openRemote ⟨0⟩ ⟨1⟩ .connecting1] ++ [.remoteQueue ⟨1⟩ hdr
        (.plist (forwardedConnect d (connectPlist d port)) [])] := by
  let s : Daemon := { (probeState (probeClient .command b)
    (probeRemote .listen none (d >>> 24).toUInt8 newInput) .empty).emit acts with
    remoteListLocked := true }
  obtain ⟨y, hnew, hob⟩ := newRemoteFor_ok (s := s) (k := (d >>> 24).toUInt8) (r := ⟨0⟩)
    rfl rfl rfl rfl rfl
  have hlock : ((probeState (probeClient .command b) (probeRemote .listen none
      (d >>> 24).toUInt8 newInput) .empty).emit acts).lockRemoteList = .ok s := rfl
  let y₁ : RemoteMux :=
    { y with id := (d >>> 24).toUInt8, state := .connecting1, client := some ⟨0⟩ }
  let s₁ : Daemon := (((s.update (·.setClient ⟨0⟩
    { probeClient .command b with remote := some ⟨1⟩ })).update (·.addRemote y₁)).emit
    [.openRemote ⟨0⟩ ⟨1⟩ .connecting1]).unlockRemoteList
  have hlink : linkNewRemote s ⟨0⟩ y₁ = .ok (⟨1⟩, { s₁ with remoteListLocked := true }) := rfl
  obtain ⟨res, hdr, y₂, hsend⟩ : ∃ res hdr y₂, remoteSendPkt { connect := some 0 } s₁ ⟨1⟩ 0
      messagePlist (.plist (forwardedConnect d (connectPlist d port)) []) =
      .ok (res, (s₁.update (·.setRemote ⟨1⟩ y₂)).emit [.remoteQueue ⟨1⟩ hdr
        (.plist (forwardedConnect d (connectPlist d port)) [])]) :=
    remoteSendPkt_ok (y := y₁) rfl hob (Nat.zero_le _)
  rw [clientConnect, usbmuxRemoteConnect, hlock]
  dsimp only [bind, Except.bind]
  rw [hnew]
  dsimp only
  rw [hlink]
  dsimp only
  rw [remoteSendPlistPkt]
  dsimp only [probePlatform]
  have hs₁ : Daemon.unlockRemoteList { s₁ with remoteListLocked := true } = s₁ := rfl
  rw [hs₁, hsend]
  exact ⟨_, _, hdr, rfl, rfl⟩
/-- A binary `Connect` takes its request from fixed offsets. -/
theorem clientCommand_connect {plat : Platform} {sys : Sys} {s : Daemon} {c : ClientPtr}
    (hx : s.clients c = some x) (hstate : x.state = .command)
    (hver : (bufHeader plat x.ib).version = 0 ∨ (bufHeader plat x.ib).version = 1)
    (hmsg : (bufHeader plat x.ib).message = messageConnect) :
    clientCommand plat sys s c =
      clientConnect plat sys (s.emit [.command c (bufFrame plat x.ib)]) c
        (bufHeader plat x.ib).tag (le32At (x.ib.byteAt plat.uninit) headerSize)
        (connectPlist (le32At (x.ib.byteAt plat.uninit) headerSize)
          (le16At (x.ib.byteAt plat.uninit) (headerSize + 4))) := by
  have hspoken : ¬ ((bufHeader plat x.ib).version ≠ 0 ∧ (bufHeader plat x.ib).version ≠ 1) :=
    fun h => hver.elim h.1 h.2
  rw [clientCommand, Daemon.client, hx]
  dsimp only [bind, Except.bind]
  rw [if_neg (not_not.mpr hstate), if_neg hspoken, if_neg (by rw [hmsg]; decide),
    if_neg (by rw [hmsg]; decide), if_pos hmsg]

/-- A short `Connect` is completed with what lies behind it: here the last
byte of the port number is 0 in one state and 1 in the other. -/
theorem not_commandSeesOnly (hframe : IsFrame frame) (h : ShortConnect frame) :
    ¬ CommandSeesOnly .command frame := by
  obtain ⟨hspoken, hmsg, hlen⟩ := h
  have hn : frame.length ≤ 21 := Nat.le_of_lt_succ hlen
  have hcap : frame.length ≤ replyBufSize := Nat.le_trans hn (by decide)
  let b := probeBuf frame [] hcap
  let b' := probeBuf frame (oneAt frame 21) hcap
  have hb : Holds probePlatform b frame := holds_probeBuf hframe
  have hb' : Holds probePlatform b' frame := holds_probeBuf hframe
  have hsame : SameUpTo probePlatform.uninit 21 b b' := sameUpTo_oneAt hn
  let d := le32At (b.byteAt probePlatform.uninit) headerSize
  have hd : le32At (b'.byteAt probePlatform.uninit) headerSize = d :=
    le32At_congr fun i _ hi => hsame.bytes i (Nat.lt_of_lt_of_le hi (by decide))
  let port := le16At (b.byteAt probePlatform.uninit) (headerSize + 4)
  let port' := le16At (b'.byteAt probePlatform.uninit) (headerSize + 4)
  have hport : port' ≠ port := by
    intro heq
    have hnat := congrArg UInt16.toNat heq
    rw [toNat_le16At, toNat_le16At, hsame.bytes (headerSize + 4) (by decide),
      show b'.byteAt probePlatform.uninit (headerSize + 4 + 1) = 1 from byteAt_oneAt hn,
      show b.byteAt probePlatform.uninit (headerSize + 4 + 1) = 0 from
        byteAt_probeBuf.trans (List.getD_eq_default _ _ hn)] at hnat
    exact absurd (Nat.add_left_cancel hnat) (by decide)
  intro hsees
  let y := probeRemote .listen none (d >>> 24).toUInt8 newInput
  let s := probeState (probeClient .command b) y .empty
  let s' := probeState (probeClient .command b') y .empty
  have halike : Alike (clientLeftovers probePlatform ⟨0⟩ frame.length) false false s s' := by
    refine probeState_alike ⟨b', rfl, ?_⟩ ⟨newInput, rfl, rfl⟩ rfl rfl
    exact clientLeftovers_self.mpr (hsame.mono hn)
  have hagree := hsees probePlatform { connect := some 0 } s s' ⟨0⟩ (probeClient .command b)
    rfl rfl hb halike
  have hver : ∀ {z : Buf}, Holds probePlatform z frame → (bufHeader probePlatform z).version = 0 ∨
      (bufHeader probePlatform z).version = 1 := fun hz => by rw [hz.bufHeader]; exact hspoken
  have hcon : ∀ {z : Buf}, Holds probePlatform z frame →
      (bufHeader probePlatform z).message = messageConnect :=
    fun hz => by rw [hz.bufHeader]; exact hmsg
  obtain ⟨res, t, hdr, ht, hlog⟩ := probe_connect b
    (bufHeader probePlatform b).tag d port [.command ⟨0⟩ (bufFrame probePlatform b)]
  obtain ⟨res', t', hdr', ht', hlog'⟩ := probe_connect b'
    (bufHeader probePlatform b').tag d port' [.command ⟨0⟩ (bufFrame probePlatform b')]
  have hrun : clientCommand probePlatform { connect := some 0 } s ⟨0⟩ = .ok (res, t) :=
    (clientCommand_connect (x := probeClient .command b) rfl rfl (hver hb) (hcon hb)).trans ht
  have hrun' : clientCommand probePlatform { connect := some 0 } s' ⟨0⟩ = .ok (res', t') := by
    refine (clientCommand_connect (x := probeClient .command b') rfl rfl (hver hb')
      (hcon hb')).trans ?_
    dsimp only [probeClient]
    rw [hd]
    exact ht'
  have hsamelog : t'.log = t.log := (Both.of_ok hagree hrun hrun').2.log
  rw [hlog, hlog', hb.bytes, hb'.bytes] at hsamelog
  have hlast := List.singleton_injective (List.append_cancel_left hsamelog)
  simp only [Act.remoteQueue.injEq, Payload.plist.injEq, true_and, and_true] at hlast
  have hreq : port'.toUInt64 = port.toUInt64 := by
    simpa [forwardedConnect, connectPlist, plistDictSetItem, assocSet] using hlast.2
  exact hport (UInt16.toUInt64_inj.mp hreq)

/-! The same for the frames of a remote: the state, the request it waits for
and the offset of the byte that differs vary. -/

section Reply

variable {state : RemoteState} {cmd : Option RemoteCommand}

/-- The branch of `remote_handle_command_result` for each state. -/
def handleInState (plat : Platform) (sys : Sys) : RemoteState → Daemon → RemotePtr → RemoteMux →
    Option Plist → Except Fault Daemon
  | .command => handleCommandState plat sys
  | .listen => handleListenState plat sys
  | .connecting1 => handleConnectingState plat sys
  | _ => fun s _ _ _ => .ok s

/-- A frame that is handled, up to the branch for the state of the remote. -/
theorem remoteHandleCommandResult_spoken {plat : Platform} {sys : Sys} {s : Daemon}
    {r : RemotePtr} (hy : s.remotes r = some y)
    (hver : (bufHeader plat y.ib).version = 0 ∨ (bufHeader plat y.ib).version = 1) :
    remoteHandleCommandResult plat sys s r =
      handleInState plat sys y.state (s.emit [.frame r (bufFrame plat y.ib)]) r y
        (framePlist plat y.ib) := by
  have hspoken : ¬ ((bufHeader plat y.ib).version ≠ 0 ∧ (bufHeader plat y.ib).version ≠ 1) :=
    fun h => hver.elim h.1 h.2
  rw [remoteHandleCommandResult, Daemon.remote, hy]
  dsimp only [bind, Except.bind]
  rw [if_neg hspoken]
  unfold handleInState
  cases y.state <;> rfl

/-- What a frame does to the one remote, which holds it in its buffer. -/
def probeRun (frame : List UInt8) (client : ClientState) (state : RemoteState)
    (cmd : Option RemoteCommand) (devices : OMap String Plist) (b : Buf) : Except Fault Daemon :=
  handleInState probePlatform {} state ((probeState (probeClient client newInput)
    (probeRemote state cmd 0 b) devices).emit [.frame ⟨0⟩ frame]) ⟨0⟩
    (probeRemote state cmd 0 b) none

theorem remoteHandleCommandResult_probe {client : ClientState} {devices : OMap String Plist}
    {b : Buf} (hspoken : Spoken frame) (hb : Holds probePlatform b frame) :
    remoteHandleCommandResult probePlatform {} (probeState (probeClient client newInput)
      (probeRemote state cmd 0 b) devices) ⟨0⟩ = probeRun frame client state cmd devices b := by
  have hplist : framePlist probePlatform b = none := by
    rw [framePlist]
    split <;> rfl
  rw [remoteHandleCommandResult_spoken (y := probeRemote state cmd 0 b) rfl
    (hb.bufHeader ▸ hspoken)]
  dsimp only [probeRemote]
  rw [hb.bytes, hplist]
  rfl

/-- Two buffers that hold the frame and differ in one byte behind it. A frame
that is not read past does the same with both. -/
theorem probe_reply (client : ClientState) (devices : OMap String Plist)
    (hframe : IsFrame frame) (hspoken : Spoken frame) (hn : frame.length ≤ n) (hsmall : n < 64)
    (hsees : ReplySeesOnly state cmd frame) :
    ∃ b b', Holds probePlatform b frame ∧ Holds probePlatform b' frame ∧
      (∀ i, b.byteAt probePlatform.uninit i = frame.getD i 0) ∧
      (∀ i, b'.byteAt probePlatform.uninit i = if i = n then 1 else frame.getD i 0) ∧
      Agree (Alike (remoteLeftovers probePlatform ⟨0⟩ frame.length) false false)
        (probeRun frame client state cmd devices b)
        (probeRun frame client state cmd devices b') := by
  have hcap : frame.length ≤ replyBufSize := by
    rw [replyBufSize]
    omega
  refine ⟨probeBuf frame [] hcap, probeBuf frame (oneAt frame n) hcap, holds_probeBuf hframe,
    holds_probeBuf hframe, fun i => byteAt_probeBuf, fun i => byteAt_oneAt hn, ?_⟩
  rw [← remoteHandleCommandResult_probe hspoken (holds_probeBuf hframe),
    ← remoteHandleCommandResult_probe hspoken (holds_probeBuf hframe)]
  refine hsees probePlatform {} _ _ ⟨0⟩ (probeRemote state cmd 0 (probeBuf frame [] hcap)) rfl rfl
    rfl (holds_probeBuf hframe) (probeState_alike ⟨newInput, rfl, rfl⟩ ⟨_, rfl, ?_⟩ rfl rfl)
  exact remoteLeftovers_self.mpr ((sameUpTo_oneAt hn).mono hn)

/-- The result of a short message, up to the byte that differs. -/
theorem messageGetResult_result {plat : Platform} {b : Buf} {p : Option Plist}
    (h : (bufHeader plat b).message = messageResult) :
    messageGetResult plat b p = le32At (b.byteAt plat.uninit) headerSize := by
  unfold messageGetResult
  rw [if_pos h]

/-- A connect result is passed on to the client as it was read. -/
theorem clientNotifyConnect_probe (acts : List Act) (y : RemoteMux) (v : UInt32) :
    ∃ t hdr, clientNotifyConnect probePlatform {}
      ((probeState (probeClient .connecting1 newInput) y .empty).emit acts) ⟨0⟩ v = .ok (0, t) ∧
      t.log = [] ++ acts ++ [.queue ⟨0⟩ hdr (.binary (le32 v))] ++ [.notifyConnect ⟨0⟩ v] ∧
      t.remotes ⟨0⟩ = some y := by
  let s := (probeState (probeClient .connecting1 newInput) y .empty).emit acts
  obtain ⟨hdr, ob, hsend⟩ : ∃ hdr ob, sendPkt {} s ⟨0⟩ 0 messageResult (.binary (le32 v)) =
      .ok (hdr.length.toNat, (s.update (·.setClient ⟨0⟩ { probeClient .connecting1 newInput with
        ob := ob, events := { pollin := true, pollout := true } })).emit
        [.queue ⟨0⟩ hdr (.binary (le32 v))]) :=
    sendPkt_ok rfl rfl (Nat.le_refl 4)
  have hresult : sendResult probePlatform {} s ⟨0⟩ 0 v =
      sendPkt {} s ⟨0⟩ 0 messageResult (.binary (le32 v)) := rfl
  have hclient : s.client ⟨0⟩ = .ok (probeClient .connecting1 newInput) := rfl
  rw [clientNotifyConnect, hclient]
  dsimp only [bind, Except.bind]
  rw [if_neg (by decide), show (probeClient .connecting1 newInput).connectTag = 0 from rfl,
    hresult, hsend]
  dsimp only
  rw [if_neg (by omega)]
  exact ⟨_, hdr, rfl, rfl, rfl⟩

/-- A connect result reaches the client as it was read. -/
theorem probeRun_connecting (frame : List UInt8) (cmd : Option RemoteCommand) (b : Buf) :
    ∃ t hdr rest, probeRun frame .connecting1 .connecting1 cmd .empty b = .ok t ∧
      t.log = .frame ⟨0⟩ frame ::
        .queue ⟨0⟩ hdr (.binary (le32 (messageGetResult probePlatform b none))) ::
        .notifyConnect ⟨0⟩ (messageGetResult probePlatform b none) :: rest := by
  obtain ⟨t, hdr, ht, hlog, hy⟩ := clientNotifyConnect_probe [.frame ⟨0⟩ frame]
    (probeRemote .connecting1 cmd 0 b) (messageGetResult probePlatform b none)
  have hremote : t.remote ⟨0⟩ = .ok (probeRemote .connecting1 cmd 0 b) := by
    rw [Daemon.remote, hy]
  have hclient : Daemon.remoteClient ((probeState (probeClient .connecting1 newInput)
      (probeRemote .connecting1 cmd 0 b) .empty).emit [.frame ⟨0⟩ frame]) ⟨0⟩
      (probeRemote .connecting1 cmd 0 b) = .ok ⟨0⟩ := rfl
  rw [probeRun, handleInState, handleConnectingState, hclient]
  dsimp only [bind, Except.bind]
  rw [show messageGetResult probePlatform (probeRemote .connecting1 cmd 0 b).ib none =
    messageGetResult probePlatform b none from rfl, ht]
  dsimp only
  by_cases hok : messageGetResult probePlatform b none = resultOk
  · rw [if_pos hok, Daemon.modifyRemote, hremote]
    refine ⟨_, hdr, [.remoteConnected ⟨0⟩], rfl, ?_⟩
    show t.log ++ [.remoteConnected ⟨0⟩] = _
    rw [hlog]
    rfl
  · rw [if_neg hok]
    refine ⟨t, hdr, [], rfl, ?_⟩
    rw [hlog]
    rfl

/-- The word behind the header when its last byte is not in the frame. -/
theorem probe_word {b b' : Buf} (hn : frame.length ≤ headerSize + 3)
    (hbyte : ∀ i, b.byteAt probePlatform.uninit i = frame.getD i 0)
    (hbyte' : ∀ i, b'.byteAt probePlatform.uninit i =
      if i = headerSize + 3 then 1 else frame.getD i 0) :
    le32At (b'.byteAt probePlatform.uninit) headerSize ≠
      le32At (b.byteAt probePlatform.uninit) headerSize := by
  refine le32At_ne_of_last (fun i _ hi => ?_) ?_
  · rw [hbyte, hbyte', if_neg (Nat.ne_of_lt hi)]
  · rw [hbyte, hbyte', if_pos rfl, List.getD_eq_default _ _ hn]
    decide

theorem not_replySeesOnly_connecting (hframe : IsFrame frame) (hspoken : Spoken frame)
    (hmsg : (frameHeader frame).message = messageResult) (hlen : frame.length < headerSize + 4) :
    ¬ ReplySeesOnly .connecting1 cmd frame := by
  intro hsees
  have hn : frame.length ≤ headerSize + 3 := Nat.le_of_lt_succ hlen
  obtain ⟨b, b', hb, hb', hbyte, hbyte', hagree⟩ :=
    probe_reply .connecting1 .empty hframe hspoken hn (by decide) hsees
  obtain ⟨t, hdr, rest, ht, hlog⟩ := probeRun_connecting frame cmd b
  obtain ⟨t', hdr', rest', ht', hlog'⟩ := probeRun_connecting frame cmd b'
  have hsame : t'.log = t.log := (Both.of_ok hagree ht ht').log
  rw [hlog, hlog'] at hsame
  simp only [List.cons.injEq, Act.notifyConnect.injEq, true_and] at hsame
  have hres := hsame.2.1
  rw [messageGetResult_result (by rw [hb'.bufHeader]; exact hmsg),
    messageGetResult_result (by rw [hb.bufHeader]; exact hmsg)] at hres
  exact probe_word hn hbyte hbyte' hres

/-- Whether a remote that asked to listen may do so is read off the result. -/
theorem probeRun_command (frame : List UInt8) (b : Buf) :
    ∃ t y, probeRun frame .command .command (some .listen) .empty b = .ok t ∧
      t.remotes ⟨0⟩ = some y ∧
      (y.state = .listen ↔ messageGetResult probePlatform b none = resultOk) := by
  let y := probeRemote .command (some .listen) 0 b
  let s := (probeState (probeClient .command newInput) y .empty).emit [.frame ⟨0⟩ frame]
  by_cases hok : messageGetResult probePlatform b none = resultOk
  · refine ⟨(s.update (·.setRemote ⟨0⟩ (probeRemote .listen (some .listen) 0 b))).update
      (·.setRemote ⟨0⟩ (probeRemote .listen none 0 b)), probeRemote .listen none 0 b, ?_, rfl,
      iff_of_true rfl hok⟩
    have hreply : commandReply probePlatform {} s ⟨0⟩ y none =
        s.modifyRemote ⟨0⟩ fun x => { x with state := .listen } := if_pos hok
    rw [probeRun, handleInState, handleCommandState, hreply]
    rfl
  · refine ⟨s.update (·.setRemote ⟨0⟩ (probeRemote .command none 0 b)),
      probeRemote .command none 0 b, ?_, rfl, iff_of_false (fun h => nomatch h) hok⟩
    have hreply : commandReply probePlatform {} s ⟨0⟩ y none = .ok s := if_neg hok
    rw [probeRun, handleInState, handleCommandState, hreply]
    rfl

theorem not_replySeesOnly_command (hframe : IsFrame frame) (hspoken : Spoken frame)
    (hmsg : (frameHeader frame).message = messageResult) (hlen : frame.length < headerSize + 4)
    (hzero : ∀ i, headerSize ≤ i → frame.getD i 0 = 0) :
    ¬ ReplySeesOnly .command (some .listen) frame := by
  intro hsees
  have hn : frame.length ≤ headerSize + 3 := Nat.le_of_lt_succ hlen
  obtain ⟨b, b', hb, hb', hbyte, hbyte', hagree⟩ :=
    probe_reply .command .empty hframe hspoken hn (by decide) hsees
  obtain ⟨t, y, ht, hy, hstate⟩ := probeRun_command frame b
  obtain ⟨t', y', ht', hy', hstate'⟩ := probeRun_command frame b'
  have hword : le32At (b.byteAt probePlatform.uninit) headerSize = 0 := by
    refine UInt32.toNat_inj.mp ?_
    rw [toNat_le32At, hbyte, hbyte, hbyte, hbyte, hzero _ (Nat.le_refl _),
      hzero _ (Nat.le_add_right _ _), hzero _ (Nat.le_add_right _ _),
      hzero _ (Nat.le_add_right _ _)]
    rfl
  rw [messageGetResult_result (by rw [hb.bufHeader]; exact hmsg)] at hstate
  rw [messageGetResult_result (by rw [hb'.bufHeader]; exact hmsg)] at hstate'
  have hlike := (Both.of_ok hagree ht ht').remotes ⟨0⟩
  rw [hy, hy'] at hlike
  obtain ⟨ib, hib, _⟩ | _ := hlike
  have hsame : y'.state = y.state := by rw [hib]
  have hlisten : y'.state = .listen := hsame.trans (hstate.mpr hword)
  exact probe_word hn hbyte hbyte' ((hstate'.mp hlisten).trans hword.symm)

theorem probeRun_listen_remove (frame : List UInt8) (cmd : Option RemoteCommand)
    (devices : OMap String Plist) {b : Buf}
    (hmsg : (bufHeader probePlatform b).message = messageDeviceRemove) :
    ∃ t, probeRun frame .command .listen cmd devices b = .ok t ∧
      t.remoteDeviceList = devices.erase (deviceKey (remoteDevid 0
        (le32At (b.byteAt probePlatform.uninit) headerSize))) := by
  have hdev : deviceMessage probePlatform 0 b none = (some .remove, remoteDevid 0
      (le32At (b.byteAt probePlatform.uninit) headerSize)) := by
    rw [deviceMessage, hmsg]
    rfl
  let s := (probeState (probeClient .command newInput)
    (probeRemote .listen cmd 0 b) devices).emit [.frame ⟨0⟩ frame]
  refine ⟨s.update fun s => { s with remoteDeviceList := s.remoteDeviceList.erase (deviceKey
    (remoteDevid 0 (le32At (b.byteAt probePlatform.uninit) headerSize))) }, ?_, rfl⟩
  rw [probeRun, handleInState, handleListenState]
  dsimp only [probeRemote]
  rw [hdev]
  rfl

theorem not_replySeesOnly_remove (hframe : IsFrame frame) (hspoken : Spoken frame)
    (hmsg : (frameHeader frame).message = messageDeviceRemove)
    (hlen : frame.length < headerSize + 3) : ¬ ReplySeesOnly .listen cmd frame := by
  intro hsees
  have hn : frame.length ≤ headerSize + 2 := Nat.le_of_lt_succ hlen
  let key := deviceKey (remoteDevid 0 (le32At (fun i => frame.getD i 0) headerSize))
  obtain ⟨b, b', hb, hb', hbyte, hbyte', hagree⟩ := probe_reply .command
    (OMap.empty.set key (.dict [])) hframe hspoken hn (by decide) hsees
  obtain ⟨t, ht, hdevs⟩ := probeRun_listen_remove frame cmd
    (OMap.empty.set key (.dict [])) (b := b) (by rw [hb.bufHeader]; exact hmsg)
  obtain ⟨t', ht', hdevs'⟩ := probeRun_listen_remove frame cmd
    (OMap.empty.set key (.dict [])) (b := b') (by rw [hb'.bufHeader]; exact hmsg)
  have hsame : t'.remoteDeviceList = t.remoteDeviceList :=
    (Both.of_ok hagree ht ht').remoteDeviceList
  have hkey : deviceKey (remoteDevid 0 (le32At (b.byteAt probePlatform.uninit) headerSize)) =
      key := by
    rw [funext hbyte]
  -- the entry goes in one run and stays in the other
  have hget := congrArg (OMap.get · key) hsame
  rw [hdevs, hdevs', hkey, OMap.get_erase, OMap.get_erase, if_pos rfl] at hget
  by_cases heq : key = deviceKey (remoteDevid 0
      (le32At (b'.byteAt probePlatform.uninit) headerSize))
  · have hid := congrArg (UInt32.toNat ∘ keyDevice) heq
    dsimp only [Function.comp] at hid
    rw [keyDevice_deviceKey, keyDevice_deviceKey, toNat_remoteDevid, toNat_remoteDevid,
      toNat_le32At, toNat_le32At, hbyte', hbyte', hbyte', if_neg (by omega), if_neg (by omega),
      if_pos rfl, List.getD_eq_default _ _ hn] at hid
    have h₁ : (frame.getD headerSize 0).toNat < 2 ^ 8 := UInt8.toNat_lt _
    have h₂ : (frame.getD (headerSize + 1) 0).toNat < 2 ^ 8 := UInt8.toNat_lt _
    rw [show (1 : UInt8).toNat = 1 from rfl, show (0 : UInt8).toNat = 0 from rfl] at hid
    omega
  · rw [if_neg heq, OMap.get_set, if_pos rfl] at hget
    cases hget

theorem probeRun_listen_add (frame : List UInt8) (cmd : Option RemoteCommand) {b : Buf}
    (hmsg : (bufHeader probePlatform b).message = messageDeviceAdd) :
    ∃ t devid location pid, probeRun frame .command .listen cmd .empty b = .ok t ∧
      t.remoteDeviceList = OMap.empty.set (deviceKey devid) (createDeviceAttachedPlist devid ""
        location pid (le64At (b.byteAt probePlatform.uninit) (headerSize + 24))) := by
  have hdev : deviceMessage probePlatform 0 b none = (some .add, remoteDevid 0
      (le32At (b.byteAt probePlatform.uninit) headerSize)) := by
    rw [deviceMessage, hmsg]
    rfl
  let devid := remoteDevid 0 (le32At (b.byteAt probePlatform.uninit) headerSize)
  let dev := createDeviceAttachedPlist devid ""
    (le32At (b.byteAt probePlatform.uninit) (headerSize + 16))
    (le16At (b.byteAt probePlatform.uninit) (headerSize + 20))
    (le64At (b.byteAt probePlatform.uninit) (headerSize + 24))
  let s := (probeState (probeClient .command newInput)
    (probeRemote .listen cmd 0 b) .empty).emit [.frame ⟨0⟩ frame]
  refine ⟨(s.update (·.setRemote ⟨0⟩ (probeRemote .listen cmd 0
    (b.patch probePlatform.uninit headerSize (le32 devid))))).update fun s =>
    { s with remoteDeviceList := s.remoteDeviceList.set (deviceKey devid) dev },
    devid, _, _, ?_, rfl⟩
  rw [probeRun, handleInState, handleListenState]
  dsimp only [probeRemote]
  rw [hdev]
  rfl

theorem not_replySeesOnly_add (hframe : IsFrame frame) (hspoken : Spoken frame)
    (hmsg : (frameHeader frame).message = messageDeviceAdd)
    (hlen : frame.length < headerSize + 32) : ¬ ReplySeesOnly .listen cmd frame := by
  intro hsees
  have hn : frame.length ≤ headerSize + 24 + 7 := Nat.le_of_lt_succ hlen
  obtain ⟨b, b', hb, hb', hbyte, hbyte', hagree⟩ :=
    probe_reply .command .empty hframe hspoken hn (by decide) hsees
  obtain ⟨t, devid, location, pid, ht, hdevs⟩ := probeRun_listen_add frame cmd (b := b)
    (by rw [hb.bufHeader]; exact hmsg)
  obtain ⟨t', devid', location', pid', ht', hdevs'⟩ := probeRun_listen_add frame cmd
    (b := b') (by rw [hb'.bufHeader]; exact hmsg)
  have hsame : t'.remoteDeviceList = t.remoteDeviceList :=
    (Both.of_ok hagree ht ht').remoteDeviceList
  have hentry := congrArg OMap.entries hsame
  rw [hdevs, hdevs'] at hentry
  have hspeed : le64At (b'.byteAt probePlatform.uninit) (headerSize + 24) =
      le64At (b.byteAt probePlatform.uninit) (headerSize + 24) := by
    have hpair := List.singleton_injective hentry
    simp only [Prod.mk.injEq, createDeviceAttachedPlist, Plist.dict.injEq, List.cons.injEq,
      Plist.uint.injEq, true_and] at hpair
    exact hpair.2.2.1.1
  have hnat := congrArg UInt64.toNat hspeed
  have hlow : le32At (b'.byteAt probePlatform.uninit) (headerSize + 24) =
      le32At (b.byteAt probePlatform.uninit) (headerSize + 24) :=
    le32At_congr fun i _ hi => by rw [hbyte, hbyte', if_neg (by omega)]
  rw [toNat_le64At, toNat_le64At, hlow] at hnat
  have hhigh : le32At (b'.byteAt probePlatform.uninit) (headerSize + 24 + 4) =
      le32At (b.byteAt probePlatform.uninit) (headerSize + 24 + 4) :=
    UInt32.toNat_inj.mp (Nat.eq_of_mul_eq_mul_left (by decide) (Nat.add_left_cancel hnat))
  refine le32At_ne_of_last (fun i _ hi => ?_) ?_ hhigh
  · rw [hbyte, hbyte', if_neg (Nat.ne_of_lt hi)]
  · rw [hbyte, hbyte', if_pos rfl, List.getD_eq_default _ _ hn]
    decide

theorem not_replySeesOnly (hframe : IsFrame frame) (h : ShortReply state cmd frame) :
    ¬ ReplySeesOnly state cmd frame := by
  obtain ⟨hspoken, ⟨hmsg, hlen, hstate⟩ | ⟨hmsg, rfl, hlen⟩ | ⟨hmsg, rfl, hlen⟩⟩ := h
  · obtain rfl | ⟨rfl, rfl, hzero⟩ := hstate
    · exact not_replySeesOnly_connecting hframe hspoken hmsg hlen
    · exact not_replySeesOnly_command hframe hspoken hmsg hlen hzero
  · exact not_replySeesOnly_remove hframe hspoken hmsg hlen
  · exact not_replySeesOnly_add hframe hspoken hmsg hlen

end Reply

end Probes

/-! ## The exact condition -/

/-- The handlers see only the frame, except for the short ones. -/
theorem handlers_seeOnlyFrame_iff (frame : List UInt8) (hframe : IsFrame frame) :
    (∀ state, CommandSeesOnly state frame ↔ ¬ (state = .command ∧ ShortConnect frame)) ∧
      ∀ state lastCommand, ReplySeesOnly state lastCommand frame ↔
        ¬ ShortReply state lastCommand frame := by
  refine ⟨fun state => ⟨?_, clientCommand_seesOnly⟩, fun state lastCommand =>
    ⟨fun hsees hshort => not_replySeesOnly hframe hshort hsees,
      remoteHandleCommandResult_seesOnly⟩⟩
  rintro hsees ⟨rfl, hshort⟩
  exact not_commandSeesOnly hframe hshort hsees

/-- A `MESSAGE_RESULT` without its result. -/
def emptyResult : List UInt8 := Header.bytes ⟨16, 1, messageResult, 0⟩

/-- A removal with its device id. -/
def wholeRemoval : List UInt8 := Header.bytes ⟨20, 1, messageDeviceRemove, 0⟩ ++ [7, 0, 0, 0]

theorem handlers_seeOnlyFrame_iff_removal :
    IsFrame wholeRemoval ∧ ReplySeesOnly .listen none wholeRemoval := by
  have hframe : IsFrame wholeRemoval := ⟨by decide, by decide⟩
  refine ⟨hframe, ((handlers_seeOnlyFrame_iff wholeRemoval hframe).2 .listen none).mpr ?_⟩
  rintro ⟨_, ⟨hmsg, _⟩ | ⟨_, _, hlen⟩ | ⟨hmsg, _⟩⟩
  · exact absurd hmsg (by decide)
  · exact absurd hlen (by decide)
  · exact absurd hmsg (by decide)

/-- An empty result is answered with whatever lies behind it. -/
theorem emptyResult_seesLeftovers :
    IsFrame emptyResult ∧ ¬ ReplySeesOnly .connecting1 none emptyResult := by
  have hframe : IsFrame emptyResult := ⟨by decide, by decide⟩
  exact ⟨hframe, not_replySeesOnly_connecting hframe (Or.inr (by decide)) (by decide) (by decide)⟩

end Usbfluxd
