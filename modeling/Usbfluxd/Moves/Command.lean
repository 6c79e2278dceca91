import Usbfluxd.Moves.Request

/-!
# Events on a client are moves

`client_command`, the frame reader, `process_recv`, `process_send` and the
two relay directions, up to `client_process`.

Which requests are forwarded, and to which remote id, is a function of the
frame and the device dictionary (`forwardTarget`); conditions on what a
client may ask for are stated with it.
-/

namespace Usbfluxd

open Lib

/-! ## Forwarded requests -/

/-- The remote id a plist request is forwarded to and the state its remote
starts in, if it is forwarded at all. -/
def plistTarget (s : Daemon) (message : String) (dict : Plist) :
    Option (UInt8 × RemoteState) :=
  if message = "Connect" then
    match requestUint dict "DeviceID", requestUint dict "PortNumber" with
    | some deviceId, some _ => some ((deviceId.toUInt32 >>> 24).toUInt8, .connecting1)
    | _, _ => none
  else if message = "ReadBUID" then
    some (firstDeviceRemote s.remoteDeviceList.entries, .command)
  else if message = "ReadPairRecord" ∨ message = "SavePairRecord" ∨
      message = "DeletePairRecord" then
    match pairRecordRemote s (plistDictCopyStringVal dict "PairRecordID") with
    | .ok k => some (k, .command)
    | .error _ => none
  else none

/-- The same for the frame at the start of a client's input buffer. -/
def forwardTarget (plat : Platform) (s : Daemon) (b : Buf) : Option (UInt8 × RemoteState) :=
  if (bufHeader plat b).version ≠ 0 ∧ (bufHeader plat b).version ≠ 1 then none
  else if (bufHeader plat b).message = messagePlist then
    (plat.plistFromXml (bufPayload plat b)).bind fun dict =>
      (plistDictCopyStringVal dict "MessageType").bind fun message =>
        plistTarget s message dict
  else if (bufHeader plat b).message = messageConnect then
    some ((le32At (b.byteAt plat.uninit) headerSize >>> 24).toUInt8, .connecting1)
  else none

/-- The type of a plist request. -/
def plistMessage (plat : Platform) (b : Buf) : Option String :=
  if (bufHeader plat b).message = messagePlist then
    (plat.plistFromXml (bufPayload plat b)).bind (plistDictCopyStringVal · "MessageType")
  else none

/-- What a request may ask for besides a connection is allowed. -/
structure RequestOk (A : Allow) (plat : Platform) (b : Buf) : Prop where
  grow : plistMessage plat b = some "Listen" ∨ plistMessage plat b = some "AddInstance" ∨
    (bufHeader plat b).message = messageListen → A.growOk
  reap : plistMessage plat b = some "RemoveInstance" → A.reapOk ∧ A.killOk

/-! ## Frames -/

section Frames

variable {A : Allow} {s₀ : Core} {plat : Platform} {sys : Sys} {b : Buf}

theorem recvInto_runs {len : Nat} :
    Runs A s₀ (fun o => ∀ p, o = some p → p.2.data = b.data ++ p.1 ∧ p.2.isNull = b.isNull)
      (recvInto sys b len) := by
  rw [recvInto]
  split
  · intro p hp
    cases hp
  · split
    · intro p hp
      cases hp
    · intro p hp
      cases hp
    · split
      · intro p hp
        cases hp
        exact ⟨rfl, rfl⟩
      · exact Runs.fault trivial

/-- What reading a frame does to the buffer. -/
def FrameRead (b : Buf) (rf : ReadFrame) : Prop :=
  rf.ib.data = b.data ++ rf.got ∧ rf.ib.isNull = b.isNull ∧
    (rf.outcome = .frame → b.isNull = false)

theorem readBody_runs {got : Option (List UInt8)} {b₀ : Buf} (hnull : b.isNull = b₀.isNull)
    (hdata : b.data = b₀.data ++ got.getD []) :
    Runs A s₀ (FrameRead b₀) (readBody plat sys got b) := by
  rw [readBody]
  split
  · exact Runs.fault trivial
  · next hb =>
      rw [Bool.not_eq_true, hnull] at hb
      dsimp only
      split
      · exact ⟨hdata, hnull, fun _ => hb⟩
      · split
        · split
          · exact ⟨hdata, hnull, fun _ => hb⟩
          · refine recvInto_runs.bind ?_
            rintro (_ | ⟨bs, b'⟩) ho
            · exact ⟨hdata, hnull, fun _ => hb⟩
            · obtain ⟨hdata', hnull'⟩ := ho _ rfl
              rw [Option.getD_none, List.append_nil] at hdata
              rw [hdata] at hdata'
              exact ⟨hdata', hnull'.trans hnull, fun _ => hb⟩
        · exact ⟨hdata, hnull, fun _ => hb⟩

theorem readFrame_runs : Runs A s₀ (FrameRead b) (readFrame plat sys b) := by
  rw [readFrame]
  split
  · refine recvInto_runs.bind ?_
    rintro (_ | ⟨bs, b'⟩) ho
    · exact ⟨(List.append_nil _).symm, rfl, fun h => by cases h⟩
    · obtain ⟨hdata, hnull⟩ := ho _ rfl
      show Runs A s₀ _ (if b'.size < headerSize then _ else _)
      split
      · exact ⟨hdata, hnull, fun h => by cases h⟩
      · exact readBody_runs hnull hdata
  · exact readBody_runs rfl (List.append_nil _).symm

end Frames

/-! ## Commands -/

section Commands

variable {A : Allow} {s₀ : Core} {s : Daemon} {plat : Platform} {sys : Sys} {c : ClientPtr}
  {tag : UInt32}

/-- A result may be sent to any client that has its input buffer. -/
theorem sendResult_moves {result : UInt32}
    (hinput : ∀ x, s.clients c = some x → x.ib.isNull = false) :
    Runs A s₀ (fun res => Moves A s.toCore res.2.toCore)
      (sendResult plat sys s c tag result) :=
  sendResult_runs.imp fun _ h => h.moves hinput fun _ hpkt => Or.inr ⟨_, _, hpkt⟩

theorem reply_moves {result : UInt32}
    (hinput : ∀ x, s.clients c = some x → x.ib.isNull = false) :
    Runs A s₀ (fun res => Moves A s.toCore res.2.toCore) (reply plat sys s c tag result) :=
  (sendResult_moves hinput).bind fun _ h => h

theorem Commanding.input (hc : Commanding c s.toCore) (x : MuxClient)
    (hx : s.clients c = some x) : x.ib.isNull = false := by
  obtain ⟨x', hx', _, hib⟩ := hc
  cases hx.symm.trans hx'
  exact hib

theorem clientListen_moves (hloss : Loss plat sys → A.lossOk) (hgrow : A.growOk)
    (hc : Commanding c s.toCore) :
    Runs A s₀ (fun res => Moves A s.toCore res.2.toCore)
      (clientListen plat sys s c tag) := by
  refine sendResult_runs.bind ?_
  rintro ⟨res, s₁⟩ h₁
  have hm : Moves A s.toCore s₁.toCore := h₁.moves_commanding hc
  show Runs A s₀ _ (if res < 0 then _ else _)
  split
  · exact hm
  · exact (startListen_runs hloss hgrow (h₁.commanding hc)).imp fun _ h => hm.trans h

theorem clientConnect_moves {deviceId : UInt32} {req : Plist}
    (hloss : Loss plat sys → A.lossOk) (hc : Commanding c s.toCore)
    (hopen : OpenAllowed A sys s c (deviceId >>> 24).toUInt8 .connecting1)
    (hfd : MayConnect A sys s.toCore) :
    Runs A s₀ (fun res => Moves A s.toCore res.2.toCore)
      (clientConnect plat sys s c tag deviceId req) := by
  refine usbmuxRemoteConnect_runs.bind ?_
  rintro ⟨res, s₁⟩ (⟨hneg, h₁⟩ | ⟨hzero, x, y, y₀, acts, hx, hnew, hunix, hend, hconn, hkind,
    hfirst, h₁⟩)
  · have hneg' : res < 0 := hneg
    simp only [if_pos hneg']
    rw [← show s₁.toCore = s.toCore from h₁] at hc ⊢
    exact reply_moves hc.input
  · obtain rfl : res = 0 := hzero
    simp only [Int.lt_irrefl, if_false]
    obtain ⟨x', hx', hstate, _⟩ := hc
    cases hx.symm.trans hx'
    refine modifyClient_runs.bind ?_
    rintro s₂ ⟨x', hx', rfl⟩
    have hself : s₁.clients c = some { x with remote := some ⟨s.nextRemote⟩ } := by
      rw [show s₁.toCore = _ from h₁]
      exact if_pos rfl
    cases hself.symm.trans hx'
    have hfirst' : FirstPacket A.lossOk ⟨s.nextRemote⟩ (IsForwardedConnect deviceId) y acts :=
      hfirst.imp hloss (fun _ ⟨xml, hp⟩ => ⟨req, xml, hp⟩) rfl rfl
    show Moves A _ (s₁.toCore.setClient c _)
    rw [show s₁.toCore = _ from h₁, setClient_linkNewRemote]
    exact (Move.connect hx hstate hend hconn hkind hfirst'
      (hopen y₀ y hnew hunix.1 hkind.1) (hfd _ _ hunix.2 rfl)).single

theorem plistConnect_moves {dict : Plist} (hloss : Loss plat sys → A.lossOk)
    (hc : Commanding c s.toCore)
    (hopen : ∀ k st, plistTarget s "Connect" dict = some (k, st) → OpenAllowed A sys s c k st)
    (hfd : MayConnect A sys s.toCore) :
    Runs A s₀ (fun res => Moves A s.toCore res.2.toCore)
      (plistConnect plat sys s c tag dict) := by
  rw [plistConnect]
  split
  · exact reply_moves hc.input
  · next deviceId hdev =>
      split
      · exact reply_moves hc.input
      · next port hport =>
          refine clientConnect_moves hloss hc (hopen _ _ ?_) hfd
          rw [plistTarget, if_pos rfl, hdev, hport]

/-- Reading the dictionary ends in a result or in the use of a `NULL`
string. -/
theorem plistDictForeach_runs {σ : Type} {func : String → Plist → σ → Except Fault (Int × σ)}
    (hfunc : ∀ key value ctx, Runs A s₀ (fun _ => True) (func key value ctx))
    {l : List (String × Plist)} {ctx : σ} :
    Runs A s₀ (fun _ => True) (plistDictForeach func l ctx) := by
  induction l generalizing ctx with
  | nil => exact trivial
  | cons p rest ih =>
      obtain ⟨key, value⟩ := p
      rw [plistDictForeach]
      refine (hfunc key value ctx).bind ?_
      rintro ⟨res, ctx'⟩ _
      show Runs A s₀ _ (if res < 0 then _ else _)
      split
      · exact trivial
      · exact ih

theorem matchDevice_runs {recordId : Option String} {key : String} {value : Plist}
    {deviceId : UInt32} :
    Runs A s₀ (fun _ => True) (matchDevice recordId key value deviceId) := by
  rw [matchDevice]
  split
  · exact trivial
  · split
    · exact Runs.fault trivial
    · split
      · exact trivial
      · exact trivial

/-- The four requests that wait for a reply in `REMOTE_COMMAND`. -/
theorem pairRecordRequest_moves {recordId : Option String} {cmd : RemoteCommand}
    {msg : Except Fault Plist} (hloss : Loss plat sys → A.lossOk) (hcmd : cmd ≠ .listen)
    (hmsg : ∀ f, msg = .error f → f = .nullString) (hc : Commanding c s.toCore)
    (hopen : ∀ k t, pairRecordRemote s recordId = .ok k → t.remotes = s.remotes →
      t.remoteList = s.remoteList → OpenAllowed A sys t c k .command)
    (hfd : MayConnect A sys s.toCore) :
    Runs A s₀ (fun res => Moves A s.toCore res.2.toCore)
      (pairRecordRequest plat sys s recordId tag cmd msg c) := by
  refine lockRemoteList_runs.bind ?_
  rintro ⟨core, locked, locked'⟩ h₁
  obtain rfl : core = s.toCore := h₁
  have hid : Runs A s₀ (fun _ => True)
      (pairRecordRemote ⟨s.toCore, locked, locked'⟩ recordId) :=
    (plistDictForeach_runs fun _ _ _ => matchDevice_runs).bind fun _ _ => trivial
  refine hid.withEq.bind ?_
  rintro k ⟨_, hk⟩
  exact forwardRequest_runs hloss hcmd hmsg hc (hopen k _ hk rfl rfl) hfd

theorem usbmuxRemoteReadBuid_moves (hloss : Loss plat sys → A.lossOk)
    (hc : Commanding c s.toCore)
    (hopen : ∀ t, t.remotes = s.remotes → t.remoteList = s.remoteList →
      OpenAllowed A sys t c (firstDeviceRemote s.remoteDeviceList.entries) .command)
    (hfd : MayConnect A sys s.toCore) :
    Runs A s₀ (fun res => Moves A s.toCore res.2.toCore)
      (usbmuxRemoteReadBuid plat sys s tag c) := by
  refine lockRemoteList_runs.bind ?_
  rintro ⟨core, locked, locked'⟩ h₁
  obtain rfl : core = s.toCore := h₁
  exact forwardRequest_runs hloss (by decide) (fun f hf => by cases hf) hc (hopen _ rfl rfl) hfd

theorem pairRecordMessage_error {messageType : String} {recordId : Option String} {f : Fault}
    (h : pairRecordMessage messageType recordId = .error f) : f = .nullString := by
  cases recordId with
  | none =>
      cases h
      rfl
  | some rid => cases h

theorem sendDeviceList_moves (hc : Commanding c s.toCore) :
    Runs A s₀ (fun res => Moves A s.toCore res.2.toCore) (sendDeviceList plat sys s c tag) := by
  refine usbmuxRemoteCopyDeviceList_runs.bind ?_
  rintro ⟨devices, s₁⟩ ⟨_, h₁⟩
  rw [← show s₁.toCore = s.toCore from h₁] at hc ⊢
  exact sendPlistPkt_runs.imp fun _ h => h.moves_commanding hc

theorem listenerEntries_runs {number : UInt32} {l : List ClientPtr} :
    Runs A s₀ (fun _ => True) (listenerEntries s number l) := by
  induction l with
  | nil => exact trivial
  | cons c rest ih =>
      rw [listenerEntries]
      exact client_runs.bind fun _ _ => ih.bind fun _ _ => trivial

theorem sendListenerList_moves (hc : Commanding c s.toCore) :
    Runs A s₀ (fun res => Moves A s.toCore res.2.toCore)
      (sendListenerList plat sys s c tag) := by
  refine lockClientList_runs.bind fun s₁ h₁ => ?_
  refine client_runs.bind fun x hx => listenerEntries_runs.bind fun listeners _ => ?_
  rw [← h₁] at hc ⊢
  exact sendPlistPkt_runs.imp fun _ h => h.moves_commanding hc

theorem copyInstancesLoop_runs {l : List RemotePtr} {dict : Plist} :
    Runs A s₀ (fun _ => True) (copyInstancesLoop s l dict) := by
  induction l generalizing dict with
  | nil => exact trivial
  | cons r rest ih =>
      rw [copyInstancesLoop]
      refine remote_runs.bind fun x _ => ?_
      split
      · refine (plistDictForeach_runs fun key value ctx => ?_).bind fun _ _ => ih
        rw [remoteDeviceGetForInstance]
        split
        · exact trivial
        · exact trivial
      · exact ih

theorem sendInstances_moves (hc : Commanding c s.toCore) :
    Runs A s₀ (fun res => Moves A s.toCore res.2.toCore) (sendInstances plat sys s c tag) := by
  have hcopy : Runs A s₀ (fun p => p.2.toCore = s.toCore) (usbmuxRemoteCopyInstances s) :=
    lockRemoteList_runs.bind fun s₁ h₁ => copyInstancesLoop_runs.bind fun _ _ => h₁
  refine hcopy.bind ?_
  rintro ⟨instances, s₁⟩ h₁
  rw [← show s₁.toCore = s.toCore from h₁] at hc ⊢
  exact sendPlistPkt_runs.imp fun _ h => h.moves_commanding hc

theorem addInstance_moves {dict : Plist} (hgrow : A.growOk) (hc : Commanding c s.toCore)
    (hfd : MayConnect A sys s.toCore) :
    Runs A s₀ (fun res => Moves A s.toCore res.2.toCore)
      (addInstance plat sys s c tag dict) := by
  rw [addInstance]
  split
  · exact reply_moves hc.input
  · next host port _ =>
      refine remoteMuxServiceAdd_runs.bind ?_
      rintro ⟨rv, s₁⟩ (⟨_, h₁⟩ | ⟨_, y, acts, hnew, ⟨hname, hhost, _, hconnect⟩, hacts, h₁⟩)
      · rw [← show s₁.toCore = s.toCore from h₁] at hc ⊢
        exact reply_moves hc.input
      · have hm : Moves A s.toCore s₁.toCore := by
          rw [show s₁.toCore = _ from h₁]
          exact (Move.addListener hnew hacts hgrow (Or.inl (hname.trans hhost.symm))
            (hfd _ _ hconnect rfl)).single
        refine (reply_moves fun x hx => ?_).imp fun _ h => hm.trans h
        rw [show s₁.toCore = _ from h₁] at hx
        exact hc.input x hx

theorem removeInstance_phase {dict : Plist} (hloss : Loss plat sys → A.lossOk)
    (hreap : A.reapOk ∧ A.killOk) (hwf : WF s.toCore) (hc : Commanding c s.toCore) :
    Runs A s₀ (fun res => Phase A s.toCore res.2.toCore)
      (removeInstance plat sys s c tag dict) := by
  rw [removeInstance]
  split
  · exact (reply_moves hc.input).phase
  · next host port _ =>
      refine (remoteMuxServiceRemove_phase hloss hreap hwf).bind ?_
      rintro ⟨rv, s₁⟩ ⟨hphase, hkept⟩
      refine Runs.of_calm ((reply_moves fun x' hx' => ?_).imp fun _ h => hphase.then_calm h)
      obtain ⟨x, ob, e, hx, rfl⟩ := hkept c x' hx'
      exact hc.input x hx

theorem zeroOrFail_moves {m : Except Fault (Int × Daemon)}
    (h : Runs A s₀ (fun res => Moves A s.toCore res.2.toCore) m) :
    Runs A s₀ (fun res => Moves A s.toCore res.2.toCore) (zeroOrFail <$> m) :=
  Post.map h fun _ hm => hm

theorem plistTarget_pairRecord {message : String} {dict : Plist} {k : UInt8}
    (hmsg : message = "ReadPairRecord" ∨ message = "SavePairRecord" ∨
      message = "DeletePairRecord")
    (hk : pairRecordRemote s (plistDictCopyStringVal dict "PairRecordID") = .ok k) :
    plistTarget s message dict = some (k, .command) := by
  have hne : message ≠ "Connect" ∧ message ≠ "ReadBUID" := by
    rcases hmsg with rfl | rfl | rfl <;> decide
  rw [plistTarget, if_neg hne.1, if_neg hne.2, if_pos hmsg, hk]

theorem plistCommand_phase {message : String} {dict : Plist}
    (hloss : Loss plat sys → A.lossOk)
    (hgrow : message = "Listen" ∨ message = "AddInstance" → A.growOk)
    (hreap : message = "RemoveInstance" → A.reapOk ∧ A.killOk) (hwf : WF s.toCore)
    (hc : Commanding c s.toCore)
    (hopen : ∀ k st t, plistTarget s message dict = some (k, st) → t.remotes = s.remotes →
      t.remoteList = s.remoteList → OpenAllowed A sys t c k st)
    (hfd : MayConnect A sys s.toCore) :
    Runs A s₀ (fun res => Phase A s.toCore res.2.toCore)
      (plistCommand plat sys s c tag message dict) := by
  refine Runs.ite (fun hmsg => Runs.phase (clientListen_moves hloss (hgrow (Or.inl hmsg)) hc))
    fun _ => ?_
  refine Runs.ite (fun hmsg => ?_) fun _ => ?_
  · subst hmsg
    exact Runs.phase (plistConnect_moves hloss hc (fun k st hk => hopen k st s hk rfl rfl) hfd)
  refine Runs.ite (fun _ => Runs.phase (zeroOrFail_moves (sendDeviceList_moves hc)))
    fun _ => ?_
  refine Runs.ite (fun _ => Runs.phase (zeroOrFail_moves (sendListenerList_moves hc)))
    fun _ => ?_
  refine Runs.ite (fun hmsg => ?_) fun _ => ?_
  · subst hmsg
    refine Runs.phase (Runs.bind (usbmuxRemoteReadBuid_moves hloss hc (fun t hr hl => ?_) hfd)
      fun _ h => h)
    exact hopen _ _ t rfl hr hl
  refine Runs.ite (fun hmsg => ?_) fun _ => ?_
  · exact Runs.phase (zeroOrFail_moves (pairRecordRequest_moves hloss (by decide)
      (fun _ => pairRecordMessage_error) hc (fun k t hk =>
        hopen k _ t (plistTarget_pairRecord (Or.inl hmsg) hk)) hfd))
  refine Runs.ite (fun hmsg => ?_) fun _ => ?_
  · exact Runs.phase (zeroOrFail_moves (pairRecordRequest_moves hloss (by decide)
      (fun f hf => by cases hf) hc (fun k t hk =>
        hopen k _ t (plistTarget_pairRecord (Or.inr (Or.inl hmsg)) hk)) hfd))
  refine Runs.ite (fun hmsg => ?_) fun _ => ?_
  · exact Runs.phase (zeroOrFail_moves (pairRecordRequest_moves hloss (by decide)
      (fun _ => pairRecordMessage_error) hc (fun k t hk =>
        hopen k _ t (plistTarget_pairRecord (Or.inr (Or.inr hmsg)) hk)) hfd))
  refine Runs.ite (fun _ => Runs.phase (zeroOrFail_moves (sendInstances_moves hc)))
    fun _ => ?_
  refine Runs.ite (fun hmsg => Runs.phase (addInstance_moves (hgrow (Or.inr hmsg)) hc hfd))
    fun _ => ?_
  exact Runs.ite (fun hmsg => removeInstance_phase hloss (hreap hmsg) hwf hc)
    fun _ => Runs.phase (reply_moves hc.input)

/-- A client that is not to send commands is told so before it is closed. The
mutexes make no difference to whether it can be told. -/
def ToldBadCommand (plat : Platform) (sys : Sys) (s : Core) (c : ClientPtr) (x : MuxClient) :
    Prop :=
  x.state ≠ .command ∧ ∃ (d : Daemon) (res : Int × Daemon),
    d.toCore = s.emit [.command c (bufFrame plat x.ib)] ∧
    sendResult plat sys d c (bufHeader plat x.ib).tag resultBadCommand = .ok res ∧ ¬ res.1 < 0

theorem clientCommand_phase (hloss : Loss plat sys → A.lossOk) (hwf : WF s.toCore)
    {x : MuxClient} (hx : s.clients c = some x) (hinput : x.ib.isNull = false)
    (hask : RequestOk A plat x.ib)
    (hopen : ∀ k st t, x.state = .command → forwardTarget plat s x.ib = some (k, st) →
      t.remotes = s.remotes → t.remoteList = s.remoteList → OpenAllowed A sys t c k st)
    (hfd : MayConnect A sys s.toCore)
    (hleave : ∀ t x', ToldBadCommand plat sys s.toCore c x → t.remotes = s.remotes →
      x'.remote = x.remote → A.leaveOk t c x') :
    Runs A s.toCore (fun res => Phase A s.toCore res.2.toCore)
      (clientCommand plat sys s c) := by
  refine client_runs.bind fun x' hx' => ?_
  cases hx.symm.trans hx'
  -- the command is logged first
  have hlog : Moves A.noKill s.toCore (s.emit [.command c (bufFrame plat x.ib)]).toCore := by
    have hmove : Move A.noKill s.toCore ((s.toCore.setClient c x).emit
        [.command c (bufFrame plat x.ib)]) := .client hx .command
    rw [Core.setClient_self hx] at hmove
    exact hmove.single
  have hx₁ : (s.emit [.command c (bufFrame plat x.ib)]).clients c = some x := hx
  have hopen₁ : ∀ k st t, x.state = .command → forwardTarget plat
      (s.emit [.command c (bufFrame plat x.ib)]) x.ib = some (k, st) →
      t.remotes = (s.emit [.command c (bufFrame plat x.ib)]).remotes →
      t.remoteList = (s.emit [.command c (bufFrame plat x.ib)]).remoteList →
      OpenAllowed A sys t c k st := hopen
  have hfd₁ : MayConnect A sys (s.emit [.command c (bufFrame plat x.ib)]).toCore := hfd.congr rfl
  have hwf₁ : WF (s.emit [.command c (bufFrame plat x.ib)]).toCore := hwf.emit
  suffices h : Runs A (s.emit [.command c (bufFrame plat x.ib)]).toCore
      (fun res : Int × Daemon =>
        Phase A (s.emit [.command c (bufFrame plat x.ib)]).toCore res.2.toCore) _ from
    Runs.after hlog.of_noKill (h.imp fun _ hp => hp.after hlog)
  have hleave₁ : ∀ t x' res, x.state ≠ .command → sendResult plat sys
      (s.emit [.command c (bufFrame plat x.ib)]) c (bufHeader plat x.ib).tag
        resultBadCommand = .ok res → ¬ res.1 < 0 →
      t.remotes = (s.emit [.command c (bufFrame plat x.ib)]).remotes →
      x'.remote = x.remote → A.leaveOk t c x' :=
    fun t x' res hstate hsend hres => hleave t x' ⟨hstate, _, res, rfl, hsend, hres⟩
  clear hlog hx' hx hopen hfd hwf hleave
  generalize s.emit [.command c (bufFrame plat x.ib)] = s₁ at *
  have hinput₁ : ∀ x', s₁.clients c = some x' → x'.ib.isNull = false := by
    intro x' hx'
    cases hx₁.symm.trans hx'
    exact hinput
  have hgrow := hask.grow
  dsimp only
  split
  · -- not expecting any command
    next hstate =>
    refine sendResult_runs.withEq.bind ?_
    rintro ⟨res, s₂⟩ ⟨hsent, hsend⟩
    have hm : Moves A.noKill s₁.toCore s₂.toCore :=
      hsent.moves hinput₁ fun _ hpkt => Or.inr ⟨_, _, hpkt⟩
    show Runs A s₁.toCore _ (if res < 0 then _ else _)
    split
    · exact Phase.of_moves hm
    · next hres =>
        refine (clientClose_moves hm fun x' hx' => ?_).of_noKill.bind fun s₃ h₃ =>
          Phase.of_moves h₃
        rcases hsent with ⟨_, _, h₂⟩ | ⟨_, x₀, hdr, payload, _, hq⟩
        · rw [show s₂.toCore = _ from h₂] at hx' ⊢
          cases hx₁.symm.trans hx'
          exact hleave₁ _ _ _ hstate hsend hres rfl rfl
        · obtain ⟨hx₀, _, ob, _, h₂⟩ := hq
          rw [show s₂.toCore = _ from h₂] at hx' ⊢
          cases hx₁.symm.trans hx₀
          cases (show _ = some x' from hx').symm.trans (if_pos rfl)
          exact hleave₁ _ _ _ hstate hsend hres rfl rfl
  · next hstate =>
      rw [not_not] at hstate
      have hc : Commanding c s₁.toCore := ⟨x, hx₁, hstate, hinput⟩
      split
      · exact Runs.phase (Runs.bind (sendResult_moves hinput₁) fun _ hm => hm)
      · next hversion =>
          split
          · next hmsg =>
              refine modifyClient_runs.bind ?_
              rintro s₂ ⟨x', hx', rfl⟩
              cases hx₁.symm.trans hx'
              have hproto : Move A.noKill s₁.toCore ((s₁.toCore.setClient c
                  { x with protoVersion := 1 }).emit []) := .client hx₁ (.proto hstate)
              rw [Core.emit_nil] at hproto
              split
              · exact Phase.of_moves hproto.single
              · next dict hdict =>
                  split
                  · exact Phase.of_moves hproto.single
                  · next message hmessage =>
                      refine modifyClient_runs.bind ?_
                      rintro s₃ ⟨x', hx', rfl⟩
                      have hself : (s₁.toCore.setClient c { x with protoVersion := 1 }).clients c =
                          some { x with protoVersion := 1 } := if_pos rfl
                      cases hself.symm.trans hx'
                      have hinfo : Move A.noKill (s₁.toCore.setClient c
                          { x with protoVersion := 1 }) (((s₁.toCore.setClient c
                          { x with protoVersion := 1 }).setClient c { x with
                            protoVersion := 1, info := some (clientInfo dict) }).emit []) :=
                        .client hself .info
                      rw [Core.emit_nil] at hinfo
                      have hm := hproto.single.trans hinfo.single
                      have hc₃ : Commanding c ((s₁.toCore.setClient c
                          { x with protoVersion := 1 }).setClient c { x with
                            protoVersion := 1, info := some (clientInfo dict) }) :=
                        ⟨_, if_pos rfl, hstate, hinput⟩
                      have hfd₃ : MayConnect A sys ((s₁.toCore.setClient c
                          { x with protoVersion := 1 }).setClient c { x with
                            protoVersion := 1, info := some (clientInfo dict) }) :=
                        hfd₁.congr rfl
                      have hmessage' : plistMessage plat x.ib = some message := by
                        rw [plistMessage, if_pos hmsg, hdict, Option.bind_some, hmessage]
                      refine Runs.after hm.of_noKill ((plistCommand_phase hloss (fun h => ?_)
                        (fun h => ?_) (hwf₁.moves hm) hc₃ ?_ ?_).imp
                        fun _ hp => hp.after hm)
                      · rw [hmessage', Option.some_inj, Option.some_inj] at hgrow
                        exact hgrow (h.imp id Or.inl)
                      · exact hask.reap (hmessage'.trans (congrArg some h))
                      · intro k st t hk hr hl
                        refine hopen₁ k st t hstate ?_ hr hl
                        rw [forwardTarget, if_neg hversion, if_pos hmsg, hdict, Option.bind_some,
                          hmessage, Option.bind_some]
                        exact hk
                      · exact hfd₃
          · next hplist =>
              split
              · next hlisten =>
                  exact Runs.phase (clientListen_moves hloss
                    (hgrow (Or.inr (Or.inr hlisten))) hc)
              · split
                · next hconnect =>
                    refine Runs.phase (clientConnect_moves hloss hc
                      (hopen₁ _ _ s₁ hstate ?_ rfl rfl) hfd₁)
                    rw [forwardTarget, if_neg hversion, if_neg hplist, if_pos hconnect]
                · exact (reply_moves hinput₁).phase

end Commands

/-! ## Socket events -/

/-- A frame that is complete once this event was received opens a connection
for its client. -/
structure Opening (plat : Platform) (sys : Sys) (s : Daemon) (x : MuxClient) (k : UInt8)
    (state : RemoteState) (y : RemoteMux) : Prop where
  command : x.state = .command
  frame : ∃ rf, readFrame plat sys x.ib = .ok rf ∧ rf.outcome = .frame ∧
    forwardTarget plat s rf.ib = some (k, state)
  new : newRemoteFor sys s k = .ok (some y)

/-- The connections that the client may open in this state are allowed. -/
def MayOpen (A : Allow) (plat : Platform) (sys : Sys) (s : Daemon) (c : ClientPtr)
    (x : MuxClient) : Prop :=
  ∀ k state y y' t, Opening plat sys s x k state y → t.remotes = s.remotes →
    t.remoteList = s.remoteList → y'.isUnix = y.isUnix → y'.state = state → A.openOk t c k y'

section Events

variable {A : Allow} {s : Daemon} {plat : Platform} {sys : Sys} {c : ClientPtr}
  {x : MuxClient}

theorem plistTarget_congr {t : Daemon} {message : String} {dict : Plist}
    (h : t.remoteDeviceList = s.remoteDeviceList) :
    plistTarget t message dict = plistTarget s message dict := by
  have hpair : pairRecordRemote t = pairRecordRemote s := by
    funext recordId
    rw [pairRecordRemote, pairRecordRemote, h]
  rw [plistTarget, plistTarget, h, hpair]

theorem forwardTarget_congr {t : Daemon} {b : Buf}
    (h : t.remoteDeviceList = s.remoteDeviceList) :
    forwardTarget plat t b = forwardTarget plat s b := by
  have hplist : plistTarget t = plistTarget s := by
    funext message dict
    exact plistTarget_congr h
  rw [forwardTarget, forwardTarget, hplist]

/-- The client is closed for what it sends: the stream has ended or cannot be
read, or a command was refused. -/
def LeavesRecv (plat : Platform) (sys : Sys) (s : Core) (c : ClientPtr) (x : MuxClient) :
    Prop :=
  ∃ rf, readFrame plat sys x.ib = .ok rf ∧ (rf.outcome = .dead ∨ (rf.outcome = .frame ∧
    ToldBadCommand plat sys ((s.setClient c { x with ib := rf.ib }).emit
      (recvActs (.clientRecv c) rf.got)) c { x with ib := rf.ib }))

theorem processRecv_phase (hloss : Loss plat sys → A.lossOk) (hwf : WF s.toCore)
    (hx : s.clients c = some x)
    (hask : ∀ rf, readFrame plat sys x.ib = .ok rf → rf.outcome = .frame →
      RequestOk A plat rf.ib) (hopen : MayOpen A plat sys s c x)
    (hfd : MayConnect A sys s.toCore)
    (hleave : ∀ t x', LeavesRecv plat sys s.toCore c x → t.remotes = s.remotes →
      x'.remote = x.remote → A.leaveOk t c x') :
    Runs A s.toCore (fun s' => Phase A s.toCore s'.toCore) (processRecv plat sys s c) := by
  refine client_runs.bind fun x' hx' => ?_
  cases hx.symm.trans hx'
  refine (readFrame_runs.withEq).bind ?_
  rintro rf ⟨⟨hdata, hnull, hframe⟩, hrf⟩
  have hm : Moves A.noKill s.toCore ((s.toCore.setClient c { x with ib := rf.ib }).emit
      (recvActs (.clientRecv c) rf.got)) := (Move.client hx (.recv hdata hnull)).single
  have hself : ((s.toCore.setClient c { x with ib := rf.ib }).emit
      (recvActs (.clientRecv c) rf.got)).clients c = some { x with ib := rf.ib } := if_pos rfl
  split
  · next hout =>
      refine Runs.phase (clientClose_moves hm fun x' hx' => ?_)
      cases hself.symm.trans hx'
      exact hleave _ _ ⟨rf, hrf, Or.inl hout⟩ rfl rfl
  · exact Phase.of_moves hm
  · next hout =>
      have hinput : rf.ib.isNull = false := hnull.trans (hframe hout)
      refine Runs.after hm.of_noKill (Runs.bind (clientCommand_phase hloss (hwf.moves hm)
        hself hinput (hask rf hrf hout) ?_ (hfd.congr rfl) fun t x' hrefused hr hx' =>
          hleave t x' ⟨rf, hrf, Or.inr ⟨hout, hrefused⟩⟩ hr hx') ?_)
      · intro k st t hstate htarget hr hl y y' hnew hunix hst
        refine hopen k st y y' t.toCore ⟨hstate, ⟨rf, hrf, hout, ?_⟩, ?_⟩ hr hl hunix hst
        · exact (forwardTarget_congr (s := s) rfl).symm.trans htarget
        · exact (newRemoteFor_congr (s := s) hr hl).symm.trans hnew
      · rintro ⟨res, s₁⟩ hp
        have hphase : Phase A s.toCore s₁.toCore := hp.after hm
        show Runs A _ _ (if res = 0 then _ else _)
        split
        · refine modifyClient_runs.imp ?_
          rintro s₂ ⟨x₂, hx₂, rfl⟩
          have hdone : Move A.calm s₁.toCore ((s₁.toCore.setClient c
              { x₂ with ib := x₂.ib.reset }).emit []) := .client hx₂ .inputDone
          rw [Core.emit_nil] at hdone
          exact hphase.then_calm hdone.single
        · exact hphase

/-- What is left to send after a part of it was. -/
theorem drop_sent_ne_nil {b : Buf} {n : Nat} (h : sendFrom sys b = some n) (hne : n ≠ b.size) :
    b.data.drop n ≠ [] := by
  have hle : n ≤ b.size := by
    rw [sendFrom] at h
    split at h
    · cases h
    · obtain ⟨k, _, rfl⟩ := Option.map_eq_some_iff.mp (Option.eq_some_of_filter_eq_some h)
      exact Nat.min_le_left _ _
  rw [Ne, List.drop_eq_nil_iff]
  rw [Buf.size] at hle hne
  omega

theorem processSend_moves (hx : s.clients c = some x) (hstate : x.state ≠ .connected)
    (hleave : x.ob.size ≠ 0 → sendFrom sys x.ob = none → A.leaveOk s.toCore c x) :
    Runs A s.toCore (fun s' => Moves A s.toCore s'.toCore) (processSend sys s c) := by
  refine client_runs.bind fun x' hx' => ?_
  cases hx.symm.trans hx'
  split
  · next hsize =>
    refine modifyClient_runs.imp ?_
    rintro s₁ ⟨x₁, hx₁, rfl⟩
    cases hx.symm.trans hx₁
    have hmove : Move A s.toCore ((s.toCore.setClient c { x with
        events := { x.events with pollout := false } }).emit []) :=
      .client hx (.events (.idle hstate (List.eq_nil_of_length_eq_zero hsize)))
    rw [Core.emit_nil] at hmove
    exact hmove.single
  · next hsize =>
    split
    · next hn =>
        refine clientClose_moves Moves.refl fun x' hx' => ?_
        cases hx.symm.trans hx'
        exact hleave hsize hn
    · next n hn =>
        -- the client that is modified is the one that was read
        have hsame : ∀ {x₁}, (s.emit [.clientSend c (x.ob.data.take n)]).clients c = some x₁ →
            x₁ = x := fun hx₁ => Option.some.inj (hx₁.symm.trans hx)
        dsimp only
        split
        · next hpart =>
          refine modifyClient_runs.imp ?_
          rintro s₁ ⟨x₁, hx₁, rfl⟩
          cases hsame hx₁
          have hleft : (x.ob.consume n).data ≠ [] := drop_sent_ne_nil hn hpart
          have hsend : ClientStep c x [.clientSend c (x.ob.data.take n)]
              { x with ob := x.ob.consume n } :=
            .send hstate rfl rfl (Or.inl ⟨hleft, rfl⟩) fun _ => hleft
          exact (Move.client hx hsend).single
        · next hall =>
            rw [not_not] at hall
            have hempty : x.ob.data.drop n = [] := by
              rw [List.drop_eq_nil_iff, hall]
              exact Nat.le_refl _
            split
            · next hconn =>
              refine modifyClient_runs.imp ?_
              rintro s₁ ⟨x₁, hx₁, rfl⟩
              cases hsame hx₁
              have hsend : ClientStep c x [.clientSend c (x.ob.data.take n)] { x with
                  ob := x.ob.reset, events := { x.events with pollout := false } } :=
                .send hstate hempty.symm rfl (Or.inr ⟨rfl, rfl⟩) fun h => absurd h hconn
              exact (Move.client hx hsend).single
            · next hconn =>
                rw [not_not] at hconn
                have htake : x.ob.data.take n = x.ob.data :=
                  List.take_of_length_le (Nat.le_of_eq hall.symm)
                refine (clientRemote_runs (fun h => ?_) fun r hr h => ?_).bind fun _ _ => ?_
                · exact ⟨x, hx, Or.inr ⟨h, Or.inl hconn⟩⟩
                · exact ⟨x, hx, Or.inl ⟨r, hr, h⟩⟩
                · refine modifyClient_runs.imp ?_
                  rintro s₁ ⟨x₁, hx₁, rfl⟩
                  cases hsame hx₁
                  have hsend : ClientStep c x [.clientSend c x.ob.data] { x with
                      ob := x.ob.reset.free, state := .connected,
                      events := { x.devents with pollin := true } } :=
                    .connected hconn rfl rfl rfl
                  rw [htake]
                  exact (Move.client hx hsend).single

theorem clientRelayRead_moves (hx : s.clients c = some x) (hstate : x.state = .connected)
    (hleave : ∀ r y, x.remote = some r → s.remotes r = some y →
      y.ob.capacity - y.ob.size ≠ 0 →
      recvInto sys y.ob (y.ob.capacity - y.ob.size) = .ok none → A.leaveOk s.toCore c x) :
    Runs A s.toCore (fun s' => Moves A s.toCore s'.toCore) (clientRelayRead sys s c x) := by
  refine (clientRemote_runs_of_state hx (Or.inr hstate)).bind ?_
  rintro ⟨r, y⟩ ⟨hr, hy⟩
  dsimp only
  split
  · exact Moves.refl
  · next hroom =>
    refine recvInto_runs.withEq.bind ?_
    rintro (_ | ⟨bs, ob⟩) ⟨ho, hrecv⟩
    · refine clientClose_moves Moves.refl fun x' hx' => ?_
      cases hx.symm.trans hx'
      exact hleave r y hr hy hroom hrecv
    · exact (Move.relayRead hx hstate hr hy (ho _ rfl).1 rfl).single

theorem clientRelayWrite_moves (hx : s.clients c = some x) (hstate : x.state = .connected)
    (hleave : ∀ r y, x.remote = some r → s.remotes r = some y → y.ib.size ≠ 0 →
      sendFrom sys y.ib = none → A.leaveOk s.toCore c x) :
    Runs A s.toCore (fun s' => Moves A s.toCore s'.toCore) (clientRelayWrite sys s c x) := by
  refine (clientRemote_runs_of_state hx (Or.inr hstate)).bind ?_
  rintro ⟨r, y⟩ ⟨hr, hy⟩
  dsimp only
  split
  · exact Moves.refl
  · next hsize =>
    split
    · next hn =>
        refine clientClose_moves Moves.refl fun x' hx' => ?_
        cases hx.symm.trans hx'
        exact hleave r y hr hy hsize hn
    · next n hn =>
        split
        · next hall =>
            have hempty : y.ib.reset.data = y.ib.data.drop n := by
              rw [Buf.data_reset, eq_comm, List.drop_eq_nil_iff, hall]
              exact Nat.le_refl _
            exact (Move.relayWrite hx hstate hr hy hempty (Or.inr ⟨rfl, rfl⟩)).single
        · next hpart =>
          have hleft : (y.ib.consume n).data ≠ [] := drop_sent_ne_nil hn hpart
          have hmove : Move A s.toCore (((s.toCore.setRemote r { y with
              ib := y.ib.consume n }).setClient c { x with events := x.events }).emit
              [.clientWrite c (y.ib.data.take n)]) :=
            .relayWrite hx hstate hr hy rfl (Or.inl ⟨hleft, rfl⟩)
          rw [Core.setClient_self (s := s.toCore.setRemote r _) hx] at hmove
          exact hmove.single

theorem findClient_runs {s₀ : Core} {fd : Nat} {l : List ClientPtr} :
    Runs A s₀ (fun o => ∀ p, o = some p → s.clients p.1 = some p.2 ∧ p.2.fd = fd)
      (findClient s fd l) := by
  induction l with
  | nil =>
      intro p hp
      cases hp
  | cons c rest ih =>
      rw [findClient]
      refine client_runs.bind fun x hx => ?_
      split
      · next hfd =>
          intro p hp
          cases hp
          exact ⟨hx, hfd⟩
      · exact ih

/-- The client is closed while the event is handled, and its remote with
it. -/
inductive Leaving (plat : Platform) (sys : Sys) (s : Core) (events : PollEvents)
    (c : ClientPtr) (x : MuxClient) : Prop where
  | read {r : RemotePtr} {y : RemoteMux} (hstate : x.state = .connected)
      (hin : events.pollin = true) (hr : x.remote = some r) (hy : s.remotes r = some y)
      (hroom : y.ob.capacity - y.ob.size ≠ 0)
      (hrecv : recvInto sys y.ob (y.ob.capacity - y.ob.size) = .ok none)
  | write {r : RemotePtr} {y : RemoteMux} (hstate : x.state = .connected)
      (hin : events.pollin = false) (hout : events.pollout = true) (hr : x.remote = some r)
      (hy : s.remotes r = some y) (hsize : y.ib.size ≠ 0) (hsend : sendFrom sys y.ib = none)
  | recv (hstate : x.state ≠ .connected) (hin : events.pollin = true)
      (h : LeavesRecv plat sys s c x)
  | send (hstate : x.state ≠ .connected) (hin : events.pollin = false)
      (hout : events.pollout = true) (hsize : x.ob.size ≠ 0) (hsend : sendFrom sys x.ob = none)

/-- Closing the client in this state is allowed. -/
def MayLeave (A : Allow) (plat : Platform) (sys : Sys) (s : Core) (events : PollEvents)
    (c : ClientPtr) (x : MuxClient) : Prop :=
  ∀ t x', Leaving plat sys s events c x → t.remotes = s.remotes → x'.remote = x.remote →
    A.leaveOk t c x'

theorem clientProcess_phase {fd : Nat} {events : PollEvents} (hloss : Loss plat sys → A.lossOk)
    (hreap : A.reapOk ∧ A.killOk) (hgrow : A.growOk) (hwf : WF s.toCore)
    (hopen : ∀ c x, s.clients c = some x → x.fd = fd → events.pollin = true →
      MayOpen A plat sys s c x)
    (hfds : MayConnect A sys s.toCore)
    (hleave : ∀ c x, s.clients c = some x → x.fd = fd → MayLeave A plat sys s.toCore events c x) :
    Runs A s.toCore (fun s' => Phase A s.toCore s'.toCore)
      (clientProcess plat sys s fd events) := by
  refine lockClientList_runs.bind ?_
  rintro ⟨core, locked, locked'⟩ h₁
  obtain rfl : core = s.toCore := h₁
  refine findClient_runs.bind ?_
  rintro (_ | ⟨c, x⟩) ho
  · exact Phase.refl
  · obtain ⟨hx, hfd⟩ := ho _ rfl
    have hmay := hleave c x hx hfd
    dsimp only
    split
    · next hstate =>
        split
        · next hin =>
            exact Runs.phase (clientRelayRead_moves hx hstate fun r y hr hy hroom hrecv =>
              hmay _ _ (.read hstate hin hr hy hroom hrecv) rfl rfl)
        · next hin =>
            rw [Bool.not_eq_true] at hin
            split
            · next hout =>
                exact Runs.phase (clientRelayWrite_moves hx hstate fun r y hr hy hsize hsend =>
                  hmay _ _ (.write hstate hin hout hr hy hsize hsend) rfl rfl)
            · exact Phase.refl
    · next hstate =>
        split
        · next hin =>
            refine processRecv_phase hloss hwf hx
              (fun _ _ _ => ⟨fun _ => hgrow, fun _ => hreap⟩) (fun k st y y' t hopening => ?_)
              (hfds.congr rfl) fun t x' h hr hx' => hmay t x' (.recv hstate hin h) hr hx'
            refine hopen c x hx hfd hin k st y y' t ⟨hopening.command, ?_, ?_⟩
            · obtain ⟨rf, hrf, hout, htarget⟩ := hopening.frame
              exact ⟨rf, hrf, hout, (forwardTarget_congr (s := s) rfl).symm.trans htarget⟩
            · rw [← hopening.new]
              exact newRemoteFor_congr rfl rfl
        · next hin =>
            rw [Bool.not_eq_true] at hin
            split
            · next hout =>
                exact Runs.phase (processSend_moves hx hstate fun hsize hsend =>
                  hmay _ _ (.send hstate hin hout hsize hsend) rfl rfl)
            · exact Phase.refl

end Events

end Usbfluxd
