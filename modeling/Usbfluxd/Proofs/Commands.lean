import Usbfluxd.Proofs.Frames
import Usbfluxd.Proofs.Registry

/-!
# What a command leaves behind

`client_command` has one branch for each request, and they differ in what
they return and in what they queue. Here each branch gets its account, for
the case that no allocation and no conversion to XML fails: a reply is queued
(`Answered`), or a connection is opened that waits for one (`Waiting`), or the
request was to be forwarded and there is nothing to forward it to
(`Unforwarded`). The value returned is 0 but for the last of these and for
`Listen`, which returns how many devices it announced.

The other half is the use of `NULL` as a string, the one fault that a request
can bring about by what is missing in it. It is confined to the pair-record
requests; everything else is `NoNull`.
-/

namespace Usbfluxd

open Lib

/-! ## Strings that are not there -/

/-- The program uses no string that is not there. -/
def NoNull {α : Type} (m : Except Fault α) : Prop := Post (· ≠ Fault.nullString) (fun _ => True) m

section NoNull

variable {α β : Type} {m : Except Fault α} {s : Daemon} {c : ClientPtr} {r : RemotePtr}
  {plat : Platform} {sys : Sys} {tag msg : UInt32}

theorem NoNull.pure {a : α} : NoNull (Pure.pure a : Except Fault α) := trivial

theorem NoNull.bind {f : α → Except Fault β} (hm : NoNull m) (hf : ∀ a, NoNull (f a)) :
    NoNull (m >>= f) :=
  Post.bind hm fun a _ => hf a

theorem NoNull.map {f : α → β} (hm : NoNull m) : NoNull (f <$> m) :=
  Post.map hm fun _ _ => trivial

theorem NoNull.ite {p : Prop} [Decidable p] {m' : Except Fault α} (h : NoNull m)
    (h' : NoNull m') : NoNull (if p then m else m') := by
  split
  · exact h
  · exact h'

theorem NoNull.fault {f : Fault} (h : f ≠ .nullString) : NoNull (.error f : Except Fault α) := h

/-- The condition on what is returned, whatever the faults. -/
theorem Runs.returns {Q : α → Prop} (h : Runs .all emptyDaemon.toCore Q m) :
    Post (fun _ => True) Q m :=
  Post.imp h (fun _ _ => trivial) fun _ hq => hq

/-- What a program is known to return, it returns without that fault. -/
theorem NoNull.post {Q : α → Prop} (hm : NoNull m) (h : Post (fun _ => True) Q m) :
    Post (· ≠ Fault.nullString) Q m :=
  Post.intro (fun _ ha => Post.of_ok h ha) fun _ he =>
    Post.of_error (F := (· ≠ Fault.nullString)) hm he

theorem client_noNull : NoNull (s.client c) := by
  rw [Daemon.client]
  split
  · exact .pure
  · exact .fault (by simp)

theorem remote_noNull : NoNull (s.remote r) := by
  rw [Daemon.remote]
  split
  · exact .pure
  · exact .fault (by simp)

theorem modifyClient_noNull {f : MuxClient → MuxClient} : NoNull (s.modifyClient c f) :=
  client_noNull.bind fun _ => .pure

theorem modifyRemote_noNull {f : RemoteMux → RemoteMux} : NoNull (s.modifyRemote r f) :=
  remote_noNull.bind fun _ => .pure

theorem clientRemote_noNull {x : MuxClient} : NoNull (s.clientRemote c x) := by
  rw [Daemon.clientRemote]
  split
  · exact .fault (by simp)
  · split
    · exact .fault (by simp)
    · exact .pure

theorem remoteClient_noNull {y : RemoteMux} : NoNull (s.remoteClient r y) := by
  rw [Daemon.remoteClient]
  split
  · exact .fault (by simp)
  · split
    · exact .fault (by simp)
    · exact .pure

theorem lockRemoteList_noNull : NoNull s.lockRemoteList :=
  .ite (.fault (by decide)) (.ite (.fault (by decide)) .pure)

theorem lockClientList_noNull : NoNull s.lockClientList :=
  .ite (.fault (by decide)) .pure

theorem queueBytes_noNull {b : Buf} {bs : List UInt8} :
    NoNull (queueBytes sys.realloc b bs) := by
  rw [queueBytes]
  split
  · refine .ite ?_ .pure
    split
    · exact .pure
    · exact .fault (by decide)
  · exact .ite (.fault (by decide)) .pure

theorem packetHeader_noNull {version : UInt32} {payload : Payload} :
    NoNull (packetHeader version tag msg payload) :=
  .ite .pure (.fault (by decide))

theorem sendPkt_noNull {payload : Payload} : NoNull (sendPkt sys s c tag msg payload) := by
  refine client_noNull.bind fun x => packetHeader_noNull.bind fun hdr => ?_
  refine queueBytes_noNull.bind fun o => ?_
  cases o <;> exact .pure

theorem sendPlistPkt_noNull {p : Plist} : NoNull (sendPlistPkt plat sys s c tag p) := by
  rw [sendPlistPkt]
  split
  · exact .pure
  · exact sendPkt_noNull

theorem sendResult_noNull {result : UInt32} : NoNull (sendResult plat sys s c tag result) :=
  client_noNull.bind fun _ => .ite sendPlistPkt_noNull sendPkt_noNull

theorem reply_noNull {result : UInt32} : NoNull (reply plat sys s c tag result) :=
  sendResult_noNull.bind fun _ => .pure

theorem remoteSendPlistPkt_noNull {p : Plist} :
    NoNull (remoteSendPlistPkt plat sys s r tag p) := by
  rw [remoteSendPlistPkt]
  split
  · exact .pure
  · refine packetHeader_noNull.bind fun hdr => remote_noNull.bind fun y => ?_
    refine queueBytes_noNull.bind fun o => ?_
    cases o <;> exact .pure

theorem usbmuxRemoteCopyDeviceList_noNull : NoNull (usbmuxRemoteCopyDeviceList s) :=
  lockRemoteList_noNull.bind fun _ => .pure

theorem clientListen_noNull : NoNull (clientListen plat sys s c tag) := by
  have hloop : ∀ (devs : List Plist) (count : Int) (t : Daemon),
      NoNull (startListenLoop plat sys c devs count t) := by
    intro devs
    induction devs with
    | nil => exact fun _ _ => .pure
    | cons dev rest ih =>
        intro count t
        refine NoNull.bind (client_noNull.bind fun _ => .ite sendPlistPkt_noNull sendPkt_noNull)
          fun res => ?_
        exact .ite .pure (ih _ _)
  refine sendResult_noNull.bind fun res => .ite .pure ?_
  exact modifyClient_noNull.bind fun t =>
    usbmuxRemoteCopyDeviceList_noNull.bind fun _ => hloop _ _ _

theorem findRemote_noNull {p : RemoteMux → Bool} {l : List RemotePtr} :
    NoNull (findRemote s p l) := by
  induction l with
  | nil => exact .pure
  | cons r rest ih => exact remote_noNull.bind fun _ => .ite .pure ih

theorem newRemoteFor_noNull {k : UInt8} : NoNull (newRemoteFor sys s k) := by
  refine .ite .pure (findRemote_noNull.bind fun o => ?_)
  cases o <;> exact .pure

theorem clientConnect_noNull {deviceId : UInt32} {req : Plist} :
    NoNull (clientConnect plat sys s c tag deviceId req) := by
  have hconnect : NoNull (usbmuxRemoteConnect plat sys s deviceId req c) := by
    refine lockRemoteList_noNull.bind fun t => newRemoteFor_noNull.bind fun o => ?_
    cases o with
    | none => exact .pure
    | some y =>
        refine NoNull.bind (modifyClient_noNull.bind fun _ => .pure) fun p => ?_
        exact remoteSendPlistPkt_noNull.bind fun _ => .pure
  exact hconnect.bind fun res => .ite reply_noNull (modifyClient_noNull.bind fun _ => .pure)

theorem forwardRequest_noNull {k : UInt8} {cmd : RemoteCommand} {p : Plist} :
    NoNull (forwardRequest plat sys s k tag cmd (.ok p) c) := by
  refine newRemoteFor_noNull.bind fun o => ?_
  cases o with
  | none => exact .pure
  | some y =>
      refine NoNull.bind (modifyClient_noNull.bind fun _ => .pure) fun q => ?_
      refine remoteSendPlistPkt_noNull.bind fun res => ?_
      exact .ite (modifyRemote_noNull.bind fun _ => .pure) .pure

theorem sendDeviceList_noNull : NoNull (sendDeviceList plat sys s c tag) :=
  usbmuxRemoteCopyDeviceList_noNull.bind fun _ => sendPlistPkt_noNull

theorem sendListenerList_noNull : NoNull (sendListenerList plat sys s c tag) := by
  have hentries : ∀ (t : Daemon) (n : UInt32) (cs : List ClientPtr),
      NoNull (listenerEntries t n cs) := by
    intro t n cs
    induction cs with
    | nil => exact .pure
    | cons c rest ih => exact client_noNull.bind fun _ => ih.bind fun _ => .pure
  refine lockClientList_noNull.bind fun t => client_noNull.bind fun x => ?_
  exact (hentries _ _ _).bind fun _ => sendPlistPkt_noNull

theorem plistDictForeach_noNull {σ : Type} {func : String → Plist → σ → Except Fault (Int × σ)}
    (h : ∀ key value ctx, NoNull (func key value ctx)) {l : List (String × Plist)} {ctx : σ} :
    NoNull (plistDictForeach func l ctx) := by
  induction l generalizing ctx with
  | nil => exact .pure
  | cons p rest ih => exact (h _ _ _).bind fun _ => .ite .pure ih

theorem sendInstances_noNull : NoNull (sendInstances plat sys s c tag) := by
  have hloop : ∀ (t : Daemon) (rs : List RemotePtr) (dict : Plist),
      NoNull (copyInstancesLoop t rs dict) := by
    intro t rs
    induction rs with
    | nil => exact fun _ => .pure
    | cons r rest ih =>
        intro dict
        refine remote_noNull.bind fun y => .ite ?_ (ih _)
        exact (plistDictForeach_noNull fun _ _ _ => .ite .pure .pure).bind fun _ => ih _
  refine NoNull.bind (lockRemoteList_noNull.bind fun t => (hloop _ _ _).bind fun _ => .pure)
    fun _ => sendPlistPkt_noNull

theorem addInstance_noNull {dict : Plist} : NoNull (addInstance plat sys s c tag dict) := by
  have hadd : ∀ host port, NoNull (usbmuxRemoteAddRemote plat sys s host port) := by
    intro host port
    refine lockRemoteList_noNull.bind fun t => findRemote_noNull.bind fun o => ?_
    cases o with
    | some _ => exact .pure
    | none =>
        dsimp only
        split
        · exact .pure
        · refine .ite .pure ?_
          refine NoNull.bind (remoteSendPlistPkt_noNull.bind fun res => ?_) fun _ => .pure
          exact .ite (modifyRemote_noNull.bind fun _ => .pure) .pure
  rw [addInstance]
  split
  · exact reply_noNull
  · exact (hadd _ _).bind fun _ => reply_noNull

theorem slotLoop_noNull {σ ι : Type} {slot : σ → Nat → Option ι} {body : σ → ι → Except Fault σ}
    (h : ∀ s x, NoNull (body s x)) {idx : List Nat} {t : σ} : NoNull (slotLoop slot body idx t) :=
  slotLoop_post (P := fun _ _ => True) (fun h _ => h) (fun _ _ => h _ _) trivial

theorem clientClose_noNull : NoNull (clientClose s c) := by
  have hremote : ∀ t, NoNull (clientCloseRemote t c) := by
    refine fun t => client_noNull.bind fun x => ?_
    split
    · exact .pure
    · refine clientRemote_noNull.bind fun p => modifyRemote_noNull.bind fun _ => ?_
      refine lockRemoteList_noNull.bind fun _ => NoNull.bind ?_ fun _ => .pure
      exact remote_noNull.bind fun _ => .pure
  refine modifyClient_noNull.bind fun t => (hremote t).bind fun u => ?_
  exact lockClientList_noNull.bind fun _ => client_noNull.bind fun _ => .pure

theorem usbmuxRemoteDispose_noNull : NoNull (usbmuxRemoteDispose plat sys s r) := by
  have hremove : ∀ t devid, NoNull (clientDeviceRemove plat sys t devid) := by
    refine fun t devid => lockClientList_noNull.bind fun u => NoNull.bind
      (slotLoop_noNull fun v c => client_noNull.bind fun x => .ite ?_ .pure) fun _ => .pure
    exact NoNull.bind (client_noNull.bind fun _ => .ite sendPlistPkt_noNull sendPkt_noNull)
      fun _ => .pure
  refine remote_noNull.bind fun y => ?_
  refine NoNull.bind (plistDictForeach_noNull fun _ _ _ => ?_) fun t => ?_
  · exact .ite ((hremove _ _).bind fun _ => .pure) .pure
  · refine NoNull.bind ?_ fun _ => remote_noNull.bind fun _ => .pure
    rw [disposeClient]
    split
    · exact .pure
    · exact remoteClient_noNull.bind fun c => modifyClient_noNull.bind fun _ => clientClose_noNull

theorem removeInstance_noNull {dict : Plist} : NoNull (removeInstance plat sys s c tag dict) := by
  have hdead : ∀ t r, NoNull (remoteMarkDead plat sys t r) := by
    refine fun t r => remote_noNull.bind fun y => modifyRemote_noNull.bind fun u => ?_
    refine NoNull.bind (slotLoop_noNull fun v r' => remote_noNull.bind fun z =>
      .ite modifyRemote_noNull .pure) fun v => findRemote_noNull.bind fun o => ?_
    cases o with
    | none => exact slotLoop_noNull fun _ _ => usbmuxRemoteDispose_noNull
    | some p => exact modifyRemote_noNull
  have hremove : ∀ host port, NoNull (usbmuxRemoteRemoveRemote plat sys s host port) := by
    refine fun host port => lockRemoteList_noNull.bind fun t => findRemote_noNull.bind fun o => ?_
    cases o with
    | none => exact .pure
    | some p => exact (hdead _ _).bind fun _ => .pure
  rw [removeInstance]
  split
  · exact reply_noNull
  · exact (hremove _ _).bind fun _ => reply_noNull

end NoNull

/-! ## The fate of a request -/

/-- A packet with a tag was queued on the client. -/
def Answered (c : ClientPtr) (tag : UInt32) (s s' : Core) : Prop :=
  ∃ acts hdr payload, s'.log = s.log ++ acts ∧ .queue c hdr payload ∈ acts ∧ hdr.tag = tag

/-- A remote was opened for the client and waits for the reply: to a connect
request, or to the command it was opened for. -/
def Waiting (c : ClientPtr) (cmd : Option RemoteCommand) (s s' : Core) : Prop :=
  ∃ r y, s.remotes r = none ∧ r ∈ s'.remoteList.elems ∧ s'.remotes r = some y ∧
    y.client = some c ∧
    (y.state = .connecting1 ∨ (y.state = .command ∧ cmd.isSome ∧ y.lastCommand = cmd))

/-- The reply a request waits for, by its message type. -/
def awaitedCommand (message : String) : Option RemoteCommand :=
  if message = "ReadBUID" then some .readBuid
  else if message = "ReadPairRecord" then some .readPairRecord
  else if message = "SavePairRecord" then some .savePairRecord
  else if message = "DeletePairRecord" then some .deletePairRecord
  else none

section Fate

variable {A : Allow} {s₀ : Core} {s : Daemon} {c : ClientPtr} {plat : Platform} {sys : Sys}
  {tag : UInt32}

theorem Moves.log_append {s s' : Core} (h : Moves A s s') : ∃ acts, s'.log = s.log ++ acts := by
  refine invariant_of_step (R := Move A) (P := fun t => ∃ acts, t.log = s.log ++ acts)
    (fun {t t'} hm ht => ?_) h ⟨[], (List.append_nil _).symm⟩
  obtain ⟨acts, ht⟩ := ht
  obtain ⟨acts', he⟩ := hm.emits
  exact ⟨acts ++ acts', by rw [he.log, ht, List.append_assoc]⟩

theorem Queued.answered {x : MuxClient} {hdr : Header} {payload : Payload} {s s' : Core}
    (h : Queued c x hdr payload s s') (htag : hdr.tag = tag) : Answered c tag s s' := by
  obtain ⟨_, _, ob, _, rfl⟩ := h
  exact ⟨_, hdr, payload, rfl, List.mem_cons_self, htag⟩

theorem Answered.of_log {t t' s s' : Core} (h : Answered c tag t t') (hs : t.log = s.log)
    (hs' : s'.log = t'.log) : Answered c tag s s' := by
  obtain ⟨acts, hdr, payload, hlog, hmem, htag⟩ := h
  exact ⟨acts, hdr, payload, by rw [hs', hlog, hs], hmem, htag⟩

/-- What comes before the answer. -/
theorem Answered.after {t s s' : Core} (h : Answered c tag t s')
    (hs : ∃ acts, t.log = s.log ++ acts) : Answered c tag s s' := by
  obtain ⟨acts, hs⟩ := hs
  obtain ⟨acts', hdr, payload, hlog, hmem, htag⟩ := h
  exact ⟨acts ++ acts', hdr, payload, by rw [hlog, hs, List.append_assoc],
    List.mem_append_right _ hmem, htag⟩

/-- What comes after it. -/
theorem Answered.before {t s s' : Core} (h : Answered c tag s t)
    (hs : ∃ acts, s'.log = t.log ++ acts) : Answered c tag s s' := by
  obtain ⟨acts, hs⟩ := hs
  obtain ⟨acts', hdr, payload, hlog, hmem, htag⟩ := h
  exact ⟨acts' ++ acts, hdr, payload, by rw [hs, hlog, List.append_assoc],
    List.mem_append_left _ hmem, htag⟩

/-- Without losses a packet is queued. -/
theorem SendOutcome.queued {P : UInt32 → Header → Payload → Prop} {s : Core} {res : Int × Daemon}
    (h : SendOutcome plat sys c P s res) (hloss : ¬ Loss plat sys) :
    0 < res.1 ∧ ∃ x hdr payload, P x.protoVersion hdr payload ∧
      Queued c x hdr payload s res.2.toCore :=
  h.resolve_left fun hl => hloss hl.2.1

theorem reply_answered {result : UInt32} (hloss : ¬ Loss plat sys) :
    Runs A s₀ (fun res => res.1 = 0 ∧ Answered c tag s.toCore res.2.toCore)
      (reply plat sys s c tag result) := by
  refine sendResult_runs.bind ?_
  rintro ⟨res, s₁⟩ h
  obtain ⟨hpos, x, hdr, payload, hpkt, hq⟩ := h.queued hloss
  exact ⟨if_neg (Int.not_lt.mpr (Int.le_of_lt hpos)), hq.answered hpkt.2.1⟩

/-- The lists that are sent on request. -/
theorem sendPlistPkt_answered {p : Plist} {t : Core} (hloss : ¬ Loss plat sys)
    (hlog : s.log = t.log) :
    Runs A s₀ (fun res => 0 < res.1 ∧ Answered c tag t res.2.toCore)
      (sendPlistPkt plat sys s c tag p) := by
  refine sendPlistPkt_runs.imp fun res h => ?_
  obtain ⟨hpos, x, hdr, payload, hpkt, hq⟩ := h.queued hloss
  exact ⟨hpos, (hq.answered hpkt.1).of_log hlog rfl⟩

theorem zeroOrFail_answered {m : Except Fault (Int × Daemon)} {t : Core}
    (h : Runs A s₀ (fun res => 0 < res.1 ∧ Answered c tag t res.2.toCore) m) :
    Runs A s₀ (fun res => res.1 = 0 ∧ Answered c tag t res.2.toCore) (zeroOrFail <$> m) :=
  Post.map h fun _ hres => ⟨if_neg (Int.not_lt.mpr (Int.le_of_lt hres.1)), hres.2⟩

theorem sendDeviceList_answered (hloss : ¬ Loss plat sys) :
    Runs A s₀ (fun res => 0 < res.1 ∧ Answered c tag s.toCore res.2.toCore)
      (sendDeviceList plat sys s c tag) := by
  refine usbmuxRemoteCopyDeviceList_runs.bind ?_
  rintro ⟨devices, s₁⟩ ⟨_, h₁⟩
  exact sendPlistPkt_answered hloss (congrArg Core.log h₁)

theorem sendListenerList_answered (hloss : ¬ Loss plat sys) :
    Runs A s₀ (fun res => 0 < res.1 ∧ Answered c tag s.toCore res.2.toCore)
      (sendListenerList plat sys s c tag) := by
  refine lockClientList_runs.bind fun s₁ h₁ => ?_
  refine client_runs.bind fun x _ => listenerEntries_runs.bind fun listeners _ => ?_
  exact sendPlistPkt_answered hloss (congrArg Core.log h₁)

theorem sendInstances_answered (hloss : ¬ Loss plat sys) :
    Runs A s₀ (fun res => 0 < res.1 ∧ Answered c tag s.toCore res.2.toCore)
      (sendInstances plat sys s c tag) := by
  have hcopy : Runs A s₀ (fun p => p.2.toCore = s.toCore) (usbmuxRemoteCopyInstances s) :=
    lockRemoteList_runs.bind fun s₁ h₁ => copyInstancesLoop_runs.bind fun _ _ => h₁
  refine hcopy.bind ?_
  rintro ⟨instances, s₁⟩ h₁
  exact sendPlistPkt_answered hloss (congrArg Core.log h₁)

/-- The devices are announced one by one. -/
theorem startListenLoop_count {devs : List Plist} (hloss : ¬ Loss plat sys) :
    ∀ {t : Daemon} {count : Int}, Runs A s₀ (fun res => res.1 = count + devs.length ∧
      ∃ acts, res.2.log = t.log ++ acts) (startListenLoop plat sys c devs count t) := by
  induction devs with
  | nil => exact fun {t count} => ⟨(Int.add_zero count).symm, [], (List.append_nil _).symm⟩
  | cons dev rest ih =>
      intro t count
      rw [startListenLoop]
      refine notifyDeviceAdd_runs.bind ?_
      rintro ⟨res, t'⟩ h
      obtain ⟨hpos, x, hdr, payload, _, _, _, ob, _, ht'⟩ := h.queued hloss
      have hneg : ¬ res < 0 := Int.not_lt.mpr (Int.le_of_lt hpos)
      simp only [if_neg hneg]
      refine ih.imp ?_
      rintro ⟨res', t''⟩ ⟨hcount, acts, hacts⟩
      refine ⟨hcount.trans ?_, .queue c hdr payload :: acts, hacts.trans ?_⟩
      · rw [List.length_cons]
        omega
      · rw [show t'.toCore = _ from ht', Core.log_emit, List.append_assoc]
        rfl

/-- `Listen` is answered before anything else, and returns the number of
devices. -/
theorem clientListen_answered (hloss : ¬ Loss plat sys) :
    Runs A s₀ (fun res : Int × Daemon => res.1 = (s.remoteDeviceList.entries.length : Int) ∧
      Answered c tag s.toCore res.2.toCore) (clientListen plat sys s c tag) := by
  refine sendResult_runs.bind ?_
  rintro ⟨res, s₁⟩ h
  obtain ⟨hpos, x, hdr, payload, hpkt, hq⟩ := h.queued hloss
  have hneg : ¬ res < 0 := Int.not_lt.mpr (Int.le_of_lt hpos)
  simp only [if_neg hneg]
  refine modifyClient_runs.bind ?_
  rintro s₂ ⟨x', hx', rfl⟩
  refine usbmuxRemoteCopyDeviceList_runs.bind ?_
  rintro ⟨devs, s₃⟩ ⟨hdevs, h₃⟩
  refine (startListenLoop_count hloss).imp ?_
  rintro ⟨res', s₄⟩ ⟨hcount, hacts⟩
  have hs₁ : s₁.remoteDeviceList = s.remoteDeviceList := by
    obtain ⟨_, _, ob, _, h₁⟩ := hq
    rw [show s₁.toCore = _ from h₁]
    rfl
  refine ⟨hcount.trans ?_, ((hq.answered hpkt.2.1).before ⟨[.listen c], ?_⟩).before hacts⟩
  · rw [show devs = _ from hdevs, OMap.values, List.length_map, Int.zero_add]
    show ((s₁.remoteDeviceList.entries.length : Nat) : Int) = _
    rw [hs₁]
  · rw [show s₃.toCore = _ from h₃]
    rfl

/-- A new remote that has its client. -/
theorem Waiting.of_open {s s' : Core} {y : RemoteMux} {cmd : Option RemoteCommand} (hwf : WF s)
    (hs' : ∃ x acts, s' = ((s.setClient c x).addRemote y).emit acts)
    (hclient : y.client = some c)
    (hstate : y.state = .connecting1 ∨ (y.state = .command ∧ cmd.isSome ∧ y.lastCommand = cmd)) :
    Waiting c cmd s s' := by
  obtain ⟨x, acts, rfl⟩ := hs'
  refine ⟨⟨s.nextRemote⟩, y, hwf.nextRemote_free, ?_, remotes_linkNewRemote, hclient, hstate⟩
  exact Collection.mem_elems_add.mpr (Or.inl rfl)

theorem clientConnect_served {deviceId : UInt32} {req : Plist} {cmd : Option RemoteCommand}
    (hloss : ¬ Loss plat sys) (hwf : WF s.toCore) :
    Runs A s₀ (fun res => res.1 = 0 ∧ (Answered c tag s.toCore res.2.toCore ∨
      Waiting c cmd s.toCore res.2.toCore)) (clientConnect plat sys s c tag deviceId req) := by
  refine usbmuxRemoteConnect_runs.bind ?_
  rintro ⟨res, s₁⟩ (⟨hneg, h₁⟩ | ⟨hzero, x, y, y₀, acts, hx, _, _, _, _, hkind, _, h₁⟩)
  · have hneg' : res < 0 := hneg
    simp only [if_pos hneg']
    refine (reply_answered hloss).imp fun res' h => ⟨h.1, Or.inl (h.2.of_log ?_ rfl)⟩
    rw [show s₁.toCore = _ from h₁]
  · obtain rfl : res = 0 := hzero
    simp only [Int.lt_irrefl, if_false]
    refine modifyClient_runs.bind ?_
    rintro s₂ ⟨x', hx', rfl⟩
    refine ⟨rfl, Or.inr (Waiting.of_open hwf ?_ hkind.2.2.1 (Or.inl hkind.1))⟩
    show ∃ _ _, s₁.toCore.setClient c _ = _
    rw [show s₁.toCore = _ from h₁, setClient_linkNewRemote]
    exact ⟨_, _, rfl⟩

/-- A request that is forwarded when there is somewhere to forward it to. -/
theorem forwardRequest_served {k : UInt8} {cmd : RemoteCommand} {msg : Except Fault Plist}
    (hloss : ¬ Loss plat sys) (hmsg : ∀ f, msg = .error f → f = .nullString)
    (hwf : WF s.toCore) :
    Runs A s₀ (fun res =>
      (res.1 = -1 ∧ newRemoteFor sys s k = .ok none ∧ res.2.toCore = s.toCore) ∨
        (res.1 = 0 ∧ Waiting c (some cmd) s.toCore res.2.toCore))
      (forwardRequest plat sys s k tag cmd msg c) := by
  refine (newRemoteFor_runs.withEq).bind ?_
  rintro (_ | y₀) ⟨hfresh, hnew⟩
  · exact Or.inl ⟨rfl, hnew, rfl⟩
  · obtain ⟨hfresh, _⟩ := hfresh y₀ rfl
    refine linkNewRemote_runs.bind ?_
    rintro ⟨r, s₁⟩ ⟨x, hx, hr, h₁⟩
    obtain rfl : r = ⟨s.nextRemote⟩ := hr
    have hmsg' : Runs A s₀ (fun _ => True) msg :=
      Post.intro (fun _ _ => trivial) fun f hf => Blame.of_faultAt (by rw [hmsg f hf]; trivial)
    refine hmsg'.bind fun p _ => ?_
    refine remoteSendPlistPkt_runs.bind ?_
    rintro ⟨res, s₂⟩ h₂
    have hy₁ : s₁.remotes ⟨s.nextRemote⟩ = some y₀ := by
      rw [show s₁.toCore = _ from h₁]
      exact remotes_linkNewRemote
    obtain ⟨ob, e, acts, _, heq, hres⟩ := h₂.first hy₁ hfresh.output hfresh.events
    rw [toCore_unlockRemoteList, show s₁.toCore = _ from h₁, setRemote_linkNewRemote] at heq
    have hpos : 0 < res := (hres.resolve_right fun hl => hloss hl.2.2).1
    simp only [if_pos hpos]
    refine modifyRemote_runs.bind ?_
    rintro s₃ ⟨y', hy', rfl⟩
    have hself : s₂.remotes ⟨s.nextRemote⟩ = some { y₀ with ob := ob, events := e } := by
      rw [show s₂.toCore = _ from heq]
      exact remotes_linkNewRemote
    cases hself.symm.trans hy'
    refine Or.inr ⟨rfl, Waiting.of_open (y := { y₀ with
      ob := ob, events := e, lastCommand := some cmd, client := some c }) hwf ?_ rfl
      (Or.inr ⟨hfresh.state, rfl, rfl⟩)⟩
    show ∃ _ _, s₂.toCore.setRemote _ _ = _
    rw [show s₂.toCore = _ from heq, setRemote_emit_addRemote]
    exact ⟨_, _, rfl⟩

theorem addInstance_answered {dict : Plist} (hloss : ¬ Loss plat sys) :
    Runs A s₀ (fun res => res.1 = 0 ∧ Answered c tag s.toCore res.2.toCore)
      (addInstance plat sys s c tag dict) := by
  rw [addInstance]
  split
  · exact reply_answered hloss
  · refine remoteMuxServiceAdd_runs.bind ?_
    rintro ⟨rv, s₁⟩ (⟨_, h₁⟩ | ⟨_, y, acts, _, _, _, h₁⟩)
    · refine (reply_answered hloss).imp fun res h => ⟨h.1, h.2.of_log ?_ rfl⟩
      rw [show s₁.toCore = _ from h₁]
    · refine (reply_answered hloss).imp fun res h => ⟨h.1, h.2.after ⟨acts, ?_⟩⟩
      rw [show s₁.toCore = _ from h₁]
      rfl

theorem removeInstance_answered {dict : Plist} (hloss : ¬ Loss plat sys) (hwf : WF s.toCore) :
    Runs .all s₀ (fun res => res.1 = 0 ∧ Answered c tag s.toCore res.2.toCore)
      (removeInstance plat sys s c tag dict) := by
  rw [removeInstance]
  split
  · exact reply_answered hloss
  · refine (remoteMuxServiceRemove_phase (fun _ => trivial) ⟨trivial, trivial⟩ hwf).bind ?_
    rintro ⟨rv, s₁⟩ ⟨hphase, _⟩
    exact (reply_answered hloss).imp fun res h => ⟨h.1, h.2.after hphase.moves.log_append⟩

/-- The mutexes do not matter for a connection. -/
theorem newRemoteFor_locks {k : UInt8} {lr lc : Bool} :
    newRemoteFor sys ⟨s.toCore, lr, lc⟩ k = newRemoteFor sys s k :=
  newRemoteFor_congr rfl rfl

/-- A request is to be forwarded, and there is nowhere to forward it to. -/
def Unforwarded (sys : Sys) (s : Daemon) (message : String) (dict : Plist) : Prop :=
  ∃ k, plistTarget s message dict = some (k, .command) ∧ newRemoteFor sys s k = .ok none

/-- What becomes of a plist request, and what is returned for it. -/
inductive PlistFate (c : ClientPtr) (tag : UInt32) (sys : Sys) (s : Daemon) (message : String)
    (dict : Plist) (res : Int × Daemon) : Prop where
  | answered (hres : res.1 = 0 ∨ (message = "Listen" ∧ s.remoteDeviceList.entries ≠ []))
      (h : Answered c tag s.toCore res.2.toCore)
  | waiting (hres : res.1 = 0)
      (h : Waiting c (awaitedCommand message) s.toCore res.2.toCore)
  | unforwarded (hres : res.1 = 0 ∨ message ≠ "ReadBUID") (h : Unforwarded sys s message dict)

/-- The pair-record requests. -/
theorem pairRecordRequest_served {message : String} {dict : Plist} {cmd : RemoteCommand}
    {msg : Except Fault Plist} (hloss : ¬ Loss plat sys)
    (hmsg : ∀ f, msg = .error f → f = .nullString) (hwf : WF s.toCore)
    (hpair : message = "ReadPairRecord" ∨ message = "SavePairRecord" ∨
      message = "DeletePairRecord")
    (hcmd : awaitedCommand message = some cmd) :
    Runs A s₀ (PlistFate c tag sys s message dict) (zeroOrFail <$> pairRecordRequest plat sys s
      (plistDictCopyStringVal dict "PairRecordID") tag cmd msg c) := by
  refine Runs.bind (P := fun res => PlistFate c tag sys s message dict (zeroOrFail res)) ?_
    fun _ h => h
  refine lockRemoteList_runs.bind ?_
  rintro ⟨core, locked, locked'⟩ h₁
  obtain rfl : core = s.toCore := h₁
  have hid : Runs A s₀ (fun _ => True) (pairRecordRemote ⟨s.toCore, locked, locked'⟩
      (plistDictCopyStringVal dict "PairRecordID")) :=
    (plistDictForeach_runs fun _ _ _ => matchDevice_runs).bind fun _ _ => trivial
  refine hid.withEq.bind ?_
  rintro k ⟨_, hk⟩
  have hwf' : WF (Daemon.mk s.toCore locked locked').toCore := hwf
  refine (forwardRequest_served hloss hmsg hwf').imp ?_
  rintro ⟨res, s'⟩ (⟨hres, hnone, _⟩ | ⟨hres, hwait⟩)
  · refine .unforwarded (Or.inr ?_) ⟨k, plistTarget_pairRecord hpair hk, ?_⟩
    · rcases hpair with rfl | rfl | rfl <;> decide
    · exact newRemoteFor_locks.symm.trans hnone
  · refine .waiting ?_ ?_
    · rw [zeroOrFail, show res = 0 from hres]
      rfl
    · rw [hcmd]
      exact hwait

theorem usbmuxRemoteReadBuid_served {dict : Plist} (hloss : ¬ Loss plat sys)
    (hwf : WF s.toCore) :
    Runs A s₀ (fun res => PlistFate c tag sys s "ReadBUID" dict (0, res.2))
      (usbmuxRemoteReadBuid plat sys s tag c) := by
  refine lockRemoteList_runs.bind ?_
  rintro ⟨core, locked, locked'⟩ h₁
  obtain rfl : core = s.toCore := h₁
  have hwf' : WF (Daemon.mk s.toCore locked locked').toCore := hwf
  refine (forwardRequest_served hloss (fun f hf => by cases hf) hwf').imp ?_
  rintro ⟨res, s'⟩ (⟨_, hnone, _⟩ | ⟨_, hwait⟩)
  · exact .unforwarded (Or.inl rfl) ⟨_, rfl, newRemoteFor_locks.symm.trans hnone⟩
  · exact .waiting rfl hwait

theorem plistCommand_fate {message : String} {dict : Plist} (hloss : ¬ Loss plat sys)
    (hwf : WF s.toCore) :
    Runs .all s₀ (PlistFate c tag sys s message dict)
      (plistCommand plat sys s c tag message dict) := by
  have hanswer : ∀ {res : Int × Daemon},
      res.1 = 0 ∧ Answered c tag s.toCore res.2.toCore → PlistFate c tag sys s message dict res :=
    fun h => .answered (Or.inl h.1) h.2
  refine Runs.ite (fun hmsg => ?_) fun _ => ?_
  · refine (clientListen_answered hloss).imp fun res h => .answered ?_ h.2
    cases hdevs : s.remoteDeviceList.entries with
    | nil =>
        rw [hdevs] at h
        exact Or.inl h.1
    | cons => exact Or.inr ⟨hmsg, List.cons_ne_nil _ _⟩
  refine Runs.ite (fun _ => ?_) fun _ => ?_
  · rw [plistConnect]
    split
    · exact (reply_answered hloss).imp fun _ => hanswer
    · split
      · exact (reply_answered hloss).imp fun _ => hanswer
      · exact (clientConnect_served hloss hwf).imp fun _ h =>
          h.2.elim (fun h' => hanswer ⟨h.1, h'⟩) fun h' => .waiting h.1 h'
  refine Runs.ite (fun _ => (zeroOrFail_answered (sendDeviceList_answered hloss)).imp
    fun _ => hanswer) fun _ => ?_
  refine Runs.ite (fun _ => (zeroOrFail_answered (sendListenerList_answered hloss)).imp
    fun _ => hanswer) fun _ => ?_
  refine Runs.ite (fun hmsg => ?_) fun _ => ?_
  · subst hmsg
    exact (usbmuxRemoteReadBuid_served hloss hwf).bind fun _ h => h
  refine Runs.ite (fun hmsg => ?_) fun _ => ?_
  · subst hmsg
    exact pairRecordRequest_served hloss (fun _ => pairRecordMessage_error) hwf (Or.inl rfl) rfl
  refine Runs.ite (fun hmsg => ?_) fun _ => ?_
  · subst hmsg
    exact pairRecordRequest_served hloss (fun f hf => by cases hf) hwf (Or.inr (Or.inl rfl)) rfl
  refine Runs.ite (fun hmsg => ?_) fun _ => ?_
  · subst hmsg
    exact pairRecordRequest_served hloss (fun _ => pairRecordMessage_error) hwf
      (Or.inr (Or.inr rfl)) rfl
  refine Runs.ite (fun _ => (zeroOrFail_answered (sendInstances_answered hloss)).imp
    fun _ => hanswer) fun _ => ?_
  refine Runs.ite (fun _ => (addInstance_answered hloss).imp fun _ => hanswer) fun _ => ?_
  exact Runs.ite (fun _ => (removeInstance_answered hloss hwf).imp fun _ => hanswer)
    fun _ => (reply_answered hloss).imp fun _ => hanswer

/-- The mutable part of the state that a request looks at does not change
before it is dispatched. -/
theorem PlistFate.after {t : Daemon} {message : String} {dict : Plist} {res : Int × Daemon}
    (h : PlistFate c tag sys t message dict res) (hlog : ∃ acts, t.log = s.log ++ acts)
    (hr : t.remotes = s.remotes) (hl : t.remoteList = s.remoteList)
    (hd : t.remoteDeviceList = s.remoteDeviceList) :
    PlistFate c tag sys s message dict res := by
  cases h with
  | answered hres h =>
      rw [hd] at hres
      exact .answered hres (h.after hlog)
  | waiting hres h =>
      refine .waiting hres ?_
      rw [Waiting, hr] at h
      exact h
  | unforwarded hres h =>
      refine .unforwarded hres ?_
      obtain ⟨k, htarget, hnone⟩ := h
      refine ⟨k, ?_, ?_⟩
      · rw [← htarget, plistTarget_congr hd]
      · rw [← hnone, newRemoteFor_congr hr hl]

/-- The plist of a frame that has a message type. -/
def requestPlist (plat : Platform) (b : Buf) : Option (String × Plist) :=
  (plat.plistFromXml (bufPayload plat b)).bind fun dict =>
    (plistDictCopyStringVal dict "MessageType").map fun message => (message, dict)

/-- What becomes of the frame in a client's input buffer. -/
inductive CommandFate (plat : Platform) (sys : Sys) (s : Daemon) (c : ClientPtr) (x : MuxClient)
    (res : Int × Daemon) : Prop where
  | closed (hstate : x.state ≠ .command) (h : res.2.clients c = none)
  | version (hstate : x.state = .command)
      (hver : (bufHeader plat x.ib).version ≠ 0 ∧ (bufHeader plat x.ib).version ≠ 1)
      (hres : res.1 = 0)
  | unreadable (hstate : x.state = .command)
      (hver : (bufHeader plat x.ib).version = 0 ∨ (bufHeader plat x.ib).version = 1)
      (hmsg : (bufHeader plat x.ib).message = messagePlist) (h : requestPlist plat x.ib = none)
  | plist {message : String} {dict : Plist} (hstate : x.state = .command)
      (hver : (bufHeader plat x.ib).version = 0 ∨ (bufHeader plat x.ib).version = 1)
      (hmsg : (bufHeader plat x.ib).message = messagePlist)
      (hplist : requestPlist plat x.ib = some (message, dict))
      (h : PlistFate c (bufHeader plat x.ib).tag sys s message dict res)
  | listen (hstate : x.state = .command)
      (hmsg : (bufHeader plat x.ib).message = messageListen)
      (hres : res.1 = (s.remoteDeviceList.entries.length : Int))
      (h : Answered c (bufHeader plat x.ib).tag s.toCore res.2.toCore)
  | served (hres : res.1 = 0)
      (h : Answered c (bufHeader plat x.ib).tag s.toCore res.2.toCore ∨
        Waiting c none s.toCore res.2.toCore)

theorem clientClose_gone : Post (fun _ => True) (fun s' : Daemon => s'.clients c = none)
    (clientClose s c) := by
  have hrun := clientClose_runs (A := .all) (s := s) (c := c)
    fun x r hx hr hfree => ⟨x, hx, Or.inl ⟨r, hr, hfree⟩⟩
  refine Post.imp hrun (fun _ _ => trivial) ?_
  rintro s' ⟨x, _, _, h'⟩
  rw [show s'.toCore = _ from h', Core.clients_closeClient, if_pos rfl]

theorem clientCommand_fate {x : MuxClient} (hloss : ¬ Loss plat sys) (hwf : WF s.toCore)
    (hx : s.clients c = some x) :
    Post (fun _ => True) (CommandFate plat sys s c x) (clientCommand plat sys s c) := by
  refine Post.bind client_runs.returns fun x' hx' => ?_
  cases hx.symm.trans hx'
  -- the command is logged first
  have hx₁ : (s.emit [.command c (bufFrame plat x.ib)]).clients c = some x := hx
  have hwf₁ : WF (s.emit [.command c (bufFrame plat x.ib)]).toCore := hwf.emit
  have hlog₁ : ∃ acts, (s.emit [.command c (bufFrame plat x.ib)]).log = s.log ++ acts := ⟨_, rfl⟩
  have hrem₁ : (s.emit [.command c (bufFrame plat x.ib)]).remotes = s.remotes := rfl
  have hlist₁ : (s.emit [.command c (bufFrame plat x.ib)]).remoteList = s.remoteList := rfl
  have hdev₁ : (s.emit [.command c (bufFrame plat x.ib)]).remoteDeviceList =
      s.remoteDeviceList := rfl
  generalize s.emit [.command c (bufFrame plat x.ib)] = s₁ at *
  have hserved : ∀ {res : Int × Daemon}, res.1 = 0 →
      (Answered c (bufHeader plat x.ib).tag s₁.toCore res.2.toCore ∨
        Waiting c none s₁.toCore res.2.toCore) → CommandFate plat sys s c x res := by
    intro res hres h
    refine .served hres (h.imp (fun h' => h'.after hlog₁) fun h' => ?_)
    rw [Waiting, hrem₁] at h'
    exact h'
  dsimp only
  split
  · next hstate =>
      -- not expecting any command
      refine Post.bind sendResult_runs.returns ?_
      rintro ⟨res, s₂⟩ h
      have hneg : ¬ res < 0 := Int.not_lt.mpr (Int.le_of_lt (h.queued hloss).1)
      simp only [if_neg hneg]
      exact clientClose_gone.bind fun s₃ h₃ => .closed hstate h₃
  · next hstate =>
      rw [not_not] at hstate
      split
      · next hver =>
          exact Post.bind sendResult_runs.returns
            fun _ _ => .version hstate hver rfl
      · next hbad =>
        have hver : (bufHeader plat x.ib).version = 0 ∨ (bufHeader plat x.ib).version = 1 := by
          rw [← not_not (a := (bufHeader plat x.ib).version = 0 ∨ _), not_or]
          exact hbad
        split
        · next hmsg =>
            refine Post.bind modifyClient_runs.returns ?_
            rintro s₂ ⟨x₁, hx₁', rfl⟩
            split
            · next hnone => exact .unreadable hstate hver hmsg (by rw [requestPlist, hnone]; rfl)
            · next dict hdict =>
                split
                · next hnone =>
                    refine .unreadable hstate hver hmsg ?_
                    rw [requestPlist, hdict, Option.bind_some, hnone]
                    rfl
                · next message hmessage =>
                    have hplist : requestPlist plat x.ib = some (message, dict) := by
                      rw [requestPlist, hdict, Option.bind_some, hmessage]
                      rfl
                    refine Post.bind modifyClient_runs.returns ?_
                    rintro s₃ ⟨x₂, hx₂, rfl⟩
                    refine Post.imp (plistCommand_fate hloss ?_).returns
                      (fun _ h => h) fun res h => .plist hstate hver hmsg hplist
                        (h.after hlog₁ hrem₁ hlist₁ hdev₁)
                    refine WF.setClient (WF.setClient hwf₁ ?_) ?_
                    · rw [hx₁]
                      rfl
                    · rw [hx₂]
                      rfl
        · split
          · next hmsg =>
              refine Post.imp (clientListen_answered hloss).returns
                (fun _ h => h) fun res h => .listen hstate hmsg ?_ (h.2.after hlog₁)
              rw [← hdev₁]
              exact h.1
          · split
            · exact Post.imp (clientConnect_served hloss hwf₁).returns
                (fun _ h => h) fun res h => hserved h.1 h.2
            · exact Post.imp (reply_answered hloss).returns
                (fun _ h => h) fun res h => hserved h.1 (Or.inl h.2)

end Fate

end Usbfluxd
