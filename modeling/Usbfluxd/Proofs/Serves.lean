import Usbfluxd.Proofs.Answers
import Usbfluxd.Proofs.Sound

/-!
# Commands keep their client

A command is handled on behalf of a client, which its caller goes on using
when the command returns 0. `Serves` says that the command touches no freed
object and leaves that client in its list. Every command does, with one
exception: `RemoveInstance` may dispose of every remote there is, and with
them of every client that has one (`LosesClient`).
-/

namespace Usbfluxd

open Lib

/-- The command touches no freed object, and its client stays. -/
def Serves (c : ClientPtr) (m : Except Fault (Int × Daemon)) : Prop :=
  Post (fun f => ¬ f.IsUse) (fun res => (res.2.clients c).isSome) m

section Requests

variable {s : Daemon} {c : ClientPtr} {plat : Platform} {sys : Sys} {tag msg : UInt32}
  {dict : Plist}

theorem Serves.of_outcome {P : UInt32 → Header → Payload → Prop}
    {m : Except Fault (Int × Daemon)} (hc : (s.clients c).isSome) (hm : Sound m)
    (h : Post (fun _ => True) (SendOutcome plat sys c P s.toCore) m) : Serves c m :=
  Post.imp (hm.post h) (fun _ hf => hf) fun _ hres => hres.same.isSome hc

theorem Serves.ite {p : Prop} [Decidable p] {m m' : Except Fault (Int × Daemon)}
    (h : p → Serves c m) (h' : ¬ p → Serves c m') : Serves c (if p then m else m') := by
  split
  · next hp => exact h hp
  · next hp => exact h' hp

theorem Serves.zeroOrFail {m : Except Fault (Int × Daemon)} (h : Serves c m) :
    Serves c (zeroOrFail <$> m) :=
  Post.map h fun _ hres => hres

theorem sendResult_serves {result : UInt32} (hc : (s.clients c).isSome) :
    Serves c (sendResult plat sys s c tag result) :=
  .of_outcome hc (sendResult_sound hc) sendResult_runs.returns

theorem reply_serves {result : UInt32} (hc : (s.clients c).isSome) :
    Serves c (reply plat sys s c tag result) :=
  Post.bind (sendResult_serves hc) fun _ hres => hres

theorem sendPlistPkt_serves {p : Plist} (hc : (s.clients c).isSome) :
    Serves c (sendPlistPkt plat sys s c tag p) :=
  .of_outcome hc (sendPlistPkt_sound hc) sendPlistPkt_runs.returns

theorem usbmuxRemoteCopyDeviceList_post :
    Post (fun f => ¬ f.IsUse) (fun p : List Plist × Daemon => p.2.toCore = s.toCore)
      (usbmuxRemoteCopyDeviceList s) :=
  Post.bind (lockRemoteList_sound.post lockRemoteList_runs.returns) fun _ h₁ => h₁

theorem startListenLoop_serves {devs : List Plist} {count : Int} (hc : (s.clients c).isSome) :
    Serves c (startListenLoop plat sys c devs count s) := by
  induction devs generalizing s count with
  | nil => exact hc
  | cons dev rest ih =>
      refine Post.bind (Serves.of_outcome hc (notifyDeviceAdd_sound hc)
        notifyDeviceAdd_runs.returns) fun res hres => ?_
      show Serves c (if res.1 < 0 then _ else _)
      split
      · exact hres
      · exact ih hres

theorem clientListen_serves (hc : (s.clients c).isSome) :
    Serves c (clientListen plat sys s c tag) := by
  refine Post.bind (sendResult_serves hc) fun res hres => ?_
  show Serves c (if res.1 < 0 then _ else _)
  split
  · exact hres
  · refine Post.bind ((modifyClient_sound hres).post modifyClient_runs.returns) fun s₁ h₁ => ?_
    obtain ⟨x, _, rfl⟩ := h₁
    refine Post.bind usbmuxRemoteCopyDeviceList_post fun p hp => ?_
    refine startListenLoop_serves ?_
    rw [hp, toCore_emit, toCore_update, Core.clients_emit, Core.clients_setClient, if_pos rfl]
    rfl

theorem sendDeviceList_serves (hc : (s.clients c).isSome) :
    Serves c (sendDeviceList plat sys s c tag) := by
  refine Post.bind usbmuxRemoteCopyDeviceList_post fun p hp => ?_
  refine sendPlistPkt_serves ?_
  rw [hp]
  exact hc

theorem sendListenerList_serves (hwf : WF s.toCore) (hc : (s.clients c).isSome) :
    Serves c (sendListenerList plat sys s c tag) := by
  have hentries : ∀ (t : Daemon) (n : UInt32) (cs : List ClientPtr),
      (∀ c ∈ cs, (t.clients c).isSome) → Sound (listenerEntries t n cs) := by
    intro t n cs hcs
    induction cs with
    | nil => exact .pure
    | cons c rest ih =>
        rw [List.forall_mem_cons] at hcs
        exact (client_sound hcs.1).then fun _ => (ih hcs.2).then fun _ => .pure
  refine Post.bind (lockClientList_sound.post lockClientList_runs.returns) fun s₁ h₁ => ?_
  rw [← h₁] at hwf hc
  refine Post.bind (client_sound hc) fun x _ => ?_
  refine Post.bind (hentries s₁ x.number s₁.clientList.elems fun c' hc' => ?_) fun _ _ => ?_
  · exact (hwf.clients c').mp hc'
  · exact sendPlistPkt_serves hc

theorem sendInstances_serves (hwf : WF s.toCore) (hc : (s.clients c).isSome) :
    Serves c (sendInstances plat sys s c tag) := by
  have hforeach : ∀ (k : UInt8) (l : List (String × Plist)) (acc : List Plist),
      Sound (plistDictForeach (remoteDeviceGetForInstance k) l acc) := by
    intro k l
    induction l with
    | nil => exact fun _ => .pure
    | cons p rest ih =>
        intro acc
        refine Sound.then (.ite (fun _ => .pure) fun _ => .pure) fun res => ?_
        exact .ite (fun _ => .pure) fun _ => ih _
  have hloop : ∀ (t : Daemon) (rs : List RemotePtr) (dict : Plist),
      (∀ r ∈ rs, (t.remotes r).isSome) → Sound (copyInstancesLoop t rs dict) := by
    intro t rs
    induction rs with
    | nil => exact fun _ _ => .pure
    | cons r rest ih =>
        intro dict hrs
        rw [List.forall_mem_cons] at hrs
        refine (remote_sound hrs.1).then fun y => .ite (fun _ => ?_) fun _ => ih _ hrs.2
        exact (hforeach _ _ _).then fun _ => ih _ hrs.2
  refine Post.bind (P := fun p : Plist × Daemon => p.2.toCore = s.toCore) ?_ fun p hp => ?_
  · refine Post.bind (lockRemoteList_sound.post lockRemoteList_runs.returns) fun s₁ h₁ => ?_
    rw [← h₁] at hwf
    exact Post.bind (hloop s₁ _ _ hwf.remotes_live) fun _ _ => h₁
  · refine sendPlistPkt_serves ?_
    rw [hp]
    exact hc

theorem newRemoteFor_sound {k : UInt8} (hwf : WF s.toCore) : Sound (newRemoteFor sys s k) := by
  refine .ite (fun _ => .pure) fun _ => (findRemote_sound hwf.remotes_live).then fun o => ?_
  cases o <;> exact .pure

theorem linkNewRemote_sound {y : RemoteMux} (hc : (s.clients c).isSome) :
    Sound (linkNewRemote s c y) :=
  (modifyClient_sound hc).then fun _ => .pure

/-- Queueing on a remote changes no client and keeps the remote. -/
theorem RemoteSendOutcome.clients {r : RemotePtr} {P : Payload → Prop} {s : Core}
    {res : Int × Daemon} (h : RemoteSendOutcome plat sys r P s res) :
    res.2.clients = s.clients ∧ ((s.remotes r).isSome → (res.2.remotes r).isSome) := by
  rcases h with ⟨_, _, heq⟩ | ⟨_, y, ob, hdr, payload, _, _, _, heq⟩
  · rw [heq]
    exact ⟨rfl, fun hr => hr⟩
  · rw [heq]
    refine ⟨rfl, fun _ => ?_⟩
    rw [Core.remotes_emit, Core.remotes_setRemote, if_pos rfl]
    rfl

/-- The client of a new remote is there, and so is the remote. -/
theorem linkNewRemote_post {y : RemoteMux} (hc : (s.clients c).isSome) :
    Post (fun f => ¬ f.IsUse) (fun p : RemotePtr × Daemon =>
      (p.2.clients c).isSome ∧ (p.2.remotes p.1).isSome) (linkNewRemote s c y) := by
  refine Post.imp ((linkNewRemote_sound hc).post linkNewRemote_runs.returns) (fun _ hf => hf) ?_
  intro p hp
  obtain ⟨x, _, hr, heq⟩ := hp
  rw [heq, hr, remotes_linkNewRemote, Core.clients_emit, Core.clients_addRemote,
    Core.clients_setClient, if_pos rfl]
  exact ⟨rfl, rfl⟩

theorem usbmuxRemoteConnect_serves {deviceId : UInt32} {req : Plist} (hwf : WF s.toCore)
    (hc : (s.clients c).isSome) :
    Serves c (usbmuxRemoteConnect plat sys s deviceId req c) := by
  refine Post.bind (lockRemoteList_sound.post lockRemoteList_runs.returns) fun s₁ h₁ => ?_
  rw [← h₁] at hwf hc
  refine Post.bind (newRemoteFor_sound hwf) fun o _ => ?_
  cases o with
  | none => exact hc
  | some y =>
      refine Post.bind (linkNewRemote_post hc) fun p hp => ?_
      refine Post.bind ((remoteSendPlistPkt_sound (s := p.2.unlockRemoteList) hp.2).post
        remoteSendPlistPkt_runs.returns) fun res hres => ?_
      show (res.2.clients c).isSome
      rw [hres.clients.1]
      exact hp.1

theorem clientConnect_serves {deviceId : UInt32} {req : Plist} (hwf : WF s.toCore)
    (hc : (s.clients c).isSome) : Serves c (clientConnect plat sys s c tag deviceId req) := by
  refine Post.bind (usbmuxRemoteConnect_serves hwf hc) fun res hres => ?_
  show Serves c (if res.1 < 0 then _ else _)
  split
  · exact reply_serves hres
  · refine Post.bind ((modifyClient_sound hres).post modifyClient_runs.returns) fun s₁ h₁ => ?_
    obtain ⟨x, _, rfl⟩ := h₁
    show ((res.2.toCore.setClient c _).clients c).isSome
    rw [Core.clients_setClient, if_pos rfl]
    rfl

theorem forwardRequest_serves {k : UInt8} {cmd : RemoteCommand} {msg : Except Fault Plist}
    (hmsg : ∀ f, msg = .error f → f = .nullString) (hwf : WF s.toCore)
    (hc : (s.clients c).isSome) : Serves c (forwardRequest plat sys s k tag cmd msg c) := by
  refine Post.bind (newRemoteFor_sound hwf) fun o _ => ?_
  cases o with
  | none => exact hc
  | some y =>
      refine Post.bind (linkNewRemote_post hc) fun p hp => ?_
      have hmsg' : Sound msg := Post.intro (fun _ _ => trivial) fun f hf => by
        rw [hmsg f hf]
        exact id
      refine Post.bind hmsg' fun q _ => ?_
      refine Post.bind ((remoteSendPlistPkt_sound (s := p.2.unlockRemoteList) hp.2).post
        remoteSendPlistPkt_runs.returns) fun res hres => ?_
      have hc' : (res.2.clients c).isSome := by
        rw [hres.clients.1]
        exact hp.1
      show Serves c (if 0 < res.1 then _ else _)
      split
      · refine Post.bind ((modifyRemote_sound (hres.clients.2 hp.2)).post
          modifyRemote_runs.returns) fun s₁ h₁ => ?_
        obtain ⟨_, _, rfl⟩ := h₁
        exact hc'
      · exact hc'

theorem usbmuxRemoteReadBuid_serves (hwf : WF s.toCore) (hc : (s.clients c).isSome) :
    Serves c (usbmuxRemoteReadBuid plat sys s tag c) := by
  refine Post.bind (lockRemoteList_sound.post lockRemoteList_runs.returns) fun s₁ h₁ => ?_
  rw [← h₁] at hwf hc
  exact forwardRequest_serves (fun f hf => by cases hf) hwf hc

theorem pairRecordRequest_serves {recordId : Option String} {cmd : RemoteCommand}
    {msg : Except Fault Plist} (hmsg : ∀ f, msg = .error f → f = .nullString)
    (hwf : WF s.toCore) (hc : (s.clients c).isSome) :
    Serves c (pairRecordRequest plat sys s recordId tag cmd msg c) := by
  have hforeach : ∀ (l : List (String × Plist)) (devid : UInt32),
      Sound (plistDictForeach (matchDevice recordId) l devid) := by
    intro l
    induction l with
    | nil => exact fun _ => .pure
    | cons p rest ih =>
        intro devid
        refine Sound.then ?_ fun res => .ite (fun _ => .pure) fun _ => ih _
        rw [matchDevice]
        split
        · exact .pure
        · split
          · exact .fault id
          · exact .ite (fun _ => .pure) fun _ => .pure
  refine Post.bind (lockRemoteList_sound.post lockRemoteList_runs.returns) fun s₁ h₁ => ?_
  rw [← h₁] at hwf hc
  refine Post.bind (Sound.then (hforeach _ _) fun _ => Sound.pure) fun k _ => ?_
  exact forwardRequest_serves hmsg hwf hc

theorem addInstance_serves (hwf : WF s.toCore) (hc : (s.clients c).isSome) :
    Serves c (addInstance plat sys s c tag dict) := by
  have hadd : ∀ host port, Sound (usbmuxRemoteAddRemote plat sys s host port) := by
    intro host port
    refine lockRemoteList_sound.bind lockRemoteList_runs.returns fun s₁ h₁ => ?_
    rw [← h₁] at hwf
    refine (findRemote_sound hwf.remotes_live).then fun o => ?_
    cases o with
    | some _ => exact .pure
    | none =>
        dsimp only
        split
        · exact .pure
        · refine .ite (fun _ => .pure) fun _ => Sound.then ?_ fun _ => .pure
          refine (remoteSendPlistPkt_sound ?_).bind remoteSendPlistPkt_runs.returns
            fun res hres => .ite (fun _ => ?_) fun _ => .pure
          · rw [toCore_update]
            exact Option.isSome_iff_exists.mpr ⟨_, if_pos rfl⟩
          · refine (modifyRemote_sound (hres.clients.2 ?_)).then fun _ => .pure
            rw [toCore_update]
            exact Option.isSome_iff_exists.mpr ⟨_, if_pos rfl⟩
  rw [addInstance]
  split
  · exact reply_serves hc
  · next host port _ =>
      refine Post.bind ((hadd host port).post remoteMuxServiceAdd_runs.returns) fun res hres => ?_
      refine reply_serves ?_
      rcases hres with ⟨_, heq⟩ | ⟨_, y, acts, _, _, _, heq⟩
      · rw [heq]
        exact hc
      · rw [heq]
        exact hc

/-- Removing an instance takes the client along: the listener is the last
remote that lives, and the client has a remote. -/
def LosesClient (s : Core) (c : ClientPtr) (host : String) (port : UInt16) : Prop :=
  (∃ x, s.clients c = some x ∧ x.remote ≠ none) ∧
    ∃ r y, s.remotes r = some y ∧ matchesService none (some host) port y = true ∧
      ∀ r' z, s.remotes r' = some z → z.state = .dead ∨ z.id = y.id

theorem LosesClient.congr {s t : Core} {host : String} {port : UInt16} {x x' : MuxClient}
    (h : LosesClient s c host port) (hx : s.clients c = some x) (hx' : t.clients c = some x')
    (hr : x'.remote = x.remote) (hremotes : t.remotes = s.remotes) :
    LosesClient t c host port := by
  obtain ⟨⟨x₀, hx₀, hne⟩, r, y, hy, hmatch, hall⟩ := h
  cases hx.symm.trans hx₀
  rw [← hr] at hne
  rw [← hremotes] at hy hall
  exact ⟨⟨x', hx', hne⟩, r, y, hy, hmatch, hall⟩

/-- The endpoint of a TCP listener is nobody else's. -/
theorem Registry.matches_unique {s : Core} {host : String} {port : UInt16} {r r' : RemotePtr}
    {y y' : RemoteMux} (h : Registry s) (hy : s.remotes r = some y) (hy' : s.remotes r' = some y')
    (hm : matchesService none (some host) port y = true)
    (hm' : matchesService none (some host) port y' = true) : y = y' := by
  simp only [matchesService, Option.isSome_none, Bool.false_and, Bool.false_or, Option.isSome_some,
    Bool.true_and, Bool.and_eq_true, decide_eq_true_eq] at hm hm'
  by_cases hr : r = r'
  · subst hr
    exact Option.some.inj (hy.symm.trans hy')
  · refine absurd ⟨?_, ?_⟩ (h.unlike hy hy' hm.1 hm'.1 hr).2.2
    · rw [hm.2.1, hm'.2.1]
    · rw [hm.2.2, hm'.2.2]

theorem usbmuxRemoteRemoveRemote_post {host : String} {port : UInt16} {x : MuxClient}
    (h : Linked s.toCore) (hreg : Registry s.toCore) (hx : s.clients c = some x) :
    Post (fun f => ¬ f.IsUse) (fun res : Int × Daemon =>
      (res.2.clients c).isSome ↔ ¬ LosesClient s.toCore c host port)
      (usbmuxRemoteRemoveRemote plat sys s host port) := by
  refine Post.imp (remoteMuxServiceRemove_post h) (fun _ hf => hf) fun res hres => ?_
  rcases hres with ⟨heq, hnone⟩ | ⟨r, y, hy, hmatch, hdead⟩
  · refine ⟨fun _ hloses => ?_, fun _ => by rw [heq, hx]; rfl⟩
    obtain ⟨_, r, y, hy, hmatch, _⟩ := hloses
    cases (hnone r y hy).symm.trans hmatch
  rcases hdead with ⟨⟨r', z, hz, hstate, hid⟩, heq⟩ | ⟨hall, hclients⟩
  · refine ⟨fun _ hloses => ?_, fun _ => by rw [heq, hx]; rfl⟩
    obtain ⟨_, r₁, y₁, hy₁, hmatch₁, hall⟩ := hloses
    cases hreg.matches_unique hy hy₁ hmatch hmatch₁
    rcases hall r' z hz with hdead | heqid
    · exact hstate hdead
    · exact hid heqid
  · rw [hclients c x hx]
    refine ⟨fun hnone hloses => ?_, fun hkeeps => ?_⟩
    · obtain ⟨⟨x', hx', hne⟩, _⟩ := hloses
      cases hx.symm.trans hx'
      exact hne hnone
    · by_contra hne
      exact hkeeps ⟨⟨x, hx, hne⟩, r, y, hy, hmatch, hall⟩

theorem removeInstance_serves {x : MuxClient} (h : Linked s.toCore) (hreg : Registry s.toCore)
    (hx : s.clients c = some x)
    (hkeep : ∀ host port, instanceRequest dict = some (host, port) →
      ¬ LosesClient s.toCore c host port) :
    Serves c (removeInstance plat sys s c tag dict) := by
  rw [removeInstance]
  split
  · exact reply_serves (by rw [hx]; rfl)
  · next host port hreq =>
      refine Post.bind (usbmuxRemoteRemoveRemote_post h hreg hx) fun res hres => ?_
      exact reply_serves (hres.mpr (hkeep host port hreq))

theorem plistCommand_serves {message : String} {x : MuxClient} (h : Linked s.toCore)
    (hreg : Registry s.toCore) (hx : s.clients c = some x)
    (hkeep : message = "RemoveInstance" → ∀ host port, instanceRequest dict = some (host, port) →
      ¬ LosesClient s.toCore c host port) :
    Serves c (plistCommand plat sys s c tag message dict) := by
  have hc : (s.clients c).isSome := by
    rw [hx]
    rfl
  refine .ite (fun _ => clientListen_serves hc) fun _ => ?_
  refine .ite (fun _ => ?_) fun _ => ?_
  · rw [plistConnect]
    split
    · exact reply_serves hc
    · split
      · exact reply_serves hc
      · exact clientConnect_serves h.wf hc
  refine .ite (fun _ => (sendDeviceList_serves hc).zeroOrFail) fun _ => ?_
  refine .ite (fun _ => (sendListenerList_serves h.wf hc).zeroOrFail) fun _ => ?_
  refine .ite (fun _ => ?_) fun _ => ?_
  · exact Post.bind (usbmuxRemoteReadBuid_serves h.wf hc) fun _ hres => hres
  refine .ite (fun _ => Serves.zeroOrFail ?_) fun _ => ?_
  · exact pairRecordRequest_serves (fun _ => pairRecordMessage_error) h.wf hc
  refine .ite (fun _ => Serves.zeroOrFail ?_) fun _ => ?_
  · exact pairRecordRequest_serves (fun f hf => by cases hf) h.wf hc
  refine .ite (fun _ => Serves.zeroOrFail ?_) fun _ => ?_
  · exact pairRecordRequest_serves (fun _ => pairRecordMessage_error) h.wf hc
  refine .ite (fun _ => (sendInstances_serves h.wf hc).zeroOrFail) fun _ => ?_
  refine .ite (fun _ => addInstance_serves h.wf hc) fun _ => ?_
  refine .ite (fun hmsg => ?_) fun _ => reply_serves hc
  exact removeInstance_serves h hreg hx (hkeep hmsg)

/-- The endpoint a frame asks to remove, when it is such a request. -/
def removedInstance (plat : Platform) (b : Buf) : Option (String × UInt16) :=
  if ((bufHeader plat b).version = 0 ∨ (bufHeader plat b).version = 1) ∧
      (bufHeader plat b).message = messagePlist then
    (requestPlist plat b).bind fun request =>
      if request.1 = "RemoveInstance" then instanceRequest request.2 else none
  else none

theorem clientCommand_sound {x : MuxClient} (h : Linked s.toCore) (hreg : Registry s.toCore)
    (hx : s.clients c = some x)
    (hkeep : ∀ host port, x.state = .command → removedInstance plat x.ib = some (host, port) →
      ¬ LosesClient s.toCore c host port) :
    Post (fun f => ¬ f.IsUse) (fun res : Int × Daemon => res.1 = 0 → (res.2.clients c).isSome)
      (clientCommand plat sys s c) := by
  have hc : (s.clients c).isSome := by
    rw [hx]
    rfl
  have hserves : ∀ {m : Except Fault (Int × Daemon)}, Serves c m → Post (fun f => ¬ f.IsUse)
      (fun res : Int × Daemon => res.1 = 0 → (res.2.clients c).isSome) m :=
    fun hm => Post.imp hm (fun _ hf => hf) fun _ hres _ => hres
  by_cases hplist : x.state = .command ∧
      ((bufHeader plat x.ib).version = 0 ∨ (bufHeader plat x.ib).version = 1) ∧
      (bufHeader plat x.ib).message = messagePlist
  · obtain ⟨hstate, hver, hmsg⟩ := hplist
    rw [clientCommand_plist hx hstate hver hmsg, plistBranch]
    split
    · intro hres
      cases hres
    · next message dict hreq =>
        -- the request is logged and the client remembers who sent it
        set x₁ : MuxClient := { x with protoVersion := 1, info := some (clientInfo dict) }
        have hx₁ : (dispatching plat s c x x₁).clients c = some x₁ := if_pos rfl
        have hin : InPlace s.toCore (dispatching plat s c x x₁).toCore :=
          InPlace.of_client hx
            ⟨rfl, Or.inl rfl, Or.inl rfl, rfl, fun hp => hp.congr rfl rfl rfl, rfl⟩
        refine hserves (plistCommand_serves (h.inPlace (WF.setClient h.wf.emit hc) hin)
          (hreg.inPlace hin) hx₁ fun hrem host port hinst hloses => ?_)
        refine hkeep host port hstate ?_ (hloses.congr hx₁ hx rfl rfl)
        rw [removedInstance, if_pos ⟨hver, hmsg⟩, hreq, Option.bind_some]
        simp [hrem, hinst]
  · refine Post.bind ((client_sound hc).post client_runs.returns) fun x' hx' => ?_
    cases hx.symm.trans hx'
    have hin : InPlace s.toCore (s.emit [.command c (bufFrame plat x.ib)]).toCore := by
      have hself : InPlace s.toCore ((s.toCore.setClient c x).emit
          [.command c (bufFrame plat x.ib)]) := InPlace.of_client hx MuxClient.Evolves.refl
      rw [Core.setClient_self hx] at hself
      exact hself
    have hlinks : Linked (s.emit [.command c (bufFrame plat x.ib)]).toCore :=
      h.inPlace h.wf.emit hin
    have hc₁ : ((s.emit [.command c (bufFrame plat x.ib)]).clients c).isSome := hc
    dsimp only
    split
    · refine Post.bind ((sendResult_sound hc₁).post sendResult_runs.returns) fun res hres => ?_
      have hlinks₂ : Linked res.2.toCore := hlinks.same hres.same
      obtain ⟨x₂, hx₂⟩ := Option.isSome_iff_exists.mp (hres.same.isSome hc₁)
      show Post _ _ (if res.1 < 0 then _ else _)
      split
      · intro hzero
        cases hzero
      · refine Post.bind (clientClose_sound hx₂ fun r hr => hlinks₂.remote_live hx₂ hr) ?_
        intro _ _ hzero
        cases hzero
    · next hstate =>
        rw [not_not] at hstate
        split
        · exact hserves (Post.bind (sendResult_serves hc₁) fun _ hres => hres)
        · next hver =>
            split
            · next hmsg =>
                rw [not_and_or, not_not, not_not] at hver
                exact absurd ⟨hstate, hver, hmsg⟩ hplist
            · split
              · exact hserves (clientListen_serves hc₁)
              · split
                · exact hserves (clientConnect_serves hlinks.wf hc₁)
                · exact hserves (reply_serves hc₁)

end Requests

end Usbfluxd
