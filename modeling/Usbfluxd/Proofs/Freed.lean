import Usbfluxd.Proofs.Locks
import Usbfluxd.Proofs.Serves

/-!
# Use after removal

What a call of `client_process` or `usbmux_remote_process` removes, it must
not touch again. With mutual links nothing is removed that a caller further
up still needs, but for two places: the event loop reads a connected remote
after a send on it failed and closed it, and `RemoveInstance` sends its result
to a client that went with the last remote it disposed of.
-/

namespace Usbfluxd

open Lib

/-! ## Objects that need a partner -/

/-- A client that waits for a connection or has one has a remote, and so has
every remote that waits for a reply or relays a client. -/
structure Partnered (s : Core) : Prop where
  client : ∀ {c x}, s.clients c = some x → x.needsRemote → x.remote ≠ none
  remote : ∀ {r y}, s.remotes r = some y →
    y.state = .connecting1 ∨ y.state = .connecting2 ∨ y.state = .connected → y.client ≠ none
  waiting : ∀ {r y cmd}, s.remotes r = some y → y.lastCommand = some cmd → cmd ≠ .listen →
    y.client ≠ none

section Partners

variable {A : Allow} {s s' : Core}

theorem Partnered.inPlace (h : Partnered s) (hm : InPlace s s') : Partnered s' where
  client hx' hneed := by
    obtain ⟨x, hx, he⟩ := hm.client_before hx'
    rw [he.remote]
    exact h.client hx (he.needsRemote hneed)
  remote hy' hstate := by
    obtain ⟨y, hy, he⟩ := hm.remote_before hy'
    rw [he.client]
    rcases he.state with heq | hdead | ⟨_, _, hlisten⟩ | ⟨hconn, _⟩
    · rw [heq] at hstate
      exact h.remote hy hstate
    · rw [hdead] at hstate
      simp at hstate
    · rw [hlisten] at hstate
      simp at hstate
    · exact h.remote hy (hconn.imp id Or.inl)
  waiting hy' hcmd hne := by
    obtain ⟨y, hy, he⟩ := hm.remote_before hy'
    rw [he.client]
    rcases he.lastCommand with heq | hnone
    · exact h.waiting hy (heq.symm.trans hcmd) hne
    · cases hnone.symm.trans hcmd

theorem Partnered.sub (h : Partnered s)
    (hclient : ∀ {c x}, s'.clients c = some x → s.clients c = some x)
    (hremote : ∀ {r y}, s'.remotes r = some y → s.remotes r = some y) : Partnered s' where
  client hx := h.client (hclient hx)
  remote hy := h.remote (hremote hy)
  waiting hy := h.waiting (hremote hy)

/-- A new remote that waits for nothing, or has its client. -/
theorem Partnered.addRemote {y : RemoteMux} (h : Partnered s)
    (hclient : ∀ {c x}, s'.clients c = some x → x.needsRemote → x.remote ≠ none)
    (hremotes : s'.remotes = (s.addRemote y).remotes)
    (hy : y.client ≠ none ∨ (y.state = .command ∧
      (y.lastCommand = none ∨ y.lastCommand = some .listen))) : Partnered s' where
  client := hclient
  remote {r z} hz hstate := by
    rw [hremotes] at hz
    rcases Core.remotes_addRemote_cases hz with ⟨_, rfl⟩ | hz
    · rcases hy with hy | ⟨hcmd, _⟩
      · exact hy
      · rw [hcmd] at hstate
        simp at hstate
    · exact h.remote hz hstate
  waiting {r z cmd} hz hcmd hne := by
    rw [hremotes] at hz
    rcases Core.remotes_addRemote_cases hz with ⟨_, rfl⟩ | hz
    · rcases hy with hy | ⟨_, hnone | hlisten⟩
      · exact hy
      · cases hnone.symm.trans hcmd
      · cases hlisten.symm.trans hcmd
        exact absurd rfl hne
    · exact h.waiting hz hcmd hne

theorem Partnered.opens {c : ClientPtr} {x x' : MuxClient} {k : UInt8} {y : RemoteMux}
    {acts : List Act} (h : Partnered s) (ho : Opens A s s' c x x' k y acts) :
    Partnered s' := by
  rw [ho.result]
  refine h.addRemote (y := y) (fun {c' z} hz hneed => ?_) rfl ?_
  · rw [Core.clients_emit, Core.clients_addRemote, Core.clients_setClient] at hz
    split at hz
    · cases hz
      rw [ho.link]
      exact Option.some_ne_none _
    · exact h.client hz hneed
  · rcases ho.kind with ⟨⟨_, _, hc, _⟩, _⟩ | ⟨⟨hstate, _, ⟨hc, _⟩ | ⟨_, _, hcmd⟩⟩, _⟩
    · exact Or.inl (by rw [hc]; exact Option.some_ne_none _)
    · exact Or.inl (by rw [hc]; exact Option.some_ne_none _)
    · exact Or.inr ⟨hstate, Or.inl hcmd⟩

theorem Partnered.move (hm : Move A s s') (h : Partnered s) : Partnered s' := by
  cases hm.shape with
  | inPlace hp => exact h.inPlace hp
  | accept _ heq =>
      rw [heq]
      refine ⟨fun {c x} hx hneed => ?_, h.remote, h.waiting⟩
      rcases Core.clients_addClient_cases hx with ⟨_, rfl⟩ | hx
      · rcases hneed with hneed | hneed | hneed <;> cases hneed
      · exact h.client hx hneed
  | opens ho => exact h.opens ho
  | addListener hnew heq =>
      rw [heq]
      exact h.addRemote h.client rfl (Or.inr ⟨hnew.state, hnew.lastCommand⟩)
  | closeClient hx heq =>
      rw [heq]
      refine h.sub (fun {c' z} hz => ?_) fun {r y} hy => ?_
      · rw [Core.clients_closeClient] at hz
        split at hz
        · cases hz
        · exact hz
      · rw [Core.remotes_closeClient] at hy
        split at hy
        · cases hy
        · exact hy
  | closeRemote hy _ _ heq =>
      rw [heq]
      refine h.sub (fun hx => hx) fun {r y} hy => ?_
      rw [Core.remotes_dropRemote] at hy
      split at hy
      · cases hy
      · exact hy
  | dispose hy _ heq =>
      rw [heq]
      refine h.sub (fun {c z} hz => ?_) fun {r y} hy => ?_
      · rw [Core.clients_dispose] at hz
        split at hz
        · cases hz
        · exact hz
      · rw [Core.remotes_dispose] at hy
        split at hy
        · cases hy
        · exact hy

theorem Partnered.initial (h : Initial s) : Partnered s := by
  have hempty : Partnered emptyDaemon.toCore :=
    ⟨fun hx => (nomatch hx), fun hy => (nomatch hy), fun hy => (nomatch hy)⟩
  cases h with
  | empty => exact hempty
  | listener hy _ =>
      exact hempty.addRemote (fun hx => (nomatch hx)) rfl (Or.inr ⟨hy.state, hy.lastCommand⟩)

end Partners

theorem reachable_partnered {plat : Platform} {s : Daemon} (h : Reachable plat s) :
    Partnered s.toCore :=
  (reachable_inv (A := .all) Partnered.initial (fun _ _ _ => allows_all)
    (fun _ hm hp => hp.move hm) h).2

/-! ## Events on a client -/

section ClientEvents

variable {s : Daemon} {c : ClientPtr} {plat : Platform} {sys : Sys} {x : MuxClient}

theorem processRecv_sound (h : Linked s.toCore) (hreg : Registry s.toCore)
    (hx : s.clients c = some x)
    (hkeep : ∀ rf host port, readFrame plat sys x.ib = .ok rf → rf.outcome = .frame →
      x.state = .command → removedInstance plat rf.ib = some (host, port) →
      ¬ LosesClient s.toCore c host port) : Sound (processRecv plat sys s c) := by
  have hc : (s.clients c).isSome := by
    rw [hx]
    rfl
  refine (client_sound hc).bind client_runs.returns fun x' hx' => ?_
  cases hx.symm.trans hx'
  refine readFrame_sound.bind (readFrame_runs.withEq).returns fun rf hrf => ?_
  obtain ⟨⟨_, hnull, _⟩, hrf⟩ := hrf
  have hin : InPlace s.toCore (received s c x rf).toCore :=
    InPlace.of_client hx ⟨rfl, Or.inl rfl, Or.inl hnull, rfl, fun hp => hp.congr rfl rfl rfl, rfl⟩
  have hx₁ : (received s c x rf).clients c = some { x with ib := rf.ib } := if_pos rfl
  have hlinks : Linked (received s c x rf).toCore :=
    h.inPlace (WF.emit (h.wf.setClient hc)) hin
  cases hout : rf.outcome with
  | dead => exact clientClose_sound hx₁ fun r hr => hlinks.remote_live hx₁ hr
  | more => exact .pure
  | frame =>
      refine Post.bind (clientCommand_sound hlinks (hreg.inPlace hin) hx₁
        fun host port hstate hreq hloses => ?_) fun res hres => ?_
      · exact hkeep rf host port hrf hout hstate hreq (hloses.congr hx₁ hx rfl rfl)
      · exact Sound.ite (fun hzero => modifyClient_sound (hres hzero)) fun _ => .pure

theorem processSend_sound (h : Linked s.toCore) (hp : Partnered s.toCore)
    (hx : s.clients c = some x) : Sound (processSend sys s c) := by
  have hc : (s.clients c).isSome := by
    rw [hx]
    rfl
  refine (client_sound hc).bind client_runs.returns fun x' hx' => ?_
  cases hx.symm.trans hx'
  refine .ite (fun _ => modifyClient_sound hc) fun _ => ?_
  split
  · exact clientClose_sound hx fun r hr => h.remote_live hx hr
  · refine .ite (fun _ => modifyClient_sound hc) fun _ => ?_
    refine .ite (fun _ => modifyClient_sound hc) fun hstate => ?_
    rw [not_not] at hstate
    obtain ⟨r, hr⟩ := Option.ne_none_iff_exists'.mp (hp.client hx (Or.inr (Or.inl hstate)))
    exact (clientRemote_sound hr (h.remote_live hx hr)).then fun _ => modifyClient_sound hc

theorem clientRelayRead_sound (h : Linked s.toCore) (hp : Partnered s.toCore)
    (hx : s.clients c = some x) (hstate : x.state = .connected) :
    Sound (clientRelayRead sys s c x) := by
  obtain ⟨r, hr⟩ := Option.ne_none_iff_exists'.mp (hp.client hx (Or.inr (Or.inr hstate)))
  refine (clientRemote_sound hr (h.remote_live hx hr)).then fun p => ?_
  refine Sound.ite (fun _ => .pure) fun _ => recvInto_sound.then fun o => ?_
  cases o with
  | none => exact clientClose_sound hx fun r hr => h.remote_live hx hr
  | some q => exact .pure

theorem clientRelayWrite_sound (h : Linked s.toCore) (hp : Partnered s.toCore)
    (hx : s.clients c = some x) (hstate : x.state = .connected) :
    Sound (clientRelayWrite sys s c x) := by
  obtain ⟨r, hr⟩ := Option.ne_none_iff_exists'.mp (hp.client hx (Or.inr (Or.inr hstate)))
  refine (clientRemote_sound hr (h.remote_live hx hr)).then fun p => ?_
  refine Sound.ite (fun _ => .pure) fun _ => ?_
  split
  · exact clientClose_sound hx fun r hr => h.remote_live hx hr
  · exact .ite (fun _ => .pure) fun _ => .pure

theorem findClient_sound {fd : Nat} {l : List ClientPtr} (h : ∀ c ∈ l, (s.clients c).isSome) :
    Sound (findClient s fd l) := by
  induction l with
  | nil => exact .pure
  | cons c rest ih =>
      rw [List.forall_mem_cons] at h
      exact (client_sound h.1).then fun _ => .ite (fun _ => .pure) fun _ => ih h.2

end ClientEvents

/-! ## Events on a remote -/

/-- Handling a frame touches no freed object, and the remote it came from
stays. -/
def Stays (r : RemotePtr) (m : Except Fault Daemon) : Prop :=
  Post (fun f => ¬ f.IsUse) (fun s' => (s'.remotes r).isSome) m

section RemoteEvents

variable {s : Daemon} {r : RemotePtr} {c : ClientPtr} {plat : Platform} {sys : Sys}
  {y : RemoteMux}

theorem Stays.sound {m : Except Fault Daemon} (h : Stays r m) : Sound m := Sound.of_post h

theorem modifyRemote_stays {f : RemoteMux → RemoteMux} (hr : (s.remotes r).isSome) :
    Stays r (s.modifyRemote r f) := by
  refine Post.imp ((modifyRemote_sound hr).post modifyRemote_runs.returns) (fun _ hf => hf) ?_
  intro s' h'
  obtain ⟨y, _, rfl⟩ := h'
  rw [toCore_update, Core.remotes_setRemote, if_pos rfl]
  rfl

theorem clientSendPacketData_remotes {hdr payload : List UInt8} :
    Post (fun _ => True) (fun res : Int × Daemon => res.2.remotes = s.remotes)
      (clientSendPacketData sys s c hdr payload) := by
  refine Post.bind sendPktRaw_kept fun res hres => ?_
  show Post _ _ (if 0 < payload.length then _ else _)
  split
  · refine Post.imp sendPktRaw_kept (fun _ h => h) fun res' hres' => ?_
    rw [hres'.remotes, hres.remotes]
  · exact hres.remotes

theorem handleCommandState_stays {plistMsg : Option Plist} (h : Linked s.toCore)
    (hp : Partnered s.toCore) (hy : s.remotes r = some y) :
    Stays r (handleCommandState plat sys s r y plistMsg) := by
  have hr : (s.remotes r).isSome := by
    rw [hy]
    rfl
  refine Post.bind (P := fun s' : Daemon => (s'.remotes r).isSome) ?_ fun s' hr' =>
    modifyRemote_stays hr'
  rw [commandReply]
  split
  · split
    · exact modifyRemote_stays hr
    · exact hr
  · next cmd hne hcmd =>
      obtain ⟨c, hc⟩ := Option.ne_none_iff_exists'.mp (hp.waiting hy hcmd hne)
      refine Post.bind ((remoteClient_sound hc (h.client_live hy hc)).post
        remoteClient_runs.returns) fun c' hc' => ?_
      refine Post.bind ((clientSendPacketData_sound hc'.2).post clientSendPacketData_remotes)
        fun res hres => ?_
      show (res.2.remotes r).isSome
      rw [hres]
      exact hr
  · exact hr

theorem deviceAttached_stays {devid : UInt32} {dev : Plist} (hwf : WF s.toCore)
    (hr : (s.remotes r).isSome) : Stays r (deviceAttached plat sys s devid dev) := by
  refine Post.bind (lockRemoteList_sound.post lockRemoteList_runs.returns) fun s₁ h₁ => ?_
  rw [← h₁] at hwf hr
  refine Post.bind ((clientDeviceAdd_sound ?_).post
    (clientDeviceAdd_runs fun _ => trivial).returns) fun s₂ h₂ => ?_
  · exact hwf.congr rfl rfl rfl rfl (fun _ => rfl) fun _ => rfl
  · show (s₂.remotes r).isSome
    rw [h₂.announces.same.remotes]
    exact hr

theorem deviceDetached_stays {devid : UInt32} (hwf : WF s.toCore)
    (hr : (s.remotes r).isSome) : Stays r (deviceDetached plat sys s devid) := by
  refine Post.bind (lockRemoteList_sound.post lockRemoteList_runs.returns) fun s₁ h₁ => ?_
  rw [← h₁] at hwf hr
  refine Post.bind ((clientDeviceRemove_sound ?_).post
    (clientDeviceRemove_runs fun _ => trivial).returns) fun s₂ h₂ => ?_
  · exact hwf.congr rfl rfl rfl rfl (fun _ => rfl) fun _ => rfl
  · show (s₂.remotes r).isSome
    rw [h₂.announces.same.remotes]
    exact hr

theorem handleListenState_stays {plistMsg : Option Plist} (hwf : WF s.toCore)
    (hr : (s.remotes r).isSome) : Stays r (handleListenState plat sys s r y plistMsg) := by
  rw [handleListenState]
  split
  · split
    · exact deviceAttached_stays hwf hr
    · refine Post.bind ((modifyRemote_sound hr).post modifyRemote_runs.returns) fun s₁ h₁ => ?_
      obtain ⟨y', _, rfl⟩ := h₁
      refine Post.bind (P := fun _ => True) ?_ fun dev _ => deviceAttached_stays ?_ ?_
      · rw [deviceInfoPlist]
        split
        · exact Sound.fault id
        · exact Sound.pure
      · exact hwf.setRemote hr
      · rw [toCore_update, Core.remotes_setRemote, if_pos rfl]
        rfl
  · exact deviceDetached_stays hwf hr
  · exact hr

theorem clientNotifyConnect_sound {result : UInt32} (hc : (s.clients c).isSome) :
    Sound (clientNotifyConnect plat sys s c result) := by
  refine (client_sound hc).then fun x => .ite (fun _ => .pure) fun _ => ?_
  refine (sendResult_sound hc).bind sendResult_runs.returns fun res hres => ?_
  refine Sound.ite (fun _ => .pure) fun _ => ?_
  exact (modifyClient_sound (hres.same.isSome hc)).then fun _ => .pure

theorem handleConnectingState_stays {plistMsg : Option Plist} (h : Linked s.toCore)
    (hp : Partnered s.toCore) (hy : s.remotes r = some y) (hstate : y.state = .connecting1) :
    Stays r (handleConnectingState plat sys s r y plistMsg) := by
  obtain ⟨c, hc⟩ := Option.ne_none_iff_exists'.mp (hp.remote hy (Or.inl hstate))
  refine Post.bind ((remoteClient_sound hc (h.client_live hy hc)).post
    remoteClient_runs.returns) fun c' hc' => ?_
  refine Post.bind ((clientNotifyConnect_sound hc'.2).post clientNotifyConnect_runs.returns)
    fun res hres => ?_
  have hr : (res.2.remotes r).isSome := by
    have hremotes : res.2.remotes r = some y := by
      rcases hres with heq | ⟨_, _, _, _, _, _, _, _, heq⟩
      · rw [heq]
        exact hy
      · rw [heq]
        exact hy
    rw [hremotes]
    rfl
  show Stays r (if messageGetResult plat y.ib plistMsg = resultOk then _ else _)
  split
  · exact Post.bind (modifyRemote_stays hr) fun _ hr' => hr'
  · exact hr

theorem remoteHandleCommandResult_stays (h : Linked s.toCore) (hp : Partnered s.toCore)
    (hy : s.remotes r = some y) : Stays r (remoteHandleCommandResult plat sys s r) := by
  have hr : (s.remotes r).isSome := by
    rw [hy]
    rfl
  refine Post.bind ((remote_sound hr).post remote_runs.returns) fun y' hy' => ?_
  cases hy.symm.trans hy'
  have hlinks : Linked (s.emit [.frame r (bufFrame plat y.ib)]).toCore :=
    ⟨h.wf.emit, h.remote, h.client⟩
  have hpart : Partnered (s.emit [.frame r (bufFrame plat y.ib)]).toCore :=
    ⟨hp.client, hp.remote, hp.waiting⟩
  have hy₁ : (s.emit [.frame r (bufFrame plat y.ib)]).remotes r = some y := hy
  dsimp only
  split
  · exact hr
  · split
    · exact handleCommandState_stays hlinks hpart hy₁
    · exact handleListenState_stays hlinks.wf hr
    · next hstate => exact handleConnectingState_stays hlinks hpart hy₁ hstate
    · exact hr

theorem remoteProcessSend_sound (h : Linked s.toCore) (hr : (s.remotes r).isSome) :
    Sound (remoteProcessSend sys s r) := by
  refine (remote_sound hr).then fun y => .ite (fun _ => modifyRemote_sound hr) fun _ => ?_
  split
  · exact usbmuxRemoteClose_sound h hr
  · refine .ite (fun _ => modifyRemote_sound hr) fun _ => ?_
    refine .ite (fun _ => modifyRemote_sound hr) fun _ => ?_
    exact (modifyRemote_sound (s := s.emit _) hr).then fun _ => .pure

theorem remoteProcessRecv_sound (h : Linked s.toCore) (hp : Partnered s.toCore)
    (hy : s.remotes r = some y) : Sound (remoteProcessRecv plat sys s r) := by
  have hr : (s.remotes r).isSome := by
    rw [hy]
    rfl
  refine (remote_sound hr).bind remote_runs.returns fun y' hy' => ?_
  cases hy.symm.trans hy'
  refine readFrame_sound.then fun rf => ?_
  generalize (if rf.bodyRead then sys.now else y.lastActive) = now
  have hin : InPlace s.toCore ((s.toCore.setRemote r { y with
      ib := rf.ib, lastActive := now }).emit (recvActs (.remoteRecv r) rf.got)) :=
    InPlace.of_remote hy ⟨rfl, rfl, rfl, rfl, rfl, rfl, rfl, Or.inl rfl, Or.inl rfl,
      fun hp => hp.congr rfl rfl rfl, rfl⟩
  have hlinks := h.inPlace (WF.emit (h.wf.setRemote hr)) hin
  have hy₁ : ((s.toCore.setRemote r { y with ib := rf.ib, lastActive := now }).emit
      (recvActs (.remoteRecv r) rf.got)).remotes r =
      some { y with ib := rf.ib, lastActive := now } := if_pos rfl
  cases rf.outcome with
  | dead =>
      refine usbmuxRemoteMarkDead_sound hlinks ?_
      exact Option.isSome_iff_exists.mpr ⟨_, hy₁⟩
  | more => exact .pure
  | frame =>
      refine Post.bind (remoteHandleCommandResult_stays hlinks (hp.inPlace hin) hy₁)
        fun s' hr' => ?_
      exact modifyRemote_sound hr'

theorem clientOrEvents_sound {events : PollEvents} (hc : (s.clients c).isSome) :
    Sound (clientOrEvents s c events) :=
  (client_sound hc).then fun _ => .ite (fun _ => .pure) fun _ => modifyClient_sound hc

theorem remoteRelayRecv_sound (h : Linked s.toCore) (hp : Partnered s.toCore)
    (hy : s.remotes r = some y) (hstate : y.state = .connected) :
    Sound (remoteRelayRecv sys s r y) := by
  have hr : (s.remotes r).isSome := by
    rw [hy]
    rfl
  obtain ⟨c, hc⟩ := Option.ne_none_iff_exists'.mp (hp.remote hy (Or.inr (Or.inr hstate)))
  refine .ite (fun _ => .pure) fun _ => ?_
  split
  · exact usbmuxRemoteClose_sound h hr
  · exact modifyRemote_sound hr
  · split
    · refine Sound.bind (remoteClient_sound hc ?_) remoteClient_runs.returns fun c' hc' => ?_
      · exact h.client_live hy hc
      · exact clientOrEvents_sound hc'.2
    · exact .fault id

/-- The send on a connected remote fails and closes it. -/
def ClosesRelay (sys : Sys) (events : PollEvents) (y : RemoteMux) : Prop :=
  y.state = .connected ∧ events.pollin = false ∧ events.pollout = true ∧ y.ob.size ≠ 0 ∧
    sendFrom sys y.ob = none

theorem remoteConnectedProcess_sound {events : PollEvents} (h : Linked s.toCore)
    (hp : Partnered s.toCore) (hy : s.remotes r = some y) (hstate : y.state = .connected)
    (hok : ¬ ClosesRelay sys events y) : Sound (remoteConnectedProcess sys s r y events) := by
  have hr : (s.remotes r).isSome := by
    rw [hy]
    rfl
  obtain ⟨c, hc⟩ := Option.ne_none_iff_exists'.mp (hp.remote hy (Or.inr (Or.inr hstate)))
  have hcl : (s.clients c).isSome := h.client_live hy hc
  refine .ite (fun _ => remoteRelayRecv_sound h hp hy hstate) fun hin => ?_
  refine .ite (fun hout => ?_) fun _ => usbmuxRemoteClose_sound h hr
  -- what is left of the remote once something was sent
  refine Post.bind (P := fun s' : Daemon => s'.clients = s.clients ∧
    ∃ y', s'.remotes r = some y' ∧ y'.client = some c) ?_ fun s' hs' => ?_
  · have hkept : ∀ (t : Daemon) (f : RemoteMux → RemoteMux), t.clients = s.clients →
        t.remotes = s.remotes → (∀ z, (f z).client = z.client) →
        Post (fun f => ¬ f.IsUse) (fun s' : Daemon => s'.clients = s.clients ∧
          ∃ y', s'.remotes r = some y' ∧ y'.client = some c) (t.modifyRemote r f) := by
      intro t f hct hrt hf
      have hr' : (t.remotes r).isSome := by
        rw [hrt]
        exact hr
      refine Post.imp ((modifyRemote_sound hr').post modifyRemote_runs.returns)
        (fun _ hf => hf) fun s' h' => ?_
      obtain ⟨z, hz, rfl⟩ := h'
      rw [hrt] at hz
      cases hy.symm.trans hz
      exact ⟨hct, f y, if_pos rfl, (hf y).trans hc⟩
    refine Post.bind ((remote_sound hr).post remote_runs.returns) fun y' hy' => ?_
    cases hy.symm.trans hy'
    split
    · exact hkept _ _ rfl rfl fun _ => rfl
    · next hsize =>
        split
        · next hsend =>
            rw [Bool.not_eq_true] at hin
            exact absurd ⟨hstate, hin, hout, hsize, hsend⟩ hok
        · dsimp only
          split
          · exact hkept _ _ rfl rfl fun _ => rfl
          · split
            · exact hkept _ _ rfl rfl fun _ => rfl
            · exact Post.bind (hkept _ _ rfl rfl fun _ => rfl) fun _ hs' => hs'
  · obtain ⟨hclients, y', hy', hc'⟩ := hs'
    refine Sound.bind (remote_sound (by rw [hy']; rfl)) remote_runs.returns fun z hz => ?_
    cases hy'.symm.trans hz
    have hcl' : (s'.clients c).isSome := by
      rw [hclients]
      exact hcl
    refine (remoteClient_sound hc' hcl').bind remoteClient_runs.returns fun c' hc'' => ?_
    exact clientOrEvents_sound hc''.2

theorem remoteProcessFound_sound {events : PollEvents} (h : Linked s.toCore)
    (hp : Partnered s.toCore) (hy : s.remotes r = some y) (hok : ¬ ClosesRelay sys events y) :
    Sound (remoteProcessFound plat sys s r events) := by
  have hr : (s.remotes r).isSome := by
    rw [hy]
    rfl
  refine (remote_sound hr).bind remote_runs.returns fun y' hy' => ?_
  cases hy.symm.trans hy'
  refine .ite (fun hstate => remoteConnectedProcess_sound h hp hy hstate hok) fun _ => ?_
  refine .ite (fun _ => ?_) fun _ => .ite (fun _ => remoteProcessSend_sound h hr) fun _ => .pure
  refine .ite (fun _ => ?_) fun _ => remoteProcessRecv_sound h hp hy
  exact (modifyRemote_sound hr).then fun _ => .pure

end RemoteEvents

/-! ## The remote of a descriptor -/

/-- The remote that an event on a descriptor is for: the last one in the list
that has the descriptor and is not dead. -/
def eventRemote (s : Core) (fd : Nat) : Option (RemotePtr × RemoteMux) :=
  (s.remoteList.elems.filterMap fun r => (s.remotes r).bind fun y =>
    if y.fd = fd ∧ y.state ≠ .dead then some (r, y) else none).getLast?

section EventRemote

variable {s : Daemon} {plat : Platform} {sys : Sys} {fd : Nat} {events : PollEvents}

/-- What a slot of the list has for a descriptor. -/
def slotEvent (s : Core) (fd : Nat) (i : Nat) : Option (RemotePtr × RemoteMux) :=
  (s.remoteList.slot i).bind fun r => (s.remotes r).bind fun y =>
    if y.fd = fd ∧ y.state ≠ .dead then some (r, y) else none

theorem eventRemote_eq (s : Core) : eventRemote s fd =
    ((List.range s.remoteList.capacity).filterMap (slotEvent s fd)).getLast? := by
  rw [eventRemote, ← Collection.filterMap_slot_range, List.filterMap_filterMap]
  rfl

theorem slotEvent_eq_some {s : Core} {i : Nat} {r : RemotePtr} {y : RemoteMux} :
    slotEvent s fd i = some (r, y) ↔
      s.remoteList.slot i = some r ∧ s.remotes r = some y ∧ y.fd = fd ∧ y.state ≠ .dead := by
  constructor
  · intro h
    obtain ⟨r', hr', h⟩ := Option.bind_eq_some_iff.mp h
    obtain ⟨y', hy', h⟩ := Option.bind_eq_some_iff.mp h
    split at h
    · next hp =>
        cases h
        exact ⟨hr', hy', hp⟩
    · cases h
  · intro h
    obtain ⟨hr, hy, hp⟩ := h
    rw [slotEvent, hr, Option.bind_some, hy, Option.bind_some, if_pos hp]

/-- Disposing of a dead remote changes nothing for any descriptor. -/
theorem Disposed.slotEvent {lossOk : Prop} {s s' : Core} {r : RemotePtr} {y : RemoteMux}
    (hd : Disposed lossOk r y s s') (hdead : y.state = .dead) (i : Nat) :
    slotEvent s' fd i = Usbfluxd.slotEvent s fd i := by
  refine Option.ext fun p => ?_
  obtain ⟨r', y'⟩ := p
  rw [slotEvent_eq_some, slotEvent_eq_some, hd.remotes, hd.remoteList]
  constructor
  · intro h
    obtain ⟨hslot, hy', hp⟩ := h
    split at hy'
    · cases hy'
    · exact ⟨Collection.slot_remove hslot, hy', hp⟩
  · intro h
    obtain ⟨hslot, hy', hp⟩ := h
    have hne : r' ≠ r := by
      intro heq
      subst heq
      cases hd.1.symm.trans hy'
      exact hp.2 hdead
    exact ⟨Collection.slot_remove_of_ne hslot hne, by rw [if_neg hne]; exact hy', hp⟩

theorem reapLoop_found (hevents : events ≠ { pollnval := true }) :
    Post (fun _ => True) (fun p : Daemon × Option RemotePtr =>
      p.2 = (eventRemote s.toCore fd).map Prod.fst) (reapLoop plat sys fd events s) := by
  refine Post.bind lockRemoteList_runs.returns fun s₁ h₁ => ?_
  rw [eventRemote_eq, ← h₁]
  -- what was found so far stands unless a slot still to visit has another
  refine Post.bind (slotLoop_post (P := fun idx (acc : Daemon × Option RemotePtr) =>
    (∀ i, slotEvent acc.1.toCore fd i = slotEvent s₁.toCore fd i) ∧
      ((idx.filterMap (slotEvent s₁.toCore fd)).getLast?.map Prod.fst).or acc.2 =
        ((List.range s₁.remoteList.capacity).filterMap
          (slotEvent s₁.toCore fd)).getLast?.map Prod.fst) ?_ ?_ ?_) fun acc hacc => ?_
  · intro acc i rest hacc hi
    have hnone : slotEvent s₁.toCore fd i = none := by
      rw [← hacc.1 i, slotEvent, hi]
      rfl
    rw [List.filterMap_cons_none hnone] at hacc
    exact hacc
  · intro acc i rest r hacc hi
    obtain ⟨t, found⟩ := acc
    refine Post.bind remote_runs.returns fun x hx => ?_
    split
    · next hdead =>
        have hnone : slotEvent s₁.toCore fd i = none := by
          rw [← hacc.1 i, slotEvent, hi, Option.bind_some, hx, Option.bind_some, if_neg]
          exact fun h => h.2 hdead
        rw [List.filterMap_cons_none hnone] at hacc
        refine Post.bind (usbmuxRemoteDispose_runs fun _ => trivial).returns fun t' hd => ?_
        obtain ⟨x', hd⟩ := hd
        cases hx.symm.trans hd.1
        exact ⟨fun j => (hd.slotEvent hdead j).trans (hacc.1 j), hacc.2⟩
    · next hlive =>
        split
        · next hfd =>
            have hsome : slotEvent s₁.toCore fd i = some (r, x) := by
              rw [← hacc.1 i, slotEvent_eq_some]
              exact ⟨hi, hx, hfd, hlive⟩
            rw [List.filterMap_cons_some hsome, List.getLast?_cons] at hacc
            refine ⟨hacc.1, ?_⟩
            rw [← hacc.2]
            cases (rest.filterMap (slotEvent s₁.toCore fd)).getLast? <;> rfl
        · next hfd =>
            have hnone : slotEvent s₁.toCore fd i = none := by
              rw [← hacc.1 i, slotEvent, hi, Option.bind_some, hx, Option.bind_some, if_neg]
              exact fun h => hfd h.1
            rw [List.filterMap_cons_none hnone] at hacc
            exact hacc
  · exact ⟨fun _ => rfl, Option.or_none⟩
  · exact hacc.2

theorem eventRemote_remote {s : Core} {r : RemotePtr} {y : RemoteMux}
    (h : eventRemote s fd = some (r, y)) : s.remotes r = some y := by
  rw [eventRemote_eq] at h
  obtain ⟨i, _, hi⟩ := List.mem_filterMap.mp (List.mem_of_getLast? h)
  exact (slotEvent_eq_some.mp hi).2.1

/-- The loop reaps, and what it hands over is the remote the event is for. -/
theorem reapLoop_event {A : Allow} (hloss : Loss plat sys → A.lossOk) (hreap : A.reapOk)
    (hwf : WF s.toCore)
    (hok : ∀ t r y, s.remotes r = some y → y.fd = fd → y.state ≠ .dead →
      events = { pollnval := true } →
      (∀ r' y', t.remotes r' = some y' → s.remotes r' = some y') → A.disposeOk t r y) :
    Runs A s.toCore (fun p => Reaping A s.toCore [] p.1.toCore ∧
      ∀ r, p.2 = some r → ∃ y, p.1.remotes r = some y ∧ y.state ≠ .dead ∧
        eventRemote s.toCore fd = some (r, y)) (reapLoop plat sys fd events s) := by
  have hfound : Post (fun _ => True) (fun p : Daemon × Option RemotePtr =>
      events ≠ { pollnval := true } → p.2 = (eventRemote s.toCore fd).map Prod.fst)
      (reapLoop plat sys fd events s) := by
    by_cases hev : events = { pollnval := true }
    · exact Post.intro (fun _ _ hne => absurd hev hne) fun _ _ => trivial
    · exact Post.imp (reapLoop_found hev) (fun _ h => h) fun _ hp _ => hp
  refine Runs.imp ((reapLoop_runs hloss hreap hwf hok).and hfound) fun p hpost => ?_
  obtain ⟨⟨hreap, hlive⟩, hfound⟩ := hpost
  refine ⟨hreap, fun r hr => ?_⟩
  obtain ⟨hev, y, hy, _, hstate⟩ := hlive r hr
  have hfst := hfound hev
  rw [hr] at hfst
  obtain ⟨⟨r', y'⟩, hevent, heq⟩ := Option.map_eq_some_iff.mp hfst.symm
  obtain rfl : r' = r := heq
  cases (hreap.sub hy).symm.trans (eventRemote_remote hevent)
  exact ⟨y, hy, hstate, hevent⟩

/-- The same with everything else in order. -/
theorem reapLoop_post (h : Linked s.toCore) (hp : Partnered s.toCore) :
    Post (fun f => ¬ f.IsUse) (fun p : Daemon × Option RemotePtr =>
      Linked p.1.toCore ∧ Partnered p.1.toCore ∧
      ∀ r, p.2 = some r → ∃ y, p.1.remotes r = some y ∧ eventRemote s.toCore fd = some (r, y))
      (reapLoop plat sys fd events s) := by
  have hruns : Runs .all s.toCore _ (reapLoop plat sys fd events s) :=
    reapLoop_event (fun _ => trivial) trivial h.wf fun _ _ _ _ _ _ _ _ => trivial
  refine Post.imp ((reapLoop_sound h).and hruns) (fun _ hf => hf) fun p hpost => ?_
  obtain ⟨hlinks, hreap, hfound⟩ := hpost
  refine ⟨hlinks, ?_, fun r hr => ?_⟩
  · exact invariant_of_step (R := Move .all) Partnered.move hreap.moves hp
  · obtain ⟨y, hy, _, hevent⟩ := hfound r hr
    exact ⟨y, hy, hevent⟩

end EventRemote

/-! ## Calls -/

/-- The two functions the event loop calls for a ready descriptor. -/
inductive Call where
  | clientProcess (fd : Nat) (revents : PollEvents) (sys : Sys)
  | remoteProcess (fd : Nat) (revents : PollEvents) (sys : Sys)

def Call.run (plat : Platform) (s : Daemon) : Call → Except Fault Daemon
  | .clientProcess fd revents sys => Usbfluxd.clientProcess plat sys s fd revents
  | .remoteProcess fd revents sys => usbmuxRemoteProcess plat sys s fd revents

/-- The call reads or writes a client or a remote that is not there. -/
def Call.UsesRemoved (plat : Platform) (s : Daemon) (call : Call) : Prop :=
  ∃ f, call.run plat s = .error f ∧ f.IsUse

/-- `c->remote = r` if and only if `r->client = c`. -/
def MutualLinks (s : Core) : Prop :=
  ∀ c r, (∃ x, s.clients c = some x ∧ x.remote = some r) ↔
    ∃ y, s.remotes r = some y ∧ y.client = some c

/-- The two ways a call comes to use what it removed: a send on a connected
remote that is ready for output fails, or a client that has a remote asks to
remove the instance that is the last one alive. -/
def Call.HitsRemoved (plat : Platform) (s : Daemon) : Call → Prop
  | .clientProcess fd revents sys => ∃ c x rf host port,
      findClient s fd s.clientList.elems = .ok (some (c, x)) ∧ x.state = .command ∧
      revents.pollin = true ∧ readFrame plat sys x.ib = .ok rf ∧ rf.outcome = .frame ∧
      removedInstance plat rf.ib = some (host, port) ∧ LosesClient s.toCore c host port
  | .remoteProcess fd revents sys => ∃ r y,
      eventRemote s.toCore fd = some (r, y) ∧ ClosesRelay sys revents y

section Calls

variable {s : Daemon} {c : ClientPtr} {r : RemotePtr} {plat : Platform} {sys : Sys}
  {x : MuxClient} {y : RemoteMux} {fd : Nat} {revents : PollEvents}

theorem Linked.of_mutual {s : Core} (hwf : WF s) (h : MutualLinks s) : Linked s where
  wf := hwf
  remote hx hr := (h _ _).mp ⟨_, hx, hr⟩
  client hy hc := (h _ _).mpr ⟨_, hy, hc⟩

theorem clientProcess_sound (h : Linked s.toCore) (hreg : Registry s.toCore)
    (hp : Partnered s.toCore) (hlock : s.clientListLocked = false)
    (hok : ¬ Call.HitsRemoved plat s (.clientProcess fd revents sys)) :
    Sound (clientProcess plat sys s fd revents) := by
  rw [clientProcess_eq hlock]
  refine (findClient_sound fun c hc => (h.wf.clients c).mp hc).bind
    (findClient_runs.withEq).returns fun found hfound => ?_
  obtain ⟨hfound, heq⟩ := hfound
  cases found with
  | none => exact .pure
  | some p =>
      obtain ⟨c, x⟩ := p
      have hx : s.clients c = some x := (hfound (c, x) rfl).1
      refine Sound.ite (fun hstate => ?_) fun _ => ?_
      · refine .ite (fun _ => clientRelayRead_sound h hp hx hstate) fun _ => ?_
        exact .ite (fun _ => clientRelayWrite_sound h hp hx hstate) fun _ => .pure
      · refine .ite (fun hin => ?_) fun _ => ?_
        · refine processRecv_sound h hreg hx fun rf host port hrf hout hstate hreq hloses => ?_
          exact hok ⟨c, x, rf, host, port, heq, hstate, hin, hrf, hout, hreq, hloses⟩
        · exact .ite (fun _ => processSend_sound h hp hx) fun _ => .pure

theorem usbmuxRemoteProcess_sound (h : Linked s.toCore) (hp : Partnered s.toCore)
    (hok : ¬ Call.HitsRemoved plat s (.remoteProcess fd revents sys)) :
    Sound (usbmuxRemoteProcess plat sys s fd revents) := by
  refine Post.bind (reapLoop_post h hp) fun p hpost => ?_
  obtain ⟨t, found⟩ := p
  obtain ⟨hlinks, hpart, hfound⟩ := hpost
  cases found with
  | none => exact Sound.pure
  | some r =>
      obtain ⟨y, hy, hevent⟩ := hfound r rfl
      refine remoteProcessFound_sound hlinks hpart hy fun hcloses => ?_
      exact hok ⟨r, y, hevent, hcloses⟩

/-- Closing a remote takes it out, by itself or with its client. -/
theorem usbmuxRemoteClose_gone (h : Linked s.toCore) :
    Post (fun _ => True) (fun s' : Daemon => s'.remotes r = none) (usbmuxRemoteClose s r) := by
  refine Post.bind remote_runs.returns fun y hy => ?_
  split
  · refine Post.bind remoteClient_runs.returns fun c hc => ?_
    obtain ⟨x, hx, hr⟩ := h.client hy hc.1
    have hclose := clientClose_runs (A := .all) (s := s) (c := c)
      fun x r hx hr hfree => ⟨x, hx, Or.inl ⟨r, hr, hfree⟩⟩
    refine Post.imp hclose (fun _ _ => trivial) fun s' hs' => ?_
    obtain ⟨x', hx', _, heq⟩ := hs'
    cases hx.symm.trans hx'
    rw [heq, Core.remotes_closeClient, if_pos hr]
  · refine Post.bind lockRemoteList_runs.returns fun s₁ _ => ?_
    refine Post.bind remoteClose_runs.returns fun s₂ h₂ => ?_
    show s₂.remotes r = none
    rw [h₂.2, Core.remotes_dropRemote, if_pos rfl]

/-- After the failed send the remote is read, and it is gone. -/
theorem remoteConnectedProcess_fails {s' : Daemon} (h : Linked s.toCore)
    (hy : s.remotes r = some y) (hcloses : ClosesRelay sys revents y) :
    remoteConnectedProcess sys s r y revents ≠ .ok s' := by
  intro hrun
  obtain ⟨_, hin, hout, hsize, hsend⟩ := hcloses
  have hremote : s.remote r = .ok y := by
    rw [Daemon.remote, hy]
  have hprocess : remoteProcessSend sys s r = usbmuxRemoteClose s r := by
    rw [remoteProcessSend, hremote]
    show (if y.ob.size = 0 then _ else _) = _
    rw [if_neg hsize, hsend]
  rw [remoteConnectedProcess, hin, hout, hprocess] at hrun
  simp only [Bool.false_eq_true, if_false, if_true] at hrun
  obtain ⟨t, ht, hrest⟩ := bind_eq_ok.mp hrun
  obtain ⟨z, hz, _⟩ := bind_eq_ok.mp hrest
  rw [Daemon.remote, (usbmuxRemoteClose_gone h).of_ok ht] at hz
  cases hz

theorem usbmuxRemoteProcess_fails {s' : Daemon} (h : Linked s.toCore)
    (hp : Partnered s.toCore) (hhit : Call.HitsRemoved plat s (.remoteProcess fd revents sys)) :
    usbmuxRemoteProcess plat sys s fd revents ≠ .ok s' := by
  intro hrun
  obtain ⟨r, y, hevent, hcloses⟩ := hhit
  have hnval : revents ≠ { pollnval := true } := by
    intro heq
    have hout := hcloses.2.2.1
    rw [heq] at hout
    cases hout
  obtain ⟨⟨t, found⟩, ht, hrest⟩ := bind_eq_ok.mp hrun
  have hfound : found = some r := by
    have hfst := (reapLoop_found hnval).of_ok ht
    rw [hevent] at hfst
    exact hfst
  subst hfound
  obtain ⟨hlinks, _, hlive⟩ := (reapLoop_post h hp).of_ok ht
  obtain ⟨y', hy, hevent'⟩ := hlive r rfl
  cases hevent.symm.trans hevent'
  have hremote : t.remote r = .ok y := by
    rw [Daemon.remote, hy]
  have hfoundRun : remoteProcessFound plat sys t r revents = .ok s' := hrest
  rw [remoteProcessFound, hremote] at hfoundRun
  change (if y.state = .connected then _ else _) = _ at hfoundRun
  rw [if_pos hcloses.1] at hfoundRun
  exact remoteConnectedProcess_fails hlinks hy hcloses hfoundRun

/-- The result of the request has nobody to go to. -/
theorem removeInstance_fails {tag : UInt32} {dict : Plist} {host : String} {port : UInt16}
    {res : Int × Daemon} (h : Linked s.toCore) (hreg : Registry s.toCore)
    (hx : s.clients c = some x) (hreq : instanceRequest dict = some (host, port))
    (hloses : LosesClient s.toCore c host port) :
    plistCommand plat sys s c tag "RemoveInstance" dict ≠ .ok res := by
  intro hrun
  have hcommand : plistCommand plat sys s c tag "RemoveInstance" dict =
      removeInstance plat sys s c tag dict := by
    rw [plistCommand]
    simp
  rw [hcommand, removeInstance, hreq] at hrun
  obtain ⟨⟨rv, s₁⟩, h₁, hreply⟩ := bind_eq_ok.mp hrun
  have hgone : s₁.clients c = none := by
    have hiff := (usbmuxRemoteRemoveRemote_post h hreg hx).of_ok h₁
    rw [← Option.not_isSome_iff_eq_none]
    exact fun hlive => hiff.mp hlive hloses
  obtain ⟨_, hsend, _⟩ := bind_eq_ok.mp hreply
  obtain ⟨_, hclient, _⟩ := bind_eq_ok.mp hsend
  rw [Daemon.client, hgone] at hclient
  cases hclient

theorem clientProcess_fails {s' : Daemon} (h : Linked s.toCore) (hreg : Registry s.toCore)
    (hlock : s.clientListLocked = false)
    (hhit : Call.HitsRemoved plat s (.clientProcess fd revents sys)) :
    clientProcess plat sys s fd revents ≠ .ok s' := by
  intro hrun
  obtain ⟨c, x, rf, host, port, hfind, hstate, hin, hrf, hout, hreq, hloses⟩ := hhit
  have hx : s.clients c = some x := (findClient_runs.returns.of_ok hfind (c, x) rfl).1
  rw [clientProcess_eq hlock, hfind] at hrun
  change (if x.state = .connected then _ else if revents.pollin then _ else _) = _ at hrun
  rw [if_neg (by rw [hstate]; decide), if_pos hin] at hrun
  have hclient : s.client c = .ok x := by
    rw [Daemon.client, hx]
  rw [processRecv, hclient, ok_bind, hrf, ok_bind, hout] at hrun
  obtain ⟨res, hcommand, _⟩ := bind_eq_ok.mp hrun
  change clientCommand plat sys (received s c x rf) c = .ok res at hcommand
  rw [removedInstance] at hreq
  split at hreq
  · next hframe =>
      obtain ⟨⟨message, dict⟩, hplist, hreq⟩ := Option.bind_eq_some_iff.mp hreq
      split at hreq
      · next hmsg =>
          obtain rfl : message = "RemoveInstance" := hmsg
          -- the frame is in the buffer when it is dispatched
          have hx₁ : (received s c x rf).clients c = some { x with ib := rf.ib } := if_pos rfl
          rw [clientCommand_plist hx₁ hstate hframe.1 hframe.2, plistBranch,
            show requestPlist plat rf.ib = _ from hplist] at hcommand
          set x₂ : MuxClient := { x with
            ib := rf.ib, protoVersion := 1, info := some (clientInfo dict) }
          set s₂ := dispatching plat (received s c x rf) c { x with ib := rf.ib } x₂ with hs₂
          have hx₂ : s₂.clients c = some x₂ := if_pos rfl
          have hreap : rf.ib.isNull = x.ib.isNull := ((readFrame_runs.returns).of_ok hrf).2.1
          have hin₂ : InPlace s.toCore s₂.toCore := by
            have hmake : s₂.toCore = (s.toCore.setClient c x₂).emit
                (recvActs (.clientRecv c) rf.got ++
                  [.command c (bufFrame plat rf.ib)]) := by
              rw [hs₂]
              simp [dispatching, received, Core.emit, Core.setClient, Daemon.update, Daemon.emit]
            rw [hmake]
            exact InPlace.of_client hx ⟨rfl, Or.inl rfl, Or.inl hreap, rfl,
              fun hp => hp.congr rfl rfl rfl, rfl⟩
          refine removeInstance_fails (h.inPlace ?_ hin₂) (hreg.inPlace hin₂) hx₂ hreq
            (hloses.congr hx hx₂ rfl rfl) hcommand
          refine WF.setClient (WF.emit (WF.emit (h.wf.setClient ?_))) ?_
          · rw [hx]
            rfl
          · exact Option.isSome_iff_exists.mpr ⟨_, hx₁⟩
      · cases hreq
  · cases hreq

/-- With mutual links, a call that does not hit one of the two places uses
nothing it removed; one that does ends in such a use, unless something else
that is undefined came first. -/
theorem call_usesRemoved_iff (h : Reachable plat s) (hlinks : MutualLinks s.toCore)
    (call : Call) :
    (¬ call.HitsRemoved plat s → ¬ call.UsesRemoved plat s) ∧
      ((∀ f, call.run plat s = .error f → f.IsUse) → ¬ call.UsesRemoved plat s →
        ¬ call.HitsRemoved plat s) := by
  obtain ⟨hwf, hreg⟩ := reachable_registry h
  have hlinked := Linked.of_mutual hwf hlinks
  have hpart := reachable_partnered h
  have hlock := (reachable_unlocked h).2
  have hfails : call.HitsRemoved plat s → ∀ s', call.run plat s ≠ .ok s' := by
    intro hhit s'
    cases call with
    | clientProcess fd revents sys => exact clientProcess_fails hlinked hreg hlock hhit
    | remoteProcess fd revents sys => exact usbmuxRemoteProcess_fails hlinked hpart hhit
  refine ⟨fun hok hused => ?_, fun hother hunused hhit => ?_⟩
  · obtain ⟨f, hf, huse⟩ := hused
    have hsound : Sound (call.run plat s) := by
      cases call with
      | clientProcess fd revents sys => exact clientProcess_sound hlinked hreg hpart hlock hok
      | remoteProcess fd revents sys => exact usbmuxRemoteProcess_sound hlinked hpart hok
    exact Post.of_error (F := fun f : Fault => ¬ f.IsUse) hsound hf huse
  · cases hrun : call.run plat s with
    | ok s' => exact hfails hhit s' hrun
    | error f => exact hunused ⟨f, hrun, hother f hrun⟩

end Calls

/-- Whether all links are mutual, for a state with few objects. -/
def linksMutual (s : Core) : Bool :=
  (s.clientList.elems.all fun c => (s.clients c).all fun x => x.remote.all fun r =>
    (s.remotes r).any fun y => decide (y.client = some c)) &&
  s.remoteList.elems.all fun r => (s.remotes r).all fun y => y.client.all fun c =>
    (s.clients c).any fun x => decide (x.remote = some r)

theorem mutualLinks_of_linksMutual {s : Core} (hwf : WF s) (h : linksMutual s = true) :
    MutualLinks s := by
  rw [linksMutual, Bool.and_eq_true] at h
  intro c r
  constructor
  · intro hc
    obtain ⟨x, hx, hr⟩ := hc
    have hall := List.all_eq_true.mp h.1 c ((hwf.clients c).mpr (by rw [hx]; rfl))
    rw [hx, Option.all_some, hr, Option.all_some, Option.any_eq_true] at hall
    obtain ⟨y, hy, hback⟩ := hall
    exact ⟨y, hy, of_decide_eq_true hback⟩
  · intro hr
    obtain ⟨y, hy, hc⟩ := hr
    have hall := List.all_eq_true.mp h.2 r ((hwf.remotes r).mpr (by rw [hy]; rfl))
    rw [hy, Option.all_some, hc, Option.all_some, Option.any_eq_true] at hall
    obtain ⟨x, hx, hback⟩ := hall
    exact ⟨x, hx, of_decide_eq_true hback⟩

/-- The host hangs up on a client that waits for its connection. -/
theorem call_usesRemoved_hangup : ∃ s y, Reachable (platformWith []) s ∧
    s.remotes ⟨0⟩ = some y ∧ y.client = some ⟨0⟩ ∧
    ¬ (Call.remoteProcess 10 { pollin := true } { recv := some [] }).UsesRemoved
      (platformWith []) s := by
  let test : Daemon → Bool := fun s => linksMutual s.toCore &&
    (s.remotes ⟨0⟩).any fun y => decide (y.client = some ⟨0⟩)
  obtain ⟨s, hrun, htest⟩ : ∃ s, runFrom (platformWith []) {} (fun _ _ => true) connectRun =
      some s ∧ test s = true := exists_of_runFrom (by decide +kernel)
  simp only [test, Bool.and_eq_true, decide_eq_true_eq, Option.any_eq_true] at htest
  obtain ⟨hmutual, y, hy, hclient⟩ := htest
  have hreach := reachable_of_runFrom hrun
  refine ⟨s, y, hreach, hy, hclient, (call_usesRemoved_iff hreach
    (mutualLinks_of_linksMutual (reachable_wf hreach) hmutual) _).1 fun hhit => ?_⟩
  obtain ⟨r, y', _, _, hin, _⟩ := hhit
  cases hin

/-- A client is connected and has sent something. -/
def pendingRun : List Event :=
  .accept (some 5) :: (clientSends 5 { connect := some 10 } (connectFrame 7 3 80) ++
    .remote 10 { pollout := true } { send := some 300 } :: (remoteSends 10 (resultFrame 0) ++
    [.client 5 { pollout := true } { send := some 100 },
     .client 5 { pollin := true } { recv := some [1, 2, 3] }]))

/-- Sending it on fails, and the remote is read after it was freed. -/
theorem closed_remote_read : ∃ s, Reachable (platformWith []) s ∧ MutualLinks s.toCore ∧
    (Call.remoteProcess 10 { pollout := true } {}).run (platformWith []) s =
      .error (.freedRemote ⟨0⟩) ∧
    (Call.remoteProcess 10 { pollout := true } {}).UsesRemoved (platformWith []) s := by
  let call : Call := .remoteProcess 10 { pollout := true } {}
  let test : Daemon → Bool := fun s => linksMutual s.toCore &&
    failsWith (.freedRemote ⟨0⟩) (call.run (platformWith []) s)
  obtain ⟨s, hrun, htest⟩ : ∃ s, runFrom (platformWith []) {} (fun _ _ => true) pendingRun =
      some s ∧ test s = true := exists_of_runFrom (by decide +kernel)
  rw [Bool.and_eq_true] at htest
  have hreach := reachable_of_runFrom hrun
  have hfault : call.run (platformWith []) s = .error (.freedRemote ⟨0⟩) :=
    eq_of_failsWith htest.2
  exact ⟨s, hreach, mutualLinks_of_linksMutual (reachable_wf hreach) htest.1, hfault,
    _, hfault, trivial⟩

end Usbfluxd
