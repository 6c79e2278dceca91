import Usbfluxd.Lib.Within
import Usbfluxd.Proofs.Commands
import Usbfluxd.Proofs.Relay
import Usbfluxd.Proofs.Waiting

/-!
# Relays that cannot stall

A connected client and its remote share two buffers. What the remote sends
waits in its input buffer until the client can be written to, and what the
client sends waits in the output buffer of the remote, with `POLLIN` of the
client switched off until it has gone out. Each side is woken by a bit that
the handler of the other side sets, in a mask that is parked while the connect
result is still on its way to the client.

That no bit is ever missing is an invariant of the pair (`Flows`). Most of the
daemon has nothing to do with it: every function but the five that relay stays
within a preorder (`RelaysKept`) that keeps it, so it is enough to look at
those five. The one way to lose a bit is a connect result that cannot be
queued, so no allocation or conversion may fail.
-/

namespace Usbfluxd

open Lib

/-! ## What a relay waits for -/

/-- A client that waits for its connection or has it, and its remote that is
connected already. -/
structure Flows (x : MuxClient) (y : RemoteMux) : Prop where
  told : x.state ≠ .connecting1
  deferred : x.state = .connecting2 → y.ib.data ≠ [] → x.devents.pollout = true
  down : x.state = .connected → y.ib.data ≠ [] → x.events.pollout = true
  up : x.state = .connected → x.events.pollin = false → y.events.pollout = true

def RelaysFlow (s : Core) : Prop :=
  ∀ c x r y, s.clients c = some x → x.needsRemote → x.remote = some r → s.remotes r = some y →
    y.state = .connected → Flows x y

/-- The client is where it was, and polls for no less. -/
structure MuxClient.StillPolls (x x' : MuxClient) : Prop where
  state : x'.state = x.state
  remote : x'.remote = x.remote
  pollin : x.state = .connected → x.events.pollin = true → x'.events.pollin = true
  pollout : x.state = .connected → x.events.pollout = true → x'.events.pollout = true
  deferred : x.devents.pollout = true → x'.devents.pollout = true

/-- The remote is where it was, has nothing new to relay, and polls for no
less output. -/
structure RemoteMux.StillPolls (y y' : RemoteMux) : Prop where
  state : y'.state = y.state
  input : y'.ib.data ≠ [] → y.ib.data ≠ []
  pollout : y.events.pollout = true → y'.events.pollout = true

/-- Every relay there is was there before, and nothing was taken from it. -/
def RelaysKept (s s' : Core) : Prop :=
  ∀ c x' r y', s'.clients c = some x' → x'.needsRemote → x'.remote = some r →
    s'.remotes r = some y' → y'.state = .connected →
    ∃ x y, s.clients c = some x ∧ s.remotes r = some y ∧ x.StillPolls x' ∧ y.StillPolls y'

section Kept

variable {s s' s'' : Core} {c : ClientPtr} {r : RemotePtr} {x x' x'' : MuxClient}
  {y y' y'' : RemoteMux} {acts : List Act}

theorem MuxClient.StillPolls.refl : x.StillPolls x :=
  ⟨rfl, rfl, fun _ h => h, fun _ h => h, fun h => h⟩

theorem RemoteMux.StillPolls.refl : y.StillPolls y := ⟨rfl, fun h => h, fun h => h⟩

theorem MuxClient.StillPolls.trans (h : x.StillPolls x') (h' : x'.StillPolls x'') :
    x.StillPolls x'' where
  state := h'.state.trans h.state
  remote := h'.remote.trans h.remote
  pollin hst hin := h'.pollin (h.state.trans hst) (h.pollin hst hin)
  pollout hst hout := h'.pollout (h.state.trans hst) (h.pollout hst hout)
  deferred hout := h'.deferred (h.deferred hout)

theorem RemoteMux.StillPolls.trans (h : y.StillPolls y') (h' : y'.StillPolls y'') :
    y.StillPolls y'' where
  state := h'.state.trans h.state
  input hne := h.input (h'.input hne)
  pollout hout := h'.pollout (h.pollout hout)

theorem Flows.stillPolls (h : Flows x y) (hx : x.StillPolls x') (hy : y.StillPolls y') :
    Flows x' y' where
  told := by
    rw [hx.state]
    exact h.told
  deferred hst hne := hx.deferred (h.deferred (hx.state.symm.trans hst) (hy.input hne))
  down hst hne := by
    have hst' := hx.state.symm.trans hst
    exact hx.pollout hst' (h.down hst' (hy.input hne))
  up hst hin := by
    have hst' := hx.state.symm.trans hst
    refine hy.pollout (h.up hst' ?_)
    rw [← Bool.not_eq_true] at hin ⊢
    exact fun hin' => hin (hx.pollin hst' hin')

instance : Std.Refl RelaysKept where
  refl _ _ x _ y hx _ _ hy _ := ⟨x, y, hx, hy, .refl, .refl⟩

instance : IsTrans Core RelaysKept where
  trans s s' s'' h h' := by
    intro c x'' r y'' hx'' hneed hr hy'' hst
    obtain ⟨x', y', hx', hy', hxp, hyp⟩ := h' c x'' r y'' hx'' hneed hr hy'' hst
    have hneed' : x'.needsRemote := by
      rw [MuxClient.needsRemote, ← hxp.state]
      exact hneed
    obtain ⟨x, y, hx, hy, hxp', hyp'⟩ := h c x' r y' hx' hneed' (hxp.remote.symm.trans hr) hy'
      (hyp.state.symm.trans hst)
    exact ⟨x, y, hx, hy, hxp'.trans hxp, hyp'.trans hyp⟩

theorem RelaysKept.refl : RelaysKept s s := Std.Refl.refl s

theorem RelaysKept.trans (h : RelaysKept s s') (h' : RelaysKept s' s'') : RelaysKept s s'' :=
  IsTrans.trans _ _ _ h h'

/-- What is kept goes on to flow. -/
theorem RelaysFlow.kept (h : RelaysFlow s) (hk : RelaysKept s s') : RelaysFlow s' := by
  intro c x' r y' hx' hneed hr hy' hst
  obtain ⟨x, y, hx, hy, hxp, hyp⟩ := hk c x' r y' hx' hneed hr hy' hst
  have hneed' : x.needsRemote := by
    rw [MuxClient.needsRemote, ← hxp.state]
    exact hneed
  exact (h c x r y hx hneed' (hxp.remote.symm.trans hr) hy (hyp.state.symm.trans hst)).stillPolls
    hxp hyp

/-! ## What keeps the relays -/

/-- Every object that is left was there, and is as it was as far as relays
are concerned, unless it is none of a relay. -/
theorem RelaysKept.of_objects
    (hclient : ∀ c x', s'.clients c = some x' → x'.needsRemote →
      ∃ x, s.clients c = some x ∧ x.StillPolls x')
    (hremote : ∀ r y', s'.remotes r = some y' → y'.state = .connected →
      ∃ y, s.remotes r = some y ∧ y.StillPolls y') : RelaysKept s s' := by
  intro c x' r y' hx' hneed _ hy' hst
  obtain ⟨x, hx, hxp⟩ := hclient c x' hx' hneed
  obtain ⟨y, hy, hyp⟩ := hremote r y' hy' hst
  exact ⟨x, y, hx, hy, hxp, hyp⟩

theorem RelaysKept.leaves (h : Leaves s s') : RelaysKept s s' :=
  .of_objects (fun _ x hx _ => ⟨x, h.client hx, .refl⟩) fun _ y hy _ => ⟨y, h.remote hy, .refl⟩

/-- One client may change, as long as it polls for no less, or leaves the
relay. -/
theorem RelaysKept.setClient (hx : s.clients c = some x)
    (h : x'.needsRemote → x.StillPolls x') : RelaysKept s (s.setClient c x') := by
  refine .of_objects (fun c' z hz hneed => ?_) fun _ y hy _ => ⟨y, hy, .refl⟩
  rw [Core.clients_setClient] at hz
  split at hz
  · next heq =>
      subst heq
      cases hz
      exact ⟨x, hx, h hneed⟩
  · exact ⟨z, hz, .refl⟩

theorem RelaysKept.setRemote (hy : s.remotes r = some y)
    (h : y'.state = .connected → y.StillPolls y') :
    RelaysKept s (s.setRemote r y') := by
  refine .of_objects (fun _ x hx _ => ⟨x, hx, .refl⟩) fun r' z hz hst => ?_
  rw [Core.remotes_setRemote] at hz
  split at hz
  · next heq =>
      subst heq
      cases hz
      exact ⟨y, hy, h hst⟩
  · exact ⟨z, hz, .refl⟩

/-- A remote that is not connected is in no relay yet, and neither is the
client that is linked to it. -/
theorem RelaysKept.opens (hlink : x'.remote = some ⟨s.nextRemote⟩) (hy : y.state ≠ .connected) :
    RelaysKept s (((s.setClient c x').addRemote y).emit acts) := by
  intro c' z r w hz _ hr hw hst
  rw [Core.clients_emit, Core.clients_addRemote, Core.clients_setClient] at hz
  rw [Core.remotes_emit, Core.remotes_addRemote] at hw
  split at hw
  · cases hw
    exact absurd hst hy
  · next hne =>
      split at hz
      · cases hz
        cases hlink.symm.trans hr
        exact absurd rfl hne
      · exact ⟨z, w, hz, hw, .refl, .refl⟩

theorem RelaysKept.addRemote (hy : y.state ≠ .connected) (hclients : s'.clients = s.clients)
    (hremotes : s'.remotes = (s.addRemote y).remotes) : RelaysKept s s' := by
  refine .of_objects (fun c x hx _ => ?_) fun r w hw hst => ?_
  · rw [hclients] at hx
    exact ⟨x, hx, .refl⟩
  · rw [hremotes] at hw
    rcases Core.remotes_addRemote_cases hw with ⟨_, rfl⟩ | hw
    · exact absurd hst hy
    · exact ⟨w, hw, .refl⟩

theorem MuxClient.Fed.stillPolls {ob : Buf} {e : PollEvents} (h : x.Fed ob e) :
    x.StillPolls { x with ob := ob, events := e } := by
  rcases h with ⟨rfl, rfl⟩ | ⟨_, _, rfl⟩
  · exact .refl
  · exact ⟨rfl, rfl, fun _ h => h, fun _ _ => rfl, fun h => h⟩

/-- Output queued on clients. -/
theorem SameButClients.relaysKept (h : SameButClients s s') : RelaysKept s s' := by
  refine .of_objects (fun c x' hx' _ => ?_) fun r y hy _ => ?_
  · cases hx : s.clients c with
    | none => cases (h.noClient hx).symm.trans hx'
    | some x =>
        obtain ⟨ob, e, hx₁, hfed⟩ := h.client hx
        cases hx₁.symm.trans hx'
        exact ⟨x, rfl, hfed.stillPolls⟩
  · rw [h.remotes] at hy
    exact ⟨y, hy, .refl⟩

theorem Disposed.relaysKept {lossOk : Prop} (h : Disposed lossOk r y s s') : RelaysKept s s' := by
  obtain ⟨_, t, ht, _, rfl⟩ := h
  exact ht.same.relaysKept.trans (.leaves .dispose)

/-- What relays do not depend on. -/
theorem RelaysKept.of_same (hclients : s'.clients = s.clients) (hremotes : s'.remotes = s.remotes) :
    RelaysKept s s' := by
  refine .of_objects (fun c x hx _ => ⟨x, ?_, .refl⟩) fun r y hy _ => ⟨y, ?_, .refl⟩
  · rw [← hclients]
    exact hx
  · rw [← hremotes]
    exact hy

theorem RelaysKept.emit (h : RelaysKept s s') : RelaysKept s (s'.emit acts) :=
  h.trans (.of_same rfl rfl)

end Kept

/-! ## Functions that keep the relays -/

/-- The function keeps the relays, whatever it returns. -/
abbrev Gentle (s : Daemon) (m : Except Fault Daemon) : Prop :=
  Within RelaysKept Daemon.toCore s.toCore m

abbrev GentleRes (s : Daemon) (m : Except Fault (Int × Daemon)) : Prop :=
  Within RelaysKept (fun p => p.2.toCore) s.toCore m

section Gentle

variable {plat : Platform} {sys : Sys} {s : Daemon} {c : ClientPtr} {r : RemotePtr}
  {x : MuxClient} {y : RemoteMux} {tag : UInt32}

theorem lockRemoteList_gentle : Gentle s s.lockRemoteList :=
  .of_post lockRemoteList_runs.returns fun t ht => by
    rw [ht]
    exact .refl

theorem lockClientList_gentle : Gentle s s.lockClientList :=
  .of_post lockClientList_runs.returns fun t ht => by
    rw [ht]
    exact .refl

theorem modifyClient_gentle {f : MuxClient → MuxClient}
    (h : ∀ x, s.clients c = some x → (f x).needsRemote → x.StillPolls (f x)) :
    Gentle s (s.modifyClient c f) := by
  refine .of_post modifyClient_runs.returns fun t ht => ?_
  obtain ⟨x, hx, rfl⟩ := ht
  exact .setClient hx (h x hx)

theorem modifyRemote_gentle {f : RemoteMux → RemoteMux}
    (h : ∀ y, s.remotes r = some y → (f y).state = .connected → y.StillPolls (f y)) :
    Gentle s (s.modifyRemote r f) := by
  refine .of_post modifyRemote_runs.returns fun t ht => ?_
  obtain ⟨y, hy, rfl⟩ := ht
  exact .setRemote hy (h y hy)

theorem SendOutcome.relaysKept {P : UInt32 → Header → Payload → Prop} {s : Core}
    {res : Int × Daemon} (h : SendOutcome plat sys c P s res) : RelaysKept s res.2.toCore := by
  rcases h with ⟨_, _, heq⟩ | ⟨_, x, hdr, payload, _, hq⟩
  · rw [heq]
    exact .refl
  · exact hq.same.relaysKept

theorem RemoteSendOutcome.relaysKept {P : Payload → Prop} {s : Core} {res : Int × Daemon}
    (h : RemoteSendOutcome plat sys r P s res) : RelaysKept s res.2.toCore := by
  rcases h with ⟨_, _, heq⟩ | ⟨_, y, ob, hdr, payload, _, hy, _, heq⟩
  · rw [heq]
    exact .refl
  · rw [heq]
    exact .emit (.setRemote hy fun _ => ⟨rfl, fun h => h, fun _ => rfl⟩)

theorem sendPktRaw_gentle {bytes : List UInt8} : GentleRes s (sendPktRaw sys s c bytes) := by
  refine .of_post sendPktRaw_runs.returns fun res hres => ?_
  rcases hres with heq | ⟨x, ob, hx, hob, heq⟩
  · rw [heq]
    exact .refl
  · rw [heq]
    exact .emit (.setClient hx fun _ => hob.fed.stillPolls)

theorem clientSendPacketData_gentle {hdr payload : List UInt8} :
    GentleRes s (clientSendPacketData sys s c hdr payload) := by
  refine .bind sendPktRaw_gentle fun p _ => ?_
  exact .ite (fun _ => sendPktRaw_gentle) fun _ => .pure .refl

theorem sendPlistPkt_gentle {p : Plist} : GentleRes s (sendPlistPkt plat sys s c tag p) :=
  .of_post sendPlistPkt_runs.returns fun _ => SendOutcome.relaysKept

theorem sendResult_gentle {result : UInt32} : GentleRes s (sendResult plat sys s c tag result) :=
  .of_post sendResult_runs.returns fun _ => SendOutcome.relaysKept

theorem reply_gentle {result : UInt32} : GentleRes s (reply plat sys s c tag result) :=
  .bind sendResult_gentle fun _ _ => .pure .refl

theorem notifyDeviceAdd_gentle {dev : Plist} : GentleRes s (notifyDeviceAdd plat sys s c dev) :=
  .of_post notifyDeviceAdd_runs.returns fun _ => SendOutcome.relaysKept

theorem clientDeviceAdd_gentle {dev : Plist} : Gentle s (clientDeviceAdd plat sys s dev) :=
  .of_post (clientDeviceAdd_runs fun _ => trivial).returns fun _ h =>
    h.announces.same.relaysKept

theorem clientDeviceRemove_gentle {deviceId : UInt32} :
    Gentle s (clientDeviceRemove plat sys s deviceId) :=
  .of_post (clientDeviceRemove_runs fun _ => trivial).returns fun _ h =>
    h.announces.same.relaysKept

theorem clientClose_gentle : Gentle s (clientClose s c) := by
  have hruns : Runs .all s.toCore _ (clientClose s c) := clientClose_runs
    fun x r hx hr hfree => ⟨x, hx, Or.inl ⟨r, hr, hfree⟩⟩
  refine .of_post hruns fun t ht => ?_
  obtain ⟨x, _, _, heq⟩ := ht
  rw [heq]
  exact .leaves .closeClient

theorem remoteClose_gentle : Gentle s (remoteClose s r) :=
  .of_post remoteClose_runs.returns fun t ht => by
    rw [ht.2]
    exact .leaves .dropRemote

theorem usbmuxRemoteClose_gentle : Gentle s (usbmuxRemoteClose s r) := by
  refine .read fun y _ => ?_
  split
  · exact .read fun c _ => clientClose_gentle
  · exact .bind lockRemoteList_gentle fun t _ => .bind remoteClose_gentle fun u _ => .pure .refl

theorem usbmuxRemoteDispose_gentle : Gentle s (usbmuxRemoteDispose plat sys s r) := by
  have hruns : Runs .all s.toCore _ (usbmuxRemoteDispose plat sys s r) :=
    usbmuxRemoteDispose_runs fun _ => trivial
  refine .of_post hruns fun t ht => ?_
  obtain ⟨y, hd⟩ := ht
  exact hd.relaysKept

theorem forRemotes_gentle {body : Daemon → RemotePtr → Except Fault Daemon}
    (h : ∀ s r, Gentle s (body s r)) : Gentle s (forRemotes body s) :=
  Within.slotLoop h

theorem remoteMarkDead_gentle : Gentle s (remoteMarkDead plat sys s r) := by
  have hdead : ∀ (s : Daemon) r, Gentle s (s.modifyRemote r fun y => { y with state := .dead }) :=
    fun s r => modifyRemote_gentle fun y _ hst => by cases hst
  refine .read fun y _ => .bind (hdead s r) fun t _ => ?_
  refine .bind (forRemotes_gentle fun u r' => ?_) fun u _ => .read fun o _ => ?_
  · exact .read fun z _ => .ite (fun _ => hdead u r') fun _ => .pure .refl
  · split
    · exact modifyRemote_gentle fun z _ _ => ⟨rfl, fun h => h, fun _ => rfl⟩
    · exact forRemotes_gentle fun _ _ => usbmuxRemoteDispose_gentle

theorem usbmuxRemoteMarkDead_gentle : Gentle s (usbmuxRemoteMarkDead plat sys s r) :=
  .bind lockRemoteList_gentle fun _ _ => .bind remoteMarkDead_gentle fun _ _ => .pure .refl

theorem remoteMuxServiceAdd_gentle {serviceName hostName : String} {port : UInt16} :
    GentleRes s (remoteMuxServiceAdd plat sys s serviceName hostName port) := by
  refine .of_post remoteMuxServiceAdd_runs.returns fun res hres => ?_
  rcases hres with ⟨_, heq⟩ | ⟨_, y, acts, hnew, _, _, heq⟩
  · rw [heq]
    exact .refl
  · rw [heq]
    refine .addRemote ?_ rfl rfl
    rw [hnew.state]
    exact fun h => nomatch h

theorem remoteMuxServiceRemove_gentle {serviceName hostName : Option String} {port : UInt16} :
    GentleRes s (remoteMuxServiceRemove plat sys s serviceName hostName port) := by
  refine .bind lockRemoteList_gentle fun t _ => .read fun o _ => ?_
  split
  · exact .pure .refl
  · exact .bind remoteMarkDead_gentle fun u _ => .pure .refl

end Gentle

/-! ## Commands -/

section Command

variable {plat : Platform} {sys : Sys} {s : Daemon} {c : ClientPtr} {r : RemotePtr}
  {x : MuxClient} {y : RemoteMux} {tag : UInt32}

theorem startListenLoop_gentle {devs : List Plist} {count : Int} :
    GentleRes s (startListenLoop plat sys c devs count s) := by
  induction devs generalizing s count with
  | nil => exact .pure .refl
  | cons dev rest ih =>
      refine .bind notifyDeviceAdd_gentle fun p _ => ?_
      exact .ite (fun _ => .pure .refl) fun _ => ih

theorem usbmuxRemoteCopyDeviceList_gentle :
    Within RelaysKept (fun p => p.2.toCore) s.toCore (usbmuxRemoteCopyDeviceList s) :=
  .of_post usbmuxRemoteCopyDeviceList_runs.returns fun p hp => by
    rw [hp.2]
    exact .refl

theorem startListen_gentle : GentleRes s (startListen plat sys s c) := by
  refine .bind (modifyClient_gentle fun x _ hneed => ?_) fun t _ => ?_
  · simp [MuxClient.needsRemote] at hneed
  · refine .after (t := (t.emit [.listen c]).toCore) (.of_same rfl rfl) ?_
    exact .bind usbmuxRemoteCopyDeviceList_gentle fun p _ => startListenLoop_gentle

theorem clientListen_gentle : GentleRes s (clientListen plat sys s c tag) := by
  refine .bind sendResult_gentle fun p _ => ?_
  exact .ite (fun _ => .pure .refl) fun _ => startListen_gentle

/-- The client is in `CLIENT_CONNECTING1` from here on, and its remote in
`REMOTE_CONNECTING1`. -/
theorem clientConnect_gentle {deviceId : UInt32} {req : Plist} :
    GentleRes s (clientConnect plat sys s c tag deviceId req) := by
  refine .read fun res hres => ?_
  obtain ⟨res, t⟩ := res
  rcases usbmuxRemoteConnect_runs.returns.of_ok hres with ⟨hneg, heq⟩ |
    ⟨hzero, x, y, _, acts, hx, _, _, _, _, hkind, _, heq⟩
  · have heq : t.toCore = s.toCore := heq
    dsimp only
    rw [if_pos hneg]
    refine .after (t := t.toCore) ?_ reply_gentle
    rw [heq]
    exact .refl
  · have heq : t.toCore = _ := heq
    have hzero : res = 0 := hzero
    dsimp only
    rw [hzero, if_neg (by decide)]
    refine .read fun u hu => ?_
    obtain ⟨x', hx', rfl⟩ := modifyClient_runs.returns.of_ok hu
    have hself : t.clients c = some { x with remote := some ⟨s.nextRemote⟩ } := by
      rw [show t.toCore = _ from heq]
      exact if_pos rfl
    cases hself.symm.trans hx'
    refine .pure ?_
    show RelaysKept s.toCore (t.toCore.setClient c _)
    rw [heq, setClient_linkNewRemote]
    refine .opens rfl ?_
    rw [hkind.1]
    exact fun h => nomatch h

theorem plistConnect_gentle {dict : Plist} : GentleRes s (plistConnect plat sys s c tag dict) := by
  rw [plistConnect]
  split
  · exact reply_gentle
  · split
    · exact reply_gentle
    · exact clientConnect_gentle

/-- The new remote goes on waiting for a reply. -/
theorem forwardRequest_gentle {k : UInt8} {cmd : RemoteCommand} {msg : Except Fault Plist} :
    GentleRes s (forwardRequest plat sys s k tag cmd msg c) := by
  refine .read fun o ho => ?_
  cases o with
  | none => exact .pure .refl
  | some y =>
      have hfresh := (newRemoteFor_runs.returns.of_ok ho y rfl).1
      have hlink : Within RelaysKept (fun p : RemotePtr × Daemon => p.2.toCore) s.toCore
          (linkNewRemote s c y) := by
        refine .of_post linkNewRemote_runs.returns fun p hp => ?_
        obtain ⟨x, _, _, heq⟩ := hp
        rw [heq]
        refine .opens rfl ?_
        rw [hfresh.state]
        exact fun h => nomatch h
      have hsend : ∀ (t : Daemon) r p, GentleRes t (remoteSendPlistPkt plat sys t r tag p) :=
        fun t r p => .of_post remoteSendPlistPkt_runs.returns fun _ h => h.relaysKept
      refine .bind hlink fun p _ => .read fun msg _ => .bind (hsend _ _ _) fun q _ => ?_
      refine .ite (fun _ => .bind ?_ fun _ _ => .pure .refl) fun _ => .pure .refl
      exact modifyRemote_gentle fun z _ _ => ⟨rfl, fun h => h, fun h => h⟩

theorem usbmuxRemoteReadBuid_gentle : GentleRes s (usbmuxRemoteReadBuid plat sys s tag c) :=
  .bind lockRemoteList_gentle fun _ _ => forwardRequest_gentle

theorem pairRecordRequest_gentle {recordId : Option String} {cmd : RemoteCommand}
    {msg : Except Fault Plist} :
    GentleRes s (pairRecordRequest plat sys s recordId tag cmd msg c) :=
  .bind lockRemoteList_gentle fun _ _ => .read fun _ _ => forwardRequest_gentle

theorem sendDeviceList_gentle : GentleRes s (sendDeviceList plat sys s c tag) :=
  .bind usbmuxRemoteCopyDeviceList_gentle fun _ _ => sendPlistPkt_gentle

theorem sendListenerList_gentle : GentleRes s (sendListenerList plat sys s c tag) :=
  .bind lockClientList_gentle fun _ _ => .read fun _ _ => .read fun _ _ =>
    .after (.of_same rfl rfl) sendPlistPkt_gentle

theorem sendInstances_gentle : GentleRes s (sendInstances plat sys s c tag) := by
  have hcopy : Within RelaysKept (fun p : Plist × Daemon => p.2.toCore) s.toCore
      (usbmuxRemoteCopyInstances s) :=
    .bind lockRemoteList_gentle fun _ _ => .read fun _ _ => .pure .refl
  exact .bind hcopy fun _ _ => sendPlistPkt_gentle

theorem addInstance_gentle {dict : Plist} : GentleRes s (addInstance plat sys s c tag dict) := by
  rw [addInstance]
  split
  · exact reply_gentle
  · exact .bind remoteMuxServiceAdd_gentle fun _ _ => reply_gentle

theorem removeInstance_gentle {dict : Plist} :
    GentleRes s (removeInstance plat sys s c tag dict) := by
  rw [removeInstance]
  split
  · exact reply_gentle
  · exact .bind remoteMuxServiceRemove_gentle fun _ _ => reply_gentle

theorem zeroOrFail_gentle {m : Except Fault (Int × Daemon)} (h : GentleRes s m) :
    GentleRes s (zeroOrFail <$> m) :=
  .map h fun _ => rfl

theorem plistCommand_gentle {message : String} {dict : Plist} :
    GentleRes s (plistCommand plat sys s c tag message dict) := by
  rw [plistCommand]
  refine .ite (fun _ => clientListen_gentle) fun _ => ?_
  refine .ite (fun _ => plistConnect_gentle) fun _ => ?_
  refine .ite (fun _ => zeroOrFail_gentle sendDeviceList_gentle) fun _ => ?_
  refine .ite (fun _ => zeroOrFail_gentle sendListenerList_gentle) fun _ => ?_
  refine .ite (fun _ => .bind usbmuxRemoteReadBuid_gentle fun _ _ => .pure .refl) fun _ => ?_
  refine .ite (fun _ => zeroOrFail_gentle pairRecordRequest_gentle) fun _ => ?_
  refine .ite (fun _ => zeroOrFail_gentle pairRecordRequest_gentle) fun _ => ?_
  refine .ite (fun _ => zeroOrFail_gentle pairRecordRequest_gentle) fun _ => ?_
  refine .ite (fun _ => zeroOrFail_gentle sendInstances_gentle) fun _ => ?_
  refine .ite (fun _ => addInstance_gentle) fun _ => ?_
  exact .ite (fun _ => removeInstance_gentle) fun _ => reply_gentle

theorem clientCommand_gentle : GentleRes s (clientCommand plat sys s c) := by
  refine .read fun x _ => ?_
  dsimp only
  refine .after (t := (s.emit [.command c (bufFrame plat x.ib)]).toCore) (.of_same rfl rfl) ?_
  refine .ite (fun _ => .bind sendResult_gentle fun _ _ => ?_) fun _ => ?_
  · exact .ite (fun _ => .pure .refl) fun _ => .bind clientClose_gentle fun _ _ => .pure .refl
  refine .ite (fun _ => .bind sendResult_gentle fun _ _ => .pure .refl) fun _ => ?_
  refine .ite (fun _ => ?_) fun _ => ?_
  · refine .bind (modifyClient_gentle fun x _ _ => ?_) fun t _ => ?_
    · exact ⟨rfl, rfl, fun _ h => h, fun _ h => h, fun h => h⟩
    · split
      · exact .pure .refl
      · split
        · exact .pure .refl
        · refine .bind (modifyClient_gentle fun x _ _ => ?_) fun u _ => plistCommand_gentle
          exact ⟨rfl, rfl, fun _ h => h, fun _ h => h, fun h => h⟩
  refine .ite (fun _ => clientListen_gentle) fun _ => ?_
  exact .ite (fun _ => clientConnect_gentle) fun _ => reply_gentle

/-- `process_recv` keeps the relays, and so does everything below it. -/
theorem processRecv_gentle : Gentle s (processRecv plat sys s c) := by
  refine .read fun x hx => .read fun rf _ => ?_
  have hx : s.clients c = some x := client_runs.returns.of_ok hx
  refine .after (t := ((s.update (·.setClient c { x with ib := rf.ib })).emit
    (recvActs (.clientRecv c) rf.got)).toCore) (.emit (.setClient hx fun _ => ?_)) ?_
  · exact ⟨rfl, rfl, fun _ h => h, fun _ h => h, fun h => h⟩
  · cases rf.outcome with
    | dead => exact clientClose_gentle
    | more => exact .pure .refl
    | frame =>
        refine .bind clientCommand_gentle fun p _ => .ite (fun _ => ?_) fun _ => .pure .refl
        refine modifyClient_gentle fun x _ _ => ?_
        exact ⟨rfl, rfl, fun _ h => h, fun _ h => h, fun h => h⟩

end Command

/-! ## Frames of remotes, and what is done between events -/

section Frames

variable {plat : Platform} {sys : Sys} {s : Daemon} {c : ClientPtr} {r : RemotePtr}
  {y : RemoteMux} {plistMsg : Option Plist} {devid : UInt32} {dev : Plist}

theorem deviceAttached_gentle : Gentle s (deviceAttached plat sys s devid dev) :=
  .bind lockRemoteList_gentle fun _ _ => .after (.of_same rfl rfl)
    (.bind clientDeviceAdd_gentle fun _ _ => .pure .refl)

theorem deviceDetached_gentle : Gentle s (deviceDetached plat sys s devid) :=
  .bind lockRemoteList_gentle fun _ _ => .after (.of_same rfl rfl)
    (.bind clientDeviceRemove_gentle fun _ _ => .pure .refl)

theorem handleCommandState_gentle : Gentle s (handleCommandState plat sys s r y plistMsg) := by
  have hreply : Gentle s (commandReply plat sys s r y plistMsg) := by
    rw [commandReply]
    split
    · refine .ite (fun _ => modifyRemote_gentle fun z _ hst => ?_) fun _ => .pure .refl
      cases hst
    · exact .read fun _ _ => .bind clientSendPacketData_gentle fun _ _ => .pure .refl
    · exact .pure .refl
  refine .bind hreply fun t _ => modifyRemote_gentle fun z _ _ => ?_
  exact ⟨rfl, fun h => h, fun h => h⟩

/-- A binary announcement is patched in a buffer that is no relay's yet. -/
theorem handleListenState_gentle (hy : s.remotes r = some y) (hst : y.state ≠ .connected) :
    Gentle s (handleListenState plat sys s r y plistMsg) := by
  rw [handleListenState]
  split
  · split
    · exact deviceAttached_gentle
    · refine .bind (modifyRemote_gentle fun z hz hst' => ?_) fun t _ => .read fun _ _ =>
        deviceAttached_gentle
      cases hy.symm.trans hz
      exact absurd hst' hst
  · exact deviceDetached_gentle
  · exact .pure .refl

/-- The loop that reaps the dead disposes of remotes and of their clients. -/
theorem reapLoop_gentle {fd : Nat} {events : PollEvents} :
    Within RelaysKept (fun p => p.1.toCore) s.toCore (reapLoop plat sys fd events s) := by
  refine .bind lockRemoteList_gentle fun t _ => .bind (Within.slotLoop fun u i => ?_) fun p _ =>
    .pure .refl
  refine .read fun y _ => .ite (fun _ => ?_) fun _ => .ite (fun _ => ?_) fun _ => .pure .refl
  · exact .bind usbmuxRemoteDispose_gentle fun _ _ => .pure .refl
  · refine .ite (fun _ => ?_) fun _ => .pure .refl
    exact .bind usbmuxRemoteDispose_gentle fun _ _ => .pure .refl

theorem usbmuxRemoteGetFds_gentle {now : Nat} : Gentle s (usbmuxRemoteGetFds s now) := by
  refine .bind lockRemoteList_gentle fun t _ => .bind (forRemotes_gentle fun u r => ?_)
    fun _ _ => .pure .refl
  refine .read fun y _ => .ite (fun _ => ?_) fun _ => .pure .refl
  exact modifyRemote_gentle fun z _ _ => ⟨rfl, fun h => h, fun h => h⟩

/-- A client that was just accepted has no remote. -/
theorem clientAccept_gentle {cfd : Option Nat} : Gentle s (clientAccept s cfd) := by
  cases cfd with
  | none => exact .pure .refl
  | some fd =>
      refine .bind lockClientList_gentle fun t _ => .pure ?_
      refine .of_objects (fun c x hx hneed => ?_) fun r y hy _ => ⟨y, hy, .refl⟩
      rcases Core.clients_addClient_cases hx with ⟨_, rfl⟩ | hx
      · simp [MuxClient.needsRemote, newClient] at hneed
      · exact ⟨x, hx, .refl⟩

end Frames

/-! ## The functions that relay -/

/-- What flows goes on to flow. -/
def FlowsOn (s s' : Core) : Prop := RelaysFlow s → RelaysFlow s'

instance : Std.Refl FlowsOn where
  refl _ h := h

instance : IsTrans Core FlowsOn where
  trans _ _ _ h h' hs := h' (h hs)

abbrev KeepsFlow (s : Daemon) (m : Except Fault Daemon) : Prop :=
  Within FlowsOn Daemon.toCore s.toCore m

/-- The clients that share a relay with the remote. -/
def OnlyFor (s : Core) (r : RemotePtr) (client : Option ClientPtr) : Prop :=
  ∀ c x, s.clients c = some x → x.needsRemote → x.remote = some r → client = some c

section Flows

variable {s s' : Core} {c : ClientPtr} {r : RemotePtr} {x x' : MuxClient} {y y' : RemoteMux}
  {acts : List Act}

theorem RelaysKept.flowsOn (h : RelaysKept s s') : FlowsOn s s' := fun hs => hs.kept h

theorem Paired.onlyFor (h : Paired s) (hy : s.remotes r = some y) : OnlyFor s r y.client := by
  intro c x hx hneed hr
  obtain ⟨r', y', hr', hy', hc⟩ := h c x hx hneed
  cases hr.symm.trans hr'
  cases hy.symm.trans hy'
  exact hc

/-- A change of a client and of a remote. Their own relay has to flow, if they
share one; what else the client is linked to must not miss anything, and
neither must another client of the remote. -/
theorem FlowsOn.pair (hx : s.clients c = some x) (hy : s.remotes r = some y)
    (hclients : s'.clients = Function.update s.clients c (some x'))
    (hremotes : s'.remotes = Function.update s.remotes r (some y'))
    (hremote : x'.remote = x.remote) (hneed : x'.needsRemote → x.needsRemote)
    (hpair : x.remote = some r → x'.needsRemote → y'.state = .connected →
      (y.state = .connected → Flows x y) → Flows x' y')
    (hother : x.remote ≠ some r → ∀ z, Flows x z → Flows x' z)
    (hrest : ∀ c₁ z, c₁ ≠ c → s.clients c₁ = some z → z.needsRemote → z.remote = some r →
      y'.state = .connected → y.StillPolls y') : FlowsOn s s' := by
  intro h c₁ x₁ r₁ y₁ hx₁ hneed₁ hr₁ hy₁ hst
  rw [hclients, Function.update_apply] at hx₁
  rw [hremotes, Function.update_apply] at hy₁
  by_cases hc : c₁ = c
  · rw [if_pos hc] at hx₁
    cases hx₁
    rw [hremote] at hr₁
    by_cases hr : r₁ = r
    · rw [if_pos hr] at hy₁
      cases hy₁
      subst hr
      exact hpair hr₁ hneed₁ hst fun hst' => h c x r₁ y hx (hneed hneed₁) hr₁ hy hst'
    · rw [if_neg hr] at hy₁
      refine hother (fun h => hr ?_) y₁ (h c x r₁ y₁ hx (hneed hneed₁) hr₁ hy₁ hst)
      exact Option.some.inj (hr₁.symm.trans h)
  · rw [if_neg hc] at hx₁
    by_cases hr : r₁ = r
    · rw [if_pos hr] at hy₁
      cases hy₁
      subst hr
      have hyp := hrest c₁ x₁ hc hx₁ hneed₁ hr₁ hst
      exact (h c₁ x₁ r₁ y hx₁ hneed₁ hr₁ hy (hyp.state.symm.trans hst)).stillPolls .refl hyp
    · rw [if_neg hr] at hy₁
      exact h c₁ x₁ r₁ y₁ hx₁ hneed₁ hr₁ hy₁ hst

end Flows

section Client

variable {plat : Platform} {sys : Sys} {s : Daemon} {c : ClientPtr} {r : RemotePtr}
  {x : MuxClient} {y : RemoteMux}

theorem flows_of_gentle {m : Except Fault Daemon} (h : Gentle s m) : KeepsFlow s m :=
  h.mono fun _ _ hk => hk.flowsOn

/-- The mask that was parked takes effect, and `POLLIN` with it. -/
theorem processSend_flows (hx : s.clients c = some x) (hst : x.state ≠ .connected) :
    KeepsFlow s (processSend sys s c) := by
  have hquiet : ∀ {f : MuxClient → MuxClient} {acts : List Act},
      ((f x).state = x.state ∧ (f x).remote = x.remote ∧ (f x).devents = x.devents) →
      KeepsFlow s ((s.emit acts).modifyClient c f) := by
    intro f acts hf
    refine flows_of_gentle (.after (t := (s.emit acts).toCore) (.of_same rfl rfl) ?_)
    refine modifyClient_gentle fun z hz _ => ?_
    cases hx.symm.trans hz
    refine ⟨hf.1, hf.2.1, fun h => absurd h hst, fun h => absurd h hst, fun h => ?_⟩
    rw [hf.2.2]
    exact h
  refine .read fun z hz => ?_
  cases hx.symm.trans (client_runs.returns.of_ok hz)
  refine .ite (fun _ => ?_) fun _ => ?_
  · refine flows_of_gentle (modifyClient_gentle fun z hz _ => ?_)
    cases hx.symm.trans hz
    exact ⟨rfl, rfl, fun h => absurd h hst, fun h => absurd h hst, fun h => h⟩
  · split
    · exact flows_of_gentle clientClose_gentle
    · refine .ite (fun _ => hquiet ⟨rfl, rfl, rfl⟩) fun _ => ?_
      refine .ite (fun _ => hquiet ⟨rfl, rfl, rfl⟩) fun hconn => .read fun p hp => ?_
      rw [not_not] at hconn
      intro t ht
      obtain ⟨z, hz, rfl⟩ := modifyClient_runs.returns.of_ok ht
      cases hx.symm.trans hz
      intro h c₁ x₁ r₁ y₁ hx₁ hneed hr₁ hy₁ hst₁
      rw [toCore_update, Core.clients_setClient] at hx₁
      split at hx₁
      · next heq =>
          subst heq
          cases hx₁
          have hflows := h c₁ x r₁ y₁ hx (Or.inr (Or.inl hconn)) hr₁ hy₁ hst₁
          constructor
          · simp
          · intro h
            cases h
          · intro _ hne
            exact hflows.deferred hconn hne
          · intro _ hin
            cases hin
      · exact h c₁ x₁ r₁ y₁ hx₁ hneed hr₁ hy₁ hst₁

/-- `POLLIN` of the client goes off, and `POLLOUT` of the remote on. -/
theorem clientRelayRead_flows (hx : s.clients c = some x) (hst : x.state = .connected) :
    KeepsFlow s (clientRelayRead sys s c x) := by
  refine .read fun p hp => ?_
  obtain ⟨r, y⟩ := p
  obtain ⟨hr, hy⟩ := (clientRemote_runs_of_state (A := .all) hx (Or.inr hst)).of_ok hp
  refine .ite (fun _ => .pure fun h => h) fun _ => .read fun o _ => ?_
  cases o with
  | none => exact flows_of_gentle clientClose_gentle
  | some p =>
      refine .pure (.pair hx hy rfl rfl rfl (fun h => h) ?_ (fun h => absurd hr h) ?_)
      · intro _ _ hst' hflows
        have hflows := hflows hst'
        exact ⟨hflows.told, hflows.deferred, hflows.down, fun _ _ => rfl⟩
      · intro _ _ _ _ _ _ _
        exact ⟨rfl, fun h => h, fun _ => rfl⟩

/-- What the client still has to be sent keeps `POLLOUT` on. -/
theorem clientRelayWrite_flows (hx : s.clients c = some x) (hst : x.state = .connected) :
    KeepsFlow s (clientRelayWrite sys s c x) := by
  refine .read fun p hp => ?_
  obtain ⟨r, y⟩ := p
  obtain ⟨hr, hy⟩ := (clientRemote_runs_of_state (A := .all) hx (Or.inr hst)).of_ok hp
  refine .ite (fun _ => .pure fun h => h) fun hne => ?_
  have hne : y.ib.data ≠ [] := fun h => hne (by rw [Buf.size, h]; rfl)
  split
  · exact flows_of_gentle clientClose_gentle
  next n _ =>
    refine .ite (fun _ => .pure ?_) fun _ => .pure (RelaysKept.flowsOn ?_)
    · refine .pair hx hy rfl rfl rfl (fun h => h) ?_ (fun h => absurd hr h) ?_
      · intro _ _ hst' hflows
        refine ⟨(hflows hst').told, fun h => ?_, fun _ h => absurd rfl h, fun _ h => by cases h⟩
        exact absurd (hst.symm.trans h) (by simp)
      · intro _ _ _ _ _ _ _
        exact ⟨rfl, fun h => absurd rfl h, fun h => h⟩
    · show RelaysKept s.toCore ((s.toCore.setRemote r { y with ib := y.ib.consume n }).emit
        [.clientWrite c (y.ib.data.take n)])
      exact .emit (.setRemote hy fun _ => ⟨rfl, fun _ => hne, fun h => h⟩)

/-- An event on a client leaves every relay flowing. -/
theorem clientProcess_flows {fd : Nat} {events : PollEvents} :
    KeepsFlow s (clientProcess plat sys s fd events) := by
  refine .bind (flows_of_gentle lockClientList_gentle) fun t _ => .read fun o ho => ?_
  cases o with
  | none => exact .pure fun h => h
  | some p =>
      obtain ⟨c, x⟩ := p
      have hx := (findClient_runs.returns.of_ok ho _ rfl).1
      refine .ite (fun hst => ?_) fun hst => ?_
      · refine .ite (fun _ => clientRelayRead_flows hx hst) fun _ => ?_
        exact .ite (fun _ => clientRelayWrite_flows hx hst) fun _ => .pure fun h => h
      · refine .ite (fun _ => flows_of_gentle processRecv_gentle) fun _ => ?_
        exact .ite (fun _ => processSend_flows hx hst) fun _ => .pure fun h => h

end Client

/-! ## What a remote does for its relay -/

/-- `client_or_events`, on the client alone. -/
def MuxClient.woken (x : MuxClient) (events : PollEvents) : MuxClient :=
  if x.state ≠ .connected ∧ x.state ≠ .connecting2 then x
  else { x with
    devents := x.devents.or events
    events := if x.state = .connected then x.events.or events else x.events }

section Woken

variable {x : MuxClient} {z : RemoteMux} {events : PollEvents}

theorem MuxClient.woken_of_connecting2 (h : x.state = .connecting2) :
    x.woken events = { x with devents := x.devents.or events } := by
  simp [MuxClient.woken, h]

theorem MuxClient.woken_of_connected (h : x.state = .connected) :
    x.woken events = { x with
      devents := x.devents.or events, events := x.events.or events } := by
  simp [MuxClient.woken, h]

theorem MuxClient.StillPolls.woken : x.StillPolls (x.woken events) := by
  by_cases h : x.state = .connected
  · rw [MuxClient.woken_of_connected h]
    refine ⟨rfl, rfl, fun _ hin => ?_, fun _ hout => ?_, fun hout => ?_⟩
    all_goals simp [PollEvents.or, *]
  · by_cases h' : x.state = .connecting2
    · rw [MuxClient.woken_of_connecting2 h']
      refine ⟨rfl, rfl, fun hst => absurd hst h, fun hst => absurd hst h, fun hout => ?_⟩
      simp [PollEvents.or, hout]
    · rw [MuxClient.woken, if_pos ⟨h, h'⟩]
      exact .refl

end Woken

section Remote

variable {plat : Platform} {sys : Sys} {s s' : Daemon} {c : ClientPtr} {r : RemotePtr}
  {x : MuxClient} {y : RemoteMux} {events : PollEvents}

theorem clientOrEvents_woken (h : clientOrEvents s c events = .ok s') :
    ∃ x, s.clients c = some x ∧ s'.toCore = s.toCore.setClient c (x.woken events) := by
  obtain ⟨x, hx, h⟩ := bind_eq_ok.mp h
  have hx := client_runs.returns.of_ok hx
  refine ⟨x, hx, ?_⟩
  split at h
  · next hst =>
      cases h
      rw [MuxClient.woken, if_pos hst, Core.setClient_self hx]
  · next hst =>
      obtain ⟨z, hz, rfl⟩ := modifyClient_runs.returns.of_ok h
      cases hx.symm.trans hz
      rw [MuxClient.woken, if_neg hst]
      rfl

theorem clientOrEvents_gentle : Gentle s (clientOrEvents s c events) := by
  intro t ht
  obtain ⟨x, hx, heq⟩ := clientOrEvents_woken ht
  rw [heq]
  exact .setClient hx fun _ => .woken

/-- A connected remote gets bytes or gets rid of some, and wakes its client:
their relay has to flow after that. -/
theorem FlowsOn.wake {s' : Core} {y' : RemoteMux} {z : MuxClient}
    (hx : s.clients c = some x) (hy : s.remotes r = some y) (honly : OnlyFor s.toCore r y.client)
    (hc : y.client = some c) (hst : y'.state = y.state) (hz : z = x.woken events)
    (hclients : s'.clients = Function.update s.clients c (some z))
    (hremotes : s'.remotes = Function.update s.remotes r (some y'))
    (hpair : Flows x y → Flows (x.woken events) y') : FlowsOn s.toCore s' := by
  have hsame : x.StillPolls z := by
    rw [hz]
    exact .woken
  refine .pair hx hy hclients hremotes hsame.remote (fun h => ?_) (fun _ _ hst' hflows => ?_)
    (fun _ w hw => hw.stillPolls hsame .refl) fun c₁ w hne hw hneed hr _ => ?_
  · rw [MuxClient.needsRemote, ← hsame.state]
    exact h
  · rw [hz]
    exact hpair (hflows (hst.symm.trans hst'))
  · cases hc.symm.trans (honly c₁ w hw hneed hr)
    exact absurd rfl hne

/-- There may be more for the client than before, but it is woken for it. -/
theorem Flows.woken_pollout {y' : RemoteMux} (h : Flows x y)
    (hout : y'.events.pollout = y.events.pollout) :
    Flows (x.woken { pollout := true }) y' where
  told := by
    rw [MuxClient.StillPolls.woken.state]
    exact h.told
  deferred hst _ := by
    rw [MuxClient.StillPolls.woken.state] at hst
    simp [MuxClient.woken_of_connecting2 hst, PollEvents.or]
  down hst _ := by
    rw [MuxClient.StillPolls.woken.state] at hst
    simp [MuxClient.woken_of_connected hst, PollEvents.or]
  up hst hin := by
    rw [MuxClient.StillPolls.woken.state] at hst
    rw [hout]
    refine h.up hst ?_
    simpa [MuxClient.woken_of_connected hst, PollEvents.or] using hin

/-- The remote may poll for no output any more: the client is read again. -/
theorem Flows.woken_pollin {y' : RemoteMux} (h : Flows x y) (hib : y'.ib.data = y.ib.data) :
    Flows (x.woken { pollin := true }) y' where
  told := by
    rw [MuxClient.StillPolls.woken.state]
    exact h.told
  deferred hst hne := by
    rw [MuxClient.StillPolls.woken.state] at hst
    rw [hib] at hne
    exact MuxClient.StillPolls.woken.deferred (h.deferred hst hne)
  down hst hne := by
    rw [MuxClient.StillPolls.woken.state] at hst
    rw [hib] at hne
    exact MuxClient.StillPolls.woken.pollout hst (h.down hst hne)
  up hst hin := by
    rw [MuxClient.StillPolls.woken.state] at hst
    simp [MuxClient.woken_of_connected hst, PollEvents.or] at hin

/-- What was received is the client's to fetch. -/
theorem remoteRelayRecv_flows (hy : s.remotes r = some y) (honly : OnlyFor s.toCore r y.client) :
    KeepsFlow s (remoteRelayRecv sys s r y) := by
  refine .ite (fun _ => .pure fun h => h) fun _ => ?_
  split
  · exact flows_of_gentle usbmuxRemoteClose_gentle
  · exact flows_of_gentle (modifyRemote_gentle fun z _ _ => ⟨rfl, fun h => h, fun h => h⟩)
  next bs _ _ =>
    split
    · next hfit =>
        refine .read fun c hc t ht => ?_
        obtain ⟨hclient, _⟩ := remoteClient_runs.returns.of_ok hc
        obtain ⟨x, hx, heq⟩ := clientOrEvents_woken ht
        have hclients : t.clients = Function.update s.clients c
            (some (x.woken { pollout := true })) := congrArg Core.clients heq
        have hremotes : t.remotes = Function.update s.remotes r (some { y with
            ib := y.ib.append bs hfit, lastActive := sys.now }) := congrArg Core.remotes heq
        refine .wake hx hy honly hclient ?_ rfl hclients hremotes fun h => ?_
        · rfl
        · exact h.woken_pollout rfl
    · exact .error

/-- `remote_process_send` takes nothing from a relay but `POLLOUT` of the
remote, and that only with an empty buffer. -/
theorem remoteProcessSend_sent (hy : s.remotes r = some y) (hst : y.state ≠ .connecting2)
    (h : remoteProcessSend sys s r = .ok s') :
    RelaysKept s.toCore s'.toCore ∨ ∃ y' acts, y'.state = y.state ∧ y'.client = y.client ∧
      y'.ib = y.ib ∧ s'.toCore = (s.toCore.setRemote r y').emit acts := by
  obtain ⟨z, hz, h⟩ := bind_eq_ok.mp h
  cases hy.symm.trans (remote_runs.returns.of_ok hz)
  have hmodify : ∀ {f : RemoteMux → RemoteMux} {acts : List Act},
      (s.emit acts).modifyRemote r f = .ok s' →
      s'.toCore = (s.toCore.setRemote r (f y)).emit acts := by
    intro f acts hf
    obtain ⟨w, hw, rfl⟩ := modifyRemote_runs.returns.of_ok hf
    cases hy.symm.trans hw
    rfl
  split at h
  · obtain ⟨w, hw, rfl⟩ := modifyRemote_runs.returns.of_ok h
    cases hy.symm.trans hw
    refine Or.inr ⟨_, [], ?_, ?_, ?_, Core.emit_nil.symm⟩
    all_goals rfl
  · split at h
    · exact Or.inl (usbmuxRemoteClose_gentle s' h)
    · dsimp only at h
      split at h
      · rw [hmodify h]
        exact Or.inl (.emit (.setRemote hy fun _ => ⟨rfl, fun h => h, fun h => h⟩))
      · refine Or.inr ⟨_, _, ?_, ?_, ?_, hmodify h⟩
        all_goals rfl

/-- The output buffer of the remote has room again, and the client is read. -/
theorem remoteConnectedProcess_flows (hy : s.remotes r = some y) (hst : y.state = .connected)
    (honly : OnlyFor s.toCore r y.client) :
    KeepsFlow s (remoteConnectedProcess sys s r y events) := by
  refine .ite (fun _ => remoteRelayRecv_flows hy honly) fun _ => .ite (fun _ => ?_) fun _ =>
    flows_of_gentle usbmuxRemoteClose_gentle
  refine .read fun t ht => .read fun z hz => .read fun c hc u hu => ?_
  rcases remoteProcessSend_sent hy (by simp [hst]) ht with hkept |
    ⟨y', acts, hst', hclient', hib, heq⟩
  · exact (hkept.trans (clientOrEvents_gentle u hu)).flowsOn
  · have hself : t.remotes r = some y' := by
      rw [heq]
      exact if_pos rfl
    cases hself.symm.trans (remote_runs.returns.of_ok hz)
    obtain ⟨hclient, _⟩ := remoteClient_runs.returns.of_ok hc
    obtain ⟨x, hx, heq'⟩ := clientOrEvents_woken hu
    rw [heq] at heq' hx
    exact .wake hx hy honly (hclient'.symm.trans hclient) hst' rfl (congrArg Core.clients heq')
      (congrArg Core.remotes heq') fun h => h.woken_pollin (by rw [hib])

end Remote

/-! ## The connect result -/

/-- With its frame taken out of the input buffer of the remote, every relay
flows. -/
def FrameFlows (r : RemotePtr) (s s' : Core) : Prop :=
  ∀ y, s'.remotes r = some y → FlowsOn s (s'.setRemote r y.frameDone)

section Result

variable {plat : Platform} {sys : Sys} {s s' : Daemon} {c : ClientPtr} {r : RemotePtr}
  {x : MuxClient} {y : RemoteMux} {result : UInt32} {res : Int × Daemon}

theorem FrameFlows.of_kept {s s' : Core} (h : RelaysKept s s') : FrameFlows r s s' := by
  intro y hy
  have hdone : RelaysKept s' (s'.setRemote r y.frameDone) :=
    .setRemote hy fun _ => ⟨rfl, fun hne => absurd rfl hne, fun h => h⟩
  exact (h.trans hdone).flowsOn

/-- Nothing is left in the buffers of a relay that begins. -/
theorem Flows.begins (hst : x.state ≠ .connecting1) (hib : y.ib.data = [])
    (hout : y.events.pollout = true) : Flows x y where
  told := hst
  deferred _ hne := absurd hib hne
  down _ hne := absurd hib hne
  up _ _ := hout

/-- A client that waits for the result is told. -/
theorem clientNotifyConnect_told (hloss : ¬ Loss plat sys) (hx : s.clients c = some x)
    (hst : x.state = .connecting1) (h : clientNotifyConnect plat sys s c result = .ok res) :
    Notifies c result s.toCore res.2.toCore := by
  obtain ⟨z, hz, h⟩ := bind_eq_ok.mp h
  cases hx.symm.trans (client_runs.returns.of_ok hz)
  rw [if_neg (not_not.mpr hst)] at h
  obtain ⟨q, hq, h⟩ := bind_eq_ok.mp h
  rcases sendResult_runs.returns.of_ok hq with ⟨_, hl, _⟩ |
    ⟨hpos, z, hdr, payload, hpkt, hz, _, ob, hob, heq⟩
  · exact absurd hl hloss
  · cases hx.symm.trans hz
    obtain ⟨n, t⟩ := q
    have hpos : 0 < n := hpos
    have hself : t.clients c = some { x with
        ob := ob, events := { x.events with pollout := true } } := by
      rw [show t.toCore = _ from heq]
      exact if_pos rfl
    dsimp only at h
    rw [if_neg (by omega)] at h
    obtain ⟨u, hu, h⟩ := bind_eq_ok.mp h
    obtain ⟨z, hz, rfl⟩ := modifyClient_runs.returns.of_ok hu
    cases hself.symm.trans hz
    cases h
    refine ⟨x, hdr, payload, ob, hx, hst, hpkt, hob, ?_⟩
    show (t.toCore.setClient c _).emit _ = _
    rw [show t.toCore = _ from heq, setClient_queue]

/-- A client that does not wait for it is left alone. -/
theorem clientNotifyConnect_other (hx : s.clients c = some x) (hst : x.state ≠ .connecting1)
    (h : clientNotifyConnect plat sys s c result = .ok res) : res.2 = s := by
  obtain ⟨z, hz, h⟩ := bind_eq_ok.mp h
  cases hx.symm.trans (client_runs.returns.of_ok hz)
  rw [if_pos hst] at h
  cases h
  rfl

/-- The remote becomes connected, with a client that was told so or did not
wait. -/
theorem FlowsOn.connected {s s' : Core} {y' : RemoteMux} {x' : MuxClient}
    (hx : s.clients c = some x) (hy : s.remotes r = some y) (honly : OnlyFor s r y.client)
    (hc : y.client = some c) (hclients : s'.clients = Function.update s.clients c (some x'))
    (hremotes : s'.remotes = Function.update s.remotes r (some y'))
    (hib : y'.ib.data = []) (hout : y'.events.pollout = true) (hst : x'.state ≠ .connecting1)
    (hsame : x' = x ∨ (x.state = .connecting1 ∧ x'.remote = x.remote)) : FlowsOn s s' := by
  refine .pair hx hy hclients hremotes ?_ (fun h => ?_) (fun _ _ _ _ => .begins hst hib hout)
    (fun _ z hz => ?_) fun c₁ w hne hw hneed hr _ => ?_
  · rcases hsame with rfl | ⟨_, hremote⟩
    · rfl
    · exact hremote
  · rcases hsame with rfl | ⟨hwait, _⟩
    · exact h
    · exact Or.inl hwait
  · rcases hsame with rfl | ⟨hwait, _⟩
    · exact hz
    · exact absurd hwait hz.told
  · cases hc.symm.trans (honly c₁ w hw hneed hr)
    exact absurd rfl hne

/-- A result is passed on before the remote counts as connected. -/
theorem handleConnectingState_flows {plistMsg : Option Plist} (hloss : ¬ Loss plat sys)
    (hy : s.remotes r = some y) (honly : OnlyFor s.toCore r y.client) :
    Within (FrameFlows r) Daemon.toCore s.toCore
      (handleConnectingState plat sys s r y plistMsg) := by
  refine .read fun c hc => .read fun res hres => ?_
  obtain ⟨hclient, _⟩ := remoteClient_runs.returns.of_ok hc
  obtain ⟨x, hx⟩ : ∃ x, s.clients c = some x :=
    Option.isSome_iff_exists.mp (remoteClient_runs.returns.of_ok hc).2
  obtain ⟨n, t⟩ := res
  -- what the client was before decides whether it is told
  have htold : ∃ x' acts, t.toCore = (s.toCore.setClient c x').emit acts ∧
      ((x' = x ∧ x.state ≠ .connecting1) ∨ (x.state = .connecting1 ∧ x'.remote = x.remote ∧
        x'.state = if messageGetResult plat y.ib plistMsg = resultOk then .connecting2
          else .command)) := by
    by_cases hst : x.state = .connecting1
    · obtain ⟨z, hdr, payload, ob, hz, _, _, _, heq⟩ :=
        clientNotifyConnect_told hloss hx hst hres
      cases hx.symm.trans hz
      refine ⟨_, _, heq, Or.inr ⟨hst, ?_, ?_⟩⟩
      · split
        · rfl
        · rfl
      · split
        · rfl
        · rfl
    · refine ⟨x, [], ?_, Or.inl ⟨rfl, hst⟩⟩
      rw [Core.setClient_self hx, Core.emit_nil]
      exact congrArg Daemon.toCore (clientNotifyConnect_other hx hst hres)
  obtain ⟨x', acts, heq, hsame⟩ := htold
  refine .ite (fun hok => .read fun u hu => .pure fun y₂ hy₂ => ?_) fun hno => .pure ?_
  · have hyt : t.remotes r = some y := by
      rw [heq]
      exact hy
    obtain ⟨z, hz, rfl⟩ := modifyRemote_runs.returns.of_ok hu
    cases hyt.symm.trans hz
    rw [toCore_emit, toCore_update, Core.remotes_emit, Core.remotes_setRemote, if_pos rfl] at hy₂
    cases hy₂
    have hremotes (v w : RemoteMux) : Function.update (Function.update t.remotes r (some v)) r
        (some w) = Function.update s.remotes r (some w) := by
      rw [Function.update_idem, heq]
      rfl
    refine .connected hx hy honly hclient (congrArg Core.clients heq) (hremotes _ _) rfl rfl ?_ ?_
    · rcases hsame with ⟨rfl, hst⟩ | ⟨_, _, hst⟩
      · exact hst
      · rw [hst, if_pos hok]
        simp
    · exact hsame.imp And.left fun h => ⟨h.1, h.2.1⟩
  · refine .of_kept ?_
    show RelaysKept s.toCore t.toCore
    rw [heq]
    refine .emit (.setClient hx fun hneed => ?_)
    rcases hsame with ⟨rfl, _⟩ | ⟨_, _, hst⟩
    · exact .refl
    · rw [if_neg hno] at hst
      simp [MuxClient.needsRemote, hst] at hneed

theorem remoteHandleCommandResult_flows (hloss : ¬ Loss plat sys) (hy : s.remotes r = some y)
    (hst : y.state ≠ .connected) (honly : OnlyFor s.toCore r y.client) :
    Within (FrameFlows r) Daemon.toCore s.toCore (remoteHandleCommandResult plat sys s r) := by
  refine .read fun z hz => ?_
  cases hy.symm.trans (remote_runs.returns.of_ok hz)
  have hkept : ∀ {m : Except Fault Daemon}, Gentle s m →
      Within (FrameFlows r) Daemon.toCore s.toCore m :=
    fun h => h.mono fun _ _ hk => .of_kept hk
  have hlog : RelaysKept s.toCore (s.emit [.frame r (bufFrame plat y.ib)]).toCore :=
    .emit .refl
  have hy₁ : (s.emit [.frame r (bufFrame plat y.ib)]).remotes r = some y := hy
  refine .ite (fun _ => hkept (.pure hlog)) fun _ => ?_
  split
  · exact hkept (.after hlog handleCommandState_gentle)
  · exact hkept (.after hlog (handleListenState_gentle hy₁ hst))
  · intro t ht w hw h
    exact handleConnectingState_flows hloss hy₁ honly t ht w hw h
  · exact hkept (.pure hlog)

/-- A remote that is not connected handles a frame. -/
theorem remoteProcessRecv_flows (hloss : ¬ Loss plat sys) (hy : s.remotes r = some y)
    (hst : y.state ≠ .connected) (honly : OnlyFor s.toCore r y.client) :
    KeepsFlow s (remoteProcessRecv plat sys s r) := by
  refine .read fun z hz => .read fun rf _ => ?_
  cases hy.symm.trans (remote_runs.returns.of_ok hz)
  refine .after (t := ((s.update (·.setRemote r { y with
    ib := rf.ib, lastActive := if rf.bodyRead then sys.now else y.lastActive })).emit
    (recvActs (.remoteRecv r) rf.got)).toCore)
    (RelaysKept.flowsOn (.emit (.setRemote hy fun h => absurd h hst))) ?_
  cases hout : rf.outcome with
  | dead => exact flows_of_gentle usbmuxRemoteMarkDead_gentle
  | more => exact .pure fun h => h
  | frame =>
      refine .read fun t ht u hu => ?_
      have hself : ((s.update (·.setRemote r { y with
          ib := rf.ib, lastActive := if rf.bodyRead then sys.now else y.lastActive })).emit
          (recvActs (.remoteRecv r) rf.got)).remotes r = some { y with
          ib := rf.ib, lastActive := if rf.bodyRead then sys.now else y.lastActive } := if_pos rfl
      obtain ⟨w, hw, rfl⟩ := modifyRemote_runs.returns.of_ok hu
      exact remoteHandleCommandResult_flows hloss hself hst honly t ht w hw

end Result

/-! ## Every event -/

section Events

variable {plat : Platform} {sys : Sys} {s s' : Daemon} {r : RemotePtr} {events : PollEvents}

theorem remoteProcessFound_flows (hloss : ¬ Loss plat sys) (hpolls : Polling s.toCore)
    (hpair : Paired s.toCore) : KeepsFlow s (remoteProcessFound plat sys s r events) := by
  refine .read fun y hy => ?_
  have hy := remote_runs.returns.of_ok hy
  have honly := hpair.onlyFor hy
  have hne := (hpolls.remote hy).state
  refine .ite (fun hst => remoteConnectedProcess_flows hy hst honly) fun hst => ?_
  refine .ite (fun _ => .ite (fun h => absurd h hne) fun _ => ?_) fun _ => ?_
  · exact remoteProcessRecv_flows hloss hy hst honly
  · refine .ite (fun _ t ht => ?_) fun _ => .pure fun h => h
    rcases remoteProcessSend_sent hy hne ht with hkept | ⟨y', acts, hst', _, _, heq⟩
    · exact hkept.flowsOn
    · rw [heq]
      exact RelaysKept.flowsOn (.emit (.setRemote hy fun h => absurd (hst'.symm.trans h) hst))

/-- An event on a remote leaves every relay flowing, and so does the reaping
before it. -/
theorem usbmuxRemoteProcess_flows {fd : Nat} (hreach : Reachable plat s)
    (hloss : ¬ Loss plat sys) : KeepsFlow s (usbmuxRemoteProcess plat sys s fd events) := by
  refine .bind (reapLoop_gentle.mono fun _ _ hk => hk.flowsOn) fun p hp => ?_
  obtain ⟨t, found⟩ := p
  have hmoves : Moves .all s.toCore t.toCore :=
    ((reapLoop_runs (fun _ => trivial) trivial (reachable_wf hreach)
      fun _ _ _ _ _ _ _ _ => trivial).of_ok hp).1.moves
  obtain ⟨_, _, hpolls, hpair⟩ : WF t.toCore ∧ LogOk t.toCore ∧ Polling t.toCore ∧
      Paired t.toCore := by
    refine invariant_of_step (R := Move .all) (P := fun s => WF s ∧ LogOk s ∧ Polling s ∧ Paired s)
      ?_ hmoves ⟨reachable_wf hreach, reachable_waiting hreach⟩
    intro u u' hm hu
    exact ⟨.move hm hu.1, hu.2.1.move hu.1 hm, hu.2.2.1.move hm, hu.2.2.2.move hu.1 hu.2.1 hm⟩
  cases found with
  | none => exact .pure fun h => h
  | some r => exact remoteProcessFound_flows hloss hpolls hpair

/-- What one step preserves. -/
theorem step_flows {e : Event} (hreach : Reachable plat s) (he : e.lossless plat) :
    KeepsFlow s (step plat s e) := by
  cases e with
  | accept cfd => exact flows_of_gentle clientAccept_gentle
  | client fd revents sys => exact clientProcess_flows
  | remote fd revents sys => exact usbmuxRemoteProcess_flows hreach he
  | getFds now => exact flows_of_gentle usbmuxRemoteGetFds_gentle
  | addRemote hostName port sys =>
      exact flows_of_gentle (.bind remoteMuxServiceAdd_gentle fun _ _ => .pure .refl)
  | mdnsAdd serviceName hostName port sys =>
      exact flows_of_gentle (.bind remoteMuxServiceAdd_gentle fun _ _ => .pure .refl)
  | mdnsRemove serviceName sys =>
      exact flows_of_gentle (.bind remoteMuxServiceRemove_gentle fun _ _ => .pure .refl)

theorem RelaysFlow.initial {s : Core} (h : Initial s) : RelaysFlow s := by
  intro c x r y hx
  cases h with
  | empty | listener => cases hx

/-- What every run preserves. -/
theorem reachable_relaysFlow (h : ReachableBy plat (fun _ e => e.lossless plat) s) :
    RelaysFlow s.toCore := by
  refine reachableBy_induct (P := fun s => RelaysFlow s.toCore) (fun h₀ => ?_) ?_ h
  · exact .initial (usbmuxRemoteInit_initial h₀)
  · intro s s' e hreach hflow he hs
    exact step_flows hreach he _ hs hflow

end Events

/-- As long as no allocation and no conversion fails, a connected client and
its remote poll for whatever is in their buffers: neither direction stalls. -/
theorem relay_never_stalls {plat : Platform} {s : Daemon} {c : ClientPtr} {x : MuxClient}
    (h : ReachableBy plat (fun _ e => e.lossless plat) s) (hx : s.clients c = some x)
    (hst : x.state = .connected) :
    ∃ r y, x.remote = some r ∧ s.remotes r = some y ∧ y.client = some c ∧
      (y.ob.data ≠ [] → y.events.pollout = true) ∧
      (y.state = .connected →
        (y.ib.data ≠ [] → x.events.pollout = true) ∧
        (x.events.pollin = true ∨ y.events.pollout = true)) := by
  obtain ⟨_, hpolls, hpair⟩ := reachable_waiting h.reachable
  have hneed : x.needsRemote := Or.inr (Or.inr hst)
  obtain ⟨r, y, hr, hy, hc⟩ := hpair c x hx hneed
  refine ⟨r, y, hr, hy, hc, (hpolls.remote hy).output, fun hconn => ?_⟩
  have hflows := reachable_relaysFlow h c x r y hx hneed hr hy hconn
  refine ⟨hflows.down hst, ?_⟩
  cases hin : x.events.pollin with
  | true => exact Or.inl rfl
  | false => exact Or.inr (hflows.up hst hin)

/-- Two of three bytes went to the client, and what it sent still waits: both
poll for the rest. -/
theorem relay_never_stalls_partial :
    ∃ s x y, ReachableBy (platformWith []) (fun _ e => e.lossless (platformWith [])) s ∧
      s.clients ⟨0⟩ = some x ∧ s.remotes ⟨0⟩ = some y ∧ y.ib.data = [7] ∧ y.ob.data ≠ [] ∧
      x.events.pollout = true ∧ x.events.pollin = false ∧ y.events.pollout = true := by
  let test : Daemon → Bool := fun s =>
    (s.clients ⟨0⟩).any (fun x => decide (x.state = .connected) &&
      decide (x.remote = some ⟨0⟩) && !x.events.pollin) &&
    (s.remotes ⟨0⟩).any fun y => decide (y.state = .connected) && decide (y.ib.data = [7]) &&
      decide (y.ob.data ≠ [])
  obtain ⟨s, hrun, htest⟩ : ∃ s, runFrom (platformWith []) {} (fun _ _ => true)
      relayRun.dropLast = some s ∧ test s = true := exists_of_runFrom (by decide +kernel)
  have hreach : ReachableBy (platformWith []) (fun _ e => e.lossless (platformWith [])) s := by
    refine reachableBy_of_runFrom (fun t e he _ _ => ?_) hrun
    have he := List.dropLast_subset _ he
    simp only [relayRun, List.mem_cons, List.mem_append, List.not_mem_nil, or_false] at he
    rcases he with rfl | he | rfl | he | rfl | rfl | rfl | rfl | rfl
    · exact trivial
    · exact (clientSends_lossless (fun _ => rfl) e he).2
    · exact not_loss_platformWith fun _ => rfl
    · exact (remoteSends_lossless e he).2
    all_goals exact not_loss_platformWith fun _ => rfl
  simp only [test, Bool.and_eq_true, Option.any_eq_true, decide_eq_true_eq,
    Bool.not_eq_true'] at htest
  obtain ⟨⟨x, hx, ⟨hst, hr⟩, hin⟩, y, hy, ⟨hconn, hib⟩, hob⟩ := htest
  obtain ⟨r, z, hr', hz, _, _, hflow⟩ := relay_never_stalls hreach hx hst
  cases hr.symm.trans hr'
  cases hy.symm.trans hz
  obtain ⟨hdown, hup⟩ := hflow hconn
  refine ⟨s, x, y, hreach, hx, hy, hib, hob, hdown (by simp [hib]), hin, ?_⟩
  exact hup.resolve_left (by simp [hin])

end Usbfluxd
