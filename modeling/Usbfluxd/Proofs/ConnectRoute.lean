import Usbfluxd.Proofs.Answers
import Usbfluxd.Proofs.AttachCodec
import Usbfluxd.Proofs.Freed
import Usbfluxd.Proofs.Reassembly
import Usbfluxd.Proofs.Routing

/-!
# Back to the host a device came from

A listener announces a device under the id its own host knows. The daemon
stores it under an id that has the remote id of the listener in its upper
eight bits, and `usbmux_remote_connect` takes such an id apart again: the
upper eight bits name the listener, the rest is what the request is forwarded
with.

Between the two lies a run. Remotes come and go in it, ids are given back and
handed out again, and connections carry the id of the listener they belong
to. What makes the way back the way there is that a remote keeps its endpoint
for life, that a pointer is never used twice, and that no two listeners ever
have one id.
-/

namespace Usbfluxd

open Lib

/-! ## The announced device -/

/-- A device plist made of an announcement: another device id in two places,
and everything else as it was. -/
structure Renumbered (g : UInt32) (msg dev : Plist) : Prop where
  id : plistDictGetItem dev "DeviceID" = some (.uint g.toUInt64)
  other : ∀ key, key ≠ "DeviceID" → key ≠ "Properties" →
    plistDictGetItem dev key = plistDictGetItem msg key
  properties : ∀ entries, plistDictGetItem msg "Properties" = some (.dict entries) →
    ∃ props, plistDictGetItem dev "Properties" = some props ∧
      plistDictGetItem props "DeviceID" = some (.uint g.toUInt64) ∧
      ∀ key, key ≠ "DeviceID" →
        plistDictGetItem props key = plistDictGetItem (.dict entries) key

/-- The frame in a buffer is a property list that announces a device. -/
structure HoldsAnnouncement (plat : Platform) (b : Buf) (msg : Plist) (d : UInt64) : Prop where
  version : (bufHeader plat b).version = 0 ∨ (bufHeader plat b).version = 1
  message : (bufHeader plat b).message = messagePlist
  plist : plat.plistFromXml (bufPayload plat b) = some msg
  attached : plistDictCopyStringVal msg "MessageType" = some "Attached"
  device : plistDictGetItem msg "DeviceID" = some (.uint d)

section Announcement

variable {plat : Platform} {sys : Sys} {s s' : Daemon} {r : RemotePtr} {y : RemoteMux} {b : Buf}
  {msg : Plist} {d : UInt64} {g : UInt32} {k : UInt8}

theorem renumbered_attachedPlist {v : Plist} (h : plistDictGetItem msg "DeviceID" = some v) :
    Renumbered g msg (attachedPlist g msg) := by
  obtain ⟨entries, rfl⟩ := isDict_of_getItem h
  have hkey : ("Properties" : String) ≠ "DeviceID" := by decide
  have hself : plistDictGetItem (plistDictSetItem (.dict entries) "DeviceID"
      (.uint g.toUInt64)) "DeviceID" = some (.uint g.toUInt64) := plistDictGetItem_set_self
  have hprops : plistDictGetItem (plistDictSetItem (.dict entries) "DeviceID"
      (.uint g.toUInt64)) "Properties" = plistDictGetItem (.dict entries) "Properties" :=
    plistDictGetItem_set_of_ne hkey
  rw [attachedPlist, hprops]
  cases hp : plistDictGetItem (.dict entries) "Properties" with
  | none =>
      refine ⟨hself, fun key hne _ => plistDictGetItem_set_of_ne hne, fun props hprops => ?_⟩
      cases hp.symm.trans hprops
  | some props =>
      dsimp only
      constructor
      · rw [plistDictGetItem_set_of_ne hkey.symm]
        exact hself
      · intro key hne hne'
        rw [plistDictGetItem_set_of_ne hne', plistDictGetItem_set_of_ne hne]
      · intro inner hinner
        cases hp.symm.trans hinner
        refine ⟨_, plistDictGetItem_set_self, plistDictGetItem_set_self, fun key hne => ?_⟩
        exact plistDictGetItem_set_of_ne hne

theorem HoldsAnnouncement.deviceMessage_eq (h : HoldsAnnouncement plat b msg d) :
    deviceMessage plat k b (framePlist plat b) = (some .add, remoteDevid k d.toUInt32) := by
  have hplist : framePlist plat b = some msg := by
    rw [framePlist, if_pos h.message, h.plist]
  unfold deviceMessage
  rw [h.message, if_neg (by decide), if_neg (by decide), hplist]
  simp only [plistDeviceEvent, h.attached, plistDevid, requestUint, h.device, Option.map_some,
    plistGetUintVal, if_true]

/-- Handling the frame on a listener stores the device. -/
theorem handle_announces (hy : s.remotes r = some y) (hlisten : y.state = .listen)
    (h : HoldsAnnouncement plat y.ib msg d)
    (hrun : remoteHandleCommandResult plat sys s r = .ok s') :
    s'.remoteDeviceList.get (deviceKey (remoteDevid y.id d.toUInt32)) =
      some (attachedPlist (remoteDevid y.id d.toUInt32) msg) := by
  have hplist : framePlist plat y.ib = some msg := by
    rw [framePlist, if_pos h.message, h.plist]
  have hver : ¬ ((bufHeader plat y.ib).version ≠ 0 ∧ (bufHeader plat y.ib).version ≠ 1) := by
    intro hne
    exact h.version.elim hne.1 hne.2
  rw [remoteHandleCommandResult, Daemon.remote, hy, ok_bind] at hrun
  dsimp only at hrun
  rw [if_neg hver, hlisten] at hrun
  dsimp only at hrun
  rw [handleListenState, h.deviceMessage_eq, hplist] at hrun
  exact deviceAttached_stored hrun

/-- The event completes a frame of a remote, and the buffer holds it then. -/
def CompletesFrame (plat : Platform) (s : Core) (e : Event) (r : RemotePtr) (y : RemoteMux)
    (b : Buf) : Prop :=
  ∃ fd revents sys rf, e = .remote fd revents sys ∧ revents.pollin = true ∧
    eventRemote s fd = some (r, y) ∧ readFrame plat sys y.ib = .ok rf ∧ rf.outcome = .frame ∧
    rf.ib = b

/-- An announcement that a listener completes is stored. -/
theorem announced_stored {e : Event} (hwf : WF s.toCore)
    (hreads : CompletesFrame plat s.toCore e r y b) (hlisten : y.state = .listen)
    (h : HoldsAnnouncement plat b msg d) (hstep : step plat s e = .ok s') :
    s'.remoteDeviceList.get (deviceKey (remoteDevid y.id d.toUInt32)) =
      some (attachedPlist (remoteDevid y.id d.toUInt32) msg) := by
  obtain ⟨fd, revents, sys, rf, rfl, hin, hevent, hread, hframe, rfl⟩ := hreads
  have hnval : revents ≠ { pollnval := true } := by
    intro heq
    rw [heq] at hin
    cases hin
  obtain ⟨⟨t, found⟩, hreap, hrest⟩ := bind_eq_ok.mp hstep
  have hfound := (reapLoop_found hnval).of_ok hreap
  have hruns : Runs .all s.toCore _ (reapLoop plat sys fd revents s) :=
    reapLoop_event (fun _ => trivial) trivial hwf fun _ _ _ _ _ _ _ _ => trivial
  obtain ⟨_, hlive⟩ := hruns.of_ok hreap
  obtain rfl : found = some r := by
    rw [show found = _ from hfound, hevent]
    rfl
  obtain ⟨y', hy, _, hevent'⟩ := hlive r rfl
  cases hevent.symm.trans hevent'
  have hremote : t.remote r = .ok y := by
    rw [Daemon.remote, show t.remotes r = some y from hy]
  have hrest : remoteProcessFound plat sys t r revents = .ok s' := hrest
  rw [remoteProcessFound, hremote, ok_bind, if_neg (by rw [hlisten]; decide), if_pos hin,
    if_neg (by rw [hlisten]; decide), remoteProcessRecv, hremote, ok_bind, hread, ok_bind] at hrest
  dsimp only at hrest
  rw [hframe] at hrest
  obtain ⟨u, hhandle, hdone⟩ := bind_eq_ok.mp hrest
  have hstored := handle_announces (r := r)
    (y := { y with ib := rf.ib, lastActive := if rf.bodyRead then sys.now else y.lastActive })
    (Function.update_self ..) hlisten h hhandle
  rw [Daemon.modifyRemote] at hdone
  obtain ⟨z, _, hdone⟩ := bind_eq_ok.mp hdone
  cases hdone
  exact hstored

end Announcement

/-! ## The listener -/

/-- A remote that was there: nothing else is ever found under its pointer. -/
structure Lasting (r : RemotePtr) (y : RemoteMux) (s : Core) : Prop where
  taken : r.block < s.nextRemote
  same : ∀ z, s.remotes r = some z → z.id = y.id ∧ z.endpoint = y.endpoint

section Listener

variable {plat : Platform} {sys : Sys} {C : Daemon → Event → Prop} {s t : Daemon} {r : RemotePtr}
  {y z : RemoteMux} {fd : Nat}

theorem RemoteMux.Evolves.endpoint (h : y.Evolves z) : z.endpoint = y.endpoint := by
  rw [RemoteMux.endpoint, RemoteMux.endpoint, h.isUnix, h.host, h.port]

theorem Lasting.move {A : Allow} {s s' : Core} (hm : Move A s s') (h : Lasting r y s) :
    Lasting r y s' where
  taken := Nat.lt_of_lt_of_le h.taken hm.shape.next_le.2
  same z hz := by
    have hne : r ≠ ⟨s.nextRemote⟩ := by
      intro heq
      have htaken := h.taken
      rw [heq] at htaken
      exact Nat.lt_irrefl _ htaken
    obtain ⟨y', hy', he⟩ := hm.remote_before hne hz
    obtain ⟨hid, hend⟩ := h.same y' hy'
    exact ⟨he.id.trans hid, he.endpoint.trans hend⟩

/-- Whatever happens, what is found under the pointer is the same connection. -/
theorem Lasting.steps (hs : Reachable plat s) (h : Lasting r y s.toCore)
    (hrun : Steps plat C s t) : Reachable plat t ∧ Lasting r y t.toCore := by
  refine invariant_of_step (R := Step plat C)
    (P := fun t => Reachable plat t ∧ Lasting r y t.toCore) (fun {u u'} hstep hu => ?_) hrun ⟨hs, h⟩
  obtain ⟨e, _, he⟩ := hstep
  have hmoves : Moves .all u.toCore u'.toCore := step_moves (reachable_wf hu.1) allows_all he
  exact ⟨hu.1.step trivial he,
    invariant_of_step (R := Move .all) (fun hm hP => Lasting.move hm hP) hmoves hu.2⟩

theorem lasting_of_wf (hwf : WF s.toCore) (hy : s.remotes r = some y) : Lasting r y s.toCore where
  taken := hwf.remoteFresh r (by rw [hy]; rfl)
  same z hz := by
    cases hy.symm.trans hz
    exact ⟨rfl, rfl⟩

/-- A search that only one remote can end finds it. -/
theorem findRemote_only {p : RemoteMux → Bool} {l : List RemotePtr}
    (hl : ∀ r' ∈ l, (s.remotes r').isSome) (hr : r ∈ l) (hy : s.remotes r = some y)
    (hp : p y = true) (honly : ∀ r' z, s.remotes r' = some z → p z = true → r' = r) :
    findRemote s p l = .ok (some (r, y)) := by
  induction l with
  | nil => cases hr
  | cons r' rest ih =>
      rw [List.forall_mem_cons] at hl
      obtain ⟨z, hz⟩ := Option.isSome_iff_exists.mp hl.1
      rw [findRemote, Daemon.remote, hz, ok_bind]
      by_cases hpz : p z = true
      · obtain rfl := honly r' z hz hpz
        cases hy.symm.trans hz
        rw [if_pos hpz]
        rfl
      · rw [if_neg hpz]
        have hne : r ≠ r' := by
          intro heq
          subst heq
          cases hy.symm.trans hz
          exact hpz hp
        exact ih hl.2 ((List.mem_cons.mp hr).resolve_left hne)

/-- A connection for the remote id of a listener is one to its endpoint,
whatever has become of the clients meanwhile. -/
theorem newRemoteFor_listener (hwf : WF s.toCore) (hreg : Registry s.toCore)
    (hz : s.remotes r = some z) (hlisten : z.state = .listen) (hconn : sys.connect = some fd) :
    ∃ x, x.endpoint = z.endpoint ∧ x.fd = fd ∧ ∀ u : Daemon, u.remotes = s.remotes →
      u.remoteList = s.remoteList → newRemoteFor sys u z.id = .ok (some x) := by
  have hlistener := (hreg.remote hz).listening hlisten
  by_cases hid : z.id = 0
  · have hunix : z.isUnix = true := by
      cases hu : z.isUnix with
      | true => rfl
      | false =>
          have htcp : z.isTcpListener = true := isTcpListener_iff.mpr ⟨hu, hlistener⟩
          exact absurd hid ((hreg.remote hz).tcp htcp).1
    refine ⟨{ remoteMuxNewWithFd sys fd with isUnix := true }, ?_, rfl, fun u _ _ => ?_⟩
    · simp [RemoteMux.endpoint, hunix]
    · rw [newRemoteFor, if_pos hid, remoteMuxNewWithUnixSocket, hconn]
      rfl
  · have htcp := hreg.isTcpListener hz hlistener hid
    have hunix := (isTcpListener_iff.mp htcp).1
    obtain ⟨name, hname⟩ := Option.ne_none_iff_exists'.mp ((hreg.remote hz).tcp htcp).2.2
    have honly : ∀ r' z', s.remotes r' = some z' →
        (decide (z'.id = z.id) && decide (z'.state = .listen)) = true → r' = r := by
      intro r' z' hz' hp
      simp only [Bool.and_eq_true, decide_eq_true_eq] at hp
      obtain ⟨hid', hlisten'⟩ := hp
      have htcp' := hreg.isTcpListener hz' ((hreg.remote hz').listening hlisten')
        (by rw [hid']; exact hid)
      by_contra hne
      exact (hreg.unlike hz' hz htcp' htcp hne).1 hid'
    refine ⟨{ remoteMuxNewWithFd sys fd with host := some name, port := z.port }, ?_, rfl,
      fun u hremotes hlist => ?_⟩
    · simp [RemoteMux.endpoint, remoteMuxNewWithFd, hunix, hname]
    · have hall : ∀ r' ∈ u.remoteList.elems, (u.remotes r').isSome := by
        intro r' hr'
        rw [hremotes, ← hwf.remotes, ← hlist]
        exact hr'
      have hz' : u.remotes r = some z := by
        rw [hremotes]
        exact hz
      have hmem : r ∈ u.remoteList.elems := by
        rw [hlist, hwf.remotes, hz]
        rfl
      rw [newRemoteFor, if_neg hid,
        findRemote_only hall hmem hz' (by simp [hlisten]) (by rw [hremotes]; exact honly), ok_bind]
      dsimp only
      rw [hname, remoteMuxNewWithHost, hconn]
      rfl

end Listener

/-! ## The request -/

/-- The frame in a buffer is a property list that asks for a connection to a
device. -/
structure HoldsConnect (plat : Platform) (b : Buf) (req : Plist) (g : UInt32) : Prop where
  version : (bufHeader plat b).version = 0 ∨ (bufHeader plat b).version = 1
  message : (bufHeader plat b).message = messagePlist
  request : requestPlist plat b = some ("Connect", req)
  device : ∃ n, requestUint req "DeviceID" = some n ∧ n.toUInt32 = g
  port : ∃ n, requestUint req "PortNumber" = some n

/-- The event brings such a frame from a client that waits for commands. -/
def AsksConnect (plat : Platform) (s : Daemon) (e : Event) (c : ClientPtr) (sys : Sys)
    (req : Plist) (g : UInt32) : Prop :=
  ∃ fd revents x rf, e = .client fd revents sys ∧ revents.pollin = true ∧
    findClient s fd s.clientList.elems = .ok (some (c, x)) ∧ x.state = .command ∧
    readFrame plat sys x.ib = .ok rf ∧ rf.outcome = .frame ∧ HoldsConnect plat rf.ib req g

/-- One remote more, a connection to an endpoint that waits for the answer to
a request on behalf of a client. -/
structure Forwarded (plat : Platform) (e : Endpoint) (fd : Nat) (c : ClientPtr) (msg : Plist)
    (s s' : Core) : Prop where
  remote : ∃ y, s'.remotes = Function.update s.remotes ⟨s.nextRemote⟩ (some y) ∧
    y.endpoint = e ∧ y.fd = fd ∧ y.client = some c ∧ y.state = .connecting1 ∧
    ∃ hdr xml, plat.plistToXml msg = some xml ∧ hdr.message = messagePlist ∧
      y.ob.data = packetBytes hdr (.plist msg xml)
  list : s'.remoteList = s.remoteList.add ⟨s.nextRemote⟩
  client : ∃ x, s'.clients c = some x ∧ x.remote = some ⟨s.nextRemote⟩ ∧ x.state = .connecting1

/-- A request with the number of the device replaced. -/
structure Readdressed (d : Nat) (req req' : Plist) : Prop where
  device : ∃ n, plistDictGetItem req' "DeviceID" = some (.uint n) ∧ n.toNat = d
  other : ∀ key, key ≠ "DeviceID" → plistDictGetItem req' key = plistDictGetItem req key

section Request

variable {plat : Platform} {sys : Sys} {s : Daemon} {c : ClientPtr} {x : MuxClient}
  {r : RemotePtr} {y : RemoteMux} {req msg : Plist} {g tag : UInt32} {fd : Nat} {e : Event}

theorem queueBytes_malloc_data {bs : List UInt8} (hrealloc : ∀ n, sys.realloc n = true)
    (hlen : bs.length < 2 ^ 31) : ∃ ob, queueBytes sys.realloc
      (Buf.malloc replyBufSize (by decide)) bs = .ok (some ob) ∧ ob.data = bs := by
  obtain ⟨ob, hqueue⟩ := queueBytes_malloc hrealloc hlen
  have hruns := @queueBytes_runs .all emptyDaemon.toCore sys
    (Buf.malloc replyBufSize replyBufSize_lt) bs
  rcases hruns.of_ok hqueue with ⟨hnone, _⟩ | ⟨ob', hsome, happended⟩
  · cases hnone
  · cases hsome
    exact ⟨ob, hqueue, happended.data⟩

/-- The packet in the output buffer of a new remote. -/
theorem remoteSendPlistPkt_malloc (hrealloc : ∀ n, sys.realloc n = true)
    (hmsg : Printable plat msg) (hy : s.remotes r = some y)
    (hob : y.ob = Buf.malloc replyBufSize (by decide)) :
    ∃ n ob hdr xml, plat.plistToXml msg = some xml ∧ hdr.message = messagePlist ∧
      ob.data = packetBytes hdr (.plist msg xml) ∧
      remoteSendPlistPkt plat sys s r tag msg = .ok (n,
        (s.update (·.setRemote r { y with
          ob := ob, events := { y.events with pollout := true } })).emit
          [.remoteQueue r hdr (.plist msg xml)]) := by
  obtain ⟨xml, hxml, hlen⟩ := hmsg
  have hwire : headerSize + (Payload.plist msg xml).wire.length < 2 ^ 31 := hlen
  have hbytes : ∀ hdr : Header, (hdr.bytes ++ (Payload.plist msg xml).wire).length < 2 ^ 31 := by
    intro hdr
    rw [List.length_append, length_headerBytes]
    exact hwire
  rw [remoteSendPlistPkt, hxml]
  dsimp only
  rw [remoteSendPkt, packetHeader, if_pos hwire, ok_bind, Daemon.remote, hy, ok_bind, hob]
  obtain ⟨ob, hqueue, hdata⟩ := @queueBytes_malloc_data sys _ hrealloc (hbytes _)
  rw [hqueue]
  exact ⟨_, ob, _, xml, rfl, rfl, hdata, rfl⟩

theorem usbmuxRemoteConnect_opens (hunlocked : s.Unlocked) (hx : s.clients c = some x)
    (hrealloc : ∀ n, sys.realloc n = true) (hmsg : Printable plat (forwardedConnect g req))
    (hnew : newRemoteFor sys { s with remoteListLocked := true } (g >>> 24).toUInt8 =
      .ok (some y)) :
    ∃ t, usbmuxRemoteConnect plat sys s g req c = .ok (0, t) ∧
      t.clients c = some { x with remote := some ⟨s.nextRemote⟩ } ∧
      t.remoteList = s.remoteList.add ⟨s.nextRemote⟩ ∧
      ∃ z, t.remotes = Function.update s.remotes ⟨s.nextRemote⟩ (some z) ∧
        z.endpoint = y.endpoint ∧ z.fd = y.fd ∧ z.client = some c ∧ z.state = .connecting1 ∧
        ∃ hdr xml, plat.plistToXml (forwardedConnect g req) = some xml ∧
          hdr.message = messagePlist ∧
          z.ob.data = packetBytes hdr (.plist (forwardedConnect g req) xml) := by
  let y₁ := { y with id := (g >>> 24).toUInt8, state := .connecting1, client := some c }
  have hlink : linkNewRemote { s with remoteListLocked := true } c y₁ = .ok (⟨s.nextRemote⟩,
      (({ s with remoteListLocked := true }.update (·.setClient c
        { x with remote := some ⟨s.nextRemote⟩ })).update (·.addRemote y₁)).emit
        [.openRemote c ⟨s.nextRemote⟩ y₁.state]) := by
    rw [linkNewRemote, clientSetRemote, Daemon.modifyClient, Daemon.client]
    dsimp only
    rw [hx]
    rfl
  have hob : y₁.ob = Buf.malloc replyBufSize (by decide) := newRemoteFor_ob (y := y) hnew
  rw [usbmuxRemoteConnect, lockRemoteList_of_free hunlocked.1 hunlocked.2, ok_bind, hnew, ok_bind]
  dsimp only
  rw [hlink, ok_bind]
  obtain ⟨n, ob, hdr, xml, hxml, hhdr, hdata, hsend⟩ := @remoteSendPlistPkt_malloc plat sys
    ((({ s with remoteListLocked := true }.update (·.setClient c
      { x with remote := some ⟨s.nextRemote⟩ })).update (·.addRemote y₁)).emit
      [.openRemote c ⟨s.nextRemote⟩ y₁.state]).unlockRemoteList ⟨s.nextRemote⟩ y₁ _ 0
    hrealloc hmsg remotes_linkNewRemote hob
  dsimp only
  rw [hsend, ok_bind]
  refine ⟨_, rfl, Function.update_self .., rfl, { y₁ with
    ob := ob, events := { y₁.events with pollout := true } }, ?_, rfl, rfl, rfl, rfl,
    hdr, xml, hxml, hhdr, hdata⟩
  exact Function.update_idem ..

/-- `client_command` on such a frame. -/
theorem clientCommand_holdsConnect (hunlocked : s.Unlocked) (hx : s.clients c = some x)
    (hstate : x.state = .command) (h : HoldsConnect plat x.ib req g)
    (hrealloc : ∀ n, sys.realloc n = true) (hmsg : Printable plat (forwardedConnect g req))
    (hnew : ∀ u : Daemon, u.remotes = s.remotes → u.remoteList = s.remoteList →
      newRemoteFor sys u (g >>> 24).toUInt8 = .ok (some y)) :
    ∃ t, clientCommand plat sys s c = .ok (0, t) ∧
      Forwarded plat y.endpoint y.fd c (forwardedConnect g req) s.toCore t.toCore := by
  obtain ⟨n, hdevice, rfl⟩ := h.device
  obtain ⟨p, hport⟩ := h.port
  let x₁ := { x with protoVersion := 1, info := some (clientInfo req) }
  obtain ⟨t, hconnect, hclient, hlist, z, hz⟩ := @usbmuxRemoteConnect_opens plat sys
    (dispatching plat s c x x₁) c x₁ y req n.toUInt32 hunlocked (Function.update_self ..) hrealloc
    hmsg (hnew _ rfl rfl)
  have hmodify : t.modifyClient c (fun x => { x with
      connectTag := (bufHeader plat x₁.ib).tag, connectDevice := n.toUInt32,
      state := .connecting1 }) = .ok (t.update (·.setClient c { x₁ with
        remote := some ⟨s.nextRemote⟩, connectTag := (bufHeader plat x₁.ib).tag,
        connectDevice := n.toUInt32, state := .connecting1 })) := by
    rw [Daemon.modifyClient, Daemon.client, hclient]
    rfl
  refine ⟨t.update (·.setClient c { x₁ with
    remote := some ⟨s.nextRemote⟩, connectTag := (bufHeader plat x₁.ib).tag,
    connectDevice := n.toUInt32, state := .connecting1 }), ?_, ?_⟩
  · rw [clientCommand_plist hx hstate h.version h.message, plistBranch, h.request]
    dsimp only
    rw [plistCommand, if_neg (by decide), if_pos rfl, plistConnect, hdevice]
    dsimp only
    rw [hport]
    dsimp only
    rw [clientConnect, hconnect, ok_bind]
    dsimp only
    rw [if_neg (by decide), hmodify]
    rfl
  · exact ⟨⟨z, hz⟩, hlist, _, Function.update_self .., rfl, rfl⟩

/-- The event of such a request. -/
theorem asksConnect_forwarded {z : RemoteMux} (hs : Reachable plat s)
    (hz : s.remotes r = some z) (hlisten : z.state = .listen) (hid : (g >>> 24).toUInt8 = z.id)
    (hasks : AsksConnect plat s e c sys req g) (hconn : sys.connect = some fd)
    (hrealloc : ∀ n, sys.realloc n = true) (hmsg : Printable plat (forwardedConnect g req)) :
    ∃ t, step plat s e = .ok t ∧
      Forwarded plat z.endpoint fd c (forwardedConnect g req) s.toCore t.toCore := by
  obtain ⟨cfd, revents, x, rf, rfl, hin, hfind, hstate, hread, hframe, hholds⟩ := hasks
  obtain ⟨hwf, hreg⟩ := reachable_registry hs
  have hunlocked := reachable_unlocked hs
  have hclients : Runs .all s.toCore _ (findClient s cfd s.clientList.elems) := findClient_runs
  have hx : s.clients c = some x := (hclients.of_ok hfind _ rfl).1
  obtain ⟨y, hend, hfd, hnew⟩ := newRemoteFor_listener hwf hreg hz hlisten hconn
  rw [← hid] at hnew
  obtain ⟨t, hcommand, hforwarded⟩ := @clientCommand_holdsConnect plat sys (received s c x rf) c
    { x with ib := rf.ib } y req g hunlocked (Function.update_self ..) hstate hholds hrealloc hmsg
    hnew
  rw [hend, hfd] at hforwarded
  obtain ⟨x', hx', hlink, hstate'⟩ := hforwarded.client
  have hreset : t.modifyClient c (fun x => { x with ib := x.ib.reset }) =
      .ok (t.update (·.setClient c { x' with ib := x'.ib.reset })) := by
    rw [Daemon.modifyClient, Daemon.client, hx']
    rfl
  refine ⟨t.update (·.setClient c { x' with ib := x'.ib.reset }), ?_, hforwarded.remote,
    hforwarded.list, _, Function.update_self .., hlink, hstate'⟩
  show clientProcess plat sys s cfd revents = _
  rw [clientProcess_eq hunlocked.2, hfind, ok_bind]
  dsimp only
  rw [if_neg (by rw [hstate]; decide), if_pos hin, processRecv, Daemon.client, hx, ok_bind, hread,
    ok_bind]
  dsimp only
  rw [hframe]
  show (clientCommand plat sys (received s c x rf) c >>= _) = _
  rw [hcommand, ok_bind]
  exact hreset

theorem readdressed_forwardedConnect {d : Nat} (hdevice : ∃ n, requestUint req "DeviceID" = some n)
    (hg : g.toNat % 2 ^ 24 = d) : Readdressed d req (forwardedConnect g req) where
  device := by
    obtain ⟨n, hn⟩ := hdevice
    obtain ⟨v, hv, _⟩ := Option.map_eq_some_iff.mp hn
    obtain ⟨entries, rfl⟩ := isDict_of_getItem hv
    refine ⟨_, plistDictGetItem_set_self, ?_⟩
    rw [UInt32.toNat_toUInt64, UInt32.toNat_and, ← hg]
    exact Nat.and_two_pow_sub_one_eq_mod _ 24
  other _ hne := plistDictGetItem_set_of_ne hne

end Request

/-! ## There and back -/

section Route

variable {plat : Platform} {C : Daemon → Event → Prop} {s s' t : Daemon} {e e' : Event}
  {r : RemotePtr} {y z : RemoteMux} {b : Buf} {msg req : Plist} {d : UInt64} {g : UInt32}
  {c : ClientPtr} {sys : Sys} {fd : Nat}

theorem CompletesFrame.remote (h : CompletesFrame plat s.toCore e r y b) :
    s.remotes r = some y := by
  obtain ⟨_, _, _, _, _, _, hevent, _⟩ := h
  exact eventRemote_remote hevent

/-- A device id names one listener and one number of its host. -/
theorem toNat_eq_iff_remoteDevid {k : UInt8} {d' : UInt64}
    (hg : g.toNat = y.id.toNat * 2 ^ 24 + d.toNat % 2 ^ 24) :
    g.toNat = k.toNat * 2 ^ 24 + d'.toNat % 2 ^ 24 ↔
      k = y.id ∧ d'.toNat % 2 ^ 24 = d.toNat % 2 ^ 24 := by
  rw [hg, ← UInt8.toNat_inj]
  omega

/-- A device that a listener announces is stored under an id made of the
remote id and the number it has there, with that id in both places of its
plist. In every later state in which the listener still listens, a request to
connect to the id opens a connection to the endpoint of that very listener and
is forwarded with the number the device has there, otherwise unchanged. -/
theorem connect_inverts_announcement (hs : Reachable plat s)
    (hg : g.toNat = y.id.toNat * 2 ^ 24 + d.toNat % 2 ^ 24)
    (hreads : CompletesFrame plat s.toCore e r y b) (hlisten : y.state = .listen)
    (hmsg : HoldsAnnouncement plat b msg d) (hstep : step plat s e = .ok s')
    (hlater : Steps plat C s' t) (hz : t.remotes r = some z) (hstill : z.state = .listen)
    (hasks : AsksConnect plat t e' c sys req g) (hconn : sys.connect = some fd)
    (hrealloc : ∀ n, sys.realloc n = true) (hreq : Printable plat (forwardedConnect g req)) :
    (∃ dev, s'.remoteDeviceList.get (deviceKey g) = some dev ∧ Renumbered g msg dev) ∧
    (∀ (k : UInt8) (d' : UInt64), g.toNat = k.toNat * 2 ^ 24 + d'.toNat % 2 ^ 24 ↔
      k = y.id ∧ d'.toNat % 2 ^ 24 = d.toNat % 2 ^ 24) ∧
    Readdressed (d.toNat % 2 ^ 24) req (forwardedConnect g req) ∧
    ∃ t', step plat t e' = .ok t' ∧
      Forwarded plat y.endpoint fd c (forwardedConnect g req) t.toCore t'.toCore := by
  obtain rfl : g = remoteDevid y.id d.toUInt32 := by
    apply UInt32.toNat_inj.mp
    rw [hg, toNat_remoteDevid_uint]
  have hwf := reachable_wf hs
  have hlasts : Lasting r y s'.toCore := by
    have hrun : Steps plat (fun _ _ => True) s s' := .single ⟨e, trivial, hstep⟩
    exact ((lasting_of_wf hwf hreads.remote).steps hs hrun).2
  obtain ⟨ht, hlasts⟩ := hlasts.steps (hs.step trivial hstep) hlater
  obtain ⟨hid, hend⟩ := hlasts.same z hz
  have hupper : (remoteDevid y.id d.toUInt32 >>> 24).toUInt8 = z.id := by
    rw [hid]
    exact deviceOwner_remoteDevid
  refine ⟨⟨_, announced_stored hwf hreads hlisten hmsg hstep, renumbered_attachedPlist hmsg.device⟩,
    fun k d' => toNat_eq_iff_remoteDevid hg, ?_, ?_⟩
  · refine readdressed_forwardedConnect ?_ (by rw [hg]; omega)
    obtain ⟨_, _, _, _, _, _, _, _, _, _, hholds⟩ := hasks
    obtain ⟨n, hn, _⟩ := hholds.device
    exact ⟨n, hn⟩
  · rw [← hend]
    exact asksConnect_forwarded ht hz hstill hupper hasks hconn hrealloc hreq

end Route

/-- A platform that parses two documents. -/
theorem plistFromXml_platformWith {p q : Plist} (h : xmlDocument p ≠ xmlDocument q) :
    (platformWith [p, q]).plistFromXml (xmlDocument p) = some p ∧
      (platformWith [p, q]).plistFromXml (xmlDocument q) = some q := by
  constructor
  · simp [platformWith]
  · simp [platformWith, h]

def announcedMessage : Plist :=
  .dict [("MessageType", .string "Attached"), ("DeviceID", .uint 0x05000005),
    ("Properties", .dict [("DeviceID", .uint 0x05000005), ("SerialNumber", .string "abcd")])]

def connectRequest : Plist :=
  .dict [("MessageType", .string "Connect"), ("DeviceID", .uint 0x01000005),
    ("PortNumber", .uint 62078), ("ProgName", .string "idevicename")]

/-- A number of 27 bits is announced, the listener is on host `hosta`, and the
connection of the client is made there. -/
theorem connect_inverts_announcement_hosta :
    ∃ s s' t t' c dev, Reachable (platformWith [announcedMessage, connectRequest]) s ∧
      Steps (platformWith [announcedMessage, connectRequest]) (fun _ _ => True) s' t ∧
      s'.remoteDeviceList.get (deviceKey 0x01000005) = some dev ∧
      Renumbered 0x01000005 announcedMessage dev ∧
      Readdressed 5 connectRequest (forwardedConnect 0x01000005 connectRequest) ∧
      Forwarded (platformWith [announcedMessage, connectRequest]) (.host (some "hosta") 5000) 12 c
        (forwardedConnect 0x01000005 connectRequest) t.toCore t' := by
  let plat := platformWith [announcedMessage, connectRequest]
  let frame := plistFrame 1 0 announcedMessage
  let req := plistFrame 1 3 connectRequest
  let run : List Event :=
    .addRemote "hosta" 5000 { connect := some 10 } ::
      (remoteSends 10 (resultFrame 0) ++
        [.remote 10 { pollin := true } { recv := some (frame.take headerSize) }])
  let announce : Event :=
    .remote 10 { pollin := true } { recv := some (frame.drop headerSize) }
  let later : List Event :=
    [.accept (some 5), .client 5 { pollin := true } { recv := some (req.take headerSize) }]
  let asks : Sys := { recv := some (req.drop headerSize), connect := some 12 }
  let holds (b : Buf) (p : Plist) : Bool := decide ((bufHeader plat b).version = 1) &&
    decide ((bufHeader plat b).message = messagePlist) && decide (bufPayload plat b = xmlDocument p)
  let test₃ : Daemon → Bool := fun t =>
    (t.remotes ⟨0⟩).any (fun y => decide (y.state = .listen)) &&
    okAnd (fun o => o.any fun p => decide (p.2.state = .command) &&
      okAnd (fun rf => decide (rf.outcome = .frame) && holds rf.ib connectRequest)
        (readFrame plat asks p.2.ib)) (findClient t 5 t.clientList.elems)
  let test₂ : Daemon → Bool := fun s' =>
    ((runEvents plat (fun _ _ => true) later s').map test₃).getD false
  let test₁ : Daemon → Bool := fun s =>
    (eventRemote s.toCore 10).any (fun p => decide (p.1 = ⟨0⟩) && decide (p.2.state = .listen) &&
      decide (p.2.id = 1) && decide (p.2.endpoint = .host (some "hosta") 5000) &&
      okAnd (fun rf => decide (rf.outcome = .frame) && holds rf.ib announcedMessage)
        (readFrame plat { recv := some (frame.drop headerSize) } p.2.ib)) &&
    okAnd test₂ (step plat s announce)
  obtain ⟨s, hrun, htest⟩ : ∃ s, runFrom plat {} (fun _ _ => true) run = some s ∧
    test₁ s = true := exists_of_runFrom (by decide +kernel)
  have hs := reachable_of_runFrom hrun
  have hholds : ∀ b p, holds b p = true → (bufHeader plat b).version = 1 ∧
      (bufHeader plat b).message = messagePlist ∧ bufPayload plat b = xmlDocument p := by
    intro b p h
    simp only [holds, Bool.and_eq_true, decide_eq_true_eq] at h
    exact ⟨h.1.1, h.1.2, h.2⟩
  simp only [test₁, Bool.and_eq_true, decide_eq_true_eq, Option.any_eq_true] at htest
  obtain ⟨⟨⟨r, y⟩, hevent, ⟨⟨⟨hr, hlisten⟩, hid⟩, hend⟩, hread⟩, hnext⟩ := htest
  obtain rfl : r = ⟨0⟩ := hr
  obtain ⟨rf, hrf, htest⟩ := exists_of_okAnd hread
  simp only [Bool.and_eq_true, decide_eq_true_eq] at htest
  obtain ⟨hver, hmessage, hpayload⟩ := hholds _ _ htest.2
  obtain ⟨s', hs', htest'⟩ := exists_of_okAnd hnext
  obtain ⟨t, ht, htest'⟩ : ∃ t, runEvents plat (fun _ _ => true) later s' = some t ∧
      test₃ t = true := by
    cases hrun' : runEvents plat (fun _ _ => true) later s' with
    | none =>
        rw [show test₂ s' = ((runEvents plat (fun _ _ => true) later s').map test₃).getD false
          from rfl, hrun'] at htest'
        cases htest'
    | some t =>
        rw [show test₂ s' = ((runEvents plat (fun _ _ => true) later s').map test₃).getD false
          from rfl, hrun'] at htest'
        exact ⟨t, rfl, htest'⟩
  simp only [test₃, Bool.and_eq_true, Option.any_eq_true, decide_eq_true_eq] at htest'
  obtain ⟨⟨z, hz, hstill⟩, hclient⟩ := htest'
  obtain ⟨o, hfind, hclient⟩ := exists_of_okAnd hclient
  simp only [Option.any_eq_true, Bool.and_eq_true, decide_eq_true_eq] at hclient
  obtain ⟨⟨c, x⟩, rfl, hstate, hclient⟩ := hclient
  obtain ⟨rf', hrf', hclient⟩ := exists_of_okAnd hclient
  simp only [Bool.and_eq_true, decide_eq_true_eq] at hclient
  obtain ⟨hver', hmessage', hpayload'⟩ := hholds _ _ hclient.2
  have hlater : Steps plat (fun _ _ => True) s' t :=
    steps_of_runEvents (fun _ _ _ _ _ => trivial) (hs.step trivial hs') ht
  obtain ⟨hparse, hparse'⟩ := @plistFromXml_platformWith announcedMessage connectRequest
    (by decide +kernel)
  have hannounces : HoldsAnnouncement plat rf.ib announcedMessage 0x05000005 := by
    refine ⟨Or.inr hver, hmessage, ?_, rfl, rfl⟩
    rw [hpayload, hparse]
  have hasks : AsksConnect plat t (.client 5 { pollin := true } asks) c asks connectRequest
      0x01000005 := by
    refine ⟨5, _, x, rf', rfl, rfl, hfind, hstate, hrf', hclient.1, Or.inr hver', hmessage', ?_,
      ⟨0x01000005, rfl, rfl⟩, 62078, rfl⟩
    rw [requestPlist, hpayload', hparse']
    rfl
  obtain ⟨⟨dev, hdev, hrenumbered⟩, _, hreaddressed, t', _, hforwarded⟩ :=
    connect_inverts_announcement hs (by rw [hid]; rfl)
      ⟨10, _, _, rf, rfl, rfl, hevent, hrf, htest.1, rfl⟩ hlisten hannounces hs' hlater hz hstill
      hasks rfl (fun _ => rfl) ⟨_, rfl, by decide +kernel⟩
  rw [hend] at hforwarded
  exact ⟨s, s', t, t'.toCore, c, dev, hs, hlater, hdev, hrenumbered, hreaddressed, hforwarded⟩

end Usbfluxd
