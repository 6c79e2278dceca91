import Usbfluxd.Moves.Remote

/-!
# Opening connections is a move

`remote_mux_service_add` for the listeners, `usbmux_remote_connect` and the
four other requests for the connections of clients. Each allocates a remote,
puts it into the list and queues its first packet; only the state at the end
is one the rest of the daemon ever sees.
-/

namespace Usbfluxd

open Lib

namespace Core

variable {s : Core} {y y' : RemoteMux} {m : IdMap}

@[simp] theorem setRemote_addRemote :
    (s.addRemote y).setRemote ⟨s.nextRemote⟩ y' = s.addRemote y' := by
  simp [setRemote, addRemote]

theorem setRemote_addListener :
    ({ s.addRemote y with remoteIdMap := m } : Core).setRemote ⟨s.nextRemote⟩ y' =
      { s.addRemote y' with remoteIdMap := m } := by
  simp [setRemote, addRemote]

theorem setRemote_self {r : RemotePtr} (h : s.remotes r = some y) : s.setRemote r y = s := by
  rw [setRemote, ← h, Function.update_eq_self]

theorem setClient_self {c : ClientPtr} {x : MuxClient} (h : s.clients c = some x) :
    s.setClient c x = s := by
  rw [setClient, ← h, Function.update_eq_self]

theorem setRemote_emit_setRemote {r : RemotePtr} {acts : List Act} :
    ((s.setRemote r y).emit acts).setRemote r y' = (s.setRemote r y').emit acts := by
  simp [setRemote, emit]

end Core

/-! ## New remotes -/

/-- What `remote_mux_new_with_fd` fills in. -/
structure FreshRemote (y : RemoteMux) : Prop where
  output : y.ob.data = []
  input : y.ib.data = []
  state : y.state = .command
  lastCommand : y.lastCommand = none
  id : y.id = 0
  isListener : y.isListener = false
  client : y.client = none
  events : y.events = { pollin := true }

section New

variable {A : Allow} {s₀ : Core} {s : Daemon} {sys : Sys} {k : UInt8} {y : RemoteMux}

theorem freshRemote_unixSocket (h : remoteMuxNewWithUnixSocket sys = some y) :
    FreshRemote y ∧ y.isUnix = true ∧ y.host = none := by
  obtain ⟨fd, _, rfl⟩ := Option.map_eq_some_iff.mp h
  exact ⟨⟨rfl, rfl, rfl, rfl, rfl, rfl, rfl, rfl⟩, rfl, rfl⟩

theorem freshRemote_host {host : Option String} {port : UInt16}
    (h : remoteMuxNewWithHost sys host port = some y) :
    FreshRemote y ∧ y.isUnix = false ∧ y.host = host ∧ y.host ≠ none ∧ y.port = port := by
  obtain ⟨name, rfl, h⟩ := Option.bind_eq_some_iff.mp h
  obtain ⟨fd, _, rfl⟩ := Option.map_eq_some_iff.mp h
  exact ⟨⟨rfl, rfl, rfl, rfl, rfl, rfl, rfl, rfl⟩, rfl, rfl, Option.some_ne_none _, rfl⟩

theorem newRemoteFor_runs :
    Runs A s₀ (fun o => ∀ y, o = some y → FreshRemote y ∧ EndpointFor s.toCore k y)
      (newRemoteFor sys s k) := by
  rw [newRemoteFor]
  split
  · next hk =>
      intro y hy
      obtain ⟨hfresh, hunix, hhost⟩ := freshRemote_unixSocket hy
      exact ⟨hfresh, Or.inl ⟨hk, hunix, hhost⟩⟩
  · next hk =>
      refine findRemote_runs.bind ?_
      rintro o (⟨rfl, _⟩ | ⟨r, z, rfl, _, hz, hp⟩)
      · intro y hy
        cases hy
      · intro y hy
        obtain ⟨hfresh, hunix, hhost, hsome, hport⟩ := freshRemote_host hy
        have hz' : z.id = k ∧ z.state = .listen := by simpa using hp
        exact ⟨hfresh, Or.inr ⟨hk, hunix, hsome, r, z, hz, hz'.1, hz'.2, hhost, hport⟩⟩

/-- Searching the list sees nothing but the remotes and the list. -/
theorem findRemote_congr {t : Daemon} {p : RemoteMux → Bool} {l : List RemotePtr}
    (h : t.remotes = s.remotes) : findRemote t p l = findRemote s p l := by
  induction l with
  | nil => rfl
  | cons r rest ih => rw [findRemote, findRemote, Daemon.remote, Daemon.remote, h, ih]

/-- A new remote gets the descriptor of the connection that was made. -/
theorem remoteMuxNewWithHost_fd {host : Option String} {port : UInt16}
    (h : remoteMuxNewWithHost sys host port = some y) : sys.connect = some y.fd := by
  obtain ⟨name, rfl, h⟩ := Option.bind_eq_some_iff.mp h
  obtain ⟨fd, hfd, rfl⟩ := Option.map_eq_some_iff.mp h
  exact hfd

theorem newRemoteFor_fd (h : newRemoteFor sys s k = .ok (some y)) :
    sys.connect = some y.fd := by
  rw [newRemoteFor] at h
  split at h
  · obtain ⟨fd, hfd, rfl⟩ := Option.map_eq_some_iff.mp (Except.ok.inj h)
    exact hfd
  · obtain ⟨o, _, h⟩ := bind_eq_ok.mp h
    cases o with
    | none => cases Except.ok.inj h
    | some p => exact remoteMuxNewWithHost_fd (Except.ok.inj h)

theorem newRemoteFor_congr {t : Daemon} (hr : t.remotes = s.remotes)
    (hl : t.remoteList = s.remoteList) : newRemoteFor sys t k = newRemoteFor sys s k := by
  rw [newRemoteFor, newRemoteFor, hl, findRemote_congr hr]

theorem FirstPacket.imp {lossOk lossOk' : Prop} {r : RemotePtr} {P P' : Payload → Prop}
    {y y' : RemoteMux} {acts : List Act} (h : FirstPacket lossOk r P y acts)
    (hloss : lossOk → lossOk') (hP : ∀ p, P p → P' p) (hob : y'.ob = y.ob)
    (hev : y'.events = y.events) : FirstPacket lossOk' r P' y' acts := by
  rw [FirstPacket, hob, hev]
  rcases h with ⟨hl, h⟩ | ⟨hdr, payload, hp, h⟩
  · exact Or.inl ⟨hloss hl, h⟩
  · exact Or.inr ⟨hdr, payload, hP payload hp, h⟩

/-- The first packet of a remote with an empty output buffer. -/
theorem RemoteSendOutcome.first {plat : Platform} {r : RemotePtr} {P : Payload → Prop}
    {s : Core} {res : Int × Daemon} (h : RemoteSendOutcome plat sys r P s res)
    (hy : s.remotes r = some y) (hob : y.ob.data = []) (hev : y.events = { pollin := true }) :
    ∃ ob e acts, FirstPacket (Loss plat sys) r P { y with ob := ob, events := e } acts ∧
      res.2.toCore = (s.setRemote r { y with ob := ob, events := e }).emit acts ∧
      ((0 < res.1 ∧ acts ≠ []) ∨ (res.1 < 0 ∧ acts = [] ∧ Loss plat sys)) := by
  rcases h with ⟨hneg, hloss, heq⟩ | ⟨hpos, y', ob, hdr, payload, hP, hy', hob', heq⟩
  · refine ⟨y.ob, y.events, [], Or.inl ⟨hloss, rfl, hob, hev⟩, ?_,
      Or.inr ⟨hneg, rfl, hloss⟩⟩
    rw [heq, Core.emit_nil, Core.setRemote_self hy]
  · cases hy.symm.trans hy'
    have hdata := hob'.data
    rw [hob, List.nil_append] at hdata
    exact ⟨ob, _, _, Or.inr ⟨hdr, payload, hP, rfl, hdata, by rw [hev]⟩, heq,
      Or.inl ⟨hpos, List.cons_ne_nil _ _⟩⟩

end New

/-! ## Listeners -/

section Service

variable {A : Allow} {s₀ : Core} {s : Daemon} {plat : Platform} {sys : Sys}

/-- The request a new listener starts with. -/
theorem remoteSendListenPacket_runs {r : RemotePtr} {y : RemoteMux}
    (hy : s.remotes r = some y) (hob : y.ob.data = []) (hev : y.events = { pollin := true }) :
    Runs A s₀ (fun res => ∃ ob e cmd acts,
      FirstPacket True r (fun _ => True)
        { y with ob := ob, events := e, lastCommand := cmd } acts ∧
      (cmd = y.lastCommand ∨ cmd = some .listen) ∧
      res.2.toCore = (s.toCore.setRemote r
        { y with ob := ob, events := e, lastCommand := cmd }).emit acts)
      (remoteSendListenPacket plat sys s r) := by
  refine remoteSendPlistPkt_runs.bind ?_
  rintro ⟨res, s₁⟩ h
  obtain ⟨ob, e, acts, hfirst, heq, _⟩ := h.first hy hob hev
  have hfirst' : ∀ cmd, FirstPacket True r (fun _ => True)
      { y with ob := ob, events := e, lastCommand := cmd } acts :=
    fun cmd => hfirst.imp (fun _ => trivial) (fun _ _ => trivial) rfl rfl
  show Runs A s₀ _ (if 0 < res then _ else _)
  split
  · refine modifyRemote_runs.bind ?_
    rintro s₂ ⟨y', hy', rfl⟩
    have hself : s₁.remotes r = some { y with ob := ob, events := e } := by
      rw [show s₁.toCore = _ from heq]
      exact if_pos rfl
    cases hself.symm.trans hy'
    refine ⟨ob, e, some .listen, acts, hfirst' _, Or.inr rfl, ?_⟩
    show s₁.toCore.setRemote r _ = _
    rw [show s₁.toCore = _ from heq]
    exact Core.setRemote_emit_setRemote
  · exact ⟨ob, e, y.lastCommand, acts, hfirst' _, Or.inl rfl, heq⟩

/-- Whatever remote is made for the connection of this event may have its
descriptor. -/
def MayConnect (A : Allow) (sys : Sys) (s : Core) : Prop :=
  ∀ t fd, sys.connect = some fd → t.remotes = s.remotes → A.remoteFdOk t fd

theorem MayConnect.congr {t : Core} (h : MayConnect A sys s.toCore)
    (hr : t.remotes = s.remotes) : MayConnect A sys t :=
  fun u fd hfd hu => h u fd hfd (hu.trans hr)

/-- A successful `remote_mux_service_add` adds one listener; any other leaves
everything as it was. -/
theorem remoteMuxServiceAdd_runs {serviceName hostName : String} {port : UInt16} :
    Runs A s₀ (fun res => (res.1 ≠ 0 ∧ res.2.toCore = s.toCore) ∨
      (res.1 = 0 ∧ ∃ y acts, NewListener s.toCore y ∧
        (y.serviceName = some serviceName ∧ y.host = some hostName ∧ y.port = port ∧
          sys.connect = some y.fd) ∧
        FirstPacket True ⟨s.nextRemote⟩ (fun _ => True) y acts ∧
        res.2.toCore = { s.toCore.addRemote y with
          remoteIdMap := setRemoteIdUsed s.remoteIdMap y.id true }.emit acts))
      (remoteMuxServiceAdd plat sys s serviceName hostName port) := by
  refine lockRemoteList_runs.bind ?_
  rintro ⟨core, locked, locked'⟩ h₁
  obtain rfl : core = s.toCore := h₁
  refine findRemote_runs.bind ?_
  rintro o (⟨rfl, hnone⟩ | ⟨_, _, rfl, _⟩)
  · dsimp only
    split
    · exact Or.inl ⟨Int.negSucc_ne_zero 0, rfl⟩
    · next y hy =>
        obtain ⟨hfresh, hunix, hhost, _, hport⟩ := freshRemote_host hy
        show Runs A s₀ _ (if getNewRemoteId s.remoteIdMap = 0 then _ else _)
        split
        · exact Or.inl ⟨Int.negSucc_ne_zero 0, rfl⟩
        · next hid =>
            let y₁ : RemoteMux := { y with
              id := getNewRemoteId s.remoteIdMap
              serviceName := some serviceName
              isListener := true }
            have hob : y₁.ob.data = [] := hfresh.output
            refine (remoteSendListenPacket_runs (Function.update_self ..) hob hfresh.events).bind ?_
            rintro ⟨res, s₂⟩ ⟨ob, e, cmd, acts, hfirst, hcmd, heq⟩
            refine Or.inr ⟨rfl, { y₁ with ob := ob, events := e, lastCommand := cmd }, acts,
              ?_, ⟨rfl, hhost, hport, remoteMuxNewWithHost_fd (y := y) hy⟩, ?_, heq.trans ?_⟩
            · refine ⟨rfl, hunix, ⟨_, rfl⟩, ⟨_, hhost⟩, hfresh.state, hfresh.client, ?_,
                hfresh.input, rfl, hid, fun r z hr hz htcp => ?_⟩
              · exact hcmd.imp (fun h => h.trans hfresh.lastCommand) id
              · have hdiff := hnone r z hr hz
                rw [sameService, htcp, Bool.true_and, Bool.or_eq_false_iff] at hdiff
                refine ⟨by simpa using hdiff.1, ?_⟩
                show ¬ (z.host = y.host ∧ z.port = y.port)
                rw [hhost, hport]
                simpa using hdiff.2
            · exact hfirst
            · exact congrArg (fun t => Core.emit t acts) Core.setRemote_addListener
  · exact Or.inl ⟨Int.negSucc_ne_zero 1, rfl⟩

theorem remoteMuxServiceAdd_moves {serviceName hostName : String} {port : UInt16}
    (hgrow : A.growOk) (hnamed : serviceName = hostName ∨ A.namedOk)
    (hfd : MayConnect A sys s.toCore) :
    Runs A s₀ (fun res => Moves A s.toCore res.2.toCore)
      (remoteMuxServiceAdd plat sys s serviceName hostName port) := by
  refine remoteMuxServiceAdd_runs.imp ?_
  rintro res (⟨_, heq⟩ | ⟨_, y, acts, hnew, ⟨hname, hhost, _, hconnect⟩, hacts, heq⟩)
  · rw [heq]
    exact Moves.refl
  · rw [heq]
    refine (Move.addListener hnew hacts hgrow (hnamed.imp (fun h => ?_) id)
      (hfd _ _ hconnect rfl)).single
    rw [hname, hhost, h]

theorem remoteMuxServiceRemove_phase {serviceName hostName : Option String} {port : UInt16}
    (hloss : Loss plat sys → A.lossOk) (hreap : A.reapOk ∧ A.killOk) (hwf : WF s.toCore) :
    Runs A s₀ (fun res => Phase A s.toCore res.2.toCore ∧ ClientsKept s.toCore res.2.toCore)
      (remoteMuxServiceRemove plat sys s serviceName hostName port) := by
  refine lockRemoteList_runs.bind fun s₁ h₁ => ?_
  rw [← h₁] at hwf ⊢
  refine findRemote_runs.bind ?_
  rintro o (⟨rfl, _⟩ | ⟨r, y, rfl, _⟩)
  · exact ⟨Phase.refl, ClientsKept.refl⟩
  · refine (remoteMarkDead_moves hloss hreap.1 hreap.2 hwf).bind ?_
    rintro s₂ ⟨⟨hm, hset⟩, hkept⟩
    exact ⟨.of_reapDue hm hset, hkept⟩

end Service

/-! ## Connections of clients -/

section Forward

variable {A : Allow} {s₀ : Core} {s : Daemon} {plat : Platform} {sys : Sys} {c : ClientPtr}

/-- Whatever connection a request opens in this state is an allowed one. -/
def OpenAllowed (A : Allow) (sys : Sys) (s : Daemon) (c : ClientPtr) (k : UInt8)
    (state : RemoteState) : Prop :=
  ∀ y y', newRemoteFor sys s k = .ok (some y) → y'.isUnix = y.isUnix → y'.state = state →
    A.openOk s.toCore c k y'

theorem setRemote_emit_addRemote {s : Core} {x : MuxClient} {y y' : RemoteMux}
    {acts : List Act} :
    (((s.setClient c x).addRemote y).emit acts).setRemote ⟨s.nextRemote⟩ y' =
      ((s.setClient c x).addRemote y').emit acts := by
  simp [Core.setClient, Core.addRemote, Core.emit, Core.setRemote]

theorem linkNewRemote_runs {y : RemoteMux} :
    Runs A s₀ (fun p => ∃ x, s.clients c = some x ∧ p.1 = ⟨s.nextRemote⟩ ∧
      p.2.toCore = ((s.toCore.setClient c
        { x with remote := some ⟨s.nextRemote⟩ }).addRemote y).emit
        [.openRemote c ⟨s.nextRemote⟩ y.state]) (linkNewRemote s c y) := by
  refine modifyClient_runs.bind ?_
  rintro s₁ ⟨x, hx, rfl⟩
  exact ⟨x, hx, rfl, rfl⟩

theorem remotes_linkNewRemote {s : Core} {x : MuxClient} {y : RemoteMux} {acts : List Act} :
    (((s.setClient c x).addRemote y).emit acts).remotes ⟨s.nextRemote⟩ = some y :=
  if_pos rfl

/-- The state in which a new remote has its first packet. -/
theorem setRemote_linkNewRemote {s : Core} {x : MuxClient} {y y' : RemoteMux} {a : Act}
    {acts : List Act} :
    ((((s.setClient c x).addRemote y).emit [a]).setRemote ⟨s.nextRemote⟩ y').emit acts =
      ((s.setClient c x).addRemote y').emit (a :: acts) := by
  simp [Core.setClient, Core.addRemote, Core.emit, Core.setRemote]

/-- The client may be written once more after its remote was made. -/
theorem setClient_linkNewRemote {s : Core} {x x' : MuxClient} {y : RemoteMux}
    {acts : List Act} :
    (((s.setClient c x).addRemote y).emit acts).setClient c x' =
      ((s.setClient c x').addRemote y).emit acts := by
  simp [Core.setClient, Core.addRemote, Core.emit]

/-- `usbmux_remote_connect` makes its connection, or nothing happens. -/
theorem usbmuxRemoteConnect_runs {deviceId : UInt32} {req : Plist} :
    Runs A s₀ (fun res : Int × Daemon => (res.1 < 0 ∧ res.2.toCore = s.toCore) ∨
      (res.1 = 0 ∧ ∃ x y y₀ acts, s.clients c = some x ∧
        newRemoteFor sys s (deviceId >>> 24).toUInt8 = .ok (some y₀) ∧
        (y.isUnix = y₀.isUnix ∧ sys.connect = some y.fd) ∧
        EndpointFor s.toCore (deviceId >>> 24).toUInt8 y ∧ NewConnection y ∧
        ConnectRemote c (deviceId >>> 24).toUInt8 y ∧
        FirstPacket (Loss plat sys) ⟨s.nextRemote⟩
          (fun p => ∃ xml, p = .plist (forwardedConnect deviceId req) xml) y acts ∧
        res.2.toCore = ((s.toCore.setClient c
          { x with remote := some ⟨s.nextRemote⟩ }).addRemote y).emit
          (.openRemote c ⟨s.nextRemote⟩ .connecting1 :: acts)))
      (usbmuxRemoteConnect plat sys s deviceId req c) := by
  refine lockRemoteList_runs.bind ?_
  rintro ⟨core, locked, locked'⟩ h₁
  obtain rfl : core = s.toCore := h₁
  refine (newRemoteFor_runs.withEq).bind ?_
  rintro (_ | y₀) ⟨hfresh, hnew⟩
  · exact Or.inl ⟨Int.negSucc_lt_zero 0, rfl⟩
  · obtain ⟨hfresh, hend⟩ := hfresh y₀ rfl
    refine linkNewRemote_runs.bind ?_
    rintro ⟨r, s₁⟩ ⟨x, hx, hr, h₁⟩
    obtain rfl : r = ⟨s.nextRemote⟩ := hr
    refine remoteSendPlistPkt_runs.bind ?_
    rintro ⟨res, s₂⟩ h₂
    have hy₁ : s₁.remotes ⟨s.nextRemote⟩ = some { y₀ with
        id := (deviceId >>> 24).toUInt8, state := .connecting1, client := some c } := by
      rw [show s₁.toCore = _ from h₁]
      exact remotes_linkNewRemote
    obtain ⟨ob, e, acts, hfirst, heq, _⟩ := h₂.first hy₁ hfresh.output hfresh.events
    refine Or.inr ⟨rfl, x, _, y₀, acts, hx, ?_, ?_, ?_, ?_, ?_, hfirst, heq.trans ?_⟩
    · rw [← hnew]
      exact newRemoteFor_congr rfl rfl
    · exact ⟨rfl, newRemoteFor_fd (y := y₀) hnew⟩
    · exact hend
    · exact ⟨hfresh.isListener, hfresh.input⟩
    · exact ⟨rfl, rfl, rfl, hfresh.lastCommand⟩
    · rw [toCore_unlockRemoteList, show s₁.toCore = _ from h₁]
      exact setRemote_linkNewRemote

/-- The common part of the other four requests makes a connection, or
nothing happens. -/
theorem forwardRequest_runs {k : UInt8} {tag : UInt32} {cmd : RemoteCommand}
    {msg : Except Fault Plist} (hloss : Loss plat sys → A.lossOk) (hcmd : cmd ≠ .listen)
    (hmsg : ∀ f, msg = .error f → f = .nullString) (hc : Commanding c s.toCore)
    (hopen : OpenAllowed A sys s c k .command) (hfd : MayConnect A sys s.toCore) :
    Runs A s₀ (fun res => Moves A s.toCore res.2.toCore)
      (forwardRequest plat sys s k tag cmd msg c) := by
  obtain ⟨x₀, hx₀, hstate, _⟩ := hc
  refine (newRemoteFor_runs.withEq).bind ?_
  rintro (_ | y₀) ⟨hfresh, hnew⟩
  · exact Moves.refl
  · obtain ⟨hfresh, hend⟩ := hfresh y₀ rfl
    refine linkNewRemote_runs.bind ?_
    rintro ⟨r, s₁⟩ ⟨x, hx, hr, h₁⟩
    obtain rfl : r = ⟨s.nextRemote⟩ := hr
    rw [hfresh.state] at h₁
    cases hx₀.symm.trans hx
    have hmsg' : Runs A s₀ (fun _ => True) msg :=
      Post.intro (fun _ _ => trivial) fun f hf => Blame.of_faultAt (by rw [hmsg f hf]; trivial)
    refine hmsg'.bind fun p _ => ?_
    refine remoteSendPlistPkt_runs.bind ?_
    rintro ⟨res, s₂⟩ h₂
    have hy₁ : s₁.remotes ⟨s.nextRemote⟩ = some y₀ := by
      rw [show s₁.toCore = _ from h₁]
      exact remotes_linkNewRemote
    obtain ⟨ob, e, acts, hfirst, heq, hres⟩ := h₂.first hy₁ hfresh.output hfresh.events
    rw [toCore_unlockRemoteList, show s₁.toCore = _ from h₁, setRemote_linkNewRemote] at heq
    have hfirst' : ∀ y' : RemoteMux, y'.ob = ob → y'.events = e →
        FirstPacket A.lossOk ⟨s.nextRemote⟩ (fun _ => True) y' acts :=
      fun y' hy' he => hfirst.imp hloss (fun _ _ => trivial) hy' he
    show Runs A s₀ _ (if 0 < res then _ else _)
    split
    · next hpos =>
      have hacts : acts ≠ [] := by
        rcases hres with ⟨_, hacts⟩ | ⟨hneg, _⟩
        · exact hacts
        · omega
      refine modifyRemote_runs.bind ?_
      rintro s₃ ⟨y', hy', rfl⟩
      have hself : s₂.remotes ⟨s.nextRemote⟩ = some { y₀ with ob := ob, events := e } := by
        rw [show s₂.toCore = _ from heq]
        exact remotes_linkNewRemote
      cases hself.symm.trans hy'
      let y₁ : RemoteMux := { y₀ with
        ob := ob, events := e, lastCommand := some cmd, client := some c }
      show Moves A s.toCore (s₂.toCore.setRemote _ y₁)
      rw [show s₂.toCore = _ from heq, setRemote_emit_addRemote]
      have hend₁ : EndpointFor s.toCore k y₁ := hend
      have hkind : RequestRemote A.lossOk c y₁ :=
        ⟨hfresh.state, hfresh.id, Or.inl ⟨rfl, cmd, hcmd, rfl⟩⟩
      have hqueued : y₁.lastCommand = none ↔ acts = [] :=
        iff_of_false (Option.some_ne_none _) hacts
      exact (Move.request hx hstate hend₁ ⟨hfresh.isListener, hfresh.input⟩ hkind
        (hfirst' y₁ rfl rfl) (hopen y₀ y₁ hnew rfl hfresh.state)
        (hfd _ _ (newRemoteFor_fd (y := y₀) hnew) rfl) hqueued).single
    · next hneg =>
        show Moves A s.toCore s₂.toCore
        rw [show s₂.toCore = _ from heq]
        obtain ⟨_, hacts, hl⟩ := hres.resolve_left fun h => hneg h.1
        let y₁ : RemoteMux := { y₀ with ob := ob, events := e }
        have hend₁ : EndpointFor s.toCore k y₁ := hend
        have hkind : RequestRemote A.lossOk c y₁ :=
          ⟨hfresh.state, hfresh.id, Or.inr ⟨hloss hl, hfresh.client, hfresh.lastCommand⟩⟩
        exact (Move.request hx hstate hend₁ ⟨hfresh.isListener, hfresh.input⟩ hkind
          (hfirst' y₁ rfl rfl) (hopen y₀ y₁ hnew rfl hfresh.state)
          (hfd _ _ (newRemoteFor_fd (y := y₀) hnew) rfl)
          (iff_of_true hfresh.lastCommand hacts)).single

end Forward

end Usbfluxd
