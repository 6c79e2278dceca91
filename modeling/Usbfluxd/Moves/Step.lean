import Usbfluxd.Moves.Handle

/-!
# Every event is a phase of moves

The last functions of the source, `usbmux_remote_process` with its reap loop
and `usbmux_remote_get_fds`, and with them the refinement the other modules
build on: a step of the daemon is a phase of moves (`step_phase`), provided
the moves it may want are allowed (`Allows`). With `reachable_inv` a property
of all reachable states is then proved for the initial states and for one
move at a time.
-/

namespace Usbfluxd

open Lib

/-! ## Events on a remote -/

/-- The event may close a remote: its relay fails, or its send does. -/
def Closes (events : PollEvents) (sys : Sys) (y : RemoteMux) : Prop :=
  y.state = .connected ∨ (events.pollin = false ∧ events.pollout = true ∧ y.ob.size ≠ 0 ∧
    sendFrom sys y.ob = none)

/-- What an event on a descriptor may do to a remote that has it. -/
structure RemoteEventOk (A : Allow) (plat : Platform) (sys : Sys) (s : Core)
    (events : PollEvents) (r : RemotePtr) (y : RemoteMux) : Prop where
  close : ∀ t, Closes events sys y →
    (∀ r' y', t.remotes r' = some y' → s.remotes r' = some y') → A.closeOk t r y
  dispose : ∀ t, events = { pollnval := true } →
    (∀ r' y', t.remotes r' = some y' → s.remotes r' = some y') → A.disposeOk t r y
  forward : events.pollin = true → MayForward A plat sys s y
  binary : events.pollin = true → BinaryAdd plat sys y → A.binaryOk

section Remote

variable {A : Allow} {s : Daemon} {plat : Platform} {sys : Sys} {fd : Nat}
  {events : PollEvents}

/-- The loop that finds the remote of a descriptor leaves no dead one. -/
theorem reapLoop_runs (hloss : Loss plat sys → A.lossOk) (hreap : A.reapOk)
    (hwf : WF s.toCore)
    (hok : ∀ t r y, s.remotes r = some y → y.fd = fd → y.state ≠ .dead →
      events = { pollnval := true } →
      (∀ r' y', t.remotes r' = some y' → s.remotes r' = some y') → A.disposeOk t r y) :
    Runs A s.toCore (fun p => Reaping A s.toCore [] p.1.toCore ∧
      ∀ r, p.2 = some r → events ≠ { pollnval := true } ∧
        ∃ y, p.1.remotes r = some y ∧ y.fd = fd ∧ y.state ≠ .dead)
      (reapLoop plat sys fd events s) := by
  refine lockRemoteList_runs.bind ?_
  rintro ⟨core, locked, locked'⟩ h₁
  obtain rfl : core = s.toCore := h₁
  refine Runs.bind (slotLoop_post (P := fun idx (acc : Daemon × Option RemotePtr) =>
    Reaping A s.toCore idx acc.1.toCore ∧
      ∀ r, acc.2 = some r → events ≠ { pollnval := true } ∧
        ∃ y, acc.1.remotes r = some y ∧ y.fd = fd ∧ y.state ≠ .dead) ?_ ?_ ?_)
    fun _ h => Runs.pure h
  · rintro ⟨t, found⟩ i rest ⟨hreaping, hfound⟩ hi
    exact ⟨hreaping.skip hi, hfound⟩
  · rintro ⟨t, found⟩ i rest rm ⟨hreaping, hfound⟩ hi
    refine remote_runs.bind fun x hx => ?_
    refine Runs.ite (fun hdead => ?_) fun hlive => ?_
    · refine (usbmuxRemoteDispose_runs hloss).bind ?_
      rintro t' ⟨x', hd⟩
      cases hx.symm.trans hd.1
      refine ⟨hreaping.dispose hi hd fun _ _ => Or.inl ⟨hdead, hreap⟩, fun r hr => ?_⟩
      obtain ⟨hev, y, hy, hfd, hstate⟩ := hfound r hr
      refine ⟨hev, y, ?_, hfd, hstate⟩
      rw [hd.remotes, if_neg ?_]
      · exact hy
      · rintro rfl
        cases hx.symm.trans hy
        exact hstate hdead
    · refine Runs.ite (fun hfd => ?_) fun _ => ⟨hreaping.keep hi hx hlive, hfound⟩
      refine Runs.ite (fun hnval => ?_) fun hnval => ?_
      · refine (usbmuxRemoteDispose_runs hloss).bind ?_
        rintro t' ⟨x', hd⟩
        cases hx.symm.trans hd.1
        refine ⟨hreaping.dispose hi hd fun u hu => Or.inr ?_, fun r hr => by cases hr⟩
        refine hok u rm x (hreaping.sub hx) hfd hlive hnval fun r' y' hy' => ?_
        rw [hu.remotes] at hy'
        exact hreaping.sub hy'
      · refine ⟨hreaping.keep hi hx hlive, fun r hr => ?_⟩
        cases hr
        exact ⟨hnval, x, hx, hfd, hlive⟩
  · exact ⟨.start hwf, fun r hr => by cases hr⟩

theorem remoteProcessFound_handled {r : RemotePtr} {y : RemoteMux}
    (hloss : Loss plat sys → A.lossOk) (hreap : A.reapOk ∧ A.killOk) (hserves : A.Serves)
    (hwf : WF s.toCore) (hy : s.remotes r = some y) (hlive : y.state ≠ .dead)
    (hok : RemoteEventOk A plat sys s.toCore events r y) :
    Runs A s.toCore (fun s' => Handled A s.toCore s'.toCore)
      (remoteProcessFound plat sys s r events) := by
  refine remote_runs.bind fun y' hy' => ?_
  cases hy.symm.trans hy'
  have hclose : Closes events sys y → A.noKill.closeOk s.toCore r y :=
    fun hd => hok.close s.toCore hd fun _ _ h => h
  have hserves' : A.noKill.Serves := ⟨hserves.remote, hserves.leave⟩
  refine Runs.ite (fun hconn => ?_) fun hconn => ?_
  · refine Runs.of_noKill ((remoteConnectedProcess_moves hserves' hy hconn
      (hclose (Or.inl hconn))).imp fun _ hm => Or.inl hm)
  refine Runs.ite (fun hin => ?_) fun hin => ?_
  · refine Runs.ite (fun hconn2 => ?_) fun _ => ?_
    · refine modifyRemote_runs.bind ?_
      rintro s₁ ⟨y', hy', rfl⟩
      cases hy.symm.trans hy'
      exact Or.inl (Move.remote hy (.connected2 hconn2 rfl) (Or.inr hserves'.remote)).single
    · exact remoteProcessRecv_handled hloss hreap hserves hwf hy ⟨hconn, hlive⟩
        (hok.binary hin) (hok.forward hin)
  · refine Runs.ite (fun hout => ?_) fun _ => Or.inl Moves.refl
    refine Runs.of_noKill ((remoteProcessSend_moves hserves'
      fun y' hy' hsize hsend => ?_).imp fun _ hm => Or.inl hm)
    cases hy.symm.trans hy'
    rw [Bool.not_eq_true] at hin
    exact hclose (Or.inr ⟨hin, hout, hsize, hsend⟩)

/-- An event on a remote: first all the dead are disposed of, then the remote
is served. -/
theorem usbmuxRemoteProcess_runs (hloss : Loss plat sys → A.lossOk)
    (hreap : A.reapOk ∧ A.killOk) (hserves : A.Serves) (hwf : WF s.toCore)
    (hok : ∀ r y, s.remotes r = some y → y.fd = fd → y.state ≠ .dead →
      RemoteEventOk A plat sys s.toCore events r y) :
    Runs A s.toCore (fun s' => ∃ t, Moves A s.toCore t ∧
        (∀ r y, t.remotes r = some y → y.state ≠ .dead) ∧ Handled A t s'.toCore)
      (usbmuxRemoteProcess plat sys s fd events) := by
  refine (reapLoop_runs hloss hreap.1 hwf fun t r y hy hfd hlive hnval =>
    (hok r y hy hfd hlive).dispose t hnval).bind ?_
  rintro ⟨s₁, found⟩ ⟨hreaping, hfound⟩
  have hlive : ∀ r y, s₁.remotes r = some y → y.state ≠ .dead := fun _ _ hy => hreaping.done hy
  cases found with
  | none => exact ⟨s₁.toCore, hreaping.moves, hlive, Or.inl Moves.refl⟩
  | some r =>
      obtain ⟨_, y, hy, hfd, hstate⟩ := hfound r rfl
      have hok₁ := hok r y (hreaping.sub hy) hfd hstate
      refine Runs.after hreaping.moves ((remoteProcessFound_handled hloss hreap hserves hreaping.wf
        hy hstate ⟨fun t hd hsub => ?_, fun t hd hsub => ?_, fun hin c x hreply hx => ?_,
          hok₁.binary⟩).imp fun _ h => ⟨s₁.toCore, hreaping.moves, hlive, h⟩)
      · exact hok₁.close t hd fun r' y' hy' => hreaping.sub (hsub r' y' hy')
      · exact hok₁.dispose t hd fun r' y' hy' => hreaping.sub (hsub r' y' hy')
      · obtain ⟨x₀, ob, e, hx₀, rfl⟩ := hreaping.clientsKept c x hx
        exact hok₁.forward hin c x₀ hreply hx₀

theorem Handled.moves {s s' : Core} (h : Handled A s s') : Moves A s s' :=
  h.elim Moves.of_noKill And.left

theorem usbmuxRemoteGetFds_moves {now : Nat} {s₀ : Core} :
    Runs A s₀ (fun s' => Moves A s.toCore s'.toCore) (usbmuxRemoteGetFds s now) := by
  refine lockRemoteList_runs.bind ?_
  rintro ⟨core, locked, locked'⟩ h₁
  obtain rfl : core = s.toCore := h₁
  refine Runs.bind (slotLoop_post (P := fun _ (t : Daemon) => Moves A s.toCore t.toCore)
    (fun h _ => h) ?_ Moves.refl) fun _ h => Runs.pure h
  rintro t i rest r hm _
  refine remote_runs.bind fun x _ => ?_
  refine Runs.ite (fun _ => ?_) fun _ => hm
  refine modifyRemote_runs.imp ?_
  rintro t' ⟨y, hy, rfl⟩
  have hactive : Move A t.toCore (t.toCore.setRemote r { y with lastActive := now }) :=
    Move.remote_quiet hy .active (Or.inl ⟨rfl, id, rfl⟩)
  exact hm.trans hactive.single

end Remote

/-! ## Steps -/

/-- The moves an event may want are allowed. -/
def Allows (A : Allow) (plat : Platform) (s : Daemon) : Event → Prop
  | .client fd revents sys => (Loss plat sys → A.lossOk) ∧
      ((A.reapOk ∧ A.killOk) ∧ A.growOk ∧ MayConnect A sys s.toCore ∧ ∀ c x,
        s.clients c = some x → x.fd = fd → MayLeave A plat sys s.toCore revents c x) ∧
      ∀ c x, s.clients c = some x → x.fd = fd → revents.pollin = true →
        MayOpen A plat sys s c x
  | .remote fd revents sys => (Loss plat sys → A.lossOk) ∧
      ((A.reapOk ∧ A.killOk) ∧ A.Serves) ∧
      ∀ r y, s.remotes r = some y → y.fd = fd → y.state ≠ .dead →
        RemoteEventOk A plat sys s.toCore revents r y
  | .addRemote _ _ sys => A.growOk ∧ MayConnect A sys s.toCore
  | .mdnsAdd serviceName hostName _ sys =>
      (A.growOk ∧ MayConnect A sys s.toCore) ∧ (serviceName = hostName ∨ A.namedOk)
  | .mdnsRemove _ sys => (Loss plat sys → A.lossOk) ∧ A.reapOk ∧ A.killOk
  | .accept cfd => ∀ fd, cfd = some fd → A.acceptOk s.toCore fd
  | .getFds _ => True

section Step

variable {A : Allow} {plat : Platform} {s s' : Daemon} {e : Event}

theorem clientAccept_moves {cfd : Option Nat} {s₀ : Core}
    (hfd : ∀ fd, cfd = some fd → A.acceptOk s.toCore fd) :
    Runs A s₀ (fun s' => Moves A s.toCore s'.toCore) (clientAccept s cfd) := by
  cases cfd with
  | none => exact Moves.refl
  | some fd =>
      refine lockClientList_runs.bind ?_
      rintro ⟨core, locked, locked'⟩ h₁
      obtain rfl : core = s.toCore := h₁
      exact (Move.accept (hfd fd rfl)).single

/-- A step of the daemon is a chain of moves. -/
theorem step_runs (hwf : WF s.toCore) (h : Allows A plat s e) :
    Runs A s.toCore (fun s' => Moves A s.toCore s'.toCore) (step plat s e) := by
  cases e with
  | accept cfd => exact clientAccept_moves h
  | client fd revents sys =>
      obtain ⟨hloss, ⟨hreap, hgrow, hfds, hleave⟩, hopen⟩ := h
      exact (clientProcess_phase hloss hreap hgrow hwf hopen hfds hleave).imp
        fun _ hp => hp.moves
  | remote fd revents sys =>
      obtain ⟨hloss, ⟨hreap, hserves⟩, hok⟩ := h
      refine (usbmuxRemoteProcess_runs hloss hreap hserves hwf hok).imp ?_
      rintro s' ⟨t, hm, _, hserved⟩
      exact hm.trans hserved.moves
  | getFds now => exact usbmuxRemoteGetFds_moves
  | addRemote hostName port sys =>
      exact Runs.bind (remoteMuxServiceAdd_moves h.1 (Or.inl rfl) h.2) fun _ hm => hm
  | mdnsAdd serviceName hostName port sys =>
      exact Runs.bind (remoteMuxServiceAdd_moves h.1.1 h.2 h.1.2) fun _ hm => hm
  | mdnsRemove serviceName sys =>
      obtain ⟨hloss, hreap⟩ := h
      exact (remoteMuxServiceRemove_phase hloss hreap hwf).bind fun _ hp => hp.1.moves

theorem step_moves (hwf : WF s.toCore) (h : Allows A plat s e)
    (hs : step plat s e = .ok s') : Moves A s.toCore s'.toCore :=
  (step_runs hwf h).of_ok hs

/-- No allocation and no conversion to XML fails while the event is handled. -/
def Event.lossless (plat : Platform) : Event → Prop
  | .client _ _ sys | .remote _ _ sys | .addRemote _ _ sys | .mdnsAdd _ _ _ sys
  | .mdnsRemove _ sys => ¬ Loss plat sys
  | .accept _ | .getFds _ => True

/-- What does not depend on the object a move is about is allowed, names and
losses aside. -/
structure Allow.Plain (A : Allow) : Prop where
  reap : A.reapOk ∧ A.killOk
  grow : A.growOk
  serves : A.Serves
  accept : ∀ s fd, A.acceptOk s fd
  remoteFd : ∀ s fd, A.remoteFdOk s fd

/-- The other fields may be anything. -/
theorem Allow.Plain.of_all {openOk : Core → ClientPtr → UInt8 → RemoteMux → Prop}
    {closeOk disposeOk : Core → RemotePtr → RemoteMux → Prop} {forwardOk : ClientState → Prop}
    {lossOk binaryOk namedOk : Prop} :
    Allow.Plain { Allow.all with
      openOk := openOk, closeOk := closeOk, disposeOk := disposeOk, forwardOk := forwardOk,
      lossOk := lossOk, binaryOk := binaryOk, namedOk := namedOk } :=
  ⟨⟨trivial, trivial⟩, trivial, ⟨trivial, fun _ _ _ => trivial⟩, fun _ _ => trivial,
    fun _ _ => trivial⟩

/-- What is left to show for a restriction of losses, names or single
objects. -/
theorem allows_of (hplain : A.Plain) (hloss : ¬ e.lossless plat → A.lossOk)
    (hnamed : ∀ {serviceName hostName port sys},
      e = .mdnsAdd serviceName hostName port sys → serviceName = hostName ∨ A.namedOk)
    (hopen : ∀ {fd revents sys c x}, e = .client fd revents sys → s.clients c = some x →
      x.fd = fd → revents.pollin = true → MayOpen A plat sys s c x)
    (hevent : ∀ {fd revents sys r y}, e = .remote fd revents sys → s.remotes r = some y →
      y.fd = fd → y.state ≠ .dead → RemoteEventOk A plat sys s.toCore revents r y) :
    Allows A plat s e := by
  cases e with
  | accept cfd => exact fun fd _ => hplain.accept _ fd
  | client fd revents sys =>
      exact ⟨fun hl => hloss (not_not.mpr hl),
        ⟨hplain.reap, hplain.grow, fun _ fd _ _ => hplain.remoteFd _ fd,
          fun c _ _ _ t x' _ _ _ => hplain.serves.leave t c x'⟩,
        fun c x hx hfd hin => hopen rfl hx hfd hin⟩
  | remote fd revents sys =>
      exact ⟨fun hl => hloss (not_not.mpr hl), ⟨hplain.reap, hplain.serves⟩,
        fun r y hy hfd hlive => hevent rfl hy hfd hlive⟩
  | getFds => exact trivial
  | addRemote hostName port sys =>
      exact ⟨hplain.grow, fun _ fd _ _ => hplain.remoteFd _ fd⟩
  | mdnsAdd serviceName hostName port sys =>
      exact ⟨⟨hplain.grow, fun _ fd _ _ => hplain.remoteFd _ fd⟩, hnamed rfl⟩
  | mdnsRemove serviceName sys => exact ⟨fun hl => hloss (not_not.mpr hl), hplain.reap⟩

/-- With nothing forbidden every event is allowed. -/
theorem allows_all : Allows Allow.all plat s e :=
  allows_of .of_all
    (fun _ => trivial) (fun _ => Or.inr trivial)
    (fun _ _ _ _ _ _ _ _ _ _ _ _ _ _ => trivial)
    fun _ _ _ _ => ⟨fun _ _ _ => trivial, fun _ _ _ => trivial, fun _ _ _ _ _ => trivial,
      fun _ _ => trivial⟩

/-- Nothing is forbidden but losses. -/
def Allow.lossless : Allow := { Allow.all with lossOk := False }

theorem allows_lossless (h : e.lossless plat) : Allows Allow.lossless plat s e :=
  allows_of .of_all
    (fun hn => hn h) (fun _ => Or.inr trivial)
    (fun _ _ _ _ _ _ _ _ _ _ _ _ _ _ => trivial)
    fun _ _ _ _ => ⟨fun _ _ _ => trivial, fun _ _ _ => trivial, fun _ _ _ _ _ => trivial,
      fun _ _ => trivial⟩

end Step

/-! ## Reachable states -/

/-- What `usbmux_remote_init` makes of the renamed socket. -/
structure LocalListener (y : RemoteMux) : Prop where
  isListener : y.isListener = true
  isUnix : y.isUnix = true
  host : y.host = none
  id : y.id = 0
  state : y.state = .command
  client : y.client = none
  lastCommand : y.lastCommand = none ∨ y.lastCommand = some .listen
  input : y.ib.data = []

/-- The states a run starts in. -/
inductive Initial : Core → Prop where
  | empty : Initial emptyDaemon.toCore
  | listener {y : RemoteMux} {acts : List Act} (hy : LocalListener y)
      (hacts : FirstPacket True ⟨0⟩ (fun _ => True) y acts) :
      Initial ({ emptyDaemon.toCore.addRemote y with
        remoteIdMap := setRemoteIdUsed (fun _ => 0) 0 true }.emit acts)

theorem usbmuxRemoteInit_initial {plat : Platform} {sys : Sys} {s : Daemon}
    (h : usbmuxRemoteInit plat sys = .ok s) : Initial s.toCore := by
  have hrun : Runs Allow.all emptyDaemon.toCore (fun s : Daemon => Initial s.toCore)
      (usbmuxRemoteInit plat sys) := by
    rw [usbmuxRemoteInit]
    split
    · exact Initial.empty
    · next y hy =>
        obtain ⟨hfresh, hunix, hhost⟩ := freshRemote_unixSocket hy
        refine lockRemoteList_runs.bind ?_
        rintro ⟨core, locked, locked'⟩ h₁
        obtain rfl : core = emptyDaemon.toCore := h₁
        let y₁ : RemoteMux := { y with id := 0, isListener := true }
        have hob : y₁.ob.data = [] := hfresh.output
        have hself : (emptyDaemon.toCore.addRemote y₁).remotes ⟨0⟩ = some y₁ :=
          Core.remotes_addRemote.trans (if_pos rfl)
        refine (remoteSendListenPacket_runs hself hob hfresh.events).bind ?_
        rintro ⟨res, s₂⟩ ⟨ob, e, cmd, acts, hfirst, hcmd, heq⟩
        have hlocal : LocalListener { y₁ with ob := ob, events := e, lastCommand := cmd } :=
          ⟨rfl, hunix, hhost, rfl, hfresh.state, hfresh.client,
            hcmd.imp (fun h => h.trans hfresh.lastCommand) id, hfresh.input⟩
        show Initial s₂.toCore
        rw [show s₂.toCore = _ from heq]
        have hinit := Initial.listener hlocal hfirst
        rw [← Core.setRemote_addListener (y := y₁)] at hinit
        exact hinit
  exact hrun.of_ok h

theorem WF.initial {s : Core} (h : Initial s) : WF s := by
  have hempty : WF emptyDaemon.toCore := by
    refine ⟨fun c => ?_, fun r => ?_, ?_, ?_, fun c hc => ?_, fun r hr => ?_⟩
    · show c ∈ Collection.init.elems ↔ _
      rw [Collection.elems_init]
      simp [emptyDaemon]
    · show r ∈ Collection.init.elems ↔ _
      rw [Collection.elems_init]
      simp [emptyDaemon]
    · exact List.nodup_nil
    · exact List.nodup_nil
    · cases hc
    · cases hr
  cases h with
  | empty => exact hempty
  | listener => exact (hempty.addRemote).congr rfl rfl rfl rfl (fun _ => rfl) fun _ => rfl

section Reach

variable {A : Allow} {plat : Platform} {C : Daemon → Event → Prop} {P : Core → Prop}

/-- The invariant rule for moves: what holds initially and is kept by every
move of an allowed event holds in every reachable state. -/
theorem reachable_inv (hinit : ∀ {s}, Initial s → P s)
    (hallow : ∀ {s : Daemon} {e}, WF s.toCore → P s.toCore → C s e → Allows A plat s e)
    (hmove : ∀ {s s'}, WF s → Move A s s' → P s → P s')
    {s : Daemon} (h : ReachableBy plat C s) : WF s.toCore ∧ P s.toCore := by
  refine reachableBy_inv (P := fun s => WF s.toCore ∧ P s.toCore) (fun h₀ => ?_) ?_ h
  · have h₁ := usbmuxRemoteInit_initial h₀
    exact ⟨.initial h₁, hinit h₁⟩
  · rintro s s' e ⟨hwf, hP⟩ hC hs
    have hm := step_moves hwf (hallow hwf hP hC) hs
    exact invariant_of_step (R := Move A) (P := fun s => WF s ∧ P s)
      (fun hm hs => ⟨WF.move hm hs.1, hmove hs.1 hm hs.2⟩) hm ⟨hwf, hP⟩

theorem reachable_wf {s : Daemon} (h : Reachable plat s) : WF s.toCore :=
  (reachable_inv (A := .all) (P := fun _ => True) (fun _ => trivial) (fun _ _ _ => allows_all)
    (fun _ _ _ => trivial) h).1

end Reach

end Usbfluxd
