import Usbfluxd.Proofs.MainLoop

/-!
# Dead remotes and the remote that is to wake the loop

`remote_mark_dead` does not dispose of the remotes it kills as long as one is
alive: it sets `POLLOUT` on the first live one, and the reap loop runs with
that one's next event. Until then the wake-up is a bit in one event mask, and
nothing sets it again when the remote goes away first.

Remotes have events of their own only after the reap loop has run, so the one
thing that takes the bit away is `client_close`, which takes the client's
remote with it. That is harmless as long as another remote polls for output,
or as long as an event of some remote is still to be handled in the iteration.
In a run without any other case the wake-up is never lost, and there are runs
in which it is: the client of the remote that was woken up disconnects in the
iteration in which the service of the other remote is withdrawn.
-/

namespace Usbfluxd

open Lib

/-- A dead remote in the list has a live one beside it that polls for output. -/
def WakesReaper (s : Core) : Prop :=
  (∃ r ∈ s.remoteList.elems, ∃ y, s.remotes r = some y ∧ y.state = .dead) →
    ∃ r ∈ s.remoteList.elems, ∃ y, s.remotes r = some y ∧ y.state ≠ .dead ∧
      y.events.pollout = true

/-- The client's remote is the only live one that polls for output, and
another one is dead. -/
def OnlyWake (s : Core) (x : MuxClient) : Prop :=
  ∃ r, x.remote = some r ∧ (∃ r' y', r' ≠ r ∧ s.remotes r' = some y' ∧ y'.state = .dead) ∧
    ∀ r' y', s.remotes r' = some y' → y'.state ≠ .dead → y'.events.pollout = true → r' = r

/-- An event of a remote is still to be handled. -/
def RemotePending (ps : List PollFd) : Prop :=
  ∃ p ∈ ps, p.revents ≠ {} ∧ ∃ r, p.owner = .remote r

/-- The client of the only remote that polls for output is closed while a
remote is dead, and no remote's event follows in this iteration. -/
def LosesWake (plat : Platform) (L : LoopState) : LoopEvent → Prop
  | .dispatch _ sys => ∃ p rest, L.fds = p :: rest ∧ p.revents ≠ {} ∧
      (∃ c₀, p.owner = .client c₀) ∧ ¬ RemotePending rest ∧
      ∃ c x, L.daemon.clients c = some x ∧ x.fd = p.fd ∧
        Leaving plat sys L.daemon.toCore p.revents c x ∧ OnlyWake L.daemon.toCore x
  | _ => False

/-! ## Moves that keep the wake-up -/

section Due

variable {A : Allow} {s s' : Core} {r : RemotePtr} {y y' : RemoteMux}

theorem ReapDue.of_remotes (h : ReapDue s) (heq : s'.remotes = s.remotes) : ReapDue s' := by
  intro r y hy hdead
  rw [heq] at hy
  obtain ⟨r', z, hz, hz'⟩ := h r y hy hdead
  exact ⟨r', z, by rw [heq, hz], hz'⟩

theorem ReapDue.setRemote (h : ReapDue s) (hy : s.remotes r = some y) (hw : y.StillWakes y') :
    ReapDue (s.setRemote r y') := by
  intro r₁ y₁ hy₁ hdead
  obtain ⟨y₀, hy₀, hdead₀⟩ : ∃ y₀, s.remotes r₁ = some y₀ ∧ y₀.state = .dead := by
    rw [Core.remotes_setRemote] at hy₁
    split at hy₁
    · next heq =>
        cases hy₁
        exact ⟨y, heq ▸ hy, hw.state.symm.trans hdead⟩
    · exact ⟨y₁, hy₁, hdead⟩
  obtain ⟨r₂, z, hz, hlive, hout⟩ := h r₁ y₀ hy₀ hdead₀
  by_cases hr : r₂ = r
  · subst hr
    cases hy.symm.trans hz
    refine ⟨r₂, y', ?_, ?_, hw.pollout hout⟩
    · rw [Core.remotes_setRemote, if_pos rfl]
    · rw [hw.state]
      exact hlive
  · refine ⟨r₂, z, ?_, hlive, hout⟩
    rw [Core.remotes_setRemote, if_neg hr, hz]

theorem ReapDue.addRemote (h : ReapDue s) (hwf : WF s) (hlive : y.state ≠ .dead) :
    ReapDue (s.addRemote y) := by
  intro r y₁ hy₁ hdead
  rcases Core.remotes_addRemote_cases hy₁ with ⟨_, rfl⟩ | hy₁
  · exact absurd hdead hlive
  · obtain ⟨r', z, hz, hz'⟩ := h r y₁ hy₁ hdead
    refine ⟨r', z, ?_, hz'⟩
    have hne : r' ≠ ⟨s.nextRemote⟩ := by
      intro heq
      have hlt := hwf.remoteFresh r' (by rw [hz]; rfl)
      rw [heq] at hlt
      exact absurd hlt (Nat.lt_irrefl _)
    rw [Core.remotes_addRemote, if_neg hne, hz]

/-- A client that is not the one whose remote is counted on may go. -/
theorem ReapDue.closeClient {c : ClientPtr} {x : MuxClient} (h : ReapDue s)
    (hx : ¬ OnlyWake s x) : ReapDue (s.closeClient c x) := by
  intro r y hy hdead
  rw [Core.remotes_closeClient] at hy
  split at hy
  · cases hy
  · next hne =>
    cases hremote : x.remote with
    | none =>
        obtain ⟨r', z, hz, hz'⟩ := h r y hy hdead
        refine ⟨r', z, ?_, hz'⟩
        rw [Core.remotes_closeClient, hremote, if_neg (fun heq => nomatch heq), hz]
    | some r₀ =>
        rw [hremote, Option.some_inj] at hne
        -- some other remote polls for output
        have hother : ∃ r' y', s.remotes r' = some y' ∧ y'.state ≠ .dead ∧
            y'.events.pollout = true ∧ r' ≠ r₀ := by
          by_contra hnone
          refine hx ⟨r₀, hremote, ⟨r, y, Ne.symm hne, hy, hdead⟩, fun r' y' hy' hlive hout => ?_⟩
          by_contra hr
          exact hnone ⟨r', y', hy', hlive, hout, hr⟩
        obtain ⟨r', z, hz, hlive, hout, hr⟩ := hother
        refine ⟨r', z, ?_, hlive, hout⟩
        rw [Core.remotes_closeClient, hremote, if_neg, hz]
        rw [Option.some_inj]
        exact Ne.symm hr

/-- No remote dies or leaves, but with a client that may leave. -/
structure Allow.KeepsWake (A : Allow) : Prop where
  remote : ¬ A.remoteOk
  kill : ¬ A.killOk
  reap : ¬ A.reapOk
  close : ∀ s r y, ¬ A.closeOk s r y
  dispose : ∀ s r y, ¬ A.disposeOk s r y
  leave : ∀ {s c x}, A.leaveOk s c x → ReapDue s → ReapDue (s.closeClient c x)

theorem ReapDue.move (hA : A.KeepsWake) (hwf : WF s) (hm : Move A s s') (h : ReapDue s) :
    ReapDue s' := by
  cases hm with
  | client | forward | accept => exact h.of_remotes rfl
  | remote hy _ hok => exact (h.setRemote hy (hok.resolve_right hA.remote)).of_remotes rfl
  | relayRead _ _ _ hy =>
      refine (h.setRemote hy ?_).of_remotes rfl
      exact ⟨rfl, fun _ => rfl, rfl⟩
  | relayWrite _ _ _ hy =>
      refine (h.setRemote hy ?_).of_remotes rfl
      exact ⟨rfl, id, rfl⟩
  | connect _ _ _ _ hkind =>
      refine (h.addRemote hwf ?_).of_remotes rfl
      rw [hkind.1]
      decide
  | request _ _ _ _ hkind =>
      refine (h.addRemote hwf ?_).of_remotes rfl
      rw [hkind.1]
      decide
  | addListener hnew =>
      refine (h.addRemote hwf ?_).of_remotes rfl
      rw [hnew.state]
      decide
  | notifyOk _ _ _ _ _ _ _ _ hok => exact absurd hok hA.remote
  | closeClient _ _ hok => exact hA.leave hok h
  | closeRemote _ _ hok => exact absurd hok (hA.close _ _ _)
  | dispose _ _ hwhy => exact (hwhy.elim (fun hd => hA.reap hd.2) (hA.dispose _ _ _)).elim
  | killId _ hok => exact absurd hok hA.kill
  | deviceSet _ hn => exact h.of_remotes hn.announces.same.remotes
  | deviceErase _ hn => exact h.of_remotes hn.announces.same.remotes
  | listen _ _ hsnap => exact h.of_remotes hsnap.announces.same.remotes

theorem ReapDue.moves (hA : A.KeepsWake) (hwf : WF s) (hm : Moves A s s') (h : ReapDue s) :
    ReapDue s' :=
  (invariant_of_step (R := Move A) (P := fun t => WF t ∧ ReapDue t)
    (fun hmove ht => ⟨ht.1.move hmove, ht.2.move hA ht.1 hmove⟩) hm ⟨hwf, h⟩).2

/-- What a client's event and the removal of a service may do. -/
def Allow.wake : Allow :=
  { Allow.all with
    closeOk := fun _ _ _ => False
    disposeOk := fun _ _ _ => False
    remoteOk := False
    leaveOk := fun s c x => ReapDue s → ReapDue (s.closeClient c x) }

theorem keepsWake_noKill : Allow.wake.noKill.KeepsWake where
  remote := id
  kill := id
  reap := id
  close _ _ _ := id
  dispose _ _ _ := id
  leave h := h

theorem keepsWake_calm : Allow.wake.calm.KeepsWake where
  remote := id
  kill := id
  reap := id
  close _ _ _ := id
  dispose _ _ _ := id
  leave h := h.elim

theorem ReapDue.phase (hwf : WF s) (hp : Phase .wake s s') (h : ReapDue s) : ReapDue s' := by
  rcases hp with hm | ⟨t, hkill, hdue, hcalm⟩
  · exact h.moves keepsWake_noKill hwf hm
  · exact hdue.moves keepsWake_calm (hwf.moves hkill) hcalm

end Due

/-! ## Events of remotes -/

section Alive

variable {A : Allow} {s s' : Core} {r : RemotePtr} {y y' : RemoteMux} {acts : List Act}

/-- No remote is dead. -/
def Alive (s : Core) : Prop := ∀ r y, s.remotes r = some y → y.state ≠ .dead

theorem Alive.reapDue (h : Alive s) : ReapDue s := fun r y hy hdead => absurd hdead (h r y hy)

theorem RemoteStep.alive (h : RemoteStep r y acts y') (hlive : y.state ≠ .dead) :
    y'.state ≠ .dead := by
  cases h with
  | recv | relayRecv | frame | input | inputDone | events | active | send | clearCommand =>
      exact hlive
  | listen | connected | connected2 => exact fun hdead => nomatch hdead

theorem Alive.of_remotes (h : Alive s) (heq : s'.remotes = s.remotes) : Alive s' := by
  intro r y hy
  rw [heq] at hy
  exact h r y hy

theorem Alive.setRemote (h : Alive s) (hlive : y.state ≠ .dead) : Alive (s.setRemote r y) := by
  intro r₁ y₁ hy₁
  rw [Core.remotes_setRemote] at hy₁
  split at hy₁
  · cases hy₁
    exact hlive
  · exact h r₁ y₁ hy₁

theorem Alive.addRemote (h : Alive s) (hlive : y.state ≠ .dead) : Alive (s.addRemote y) := by
  intro r₁ y₁ hy₁
  rcases Core.remotes_addRemote_cases hy₁ with ⟨_, rfl⟩ | hy₁
  · exact hlive
  · exact h r₁ y₁ hy₁

theorem Alive.leaves (h : Alive s) (hl : Leaves s s') : Alive s' :=
  fun r y hy => h r y (hl.remote hy)

theorem Alive.move (hkill : ¬ A.killOk) (hm : Move A s s') (h : Alive s) : Alive s' := by
  cases hm with
  | client | forward | accept => exact h.of_remotes rfl
  | remote hy hstep => exact (h.setRemote (hstep.alive (h _ _ hy))).of_remotes rfl
  | relayRead _ _ _ hy | relayWrite _ _ _ hy =>
      have hlive := h _ _ hy
      refine (h.setRemote ?_).of_remotes rfl
      exact hlive
  | connect _ _ _ _ hkind =>
      refine (h.addRemote ?_).of_remotes rfl
      rw [hkind.1]
      decide
  | request _ _ _ _ hkind =>
      refine (h.addRemote ?_).of_remotes rfl
      rw [hkind.1]
      decide
  | addListener hnew =>
      refine (h.addRemote ?_).of_remotes rfl
      rw [hnew.state]
      decide
  | notifyOk =>
      refine (h.setRemote ?_).of_remotes rfl
      exact fun hdead => nomatch hdead
  | closeClient => exact h.leaves .closeClient
  | closeRemote => exact h.leaves .dropRemote
  | dispose => exact h.leaves .dispose
  | killId _ hok => exact absurd hok hkill
  | deviceSet _ hn => exact h.of_remotes hn.announces.same.remotes
  | deviceErase _ hn => exact h.of_remotes hn.announces.same.remotes
  | listen _ _ hsnap => exact h.of_remotes hsnap.announces.same.remotes

/-- After an event of a remote a reap is due, if any: the event reaps first. -/
theorem remoteEvent_reapDue {plat : Platform} {sys : Sys} {s s' : Daemon} {fd : Nat}
    {revents : PollEvents} (hwf : WF s.toCore)
    (hs : step plat s (.remote fd revents sys) = .ok s') : ReapDue s'.toCore := by
  have hruns : Runs .all s.toCore _ (usbmuxRemoteProcess plat sys s fd revents) :=
    usbmuxRemoteProcess_runs (fun _ => trivial) ⟨trivial, trivial⟩
      ⟨trivial, fun _ _ _ => trivial⟩ hwf fun _ _ _ _ _ => ⟨fun _ _ _ => trivial,
        fun _ _ _ => trivial, fun _ _ _ _ _ => trivial, fun _ _ => trivial⟩
  obtain ⟨t, _, halive, hm | ⟨_, hdue⟩⟩ := hruns.of_ok hs
  · exact (invariant_of_step (R := Move Allow.all.noKill) (P := Alive)
      (fun hmove h => h.move id hmove) hm halive).reapDue
  · exact hdue

end Alive

/-! ## Runs -/

section Runs

variable {plat : Platform} {L L' : LoopState} {ev : LoopEvent}

/-- An event leaves a reap due, if any, unless it closes the client of the
remote that is counted on. -/
theorem step_reapDue {s s' : Daemon} {e : Event} (hwf : WF s.toCore)
    (hleave : ∀ fd revents sys, e = .client fd revents sys → ∀ c x, s.clients c = some x →
      x.fd = fd → Leaving plat sys s.toCore revents c x → ¬ OnlyWake s.toCore x)
    (hs : step plat s e = .ok s') (h : ReapDue s.toCore) : ReapDue s'.toCore := by
  have hquiet : Allows Allow.wake.noKill plat s e → ReapDue s'.toCore :=
    fun hallows => h.moves keepsWake_noKill hwf (step_moves hwf hallows hs)
  cases e with
  | accept cfd => exact hquiet fun _ _ => trivial
  | getFds now => exact hquiet trivial
  | addRemote hostName port sys => exact hquiet ⟨trivial, fun _ _ _ _ => trivial⟩
  | mdnsAdd serviceName hostName port sys =>
      exact hquiet ⟨⟨trivial, fun _ _ _ _ => trivial⟩, Or.inr trivial⟩
  | mdnsRemove serviceName sys =>
      have hruns : Runs .wake s.toCore (fun s' => Phase .wake s.toCore s'.toCore)
          (step plat s (.mdnsRemove serviceName sys)) :=
        (remoteMuxServiceRemove_phase (fun _ => trivial) ⟨trivial, trivial⟩ hwf).bind
          fun _ hp => hp.1
      exact h.phase hwf (hruns.of_ok hs)
  | client fd revents sys =>
      have hruns : Runs .wake s.toCore (fun s' => Phase .wake s.toCore s'.toCore)
          (clientProcess plat sys s fd revents) := by
        refine clientProcess_phase (fun _ => trivial) ⟨trivial, trivial⟩ trivial hwf
          (fun _ _ _ _ _ _ _ _ _ _ _ _ _ _ _ => trivial) (fun _ _ _ _ => trivial) ?_
        intro c x hx hfd t x' hleaving hremotes hlink hdue
        refine hdue.closeClient fun honly => hleave fd revents sys rfl c x hx hfd hleaving ?_
        obtain ⟨r, hr, hdead, hall⟩ := honly
        rw [hremotes] at hdead hall
        exact ⟨r, hlink ▸ hr, hdead, hall⟩
      exact h.phase hwf (hruns.of_ok hs)
  | remote fd revents sys => exact remoteEvent_reapDue hwf hs

/-- A reap is due, if any, or an event of a remote is still to be handled. -/
def ReapComes (L : LoopState) : Prop :=
  L.phase = .left ∨ ReapDue L.daemon.toCore ∨ (L.phase = .dispatching ∧ RemotePending L.fds)

/-- What the handling of an entry does when no remote's entry is left. -/
theorem dispatch_reapDue {p : PollFd} {rest : List PollFd} {cfd : Option Nat} {sys : Sys}
    (hwf : WF L.daemon.toCore) (hfds : L.fds = p :: rest) (hrest : ¬ RemotePending rest)
    (hC : ¬ LosesWake plat L (.dispatch cfd sys))
    (hs : loopStep plat L (.dispatch cfd sys) = .ok L')
    (h : ReapDue L.daemon.toCore ∨ RemotePending L.fds) : ReapDue L'.daemon.toCore := by
  have hevent : L.event (.dispatch cfd sys) = p.event cfd sys := by
    rw [LoopState.event, hfds, List.head?_cons, Option.bind_some]
  rcases h with hdue | ⟨q, hq, hne, r, howner⟩
  · rcases (loopStep_daemon hs).2 with ⟨_, heq⟩ | ⟨e, he, hstep⟩
    · rw [heq]
      exact hdue
    · refine step_reapDue hwf ?_ hstep hdue
      rintro fd revents sys' rfl c x hx hfd hleaving honly
      obtain ⟨p', rest', hfds', hp'⟩ := LoopState.event_dispatch he
      cases hfds.symm.trans hfds'
      rw [PollFd.event] at hp'
      split at hp'
      · cases hp'
      · next hne =>
          split at hp'
          · cases hp'
          · next c₀ howner =>
              cases hp'
              exact hC ⟨p, rest, hfds, hne, ⟨c₀, howner⟩, hrest, c, x, hx, hfd, hleaving, honly⟩
          · cases hp'
  · -- the entry of the remote is the one that is handled
    have hqp : q = p := by
      rw [hfds] at hq
      exact (List.mem_cons.mp hq).resolve_right fun hq => hrest ⟨q, hq, hne, r, howner⟩
    subst hqp
    have hremote : L.event (.dispatch cfd sys) = some (.remote q.fd q.revents sys) := by
      rw [hevent, PollFd.event, if_neg hne, howner]
    rcases (loopStep_daemon hs).2 with ⟨hnone, _⟩ | ⟨e, he, hstep⟩
    · cases hnone.symm.trans hremote
    · cases he.symm.trans hremote
      exact remoteEvent_reapDue hwf hstep

theorem ReapComes.step (hwf : WF L.daemon.toCore) (h : ReapComes L) (hen : L.enabled ev = true)
    (hC : ¬ LosesWake plat L ev) (hs : loopStep plat L ev = .ok L') : ReapComes L' := by
  obtain ⟨⟨s, hnext, hdaemon⟩, hstep⟩ := loopStep_daemon hs
  have hdue : (∀ cfd sys, ev ≠ .dispatch cfd sys) → ReapDue L.daemon.toCore →
      ReapDue L'.daemon.toCore := by
    intro hev hdue
    rcases hstep with ⟨_, heq⟩ | ⟨e, he, hstep⟩
    · rw [heq]
      exact hdue
    · refine step_reapDue hwf ?_ hstep hdue
      rintro fd revents sys rfl
      cases ev with
      | dispatch cfd sys => exact absurd rfl (hev cfd sys)
      | getClientFds | poll | mdnsAdd | mdnsRemove => cases he
  cases ev with
  | getClientFds =>
      obtain ⟨hphase, hnil⟩ := of_decide_eq_true hen
      refine Or.inr (Or.inl (hdue (fun _ _ hd => nomatch hd) ?_))
      rcases h with hleft | hdue | ⟨_, q, hq, _⟩
      · cases hphase.symm.trans hleft
      · exact hdue
      · rw [List.isEmpty_iff.mp hnil] at hq
        cases hq
  | poll now ready =>
      have hphase := of_decide_eq_true hen
      refine Or.inr (Or.inl (hdue (fun _ _ hd => nomatch hd) ?_))
      rcases h with hleft | hdue | ⟨hdispatching, _⟩
      · cases hphase.symm.trans hleft
      · exact hdue
      · cases hphase.symm.trans hdispatching
  | mdnsAdd | mdnsRemove =>
      rcases h with hleft | h | hpending
      · exact Or.inl (by rw [hnext]; exact hleft)
      · exact Or.inr (Or.inl (hdue (fun _ _ hd => nomatch hd) h))
      · exact Or.inr (Or.inr (by rw [hnext]; exact hpending))
  | dispatch cfd sys =>
      obtain ⟨hphase, hcons⟩ := of_decide_eq_true hen
      obtain ⟨p, rest, hfds⟩ : ∃ p rest, L.fds = p :: rest := by
        cases hL : L.fds with
        | nil => exact absurd (by rw [hL]; rfl) hcons
        | cons p rest => exact ⟨p, rest, rfl⟩
      have hphase' : L'.phase = .left ∨ L'.phase = .dispatching := by
        rw [hnext]
        change L.afterDispatch cfd = .left ∨ L.afterDispatch cfd = .dispatching
        rw [LoopState.afterDispatch]
        split
        · exact Or.inl rfl
        · exact Or.inr hphase
      have hfds' : L'.fds = rest := by
        rw [hnext]
        change L.fds.tail = rest
        rw [hfds, List.tail_cons]
      rcases hphase' with hleft | hdispatching
      · exact Or.inl hleft
      · by_cases hrest : RemotePending rest
        · exact Or.inr (Or.inr ⟨hdispatching, hfds' ▸ hrest⟩)
        · refine Or.inr (Or.inl (dispatch_reapDue hwf hfds hrest hC hs ?_))
          rcases h with hleft | hdue | ⟨_, hpending⟩
          · cases hphase.symm.trans hleft
          · exact Or.inl hdue
          · exact Or.inr hpending

theorem Alive.initial {s : Core} (h : Initial s) : Alive s := by
  intro r y hy hdead
  cases h with
  | empty => cases hy
  | listener hlocal =>
      rcases Core.remotes_addRemote_cases hy with ⟨_, rfl⟩ | hy
      · rw [hlocal.state] at hdead
        cases hdead
      · cases hy

theorem LoopStart.reapDue (h : LoopStart plat L) : ReapDue L.daemon.toCore := by
  cases h with
  | init hs => exact (Alive.initial (usbmuxRemoteInit_initial hs)).reapDue
  | addRemote hs _ hadd =>
      have hinit := usbmuxRemoteInit_initial hs
      refine step_reapDue (WF.initial hinit) ?_ hadd (Alive.initial hinit).reapDue
      intro _ _ _ he
      cases he

/-- In a run in which no client takes away the only remote that polls for
output while another one is dead, unless a remote's event follows in the same
iteration, a dead remote always has a live one beside it that polls for
output when an iteration is over. -/
theorem loopReachable_wakesReaper
    (h : LoopReachableBy plat (fun L ev => ¬ LosesWake plat L ev) L)
    (hbetween : L.BetweenIterations) : WakesReaper L.daemon.toCore := by
  have hcomes : ReapComes L :=
    loopReachableBy_induct (P := ReapComes) (fun h₀ => Or.inr (Or.inl h₀.reapDue))
      (fun hr hi hen _ hC hs => hi.step (reachable_wf hr.daemon) hen hC hs) h
  obtain ⟨hphase, hnil⟩ := hbetween
  rintro ⟨r, _, y, hy, hdead⟩
  have hdue : ReapDue L.daemon.toCore := by
    rcases hcomes with hleft | hdue | ⟨_, q, hq, _⟩
    · cases hphase.symm.trans hleft
    · exact hdue
    · rw [hnil] at hq
      cases hq
  obtain ⟨r', z, hz, hlive⟩ := hdue r y hy hdead
  refine ⟨r', ((reachable_wf h.reachable.daemon).remotes r').mpr ?_, z, hz, hlive⟩
  rw [hz]
  rfl

/-- A listener is added, a client's request has opened another remote, and
both have sent what they had. A second client does nothing. -/
def twoRemotes : List LoopEvent :=
  let request := plistFrame 1 1 readBuidRequest
  .mdnsAdd "service" "hosta" 5000 { connect := some 4 } ::
    (iteration [(3, { pollin := true }), (4, { pollout := true })]
        [(some 5, {}), (none, { send := some 480 })] ++
      iteration [(3, { pollin := true }), (5, { pollin := true })]
        [(some 6, {}), (none, { recv := some (request.take 16) }), noCall] ++
      iteration [(5, { pollin := true })] [noCall,
        (none, { recv := some (request.drop 16), connect := some 7 }), noCall, noCall] ++
      iteration [(7, { pollout := true })]
        [noCall, noCall, noCall, noCall, (none, { send := some 482 })])

/-- The service is withdrawn, and the client that leaves before the reap is the
one without a remote. -/
theorem loopReachable_wakesReaper_twoRemotes :
    ∃ L y, LoopReachableBy (platformWith [readBuidRequest])
        (fun L ev => ¬ LosesWake (platformWith [readBuidRequest]) L ev) L ∧
      L.BetweenIterations ∧ ⟨0⟩ ∈ L.daemon.remoteList.elems ∧
      L.daemon.remotes ⟨0⟩ = some y ∧ y.state = .dead ∧ WakesReaper L.daemon.toCore := by
  -- no client that has a remote is closed
  let ok : LoopState → LoopEvent → Bool := fun L _ => L.fds.head?.all fun p =>
    p.revents = {} || L.daemon.clientList.elems.all fun c =>
      (L.daemon.clients c).all fun x => x.fd ≠ p.fd || x.remote.isNone
  let run : List LoopEvent := .mdnsRemove "service" {} ::
    iteration [(6, { pollin := true })] [noCall, noCall, (none, { recv := some [] }), noCall,
      noCall]
  obtain ⟨L, hrun, htest⟩ : ∃ L, runLoopFrom (platformWith [readBuidRequest]) [0, 1, 2, 3] ok
      (twoRemotes ++ run) = some L ∧
      (decide (L.phase = .dispatching ∧ L.fds = [] ∧ ⟨0⟩ ∈ L.daemon.remoteList.elems) &&
        (L.daemon.remotes ⟨0⟩).any fun y => decide (y.state = .dead)) = true :=
    exists_of_runLoopFrom (by decide +kernel)
  obtain ⟨hstate, hdead⟩ := Bool.and_eq_true_iff.mp htest
  obtain ⟨hphase, hfds, hmem⟩ := of_decide_eq_true hstate
  obtain ⟨y, hy, hdead⟩ := (Option.any_eq_true _ _).mp hdead
  have hreach : LoopReachableBy (platformWith [readBuidRequest])
      (fun L ev => ¬ LosesWake (platformWith [readBuidRequest]) L ev) L := by
    refine loopReachableBy_of_runLoopFrom (fun L hr ev _ _ hok hloses => ?_) hrun
    cases ev with
    | getClientFds | poll | mdnsAdd | mdnsRemove => exact hloses
    | dispatch cfd sys =>
        obtain ⟨p, rest, hfds, hne, _, _, c, x, hx, hfd, _, r, hremote, _⟩ := hloses
        have hc : c ∈ L.daemon.clientList.elems := by
          rw [(reachable_wf hr.daemon).clients, hx]
          rfl
        have hp := (Option.all_eq_true _ _).mp hok p (by rw [hfds]; rfl)
        rcases Bool.or_eq_true_iff.mp hp with hp | hp
        · exact hne (of_decide_eq_true hp)
        · have hx' := (Option.all_eq_true _ _).mp (List.all_eq_true.mp hp c hc) x hx
          rw [hfd, hremote] at hx'
          simp at hx'
  exact ⟨L, y, hreach, ⟨hphase, hfds⟩, hmem, hy, of_decide_eq_true hdead,
    loopReachable_wakesReaper hreach ⟨hphase, hfds⟩⟩

/-- The service is withdrawn after `poll` has reported that the client of the
other remote is gone. That remote was woken up, but it goes with its client,
and the dead one stays alone. -/
theorem wake_up_lost :
    ∃ L, LoopReachableBy (platformWith [readBuidRequest]) (KernelBeside [0, 1, 2, 3]) L ∧
      L.BetweenIterations ∧ L.daemon.remoteList.elems = [⟨0⟩] ∧
      ¬ WakesReaper L.daemon.toCore := by
  let run : List LoopEvent := (iteration [(5, { pollin := true })] []) ++
    [.mdnsRemove "service" {}, .dispatch none {}, .dispatch none { recv := some [] },
      .dispatch none {}, .dispatch none {}, .dispatch none {}]
  obtain ⟨L, hrun, htest⟩ : ∃ L, runLoopFrom (platformWith [readBuidRequest]) [0, 1, 2, 3]
      (fun _ _ => true) (twoRemotes ++ run) = some L ∧
      (decide (L.phase = .dispatching ∧ L.fds = [] ∧ L.daemon.remoteList.elems = [⟨0⟩]) &&
        (L.daemon.remotes ⟨0⟩).any fun y => decide (y.state = .dead)) = true :=
    exists_of_runLoopFrom (by decide +kernel)
  obtain ⟨hstate, hdead⟩ := Bool.and_eq_true_iff.mp htest
  obtain ⟨hphase, hfds, hlist⟩ := of_decide_eq_true hstate
  obtain ⟨y, hy, hdead⟩ := (Option.any_eq_true _ _).mp hdead
  refine ⟨L, loopReachableBy_of_runLoopFrom (fun _ _ _ _ hk _ => hk) hrun, ⟨hphase, hfds⟩, hlist,
    fun h => ?_⟩
  obtain ⟨r, hr, z, hz, hlive, _⟩ := h ⟨⟨0⟩, by rw [hlist]; exact List.mem_singleton_self _, y,
    hy, of_decide_eq_true hdead⟩
  rw [hlist, List.mem_singleton] at hr
  subst hr
  cases hy.symm.trans hz
  exact hlive (of_decide_eq_true hdead)

end Runs

end Usbfluxd
