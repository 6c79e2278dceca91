import Usbfluxd.Proofs.Frames
import Usbfluxd.Proofs.Runs

/-!
# The frames of a remote

Whatever pieces a remote's stream comes in, and whatever else the daemon does
in between, the frames handed to `remote_handle_command_result` are the ones
cut out of the whole stream. The invariant is an account of the stream: what
was received from the remote is the frames handled, followed by what its input
buffer holds.

Only a `POLLIN` event on the remote itself adds to that (`ReadFrame.Spec`).
All other events keep the buffer and the log entries about it, which is what
`watchRemote` says to the pass over the functions; the one exception is the
relay of a client that is connected, which takes its bytes out of the buffer
of the remote it is linked to. The condition on runs (`Untouched`) is that it
does not do so while that remote still reads frames.
-/

namespace Usbfluxd

open Lib

/-! ## Remotes that are connected -/

/-- A remote that is connected was logged as such, and none is on its way. -/
def Switched (s : Core) : Prop :=
  ∀ r y, s.remotes r = some y →
    (y.state = .connected → Act.remoteConnected r ∈ s.log) ∧ y.state ≠ .connecting2

section Switched

variable {A : Allow} {s s' : Core}

/-- Remotes with the states they had. -/
theorem Switched.same (h : Switched s) (hlog : ∀ a ∈ s.log, a ∈ s'.log)
    (hrem : ∀ r y', s'.remotes r = some y' → y'.state = .dead ∨
      ∃ y, s.remotes r = some y ∧ y'.state = y.state) : Switched s' := by
  intro r y' hy'
  obtain hdead | ⟨y, hy, hstate⟩ := hrem r y' hy'
  · rw [hdead]
    exact ⟨(fun h => nomatch h), (fun h => nomatch h)⟩
  · rw [hstate]
    exact ⟨fun hconn => hlog _ ((h r y hy).1 hconn), (h r y hy).2⟩

/-- One remote changes its state. -/
theorem Switched.remote {r : RemotePtr} {y y' : RemoteMux} (h : Switched s)
    (hlog : ∀ a ∈ s.log, a ∈ s'.log) (hy : s.remotes r = some y)
    (hrem : s'.remotes = (s.setRemote r y').remotes)
    (hstate : y'.state = y.state ∨ (y'.state ≠ .connected ∧ y'.state ≠ .connecting2) ∨
      (y'.state = .connected ∧ .remoteConnected r ∈ s'.log)) : Switched s' := by
  intro r' z hz
  rw [hrem, Core.remotes_setRemote] at hz
  split at hz
  · next heq =>
      subst heq
      cases hz
      rcases hstate with hst | ⟨h₁, h₂⟩ | ⟨hst, hmem⟩
      · rw [hst]
        exact ⟨fun hconn => hlog _ ((h r' y hy).1 hconn), (h r' y hy).2⟩
      · exact ⟨fun hc => absurd hc h₁, h₂⟩
      · rw [hst]
        exact ⟨fun _ => hmem, (fun h => nomatch h)⟩
  · exact ⟨fun hconn => hlog _ ((h r' z hz).1 hconn), (h r' z hz).2⟩

/-- A remote is added. -/
theorem Switched.add {y : RemoteMux} (h : Switched s) (hlog : ∀ a ∈ s.log, a ∈ s'.log)
    (hrem : s'.remotes = (s.addRemote y).remotes) (h₁ : y.state ≠ .connected)
    (h₂ : y.state ≠ .connecting2) : Switched s' := by
  intro r z hz
  rw [hrem] at hz
  rcases Core.remotes_addRemote_cases hz with ⟨_, rfl⟩ | hz
  · exact ⟨fun hc => absurd hc h₁, h₂⟩
  · exact ⟨fun hconn => hlog _ ((h r z hz).1 hconn), (h r z hz).2⟩

theorem Switched.move (hm : Move A s s') (h : Switched s) : Switched s' := by
  have hlog : ∀ a ∈ s.log, a ∈ s'.log := by
    obtain ⟨acts, he⟩ := hm.emits
    intro a ha
    rw [he.log]
    exact List.mem_append_left _ ha
  have hsame : s'.remotes = s.remotes → Switched s' := fun hr =>
    h.same hlog fun r y hy => Or.inr ⟨y, by rw [← hr]; exact hy, rfl⟩
  have hsub : (∀ r y, s'.remotes r = some y → s.remotes r = some y) → Switched s' := fun hr =>
    h.same hlog fun r y hy => Or.inr ⟨y, hr r y hy, rfl⟩
  cases hm with
  | client | forward | accept => exact hsame rfl
  | deviceSet _ hn | deviceErase _ hn => exact hsame hn.announces.same.remotes
  | listen _ _ hn => exact hsame hn.announces.same.remotes
  | remote hy hstep =>
      refine h.remote hlog hy rfl ?_
      cases hstep with
      | recv | relayRecv | frame | inputDone | input | events | active | send | clearCommand =>
          exact Or.inl rfl
      | listen => exact Or.inr (Or.inl ⟨(fun h => nomatch h), (fun h => nomatch h)⟩)
      | connected | connected2 =>
          exact Or.inr (Or.inr ⟨rfl, List.mem_append_right _ List.mem_cons_self⟩)
  | relayRead _ _ _ hy | relayWrite _ _ _ hy => exact h.remote hlog hy rfl (Or.inl rfl)
  | connect _ _ _ _ hkind =>
      refine h.add hlog rfl ?_ ?_ <;> rw [hkind.1] <;> decide
  | request _ _ _ _ hkind =>
      refine h.add hlog rfl ?_ ?_ <;> rw [hkind.1] <;> decide
  | addListener hnew =>
      refine h.add hlog rfl ?_ ?_ <;> rw [hnew.state] <;> decide
  | notifyOk hy =>
      refine h.remote hlog hy rfl (Or.inr (Or.inr ⟨rfl, List.mem_append_right _ ?_⟩))
      exact List.mem_cons_of_mem _ (List.mem_cons_of_mem _ List.mem_cons_self)
  | closeClient =>
      refine hsub fun r y hy => ?_
      rw [Core.remotes_closeClient] at hy
      split at hy
      · cases hy
      · exact hy
  | closeRemote =>
      refine hsub fun r y hy => ?_
      rw [Core.remotes_dropRemote] at hy
      split at hy
      · cases hy
      · exact hy
  | dispose =>
      refine hsub fun r y hy => ?_
      rw [Core.remotes_dispose] at hy
      split at hy
      · cases hy
      · exact hy
  | killId =>
      refine h.same hlog fun r y' hy' => ?_
      rw [Core.remotes_killId] at hy'
      obtain ⟨y, hy, rfl⟩ := Option.map_eq_some_iff.mp hy'
      rw [RemoteMux.killed]
      split
      · exact Or.inl rfl
      · exact Or.inr ⟨y, hy, rfl⟩

theorem Switched.initial (h : Initial s) : Switched s := by
  intro r y hy
  cases h with
  | empty => cases hy
  | listener hlocal =>
      rcases Core.remotes_addRemote_cases hy with ⟨_, rfl⟩ | hy
      · rw [hlocal.state]
        exact ⟨(fun h => nomatch h), (fun h => nomatch h)⟩
      · cases hy

end Switched

/-! The log speaks of a connection only once there is one. -/

section Unswitched

variable {A : Allow} {s s' : Core} {r : RemotePtr}

theorem Announces.connected_logged (h : Announces s s') (hr : .remoteConnected r ∈ s'.log) :
    Act.remoteConnected r ∈ s.log := by
  refine invariant_of_step (R := Announce) (P := fun t => .remoteConnected r ∈ t.log →
    Act.remoteConnected r ∈ s.log) (fun hn hP ha => ?_) h id hr
  obtain ⟨c, x, hdr, payload, _, _, _, ob, _, rfl⟩ := hn
  rcases List.mem_append.mp ha with ha | ha
  · exact hP ha
  · cases List.mem_singleton.mp ha

theorem FirstPacket.not_connected {lossOk : Prop} {r' : RemotePtr} {P : Payload → Prop}
    {y : RemoteMux} {acts : List Act} (h : FirstPacket lossOk r' P y acts) :
    Act.remoteConnected r ∉ acts := by
  rcases h with ⟨_, rfl, _⟩ | ⟨hdr, payload, _, rfl, _⟩ <;> simp

theorem ClientStep.not_connected {c : ClientPtr} {x x' : MuxClient} {acts : List Act}
    (h : ClientStep c x acts x') : Act.remoteConnected r ∉ acts := by
  cases h with
  | recv =>
      intro ha
      cases mem_recvActs ha
  | queue | command | inputDone | proto | info | events | send | connected | notifyFail => simp

theorem Move.connected_logged (hm : Move A s s') (hr : .remoteConnected r ∈ s'.log) :
    .remoteConnected r ∈ s.log ∨ ∃ y, s'.remotes r = some y ∧ y.state = .connected := by
  have hacts : ∀ {acts}, s'.log = s.log ++ acts → Act.remoteConnected r ∉ acts →
      .remoteConnected r ∈ s.log ∨ ∃ y, s'.remotes r = some y ∧ y.state = .connected := by
    intro acts hlog hnot
    rw [hlog] at hr
    exact Or.inl ((List.mem_append.mp hr).resolve_right hnot)
  cases hm with
  | client _ h => exact hacts rfl h.not_connected
  | @remote r' y y' acts hy h =>
      cases h with
      | recv =>
          refine hacts rfl fun ha => ?_
          cases mem_recvActs ha
      | relayRecv | frame | inputDone | input | events | active | send | clearCommand | listen =>
          exact hacts rfl (by simp)
      | connected | connected2 =>
          rcases List.mem_append.mp hr with hr | hr
          · exact Or.inl hr
          · cases List.mem_singleton.mp hr
            exact Or.inr ⟨_, Function.update_self .., rfl⟩
  | forward | relayRead | relayWrite => exact hacts rfl (by simp)
  | accept => exact Or.inl hr
  | connect _ _ _ _ _ h =>
      refine hacts rfl ?_
      rw [List.mem_cons, not_or]
      exact ⟨(fun h => nomatch h), h.not_connected⟩
  | request _ _ _ _ _ h =>
      refine hacts rfl ?_
      rw [List.mem_cons, not_or]
      exact ⟨(fun h => nomatch h), h.not_connected⟩
  | notifyOk =>
      rcases List.mem_append.mp hr with hr | hr
      · exact Or.inl hr
      · simp only [List.mem_cons, List.not_mem_nil, reduceCtorEq, false_or, or_false,
          Act.remoteConnected.injEq] at hr
        subst hr
        exact Or.inr ⟨_, Function.update_self .., rfl⟩
  | addListener _ h => exact hacts rfl h.not_connected
  | @closeClient c x =>
      rw [Core.closeClient] at hr
      cases hx : x.remote <;> rw [hx] at hr <;> exact Or.inl hr
  | closeRemote | killId => exact Or.inl hr
  | @dispose r' y =>
      rw [Core.dispose, Core.releaseId] at hr
      cases hy : y.client <;> rw [hy] at hr <;> split at hr <;> exact Or.inl hr
  | deviceSet _ hn | deviceErase _ hn => exact Or.inl (hn.announces.connected_logged hr)
  | listen _ _ hn =>
      have := hn.announces.connected_logged hr
      rcases List.mem_append.mp this with h | h
      · exact Or.inl h
      · cases List.mem_singleton.mp h

end Unswitched

section Framed

variable {A : Allow} {s s' : Core} {r : RemotePtr}

theorem RemoteMux.Evolves.framed_before {y y' : RemoteMux} (h : y.Evolves y') (hf : y'.Framed) :
    y.Framed := by
  rcases h.state with hst | hst | ⟨hst, _, _⟩ | ⟨_, hst⟩
  · rw [RemoteMux.Framed, ← hst]
    exact hf
  · exact absurd hst hf.2
  · rw [RemoteMux.Framed, hst]
    decide
  · exact absurd hst hf.1

/-- A remote that is not new was there before, and evolved. -/
theorem Move.remote_before {y' : RemoteMux} (hm : Move A s s') (hne : r ≠ ⟨s.nextRemote⟩)
    (hy' : s'.remotes r = some y') : ∃ y, s.remotes r = some y ∧ y.Evolves y' := by
  have hold : ∀ y, s'.remotes = (s.addRemote y).remotes →
      ∃ y, s.remotes r = some y ∧ y.Evolves y' := by
    intro y heq
    rw [heq, Core.remotes_addRemote, if_neg hne] at hy'
    exact ⟨y', hy', .refl⟩
  cases hm.shape with
  | inPlace h => exact h.remote_before hy'
  | accept _ h =>
      rw [h] at hy'
      exact ⟨y', hy', .refl⟩
  | @opens _ _ _ _ y _ h =>
      refine hold y ?_
      rw [h.result]
      rfl
  | @addListener y _ _ h =>
      refine hold y ?_
      rw [h]
      rfl
  | closeClient _ h =>
      rw [h] at hy'
      exact ⟨y', Leaves.closeClient.remote hy', .refl⟩
  | closeRemote _ _ _ h =>
      rw [h] at hy'
      exact ⟨y', Leaves.dropRemote.remote hy', .refl⟩
  | dispose _ _ h =>
      rw [h] at hy'
      exact ⟨y', Leaves.dispose.remote hy', .refl⟩

/-- A remote that reads frames did so before, or it is new. -/
theorem Move.framed_before {y' : RemoteMux} (hm : Move A s s') (hy' : s'.remotes r = some y')
    (hf : y'.Framed) :
    (∃ y, s.remotes r = some y ∧ y.Framed) ∨ r.block = s.nextRemote := by
  by_cases hnew : r = ⟨s.nextRemote⟩
  · exact Or.inr (congrArg RemotePtr.block hnew)
  · obtain ⟨y, hy, he⟩ := hm.remote_before hnew hy'
    exact Or.inl ⟨y, hy, he.framed_before hf⟩

theorem Moves.framed_before {y' : RemoteMux} (hm : Moves A s s') (hy' : s'.remotes r = some y')
    (hf : y'.Framed) : (∃ y, s.remotes r = some y ∧ y.Framed) ∨ s.nextRemote ≤ r.block := by
  have hinv : s.nextRemote ≤ s'.nextRemote ∧ ∀ y', s'.remotes r = some y' → y'.Framed →
      (∃ y, s.remotes r = some y ∧ y.Framed) ∨ s.nextRemote ≤ r.block := by
    refine invariant_of_step (R := Move A) (P := fun t => s.nextRemote ≤ t.nextRemote ∧
      ∀ y', t.remotes r = some y' → y'.Framed →
        (∃ y, s.remotes r = some y ∧ y.Framed) ∨ s.nextRemote ≤ r.block)
      (fun {t t'} hm ht => ?_) hm ⟨Nat.le_refl _, fun y hy hf => Or.inl ⟨y, hy, hf⟩⟩
    refine ⟨Nat.le_trans ht.1 hm.shape.next_le.2, fun y' hy' hf => ?_⟩
    rcases hm.framed_before hy' hf with ⟨y, hy, hf⟩ | hnew
    · exact ht.2 y hy hf
    · rw [hnew]
      exact Or.inr ht.1
  exact hinv.2 y' hy' hf

end Framed

theorem remoteInput_over {r : RemotePtr} {log : List Act} :
    (remoteInput r log).ended = true ↔ Act.remoteConnected r ∈ log := by
  have hfold : ∀ (acts : List Act) (t : InputTrace),
      (acts.foldl (InputTrace.remoteAct r) t).ended = true ↔
        t.ended = true ∨ Act.remoteConnected r ∈ acts := by
    intro acts
    induction acts with
    | nil => simp
    | cons a acts ih =>
        intro t
        rw [List.foldl_cons, ih, List.mem_cons]
        cases a with
        | remoteConnected r' =>
            by_cases hr : r' = r
            · subst hr
              simp [InputTrace.remoteAct]
            · simp [InputTrace.remoteAct, hr, Ne.symm hr]
        | remoteRecv r' | frame r' => by_cases hr : r' = r <;> simp [InputTrace.remoteAct, hr]
        | _ => simp [InputTrace.remoteAct]
  rw [remoteInput, hfold]
  simp

/-- A remote that reads frames was never connected. -/
def Unswitched (s : Core) : Prop :=
  ∀ r y, s.remotes r = some y → y.Framed → Act.remoteConnected r ∉ s.log

theorem Unswitched.move {A : Allow} {s s' : Core} (hlog : LogOk s) (hm : Move A s s')
    (h : Unswitched s) : Unswitched s' := by
  intro r y' hy' hf hmem
  rcases hm.connected_logged hmem with hold | ⟨z, hz, hconn⟩
  · rcases hm.framed_before hy' hf with ⟨y, hy, hf⟩ | hnew
    · exact h r y hy hf hold
    · exact absurd hnew (Nat.ne_of_lt (hlog.remote hold rfl))
  · cases hy'.symm.trans hz
    exact hf.1 hconn

theorem Unswitched.initial {s : Core} (h : Initial s) : Unswitched s := by
  intro r y hy _ hmem
  cases h with
  | empty => cases hy
  | listener hlocal hacts => exact hacts.not_connected hmem

/-- What is used of every reachable state. -/
structure Settled (s : Daemon) : Prop where
  wf : WF s.toCore
  log : LogOk s.toCore
  switched : Switched s.toCore
  unswitched : Unswitched s.toCore
  unlocked : s.Unlocked

theorem reachable_settled {plat : Platform} {s : Daemon} (h : Reachable plat s) : Settled s := by
  obtain ⟨hwf, hlog, hsw, hun⟩ := reachable_inv (A := .all)
    (P := fun s => LogOk s ∧ Switched s ∧ Unswitched s)
    (fun hi => ⟨.initial hi, .initial hi, .initial hi⟩) (fun _ _ _ => allows_all)
    (fun hwf hm hP => ⟨hP.1.move hwf hm, hP.2.1.move hm, hP.2.2.move hP.1 hm⟩) h
  exact ⟨hwf, hlog, hsw, hun, reachable_unlocked h⟩

/-! ## Watching one remote -/

/-- Watch the input buffer of one remote and the log about it. -/
def watchRemote (r : RemotePtr) (P : Buf → Prop) (Q : InputTrace → Prop) (bound : Nat)
    (h : bound ≤ r.block → P newInput) : Watch where
  client _ _ := True
  remote r' b := r' = r → P b
  log l := Q (remoteInput r l)
  bound := bound
  free _ := trivial
  fresh hb heq := h (heq ▸ hb)
  emit hl hacts := by
    rw [remoteInput_other fun a ha => Or.inr (hacts a ha)]
    exact hl

/-- A connected client is served from the remote's input buffer. -/
def Touches (r : RemotePtr) (s : Daemon) : Event → Prop
  | .client fd revents _ => revents.pollin = false ∧ revents.pollout = true ∧
      ∃ c x, s.clients c = some x ∧ x.fd = fd ∧ x.state = .connected ∧ x.remote = some r
  | _ => False

theorem Touches.linked {r : RemotePtr} {s : Daemon} {e : Event} (h : Touches r s e) :
    ∃ c x, s.clients c = some x ∧ x.remote = some r := by
  cases e with
  | client =>
      obtain ⟨_, _, c, x, hx, _, _, hr⟩ := h
      exact ⟨c, x, hx, hr⟩
  | accept | remote | getFds | addRemote | mdnsAdd | mdnsRemove => exact h.elim

/-- That does not happen while the remote reads frames. -/
def Untouched (r : RemotePtr) (s : Daemon) (e : Event) : Prop :=
  Touches r s e → ∀ y, s.remotes r = some y → ¬ y.Framed

section Watching

variable {r : RemotePtr} {P : Buf → Prop} {Q : InputTrace → Prop} {bound : Nat}
  {h : bound ≤ r.block → P newInput} {plat : Platform} {sys : Sys} {s : Daemon}

theorem watchRemote_skipsClient {c : ClientPtr} : (watchRemote r P Q bound h).SkipsClient c where
  input _ _ := trivial
  recv hl := by
    show Q _
    rw [remoteInput_other fun a ha => Or.inl (by rw [mem_recvActs ha]; exact fun h => nomatch h)]
    exact hl
  command hl := by
    show Q _
    rw [remoteInput_other fun a ha => Or.inl (by
      rw [List.mem_singleton.mp ha]
      exact fun h => nomatch h)]
    exact hl

theorem watchRemote_skipsRemote {r' : RemotePtr} (hne : r' ≠ r) :
    (watchRemote r P Q bound h).SkipsRemote r' := by
  have hother : ∀ {l acts}, (∀ a ∈ acts, Act.remote a = some r') →
      Q (remoteInput r l) → Q (remoteInput r (l ++ acts)) := by
    intro l acts hacts hl
    rw [remoteInput_other fun a ha => Or.inl fun heq =>
      hne (Option.some_inj.mp ((hacts a ha).symm.trans heq))]
    exact hl
  refine ⟨fun _ _ heq => absurd heq hne, hother fun a ha => ?_, hother fun a ha => ?_,
    hother fun a ha => ?_⟩
  · rw [mem_recvActs ha]
    rfl
  · rw [List.mem_singleton.mp ha]
    rfl
  · rw [List.mem_singleton.mp ha]
    rfl

/-- Events that are not about a remote. -/
theorem step_watchRemote {e : Event} (hw : Watched (watchRemote r P Q bound h) false false s)
    (he : ∀ fd revents sys, e ≠ .remote fd revents sys) (htouch : Touches r s e → ∀ b, P b) :
    Keeps (Watched (watchRemote r P Q bound h) false false) (step plat s e) := by
  cases e with
  | accept cfd => exact clientAccept_keeps hw trivial
  | client fd revents sys =>
      refine clientProcess_keeps hw (fun _ _ _ _ _ _ => watchRemote_skipsClient) ?_
      intro c x r' hx hfd hconn hin hout hr' b b' _ _ heq
      subst heq
      exact htouch ⟨hin, hout, c, x, hx, hfd, hconn, hr'⟩ b'
  | remote fd revents sys => exact absurd rfl (he fd revents sys)
  | getFds now => exact usbmuxRemoteGetFds_keeps hw
  | addRemote hostName port sys | mdnsAdd serviceName hostName port sys =>
      exact Post.bind (Agree.keeps_res (remoteMuxServiceAdd_agree hw.alike)) fun _ hp => hp
  | mdnsRemove serviceName sys =>
      exact Post.bind (Agree.keeps_res (remoteMuxServiceRemove_agree hw.alike)) fun _ hp => hp

end Watching

/-! ## One call of `remote_process_recv` -/

/-- A remote was assigned to, so it was there. -/
theorem modifyRemote_eq_ok {s s' : Daemon} {r : RemotePtr} {f : RemoteMux → RemoteMux}
    (h : s.modifyRemote r f = .ok s') :
    ∃ y, s.remotes r = some y ∧ s' = s.update (·.setRemote r (f y)) := by
  obtain ⟨y, hy, hs'⟩ := bind_eq_ok.mp h
  refine ⟨y, ?_, ?_⟩
  · rw [Daemon.remote] at hy
    split at hy
    · next hz =>
        cases hy
        exact hz
    · cases hy
  · cases hs'
    rfl

/-- `ib_capacity` of a remote. -/
def remoteInputSize : Nat := replyBufSize * 8

/-- The remote is dead, or no longer there. -/
def Gone (r : RemotePtr) (s : Core) : Prop := ∀ y, s.remotes r = some y → y.state = .dead

/-- What a call does to a remote that holds unfinished data: the stream is
over, the frame is refused, it is still not finished, or it is handled. -/
inductive RecvOutcome (r : RemotePtr) (sys : Sys) (y : RemoteMux) (t : InputTrace) (s' : Core) :
    Prop where
  | ended (hrecv : ∀ bs, sys.recv = some bs → bs = []) (htrace : remoteInput r s'.log = t)
      (hgone : Gone r s')
  | refused {got : List UInt8} (hgot : got ≠ [])
      (hdata : (usbmuxFraming remoteInputSize).Refused (y.ib.data ++ got))
      (htrace : remoteInput r s'.log = { t with received := t.received ++ got })
      (hgone : Gone r s')
  | more {got : List UInt8} {y' : RemoteMux} (hgot : got ≠ [])
      (hdata : (usbmuxFraming remoteInputSize).Unfinished (y.ib.data ++ got))
      (htrace : remoteInput r s'.log = { t with received := t.received ++ got })
      (hy' : s'.remotes r = some y') (hstate : y'.state = y.state)
      (hib : y'.ib.data = y.ib.data ++ got) (hcollects : Collects remoteInputSize y'.ib)
  | frame {got : List UInt8} {y' : RemoteMux} (hgot : got ≠ [])
      (hdata : (usbmuxFraming remoteInputSize).Whole (y.ib.data ++ got))
      (hreceived : (remoteInput r s'.log).received = t.received ++ got)
      (hframes : (remoteInput r s'.log).frames = t.frames ++ [y.ib.data ++ got])
      (hy' : s'.remotes r = some y') (hstate : y'.state ≠ .dead) (hib : y'.ib.data = [])
      (hcollects : Collects remoteInputSize y'.ib)

section Recv

variable {plat : Platform} {sys : Sys} {s s' : Daemon} {r : RemotePtr} {y : RemoteMux}

/-- `usbmux_remote_mark_dead` leaves the remote dead, or takes it away. -/
theorem usbmuxRemoteMarkDead_gone (hwf : WF s.toCore)
    (h : usbmuxRemoteMarkDead plat sys s r = .ok s') : Gone r s'.toCore := by
  have hrun : Runs Allow.all s.toCore (fun s' : Daemon => Gone r s'.toCore)
      (usbmuxRemoteMarkDead plat sys s r) := by
    refine lockRemoteList_runs.bind ?_
    rintro ⟨core, locked, locked'⟩ h₁
    obtain rfl : core = s.toCore := h₁
    have hwf' : WF (Daemon.mk s.toCore locked locked').toCore := hwf
    refine (remoteMarkDead_runs (A := .all) (fun _ => trivial) trivial hwf').bind ?_
    rintro s₁ ⟨y, hy, ⟨r', z, hz, hlive, h₁⟩ | ⟨_, _, hnone⟩⟩ y' hy'
    · replace hy' : s₁.remotes r = some y' := hy'
      have hdead : (s.toCore.killId y.id).remotes r = some { y with state := .dead } := by
        rw [Core.remotes_killId, show s.remotes r = some y from hy, Option.map_some,
          RemoteMux.killed, if_pos rfl]
      have hne : r ≠ r' := by
        rintro rfl
        cases hdead.symm.trans hz
        exact hlive rfl
      rw [show s₁.toCore = _ from h₁, Core.remotes_setRemote, if_neg hne, hdead] at hy'
      cases hy'
      rfl
    · cases (hnone r).symm.trans hy'
  exact hrun.of_ok h

/-- It does nothing to the input of anybody. -/
theorem usbmuxRemoteMarkDead_input {r' : RemotePtr} (hunlocked : s.Unlocked)
    (h : usbmuxRemoteMarkDead plat sys s r = .ok s') :
    remoteInput r' s'.log = remoteInput r' s.log := by
  have hwatched : Watched (watchRemote r' (fun _ => True) (fun t => t = remoteInput r' s.log) 0
      fun _ => trivial) false false s :=
    ⟨fun _ _ _ => trivial, fun _ _ _ _ => trivial, rfl, Nat.zero_le _, hunlocked.1, hunlocked.2⟩
  exact ((Agree.keeps (usbmuxRemoteMarkDead_agree hwatched.alike)).of_ok h).log

/-- Handling a frame does not kill the remote. -/
theorem handleConnectingState_alive {p : Option Plist} (hy : s.remotes r = some y)
    (hstate : y.state = .connecting1) (h : handleConnectingState plat sys s r y p = .ok s') :
    ∀ y', s'.remotes r = some y' → y'.state ≠ .dead := by
  have hrun : Runs Allow.all s.toCore
      (fun s' : Daemon => ∀ y', s'.remotes r = some y' → y'.state ≠ .dead)
      (handleConnectingState plat sys s r y p) := by
    refine remoteClient_runs.bind ?_
    rintro c ⟨hclient, _⟩
    refine clientNotifyConnect_runs.bind ?_
    rintro ⟨res, s₁⟩ hnotify
    have hy₁ : s₁.remotes r = some y := by
      rcases hnotify with h₁ | ⟨x, hdr, payload, ob, _, _, _, _, h₁⟩
      · rw [show s₁.toCore = _ from h₁]
        exact hy
      · rw [show s₁.toCore = _ from h₁]
        exact hy
    refine Runs.ite (fun _ => ?_) fun _ => ?_
    · refine modifyRemote_runs.bind ?_
      rintro s₂ ⟨y', hy', rfl⟩
      intro z hz
      rw [toCore_emit, toCore_update, Core.remotes_emit, Core.remotes_setRemote,
        if_pos rfl] at hz
      cases hz
      exact fun h => nomatch h
    · intro z hz
      cases hy₁.symm.trans hz
      rw [hstate]
      decide
  exact hrun.of_ok h

theorem remoteHandleCommandResult_alive (hy : s.remotes r = some y) (hframed : y.Framed)
    (h : remoteHandleCommandResult plat sys s r = .ok s') :
    ∀ y', s'.remotes r = some y' → y'.state ≠ .dead := by
  have hremote : s.remote r = .ok y := by
    rw [Daemon.remote, hy]
  have hsame : ∀ z, (s.emit [.frame r (bufFrame plat y.ib)]).remotes r = some z →
      z.state ≠ .dead := by
    intro z hz
    cases hy.symm.trans hz
    exact hframed.2
  rw [remoteHandleCommandResult, hremote] at h
  dsimp only [bind, Except.bind] at h
  split at h
  · cases h
    exact hsame
  · split at h
    · next hstate =>
        have hstay := (handleCommandState_moves (A := .all)
          (s := s.emit [.frame r (bufFrame plat y.ib)]) ⟨trivial, fun _ _ _ => trivial⟩ hy hstate
          fun _ _ _ _ _ _ _ => trivial).of_ok h
        exact fun z hz => (hstay.2 z hz).2
    · next hstate =>
        have hstay := (handleListenState_moves (A := .all)
          (s := s.emit [.frame r (bufFrame plat y.ib)]) (fun _ => trivial) (fun _ => trivial)
          hy hstate).of_ok h
        exact fun z hz => (hstay.2 z hz).2
    · next hstate =>
        exact handleConnectingState_alive (s := s.emit [.frame r (bufFrame plat y.ib)]) hy hstate h
    · cases h
      exact hsame

/-- Handling a frame keeps the buffer usable and adds no other frame. -/
theorem handle_collects {cap : Nat} (hy : s.remotes r = some y) (hcollects : Collects cap y.ib)
    (hfresh : r.block + 1 ≤ s.nextRemote) (hunlocked : s.Unlocked)
    (h : remoteHandleCommandResult plat sys s r = .ok s') :
    (∀ z, s'.remotes r = some z → Collects cap z.ib) ∧
      (remoteInput r s'.log).received =
        (remoteInput r (s.log ++ [.frame r (bufFrame plat y.ib)])).received ∧
      (remoteInput r s'.log).frames =
        (remoteInput r (s.log ++ [.frame r (bufFrame plat y.ib)])).frames := by
  let t := remoteInput r (s.log ++ [.frame r (bufFrame plat y.ib)])
  let W := watchRemote r (Collects cap) (fun t' => t'.received = t.received ∧ t'.frames = t.frames)
    (r.block + 1) fun h => absurd h (Nat.not_succ_le_self _)
  have hwatched : Watched W false false (s.emit [.frame r (bufFrame plat y.ib)]) := by
    refine ⟨fun _ _ _ => trivial, fun r' z hz heq => ?_, ⟨rfl, rfl⟩, hfresh, hunlocked.1,
      hunlocked.2⟩
    subst heq
    cases hy.symm.trans hz
    exact hcollects
  have hkeeps : Keeps (Watched W false false) (remoteHandleCommandResult plat sys s r) := by
    refine Agree.keeps (remoteHandleCommandResult_agree hy hy (fun _ => .refl) rfl rfl ?_ ?_
      hwatched.alike)
    · rintro b b' bs ⟨rfl, hb⟩
      exact ⟨rfl, fun _ => ⟨(hb rfl).isNull, (hb rfl).capacity⟩⟩
    · rintro l l' ⟨rfl, hl⟩
      refine ⟨rfl, ?_⟩
      show (remoteInput r _).received = _ ∧ (remoteInput r _).frames = _
      rw [remoteInput_connected]
      exact hl
  have hs' := hkeeps.of_ok h
  exact ⟨fun z hz => hs'.remote r z hz rfl, hs'.log⟩

/-- A call on a remote that reads frames. -/
theorem remoteProcessRecv_outcome (hwf : WF s.toCore) (hunlocked : s.Unlocked)
    (hy : s.remotes r = some y) (hframed : y.Framed) (hcollects : Collects remoteInputSize y.ib)
    (hdata : (usbmuxFraming remoteInputSize).Unfinished y.ib.data)
    (h : remoteProcessRecv plat sys s r = .ok s') :
    RecvOutcome r sys y (remoteInput r s.log) s'.toCore := by
  have hremote : s.remote r = .ok y := by
    rw [Daemon.remote, hy]
  have hfresh : r.block + 1 ≤ s.nextRemote := hwf.remoteFresh r (by rw [hy]; rfl)
  rw [remoteProcessRecv, hremote] at h
  dsimp only [bind, Except.bind] at h
  split at h
  · cases h
  next rf hrf =>
  have hspec := readFrame_spec hcollects hdata hrf
  -- the remote and the log once the bytes are in
  let y₁ : RemoteMux := { y with
    ib := rf.ib, lastActive := if rf.bodyRead then sys.now else y.lastActive }
  let s₁ : Daemon := (s.update (·.setRemote r y₁)).emit (recvActs (.remoteRecv r) rf.got)
  have hy₁ : s₁.remotes r = some y₁ := Function.update_self ..
  have hwf₁ : WF s₁.toCore := (hwf.setRemote (by rw [hy]; rfl)).emit
  have htrace : remoteInput r s₁.log =
      { remoteInput r s.log with received := (remoteInput r s.log).received ++ rf.got } :=
    remoteInput_recv
  have hdead : usbmuxRemoteMarkDead plat sys s₁ r = .ok s' →
      Gone r s'.toCore ∧ remoteInput r s'.log = remoteInput r s₁.log := fun hmark =>
    ⟨usbmuxRemoteMarkDead_gone hwf₁ hmark, usbmuxRemoteMarkDead_input hunlocked hmark⟩
  obtain ⟨hib, hcoll, ⟨hout, hgot, hrecv⟩ | ⟨hgot, hcases⟩⟩ := hspec
  · rw [hout] at h
    obtain ⟨hgone, hlog⟩ := hdead h
    refine .ended hrecv ?_ hgone
    rw [hlog, htrace, hgot, List.append_nil]
  · rw [hib] at hcases
    obtain ⟨hout, hdata⟩ | ⟨hout, hdata⟩ | ⟨hout, hdata⟩ := hcases
    · rw [hout] at h
      obtain ⟨hgone, hlog⟩ := hdead h
      exact .refused hgot hdata (hlog.trans htrace) hgone
    · rw [hout] at h
      cases h
      exact .more hgot hdata htrace hy₁ rfl hib hcoll
    · rw [hout] at h
      have hbytes : bufFrame plat y₁.ib = y.ib.data ++ rf.got := by
        rw [← hib]
        exact bufFrame_whole (by rw [hib]; exact hdata)
      have hframe : remoteInput r (s₁.log ++ [.frame r (bufFrame plat y₁.ib)]) =
          { remoteInput r s₁.log with
            frames := (remoteInput r s₁.log).frames ++ [y.ib.data ++ rf.got] } := by
        rw [remoteInput_frame, hbytes]
      obtain ⟨t, ht, hs'⟩ := bind_eq_ok.mp h
      obtain ⟨z, hz, rfl⟩ := modifyRemote_eq_ok hs'
      have hkept := handle_collects hy₁ hcoll (hfresh : r.block + 1 ≤ s₁.nextRemote) hunlocked ht
      rw [hframe, htrace] at hkept
      refine .frame hgot hdata hkept.2.1 hkept.2.2 (Function.update_self ..) ?_ rfl ?_
      · exact remoteHandleCommandResult_alive hy₁ hframed ht z hz
      · exact ⟨(hkept.1 z hz).isNull, (hkept.1 z hz).capacity⟩

end Recv

/-! ## The account over a run -/

/-- What was received from a remote is accounted for: by the frames handled,
by the data in its buffer while it reads frames, and by nothing else once it
is connected. -/
structure RemoteAccount (r : RemotePtr) (s : Core) : Prop where
  account : ∃ rest, Account remoteInputSize (remoteInput r s.log) rest
  connected : (remoteInput r s.log).ended = true →
    Account remoteInputSize (remoteInput r s.log) []
  reading : ∀ y, s.remotes r = some y → y.Framed → Collects remoteInputSize y.ib ∧
    Account remoteInputSize (remoteInput r s.log) y.ib.data ∧
    (usbmuxFraming remoteInputSize).Unfinished y.ib.data

section Run

variable {plat : Platform} {sys : Sys} {s s' : Daemon} {r : RemotePtr} {y : RemoteMux}

/-- What the rest of the daemon leaves alone while a remote is in some
condition. -/
inductive RemoteStatus (r : RemotePtr) (s : Core) : (Buf → Prop) → Nat → Prop where
  | reading {y : RemoteMux} (hy : s.remotes r = some y) (hf : y.Framed) :
      RemoteStatus r s (· = y.ib) (r.block + 1)
  | new (h : s.nextRemote ≤ r.block) : RemoteStatus r s (· = newInput) 0
  | other (h : r.block < s.nextRemote) (hf : ∀ y, s.remotes r = some y → ¬ y.Framed) :
      RemoteStatus r s (fun _ => True) 0

theorem remoteStatus_exists (r : RemotePtr) (s : Core) : ∃ P bound, RemoteStatus r s P bound := by
  by_cases hf : ∃ y, s.remotes r = some y ∧ y.Framed
  · obtain ⟨y, hy, hf⟩ := hf
    exact ⟨_, _, .reading hy hf⟩
  · by_cases hnew : s.nextRemote ≤ r.block
    · exact ⟨_, _, .new hnew⟩
    · exact ⟨_, _, .other (Nat.lt_of_not_le hnew) fun y hy hf' => hf ⟨y, hy, hf'⟩⟩

theorem RemoteStatus.fresh {P : Buf → Prop} {bound : Nat} {t : Core}
    (h : RemoteStatus r t P bound) : bound ≤ r.block → P newInput := by
  cases h with
  | reading => exact fun h => absurd h (Nat.not_succ_le_self _)
  | new => exact fun _ => rfl
  | other => exact fun _ => trivial

theorem RemoteStatus.watched {P : Buf → Prop} {bound : Nat} (hs : Settled s)
    (h : RemoteStatus r s.toCore P bound) :
    Watched (watchRemote r P (fun t => t = remoteInput r s.log) bound h.fresh) false false s := by
  refine ⟨fun _ _ _ => trivial, fun r' z hz heq => ?_, rfl, ?_, hs.unlocked.1, hs.unlocked.2⟩
  · subst heq
    cases h with
    | reading hy =>
        cases hy.symm.trans hz
        rfl
    | new hnew =>
        have hlt := hs.wf.remoteFresh r' (by rw [hz]; rfl)
        exact absurd hlt (Nat.not_lt.mpr hnew)
    | other => trivial
  · cases h with
    | reading hy => exact hs.wf.remoteFresh r (by rw [hy]; rfl)
    | new | other => exact Nat.zero_le _

/-- A remote that has not been opened has no past. -/
theorem remoteInput_new (hs : Settled s) (hnew : s.nextRemote ≤ r.block) :
    remoteInput r s.log = {} := by
  have hforeign : ∀ a ∈ s.log, a.remote ≠ some r ∨ a.isInput = false :=
    fun a ha => Or.inl fun heq => absurd (hs.log.remote ha heq) (Nat.not_lt.mpr hnew)
  have hnil : remoteInput r ([] ++ s.log) = remoteInput r [] := remoteInput_other hforeign
  rw [List.nil_append] at hnil
  exact hnil

/-- Everything but a `POLLIN` event on the remote keeps the account. -/
theorem RemoteAccount.kept {P : Buf → Prop} {bound : Nat} (hs : Settled s)
    (hmoves : Moves .all s.toCore s'.toCore) (hst : RemoteStatus r s.toCore P bound)
    (h : RemoteAccount r s.toCore)
    (hw : Watched (watchRemote r P (fun t => t = remoteInput r s.log) bound hst.fresh)
      false false s') : RemoteAccount r s'.toCore := by
  have hlog : remoteInput r s'.log = remoteInput r s.log := hw.log
  refine ⟨by rw [hlog]; exact h.account, by rw [hlog]; exact h.connected, fun y' hy' hf => ?_⟩
  have hP : P y'.ib := hw.remote r y' hy' rfl
  rw [hlog]
  cases hst with
  | reading hy hfr =>
      rw [show y'.ib = _ from hP]
      exact h.reading _ hy hfr
  | new hnew =>
      rw [show y'.ib = _ from hP, remoteInput_new hs hnew]
      exact ⟨⟨rfl, rfl⟩, .empty, Framing.unfinished_nil⟩
  | other hold hnot =>
      rcases hmoves.framed_before hy' hf with ⟨y, hy, hf⟩ | hnew
      · exact absurd hf (hnot y hy)
      · exact absurd hold (Nat.not_lt.mpr hnew)

theorem Gone.not_framed {t : Core} (h : Gone r t) (hy : t.remotes r = some y) : ¬ y.Framed :=
  fun hf => hf.2 (h y hy)

/-- A `POLLIN` event on the remote keeps the account. -/
theorem RecvOutcome.account {t t' : Core} (h : RecvOutcome r sys y (remoteInput r t.log) t')
    (hacc : RemoteAccount r t) (hy : t.remotes r = some y) (hf : y.Framed)
    (hover : (remoteInput r t.log).ended = false) : RemoteAccount r t' := by
  obtain ⟨_, haccount, _⟩ := hacc.reading y hy hf
  cases h with
  | ended _ htrace hgone =>
      refine ⟨?_, ?_, fun z hz hf' => absurd hf' (hgone.not_framed hz)⟩
      · rw [htrace]
        exact hacc.account
      · rw [htrace]
        exact hacc.connected
  | refused _ hdata htrace hgone =>
      refine ⟨?_, fun h => ?_, fun z hz hf' => absurd hf' (hgone.not_framed hz)⟩
      · rw [htrace]
        exact ⟨_, haccount.recv (Or.inr hdata)⟩
      · rw [htrace] at h
        exact absurd h (by rw [hover]; decide)
  | more _ hdata htrace hy' _ hib hcollects =>
      refine ⟨?_, fun h => ?_, fun z hz hf' => ?_⟩
      · rw [htrace]
        exact ⟨_, haccount.recv (Or.inl hdata)⟩
      · rw [htrace] at h
        exact absurd h (by rw [hover]; decide)
      · cases hy'.symm.trans hz
        rw [htrace, hib]
        exact ⟨hcollects, haccount.recv (Or.inl hdata), hdata⟩
  | frame _ hdata hreceived hframes hy' _ hib hcollects =>
      have hnew : Account remoteInputSize (remoteInput r t'.log) [] :=
        (haccount.frame hdata).congr hreceived hframes
      refine ⟨⟨_, hnew⟩, fun _ => hnew, fun z hz hf' => ?_⟩
      cases hy'.symm.trans hz
      rw [hib]
      exact ⟨hcollects, hnew, Framing.unfinished_nil⟩

/-- The event makes the daemon read from the remote, which still reads
frames. -/
def ReadsFrom (plat : Platform) (sys : Sys) (s : Daemon) (r : RemotePtr) (y : RemoteMux)
    (e : Event) : Prop :=
  ∃ fd revents t, e = .remote fd revents sys ∧ revents.pollin = true ∧
    reapLoop plat sys fd revents s = .ok (t, some r) ∧ s.remotes r = some y ∧ y.Framed

/-- A remote event on some other remote, or one that reads no frames. -/
theorem remoteProcessFound_watch {P : Buf → Prop} {Q : InputTrace → Prop} {bound : Nat}
    {h : bound ≤ r.block → P newInput} {r' : RemotePtr} {events : PollEvents}
    (hw : Watched (watchRemote r P Q bound h) false false s)
    (htwo : ∀ z, s.remotes r' = some z → z.state ≠ .connecting2)
    (hself : r' = r → ∀ z, s.remotes r = some z → events.pollin = true →
      z.state = .connected ∧ ∀ b, P b) :
    Keeps (Watched (watchRemote r P Q bound h) false false)
      (remoteProcessFound plat sys s r' events) := by
  refine remoteProcessFound_keeps hw (fun z hz hne hin => ?_) (fun z hz _ hin b b' _ _ heq => ?_)
    fun z hz hst => absurd hst (htwo z hz)
  · refine watchRemote_skipsRemote fun heq => ?_
    subst heq
    exact hne (hself rfl z hz hin).1
  · subst heq
    exact (hself rfl z hz hin).2 b'

/-- One event keeps the account. A `POLLIN` event on the remote is a call of
`remote_process_recv` on the data in its buffer, and any other says nothing
about its input. -/
theorem RemoteAccount.step {e : Event} (hs : Settled s) (htouch : Untouched r s e)
    (h : RemoteAccount r s.toCore) (hstep : step plat s e = .ok s') :
    RemoteAccount r s'.toCore ∧
      (∀ sys y, ReadsFrom plat sys s r y e →
        RecvOutcome r sys y (remoteInput r s.log) s'.toCore) ∧
      ((∀ sys y, ¬ ReadsFrom plat sys s r y e) →
        remoteInput r s'.log = remoteInput r s.log) := by
  have hmoves : Moves .all s.toCore s'.toCore := step_moves hs.wf allows_all hstep
  obtain ⟨P, bound, hst⟩ := remoteStatus_exists r s.toCore
  have hw := hst.watched hs
  by_cases he : ∃ fd revents sys, e = .remote fd revents sys
  · obtain ⟨fd, revents, sys, rfl⟩ := he
    obtain ⟨⟨t, found⟩, hreap, hrest⟩ := bind_eq_ok.mp hstep
    have hwt := (reapLoop_keeps hw).of_ok hreap
    obtain ⟨hreaping, hfound⟩ := (reapLoop_runs (A := .all) (fun _ => trivial) trivial hs.wf
      fun _ _ _ _ _ _ _ _ => trivial).of_ok hreap
    have hkept : RemoteAccount r t.toCore := h.kept hs hreaping.moves hst hwt
    cases found with
    | none =>
        cases hrest
        refine ⟨hkept, ?_, fun _ => hwt.log⟩
        rintro sys' y ⟨fd', revents', t', heq, _, hreap', _⟩
        cases heq
        cases hreap.symm.trans hreap'
    | some r' =>
        obtain ⟨_, z, hz, _, hlive⟩ := hfound r' rfl
        have hzs : s.remotes r' = some z := hreaping.sub hz
        have htwo : ∀ z, t.remotes r' = some z → z.state ≠ .connecting2 :=
          fun z hz => (hs.switched r' z (hreaping.sub hz)).2
        by_cases hreads : r' = r ∧ revents.pollin = true ∧ z.state ≠ .connected
        · obtain ⟨rfl, hin, hconn⟩ := hreads
          have hframed : z.Framed := ⟨hconn, hlive⟩
          obtain ⟨hcoll, hacc, hunf⟩ := hkept.reading z hz hframed
          have hover : (remoteInput r' t.log).ended = false := by
            rw [show remoteInput r' t.log = remoteInput r' s.log from hwt.log]
            refine Bool.eq_false_iff.mpr fun hov => ?_
            exact hs.unswitched r' z hzs hframed (remoteInput_over.mp hov)
          have hrecv : remoteProcessRecv plat sys t r' = .ok s' := by
            have hremote : t.remote r' = .ok z := by
              rw [Daemon.remote, hz]
            have hfound' : remoteProcessFound plat sys t r' revents = .ok s' := hrest
            rw [remoteProcessFound, hremote] at hfound'
            dsimp only [bind, Except.bind] at hfound'
            rw [if_neg hconn, if_pos hin, if_neg (htwo z hz)] at hfound'
            exact hfound'
          have hout := remoteProcessRecv_outcome hreaping.wf ⟨hwt.remoteLock, hwt.clientLock⟩ hz
            hframed hcoll hunf hrecv
          refine ⟨hout.account hkept hz hframed hover, ?_, fun hnot => ?_⟩
          · rintro sys' y ⟨fd', revents', t', heq, _, _, hy, _⟩
            cases heq
            cases hzs.symm.trans hy
            rw [← show remoteInput r' t.log = remoteInput r' s.log from hwt.log]
            exact hout
          · exact absurd ⟨fd, revents, t, rfl, hin, hreap, hzs, hframed⟩ (hnot sys z)
        · have hself : r' = r → ∀ z, t.remotes r = some z → revents.pollin = true →
              z.state = .connected ∧ ∀ b, P b := by
            rintro rfl z' hz' hin
            cases hz.symm.trans hz'
            have hconn : z.state = .connected :=
              not_not.mp fun hne => hreads ⟨rfl, hin, hne⟩
            refine ⟨hconn, ?_⟩
            cases hst with
            | reading hy hf =>
                cases hzs.symm.trans hy
                exact absurd hconn hf.1
            | new hnew =>
                have hlt := hs.wf.remoteFresh r' (by rw [hzs]; rfl)
                exact absurd hlt (Nat.not_lt.mpr hnew)
            | other => exact fun _ => trivial
          have hw' := (remoteProcessFound_watch hwt htwo hself).of_ok hrest
          refine ⟨h.kept hs hmoves hst hw', ?_, fun _ => hw'.log⟩
          rintro sys' y ⟨fd', revents', t', heq, hin, hreap', hy, hf⟩
          cases heq
          cases hreap.symm.trans hreap'
          cases hzs.symm.trans hy
          exact absurd ⟨rfl, hin, hf.1⟩ hreads
  · have hw' := (step_watchRemote hw (fun fd revents sys heq => he ⟨fd, revents, sys, heq⟩)
      fun ht => by
        cases hst with
        | reading hy hf => exact absurd hf (htouch ht _ hy)
        | new hnew =>
            obtain ⟨c, x, hx, hr⟩ := ht.linked
            obtain ⟨state, hopen⟩ := hs.log.link hx hr
            exact absurd (hs.log.remote hopen rfl) (Nat.not_lt.mpr hnew)
        | other => exact fun _ => trivial).of_ok hstep
    refine ⟨h.kept hs hmoves hst hw', ?_, fun _ => hw'.log⟩
    rintro sys y ⟨fd, revents, _, heq, _⟩
    exact absurd ⟨fd, revents, sys, heq⟩ he

theorem RemoteAccount.initial (h : usbmuxRemoteInit plat sys = .ok s) :
    RemoteAccount r s.toCore := by
  have hw := (usbmuxRemoteInit_keeps (W := watchRemote r (· = newInput)
    (fun t => t = {}) 0 fun _ => rfl) rfl rfl).of_ok h
  have hlog : remoteInput r s.log = {} := hw.log
  refine ⟨⟨[], ?_⟩, fun _ => ?_, fun y hy _ => ?_⟩
  · rw [hlog]
    exact .empty
  · rw [hlog]
    exact .empty
  · rw [hlog, show y.ib = newInput from hw.remote r y hy rfl]
    exact ⟨⟨rfl, rfl⟩, .empty, Framing.unfinished_nil⟩

theorem reachable_remoteAccount (h : ReachableBy plat (Untouched r) s) :
    RemoteAccount r s.toCore :=
  reachableBy_induct (P := fun s => RemoteAccount r s.toCore) (fun h₀ => .initial h₀)
    (fun hr hacc htouch hstep => (hacc.step (reachable_settled hr) htouch hstep).1) h

end Run

/-! ## Reassembly -/

/-- The one-shot cut of everything received from a remote before it was
connected. -/
def remoteCut (r : RemotePtr) (s : Daemon) : Cut UInt8 :=
  (usbmuxFraming remoteInputSize).cut (remoteInput r s.log).received

/-- The frames of a remote that were handled are those of the stream, in every
state and whatever the pieces it came in. What is not cut off yet is in the
buffer, and nothing is left over once the remote is connected. A `POLLIN`
event that receives something kills the remote exactly when the next frame has
no good length, and one that connects it leaves the buffer empty. -/
theorem remote_reassembly {plat : Platform} {r : RemotePtr} {s : Daemon}
    (h : ReachableBy plat (Untouched r) s) :
    (remoteInput r s.log).frames = (remoteCut r s).frames ∧
      (∀ y, s.remotes r = some y → y.Framed → (remoteCut r s).rest = y.ib.data) ∧
      (∀ y, s.remotes r = some y → y.state = .connected → (remoteCut r s).rest = []) ∧
      ∀ sys y bs e s', ReadsFrom plat sys s r y e → sys.recv = some bs → bs ≠ [] →
        step plat s e = .ok s' →
        (Gone r s'.toCore ↔ (usbmuxFraming remoteInputSize).Refused (remoteCut r s').rest) ∧
          ∀ y', s'.remotes r = some y' → y'.state = .connected → y'.ib.data = [] := by
  have hacc := reachable_remoteAccount h
  have hs : Settled s := reachable_settled h.reachable
  refine ⟨?_, fun y hy hf => ?_, fun y hy hconn => ?_, ?_⟩
  · obtain ⟨rest, hrest⟩ := hacc.account
    rw [remoteCut, hrest.cut]
  · rw [remoteCut, (hacc.reading y hy hf).2.1.cut]
  · have hover := remoteInput_over.mpr ((hs.switched r y hy).1 hconn)
    rw [remoteCut, (hacc.connected hover).cut]
  · intro sys y bs e s' hreads hrecv hbs hstep
    have huntouched : Untouched r s e := by
      obtain ⟨fd, revents, t, rfl, _⟩ := hreads
      exact fun h => h.elim
    obtain ⟨fd, revents, t, _, _, _, hy, hf⟩ := id hreads
    obtain ⟨_, hread, _⟩ := hacc.reading y hy hf
    cases (hacc.step hs huntouched hstep).2.1 sys y hreads with
    | ended hover => exact absurd (hover bs hrecv) hbs
    | refused _ hdata htrace hgone =>
        refine ⟨iff_of_true hgone ?_, fun y' hy' hconn => ?_⟩
        · rw [remoteCut, htrace, (hread.recv (Or.inr hdata)).cut]
          exact hdata
        · exact absurd (hconn.symm.trans (hgone y' hy')) (by decide)
    | more _ hdata htrace hy' hstate =>
        refine ⟨iff_of_false (fun hgone => ?_) ?_, fun z hz hconn => ?_⟩
        · exact hf.2 (hstate.symm.trans (hgone _ hy'))
        · rw [remoteCut, htrace, (hread.recv (Or.inl hdata)).cut]
          exact hdata.not_refused
        · cases hy'.symm.trans hz
          exact absurd (hstate.symm.trans hconn) hf.1
    | frame _ hdata hreceived hframes hy' hstate hib =>
        refine ⟨iff_of_false (fun hgone => hstate (hgone _ hy')) ?_, fun z hz _ => ?_⟩
        · rw [remoteCut, ((hread.frame hdata).congr hreceived hframes).cut]
          exact Framing.unfinished_nil.not_refused
        · cases hy'.symm.trans hz
          exact hib

/-- The local listener gets its result in three pieces, the second of which is
cut short because no more than the header is asked for. -/
def splitResultRun : List Event :=
  [.remote 3 { pollin := true } { recv := some ((resultFrame resultOk).take 10) },
   .remote 3 { pollin := true } { recv := some ((resultFrame resultOk).drop 10) },
   .remote 3 { pollin := true } { recv := some ((resultFrame resultOk).drop 16) }]

theorem remote_reassembly_split : ∃ s, ReachableBy (platformWith []) (Untouched ⟨0⟩) s ∧
    (remoteInput ⟨0⟩ s.log).frames = [resultFrame resultOk] ∧
      (remoteCut ⟨0⟩ s).frames = [resultFrame resultOk] := by
  let test : Daemon → Bool := fun s =>
    decide ((remoteInput ⟨0⟩ s.log).frames = [resultFrame resultOk])
  obtain ⟨s, hrun, htest⟩ : ∃ s, runFrom (platformWith []) { connect := some 3 }
      (fun _ _ => true) splitResultRun = some s ∧ test s = true :=
    exists_of_runFrom (by decide +kernel)
  have hframes : (remoteInput ⟨0⟩ s.log).frames = [resultFrame resultOk] := of_decide_eq_true htest
  have hreach : ReachableBy (platformWith []) (Untouched ⟨0⟩) s := by
    refine reachableBy_of_runFrom (fun t e he _ _ htouch => ?_) hrun
    simp only [splitResultRun, List.mem_cons, List.not_mem_nil, or_false] at he
    rcases he with rfl | rfl | rfl <;> exact htouch.elim
  exact ⟨s, hreach, hframes, (remote_reassembly hreach).1.symm.trans hframes⟩

end Usbfluxd
