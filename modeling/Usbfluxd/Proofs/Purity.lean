import Usbfluxd.Proofs.Trace
import Usbfluxd.Proofs.Runs

/-!
# Connected streams stay pure

Once `client_notify_connect` has queued `RESULT_OK`, the client takes what it
receives for the device's bytes, so nothing may be queued on it any more. The
client itself sends no further command, since its input buffer is freed, and
it is told of no devices, since it does not listen. What is left are replies
to requests it made earlier: they are passed on whatever has become of the
client in the meantime.
-/

namespace Usbfluxd

open Lib

/-- The act appends to the output buffer of a client. -/
def Act.queuesOn (c : ClientPtr) : Act → Bool
  | .queue c' _ _ | .queueRaw c' _ => c' = c
  | _ => false

/-- The acts after a client was first told that it is connected. -/
def afterConnect (c : ClientPtr) : List Act → List Act
  | [] => []
  | .notifyConnect c' result :: rest =>
      if c' = c ∧ result = resultOk then rest else afterConnect c rest
  | _ :: rest => afterConnect c rest

/-- Nothing is queued on a client after it was told that it is connected. -/
def PureStream (c : ClientPtr) (log : List Act) : Prop :=
  ∀ a ∈ afterConnect c log, a.queuesOn c = false

section Log

variable {c : ClientPtr} {log acts : List Act}

theorem afterConnect_cons_of_ne {a : Act} (h : a ≠ .notifyConnect c resultOk) :
    afterConnect c (a :: log) = afterConnect c log := by
  cases a with
  | notifyConnect c' result =>
      rw [afterConnect, if_neg]
      rintro ⟨rfl, rfl⟩
      exact h rfl
  | queue | queueRaw | clientRecv | clientSend | clientRead | clientWrite | command | listen
  | openRemote | remoteQueue | remoteSend | remoteRecv | remoteConnected | relayRecv | frame =>
      rfl

theorem afterConnect_of_not_mem (h : .notifyConnect c resultOk ∉ log) :
    afterConnect c log = [] := by
  induction log with
  | nil => rfl
  | cons a rest ih =>
      rw [List.mem_cons, not_or] at h
      rw [afterConnect_cons_of_ne fun heq => h.1 heq.symm]
      exact ih h.2

theorem afterConnect_append_of_mem (h : .notifyConnect c resultOk ∈ log) :
    afterConnect c (log ++ acts) = afterConnect c log ++ acts := by
  induction log with
  | nil => cases h
  | cons a rest ih =>
      by_cases ha : a = .notifyConnect c resultOk
      · rw [ha, List.cons_append, afterConnect, afterConnect, if_pos ⟨rfl, rfl⟩,
          if_pos ⟨rfl, rfl⟩]
      · rw [List.cons_append, afterConnect_cons_of_ne ha, afterConnect_cons_of_ne ha]
        exact ih (List.mem_of_ne_of_mem (fun heq => ha heq.symm) h)

theorem afterConnect_append_of_not_mem (h : .notifyConnect c resultOk ∉ log) :
    afterConnect c (log ++ acts) = afterConnect c acts := by
  induction log with
  | nil => rfl
  | cons a rest ih =>
      rw [List.mem_cons, not_or] at h
      rw [List.cons_append, afterConnect_cons_of_ne fun heq => h.1 heq.symm]
      exact ih h.2

/-- A log stays pure when what is added is, and is nothing the client can see
once it was told. -/
theorem PureStream.append (h : PureStream c log) (hacts : PureStream c acts)
    (hafter : .notifyConnect c resultOk ∈ log → ∀ a ∈ acts, a.queuesOn c = false) :
    PureStream c (log ++ acts) := by
  intro a ha
  by_cases hmem : .notifyConnect c resultOk ∈ log
  · rw [afterConnect_append_of_mem hmem, List.mem_append] at ha
    rcases ha with ha | ha
    · exact h a ha
    · exact hafter hmem a ha
  · rw [afterConnect_append_of_not_mem hmem] at ha
    exact hacts a ha

theorem pureStream_of_not_mem (h : .notifyConnect c resultOk ∉ acts) : PureStream c acts := by
  intro a ha
  rw [afterConnect_of_not_mem h] at ha
  cases ha

end Log

/-! ## Who can be queued on -/

/-- The client was told that it is connected. -/
def MuxClient.Told (x : MuxClient) : Prop :=
  (x.state = .connecting2 ∨ x.state = .connected) ∧ x.ib.isNull = true

/-- A client in any other state was not. -/
theorem MuxClient.not_told {x : MuxClient}
    (h : x.state = .command ∨ x.state = .listen ∨ x.state = .connecting1) : ¬ x.Told := by
  rintro ⟨hstate, _⟩
  rcases h with h | h | h <;> rw [h] at hstate <;> rcases hstate with hs | hs <;> cases hs

/-- A packet may be queued on the client in this state. -/
def Takes (A : Allow) (s : Core) (c : ClientPtr) : Prop :=
  ∃ x, s.clients c = some x ∧ (x.Told → A.forwardOk x.state)

theorem Takes.of_not_told {A : Allow} {s : Core} {c : ClientPtr} {x : MuxClient}
    (hx : s.clients c = some x) (h : ¬ x.Told) : Takes A s c :=
  ⟨x, hx, fun ht => absurd ht h⟩

/-- What a move says to clients. -/
structure Says (A : Allow) (s s' : Core) (acts : List Act) : Prop where
  log : s'.log = s.log ++ acts
  queues : ∀ {a c}, a ∈ acts → a.queuesOn c = true → Takes A s c
  told : ∀ {c x}, .notifyConnect c resultOk ∈ acts → s'.clients c = some x → x.Told
  pure : ∀ c, PureStream c acts

section Says

variable {A : Allow} {s s' s'' : Core} {c : ClientPtr} {x : MuxClient} {acts : List Act}

/-- A move that tells nobody it is connected. -/
theorem Says.of_queues (hlog : s'.log = s.log ++ acts)
    (hqueues : ∀ {a c}, a ∈ acts → a.queuesOn c = true → Takes A s c)
    (hno : ∀ c, .notifyConnect c resultOk ∉ acts) : Says A s s' acts :=
  ⟨hlog, hqueues, fun h => absurd h (hno _), fun c => pureStream_of_not_mem (hno c)⟩

/-- Nothing is queued and no connect result given. -/
def Act.silent : Act → Bool
  | .queue .. | .queueRaw .. | .notifyConnect .. => false
  | _ => true

theorem Act.silent_of_client_none {a : Act} (h : a.client = none) : a.silent = true := by
  cases a with
  | remoteQueue | remoteSend | remoteRecv | remoteConnected | relayRecv | frame => rfl
  | queue | queueRaw | clientRecv | clientSend | clientRead | clientWrite | command | listen
  | notifyConnect | openRemote => cases h

theorem Act.queuesOn_of_silent {a : Act} (h : a.silent = true) : a.queuesOn c = false := by
  cases a with
  | queue | queueRaw => cases h
  | clientRecv | clientSend | clientRead | clientWrite | command | listen | notifyConnect
  | openRemote | remoteQueue | remoteSend | remoteRecv | remoteConnected | relayRecv | frame =>
      rfl

/-- A move that says nothing to clients. -/
theorem Says.of_silent (hlog : s'.log = s.log ++ acts) (h : ∀ a ∈ acts, a.silent = true) :
    Says A s s' acts := by
  refine .of_queues hlog (fun {a c} ha hq => ?_) fun c hmem => ?_
  · cases (Act.queuesOn_of_silent (h a ha)).symm.trans hq
  · cases h _ hmem

/-- One packet or one piece of a reply for a client that takes it. -/
theorem Says.of_queue {a : Act} (hlog : s'.log = s.log ++ [a])
    (ha : (∃ hdr payload, a = .queue c hdr payload) ∨ ∃ bs, a = .queueRaw c bs)
    (htakes : Takes A s c) : Says A s s' [a] := by
  refine .of_queues hlog (fun {a' c'} hmem hq => ?_) fun c' hmem => ?_
  · cases List.mem_singleton.mp hmem
    have hc : c = c' := by
      rcases ha with ⟨hdr, payload, rfl⟩ | ⟨bs, rfl⟩ <;> exact of_decide_eq_true hq
    rw [← hc]
    exact htakes
  · cases List.mem_singleton.mp hmem
    rcases ha with ⟨hdr, payload, h⟩ | ⟨bs, h⟩ <;> cases h

theorem ClientStep.says {x' : MuxClient} (hx : s.clients c = some x)
    (h : ClientStep c x acts x') : Says A s ((s.setClient c x').emit acts) acts := by
  have hquiet : (∀ a ∈ acts, a.silent = true) →
      Says A s ((s.setClient c x').emit acts) acts := .of_silent rfl
  cases h with
  | queue hinput =>
      refine .of_queue rfl (Or.inl ⟨_, _, rfl⟩) (.of_not_told hx ?_)
      rintro ⟨_, hnull⟩
      cases hinput.symm.trans hnull
  | recv =>
      refine hquiet fun a ha => ?_
      rw [recvActs] at ha
      split at ha
      · cases ha
      · cases List.mem_singleton.mp ha
        rfl
  | command | send | connected =>
      refine hquiet fun a ha => ?_
      cases List.mem_singleton.mp ha
      rfl
  | inputDone | proto | info | events => exact hquiet fun a ha => absurd ha List.not_mem_nil
  | notifyFail hstate hres =>
      refine .of_queues rfl (fun {a c'} ha hq => ?_) fun c' hmem => ?_
      · rcases List.mem_pair.mp ha with rfl | rfl
        · cases of_decide_eq_true hq
          exact .of_not_told hx (MuxClient.not_told (Or.inr (Or.inr hstate)))
        · cases hq
      · rcases List.mem_pair.mp hmem with h | h
        · cases h
        · cases h
          exact hres rfl

/-- Who takes a packet after others were queued took it before. -/
theorem Takes.before (h : Takes A s' c) (hsame : SameButClients s s') : Takes A s c := by
  obtain ⟨x', hx', htakes⟩ := h
  obtain ⟨x, hx⟩ := Option.isSome_iff_exists.mp (hsame.isSome_before c (by rw [hx']; rfl))
  obtain ⟨ob, e, hx₁, _⟩ := hsame.client hx
  cases hx₁.symm.trans hx'
  exact ⟨x, hx, htakes⟩

/-- A packet for a client that listens, before others. -/
theorem Says.cons {hdr : Header} {payload : Payload} (hstate : x.state = .listen)
    (hq : Queued c x hdr payload s s') (h : Says A s' s'' acts)
    (hno : ∀ c, .notifyConnect c resultOk ∉ acts) :
    Says A s s'' (.queue c hdr payload :: acts) := by
  have hlog : s'.log = s.log ++ [.queue c hdr payload] := by
    obtain ⟨_, _, _, _, rfl⟩ := hq
    rfl
  refine .of_queues ?_ (fun {a c'} ha hqueues => ?_) fun c' hmem => ?_
  · rw [h.log, hlog, List.append_assoc, List.singleton_append]
  · rcases List.mem_cons.mp ha with rfl | ha
    · cases of_decide_eq_true hqueues
      exact .of_not_told hq.1 (MuxClient.not_told (Or.inr (Or.inl hstate)))
    · exact (h.queues ha hqueues).before hq.same
  · rcases List.mem_cons.mp hmem with heq | hmem
    · cases heq
    · exact hno c' hmem

theorem Announces.says (h : Announces s s') :
    ∃ acts, Says A s s' acts ∧ ∀ c, .notifyConnect c resultOk ∉ acts := by
  induction h using Relation.ReflTransGen.head_induction_on with
  | refl => exact ⟨[], .of_silent (List.append_nil _).symm fun a ha => (nomatch ha),
      fun _ hmem => (nomatch hmem)⟩
  | head hfirst _ ih =>
      obtain ⟨c, x, hdr, payload, hstate, hq⟩ := hfirst
      obtain ⟨acts, hsaid, hno⟩ := ih
      refine ⟨_, .cons hstate hq hsaid hno, fun c hmem => ?_⟩
      rcases List.mem_cons.mp hmem with heq | hmem
      · cases heq
      · exact hno c hmem

/-- Every move queues only on clients that can take it. -/
theorem Move.says (hm : Move A s s') : ∃ acts, Says A s s' acts := by
  cases hm with
  | client hx h => exact ⟨_, h.says hx⟩
  | remote hy h =>
      exact ⟨_, .of_silent rfl fun a ha => Act.silent_of_client_none (h.act_remote a ha).2⟩
  | forward _ _ _ _ _ hx _ hok =>
      exact ⟨_, .of_queue rfl (Or.inr ⟨_, rfl⟩) ⟨_, hx, fun _ => hok⟩⟩
  | relayRead | relayWrite =>
      refine ⟨_, .of_silent rfl fun a ha => ?_⟩
      cases List.mem_singleton.mp ha
      rfl
  | connect _ _ _ _ _ hacts | request _ _ _ _ _ hacts =>
      refine ⟨_, .of_silent rfl fun a ha => ?_⟩
      rcases List.mem_cons.mp ha with rfl | ha
      · rfl
      · exact Act.silent_of_client_none (hacts.act_remote a ha).2
  | @notifyOk r y c x ob hdr payload e _ _ _ hx hstate =>
      refine ⟨_, rfl, fun {a c'} ha hq => ?_, fun {c' x'} hmem hx' => ?_, fun c' a ha => ?_⟩
      · rcases List.mem_cons.mp ha with rfl | ha
        · cases of_decide_eq_true hq
          exact .of_not_told hx (MuxClient.not_told (Or.inr (Or.inr hstate)))
        · rcases List.mem_pair.mp ha with rfl | rfl <;> cases hq
      · have hc : c' = c := by
          rcases List.mem_cons.mp hmem with heq | hmem
          · cases heq
          · rcases List.mem_pair.mp hmem with heq | heq <;> cases heq
            rfl
        rw [Core.clients_emit, Core.clients_setClient, if_pos hc] at hx'
        cases hx'
        exact ⟨Or.inl rfl, rfl⟩
      · rw [afterConnect_cons_of_ne (by simp), afterConnect] at ha
        split at ha
        · cases List.mem_singleton.mp ha
          rfl
        · cases ha
  | addListener _ hacts =>
      exact ⟨_, .of_silent rfl fun a ha => Act.silent_of_client_none (hacts.act_remote a ha).2⟩
  | accept | closeRemote | killId =>
      exact ⟨[], .of_silent (List.append_nil _).symm fun a ha => (nomatch ha)⟩
  | closeClient =>
      exact ⟨[], .of_silent (Emits.nil Core.log_closeClient).log fun a ha => (nomatch ha)⟩
  | dispose => exact ⟨[], .of_silent (Emits.nil Core.log_dispose).log fun a ha => (nomatch ha)⟩
  | deviceSet _ hn | deviceErase _ hn =>
      obtain ⟨acts, hsaid, hno⟩ := hn.announces.says (A := A)
      exact ⟨acts, .of_queues hsaid.log hsaid.queues hno⟩
  | @listen c x _ hx hstate hn =>
      obtain ⟨acts, hsaid, hno⟩ := hn.announces.says (A := A)
      refine ⟨.listen c :: acts, .of_queues ?_ (fun {a c'} ha hq => ?_) fun c' hmem => ?_⟩
      · rw [hsaid.log, Core.log_emit, List.append_assoc]
        rfl
      · rcases List.mem_cons.mp ha with rfl | ha
        · cases hq
        · obtain ⟨z, hz, htold⟩ := hsaid.queues ha hq
          rw [Core.clients_emit, Core.clients_setClient] at hz
          split at hz
          · next heq =>
              rw [heq]
              exact .of_not_told hx (MuxClient.not_told (Or.inl hstate))
          · exact ⟨z, hz, htold⟩
      · rcases List.mem_cons.mp hmem with heq | hmem
        · cases heq
        · exact hno c' hmem

end Says

/-! ## The invariant -/

/-- No reply is passed on to a client that was told it is connected. -/
def Allow.noLateReply : Allow :=
  { Allow.all with forwardOk := fun state => state ≠ .connecting2 ∧ state ≠ .connected }

/-- The streams are pure, and whoever was told it is connected is so. -/
structure Purity (s : Core) : Prop where
  stream : ∀ c, PureStream c s.log
  told : ∀ {c x}, .notifyConnect c resultOk ∈ s.log → s.clients c = some x → x.Told

section Invariant

variable {s s' : Core}

theorem MuxClient.Told.evolves {x x' : MuxClient} (h : x.Told) (he : x.Evolves x') :
    x'.Told := by
  obtain ⟨hstate, hnull⟩ := h
  refine ⟨?_, ?_⟩
  · rcases he.state with heq | ⟨hs, _⟩ | ⟨hs, _⟩ | ⟨_, hs⟩
    · rw [heq]
      exact hstate
    · rw [hs] at hstate
      rcases hstate with h | h <;> cases h
    · rw [hs] at hstate
      rcases hstate with h | h <;> cases h
    · exact Or.inr hs
  · rcases he.input with heq | ⟨_, _, hnull'⟩
    · exact heq.trans hnull
    · exact hnull'

/-- Whoever was told it is connected before a move is so after it. -/
theorem Purity.told_after {A : Allow} {c : ClientPtr} {x' : MuxClient} (h : Purity s)
    (hlog : LogOk s) (hm : Shape A s s') (hmem : .notifyConnect c resultOk ∈ s.log)
    (hx' : s'.clients c = some x') : x'.Told := by
  cases hm with
  | inPlace hp =>
      obtain ⟨x, hx, he⟩ := hp.client_before hx'
      exact (h.told hmem hx).evolves he
  | accept _ heq =>
      rw [heq] at hx'
      rcases Core.clients_addClient_cases hx' with ⟨rfl, _⟩ | hx
      · exact absurd (hlog.client hmem rfl) (Nat.lt_irrefl _)
      · exact h.told hmem hx
  | opens ho =>
      rw [ho.result, Core.clients_emit, Core.clients_addRemote, Core.clients_setClient] at hx'
      split at hx'
      · next heq =>
          rw [heq] at hmem
          exact absurd (h.told hmem ho.client) (MuxClient.not_told (Or.inl ho.command))
      · exact h.told hmem hx'
  | addListener _ heq =>
      rw [heq] at hx'
      exact h.told hmem hx'
  | closeClient _ heq =>
      rw [heq, Core.clients_closeClient] at hx'
      split at hx'
      · cases hx'
      · exact h.told hmem hx'
  | closeRemote _ _ _ heq =>
      rw [heq] at hx'
      exact h.told hmem hx'
  | dispose _ _ heq =>
      rw [heq, Core.clients_dispose] at hx'
      split at hx'
      · cases hx'
      · exact h.told hmem hx'

theorem Purity.move (hlog : LogOk s) (hm : Move .noLateReply s s') (h : Purity s) :
    Purity s' := by
  obtain ⟨acts, hsaid⟩ := hm.says
  refine ⟨fun c => ?_, fun {c x} hmem hx => ?_⟩
  · rw [hsaid.log]
    refine (h.stream c).append (hsaid.pure c) fun hmem a ha => ?_
    rw [← Bool.not_eq_true]
    intro hq
    obtain ⟨x, hx, htakes⟩ := hsaid.queues ha hq
    have htold := h.told hmem hx
    obtain ⟨hne2, hne⟩ := htakes htold
    exact htold.1.elim hne2 hne
  · rw [hsaid.log, List.mem_append] at hmem
    rcases hmem with hmem | hmem
    · exact h.told_after hlog hm.shape hmem hx
    · exact hsaid.told hmem hx

theorem Purity.initial (h : Initial s) : Purity s := by
  have hno : ∀ c, .notifyConnect c resultOk ∉ s.log := by
    intro c hmem
    cases h with
    | empty => cases hmem
    | listener _ hacts => cases (hacts.act_remote _ hmem).2
  exact ⟨fun c => pureStream_of_not_mem (hno c), fun hmem => absurd hmem (hno _)⟩

end Invariant

/-- A reply to an earlier request is complete with this event, and its client
was told in the meantime that it is connected. -/
def LateReply (plat : Platform) (s : Daemon) : Event → Prop
  | .remote fd revents sys => revents.pollin = true ∧ ∃ r y c x, s.remotes r = some y ∧
      y.fd = fd ∧ Replying plat sys y c ∧ s.clients c = some x ∧
      (x.state = .connecting2 ∨ x.state = .connected)
  | _ => False

theorem allows_noLateReply {plat : Platform} {s : Daemon} {e : Event}
    (h : ¬ LateReply plat s e) : Allows Allow.noLateReply plat s e := by
  refine allows_of .of_all
    (fun _ => trivial) (fun _ => Or.inr trivial)
    (fun _ _ _ _ _ _ _ _ _ _ _ _ _ _ => trivial) ?_
  rintro fd revents sys r y rfl hy hfd _
  refine ⟨fun _ _ _ => trivial, fun _ _ _ => trivial, fun hin c x hreply hx => ?_,
    fun _ _ => trivial⟩
  constructor
  · exact fun hs => h ⟨hin, r, y, c, x, hy, hfd, hreply, hx, Or.inl hs⟩
  · exact fun hs => h ⟨hin, r, y, c, x, hy, hfd, hreply, hx, Or.inr hs⟩

/-- In a run in which no reply comes too late, nothing is queued on a client
after its connect request succeeded. -/
theorem reachable_pureStream {plat : Platform} {s : Daemon}
    (h : ReachableBy plat (fun s e => ¬ LateReply plat s e) s) (c : ClientPtr) :
    ∀ a ∈ afterConnect c s.log, a.queuesOn c = false := by
  have hinv := reachable_inv (A := .noLateReply) (P := fun s => LogOk s ∧ Purity s)
    (fun h => ⟨.initial h, .initial h⟩) (fun _ _ he => allows_noLateReply he)
    (fun hwf hm hs => ⟨hs.1.move hwf hm, hs.2.move hs.1 hm⟩) h
  exact hinv.2.2.stream c

theorem not_lateReply_of_noCommand {plat : Platform} {s : Daemon} {e : Event} (hwf : WF s.toCore)
    (h : (s.remoteList.elems.all fun r => (s.remotes r).all fun y =>
      decide (y.state ≠ .command)) = true) : ¬ LateReply plat s e := by
  cases e with
  | remote fd revents sys =>
      rintro ⟨_, r, y, c, x, hy, _, hreply, _⟩
      have hy' := List.all_eq_true.mp h r ((hwf.remotes r).mpr (by rw [hy]; rfl))
      rw [hy, Option.all_some, decide_eq_true_eq] at hy'
      exact hy' hreply.command
  | accept | client | getFds | addRemote | mdnsAdd | mdnsRemove => exact id

/-- A connect request is accepted. -/
def acceptedRun : List Event :=
  .accept (some 5) :: (clientSends 5 { connect := some 10 } (connectFrame 7 3 80) ++
    remoteSends 10 (resultFrame 0))

theorem reachable_pureStream_accepted :
    ∃ s, ReachableBy (platformWith []) (fun s e => ¬ LateReply (platformWith []) s e) s ∧
      Act.notifyConnect ⟨0⟩ resultOk ∈ s.log ∧
      ∀ a ∈ afterConnect ⟨0⟩ s.log, a.queuesOn ⟨0⟩ = false := by
  let test : Daemon → Bool := fun s => s.log.any fun a =>
    match a with
    | .notifyConnect c result => c = ⟨0⟩ ∧ result = resultOk
    | _ => false
  obtain ⟨s, hrun, htest⟩ : ∃ s, runFrom (platformWith []) {}
      (fun s _ => s.remoteList.elems.all fun r => (s.remotes r).all fun y =>
        decide (y.state ≠ .command)) acceptedRun = some s ∧ test s = true :=
    exists_of_runFrom (by decide +kernel)
  have hreach : ReachableBy (platformWith []) (fun s e => ¬ LateReply (platformWith []) s e) s :=
    reachableBy_of_runFrom
      (fun _ _ _ ht hok => not_lateReply_of_noCommand (reachable_wf ht) hok) hrun
  obtain ⟨a, ha, htold⟩ := List.any_eq_true.mp htest
  refine ⟨s, hreach, ?_, reachable_pureStream hreach ⟨0⟩⟩
  split at htold
  · rw [decide_eq_true_eq] at htold
    rw [← htold.1, ← htold.2]
    exact ha
  · cases htold

/-- A client asks for the BUID and then for a connection, which is answered
first. -/
def lateReplyRun : List Event :=
  .accept (some 5) :: (clientSends 5 { connect := some 10 } (plistFrame 1 1 readBuidRequest) ++
    clientSends 5 { connect := some 11 } (connectFrame 7 3 80) ++
    remoteSends 11 (resultFrame 0) ++ remoteSends 10 (plistFrame 1 1 buidReply))

/-- The reply that comes late is queued behind the connect result. -/
theorem queued_after_connect :
    ∃ s a, Reachable (platformWith [readBuidRequest, buidReply]) s ∧
      a ∈ afterConnect ⟨0⟩ s.log ∧ a.queuesOn ⟨0⟩ = true := by
  let test : Daemon → Bool := fun s => (afterConnect ⟨0⟩ s.log).any (Act.queuesOn ⟨0⟩)
  obtain ⟨s, hrun, htest⟩ : ∃ s, runFrom (platformWith [readBuidRequest, buidReply]) {}
      (fun _ _ => true) lateReplyRun = some s ∧ test s = true :=
    exists_of_runFrom (by decide +kernel)
  obtain ⟨a, ha, hq⟩ := List.any_eq_true.mp htest
  exact ⟨s, a, reachable_of_runFrom hrun, ha, hq⟩

end Usbfluxd
