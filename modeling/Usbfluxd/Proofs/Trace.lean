import Usbfluxd.Moves.Shape

/-!
# Reading the log

Statements about byte streams are statements about the log: what was queued
on a client, what went out to it, what came in from a remote. `ClientTrace`
and `RemoteTrace` collect that for one client and one remote, act by act.

Two facts about the log itself are needed everywhere. Acts name only objects
that were handed out, so a new object has an empty past; and whoever is
linked to somebody was linked by an `openRemote` in the log, which happens
once in a remote's life. The second is what tells the streams of two clients
apart.
-/

namespace Usbfluxd

open Lib

/-! ## Traces -/

/-- What went through one client. -/
structure ClientTrace where
  /-- Appended to the output buffer by `send_pkt` and `send_pkt_raw`. -/
  queued : List UInt8 := []
  /-- Sent from the output buffer by `process_send`. -/
  sent : List UInt8 := []
  /-- Returned by `client_read`. -/
  read : List UInt8 := []
  /-- Written by `client_write`. -/
  written : List UInt8 := []
  /-- Everything the client received, in order. -/
  out : List UInt8 := []

def ClientTrace.act (c : ClientPtr) (t : ClientTrace) : Act → ClientTrace
  | .queue c' hdr payload =>
      if c' = c then { t with queued := t.queued ++ packetBytes hdr payload } else t
  | .queueRaw c' bs => if c' = c then { t with queued := t.queued ++ bs } else t
  | .clientSend c' bs =>
      if c' = c then { t with sent := t.sent ++ bs, out := t.out ++ bs } else t
  | .clientRead c' bs => if c' = c then { t with read := t.read ++ bs } else t
  | .clientWrite c' bs =>
      if c' = c then { t with written := t.written ++ bs, out := t.out ++ bs } else t
  | _ => t

def clientTrace (c : ClientPtr) (log : List Act) : ClientTrace :=
  log.foldl (ClientTrace.act c) {}

/-- What went through one remote. -/
structure RemoteTrace where
  /-- The packets queued by `remote_send_pkt`. -/
  requests : List (Header × Payload) := []
  /-- Sent by `remote_process_send`. -/
  sent : List UInt8 := []
  /-- It entered `REMOTE_CONNECTED`. -/
  connected : Bool := false
  /-- Received since then. -/
  relayed : List UInt8 := []

def RemoteTrace.act (r : RemotePtr) (t : RemoteTrace) : Act → RemoteTrace
  | .remoteQueue r' hdr payload =>
      if r' = r then { t with requests := t.requests ++ [(hdr, payload)] } else t
  | .remoteSend r' bs => if r' = r then { t with sent := t.sent ++ bs } else t
  | .remoteConnected r' => if r' = r then { t with connected := true } else t
  | .remoteRecv r' bs | .relayRecv r' bs =>
      if r' = r ∧ t.connected then { t with relayed := t.relayed ++ bs } else t
  | _ => t

def remoteTrace (r : RemotePtr) (log : List Act) : RemoteTrace :=
  log.foldl (RemoteTrace.act r) {}

/-- The client an act concerns. -/
def Act.client : Act → Option ClientPtr
  | .queue c _ _ | .queueRaw c _ | .clientRecv c _ | .clientSend c _ | .clientRead c _
  | .clientWrite c _ | .command c _ | .listen c | .notifyConnect c _ | .openRemote c _ _ =>
      some c
  | .remoteQueue .. | .remoteSend .. | .remoteRecv .. | .remoteConnected _ | .relayRecv ..
  | .frame .. => none

/-- The remote an act concerns. -/
def Act.remote : Act → Option RemotePtr
  | .openRemote _ r _ | .remoteQueue r _ _ | .remoteSend r _ | .remoteRecv r _
  | .remoteConnected r | .relayRecv r _ | .frame r _ => some r
  | .queue .. | .queueRaw .. | .clientRecv .. | .clientSend .. | .clientRead ..
  | .clientWrite .. | .command .. | .listen _ | .notifyConnect .. => none

section Traces

variable {c : ClientPtr} {r : RemotePtr} {log acts : List Act} {a : Act}

@[simp] theorem Core.log_emit {s : Core} : (s.emit acts).log = s.log ++ acts := rfl

theorem clientTrace_append :
    clientTrace c (log ++ acts) = acts.foldl (ClientTrace.act c) (clientTrace c log) :=
  List.foldl_append

theorem remoteTrace_append :
    remoteTrace r (log ++ acts) = acts.foldl (RemoteTrace.act r) (remoteTrace r log) :=
  List.foldl_append

theorem ClientTrace.act_of_ne {t : ClientTrace} (h : a.client ≠ some c) : t.act c a = t := by
  cases a with
  | queue c' | queueRaw c' | clientSend c' | clientRead c' | clientWrite c' =>
      exact if_neg fun heq => h (congrArg some heq)
  | clientRecv | command | listen | notifyConnect | openRemote | remoteQueue | remoteSend
  | remoteRecv | remoteConnected | relayRecv | frame => rfl

theorem RemoteTrace.act_of_ne {t : RemoteTrace} (h : a.remote ≠ some r) : t.act r a = t := by
  cases a with
  | remoteQueue r' | remoteSend r' | remoteConnected r' =>
      exact if_neg fun heq => h (congrArg some heq)
  | remoteRecv r' | relayRecv r' => exact if_neg fun heq => h (congrArg some heq.1)
  | queue | queueRaw | clientRecv | clientSend | clientRead | clientWrite | command | listen
  | notifyConnect | openRemote | frame => rfl

/-- Acts about others do not show. -/
theorem ClientTrace.foldl_of_foreign {t : ClientTrace} (h : ∀ a ∈ acts, a.client ≠ some c) :
    acts.foldl (ClientTrace.act c) t = t :=
  foldl_keeps (p := id) fun a ha _ => ClientTrace.act_of_ne (h a ha)

theorem RemoteTrace.foldl_of_foreign {t : RemoteTrace} (h : ∀ a ∈ acts, a.remote ≠ some r) :
    acts.foldl (RemoteTrace.act r) t = t :=
  foldl_keeps (p := id) fun a ha _ => RemoteTrace.act_of_ne (h a ha)

theorem clientTrace_of_foreign (h : ∀ a ∈ acts, a.client ≠ some c) :
    clientTrace c (log ++ acts) = clientTrace c log := by
  rw [clientTrace_append, ClientTrace.foldl_of_foreign h]

theorem remoteTrace_of_foreign (h : ∀ a ∈ acts, a.remote ≠ some r) :
    remoteTrace r (log ++ acts) = remoteTrace r log := by
  rw [remoteTrace_append, RemoteTrace.foldl_of_foreign h]

end Traces

/-! ## What a move adds to the log -/

/-- The acts of a move: about live objects and, where a remote is opened,
about that one. -/
structure Emits (s s' : Core) (acts : List Act) : Prop where
  log : s'.log = s.log ++ acts
  client : ∀ {a c}, a ∈ acts → a.client = some c → (s.clients c).isSome
  remote : ∀ {a r}, a ∈ acts → a.remote = some r →
    (s.remotes r).isSome ∨ (r = ⟨s.nextRemote⟩ ∧ s.nextRemote < s'.nextRemote)
  opened : ∀ {c r state}, .openRemote c r state ∈ acts → r = ⟨s.nextRemote⟩
  once : ∀ {c c' r state state'}, .openRemote c r state ∈ acts →
    .openRemote c' r state' ∈ acts → c = c' ∧ state = state'

section Emits

variable {s s' s'' : Core} {acts : List Act}

theorem ClientStep.act_client {c : ClientPtr} {x x' : MuxClient}
    (h : ClientStep c x acts x') : ∀ a ∈ acts, a.client = some c ∧ a.remote = none := by
  intro a ha
  cases h with
  | queue | command | send | connected =>
      cases List.mem_singleton.mp ha
      exact ⟨rfl, rfl⟩
  | recv =>
      rw [recvActs] at ha
      split at ha
      · cases ha
      · cases List.mem_singleton.mp ha
        exact ⟨rfl, rfl⟩
  | inputDone | proto | info | events => cases ha
  | notifyFail =>
      rcases List.mem_pair.mp ha with rfl | rfl <;> exact ⟨rfl, rfl⟩

theorem RemoteStep.act_remote {r : RemotePtr} {y y' : RemoteMux}
    (h : RemoteStep r y acts y') : ∀ a ∈ acts, a.remote = some r ∧ a.client = none := by
  intro a ha
  cases h with
  | relayRecv | frame | send | connected | connected2 =>
      cases List.mem_singleton.mp ha
      exact ⟨rfl, rfl⟩
  | recv =>
      rw [recvActs] at ha
      split at ha
      · cases ha
      · cases List.mem_singleton.mp ha
        exact ⟨rfl, rfl⟩
  | inputDone | input | events | active | clearCommand | listen => cases ha

theorem FirstPacket.act_remote {lossOk : Prop} {r : RemotePtr} {P : Payload → Prop}
    {y : RemoteMux} (h : FirstPacket lossOk r P y acts) :
    ∀ a ∈ acts, a.remote = some r ∧ a.client = none := by
  intro a ha
  rcases h with ⟨_, rfl, _⟩ | ⟨hdr, payload, _, rfl, _⟩
  · cases ha
  · cases List.mem_singleton.mp ha
    exact ⟨rfl, rfl⟩

/-- Acts about one live client only. -/
theorem Emits.of_client {c : ClientPtr} {x : MuxClient} (hx : s.clients c = some x)
    (hlog : s'.log = s.log ++ acts) (h : ∀ a ∈ acts, a.client = some c ∧ a.remote = none) :
    Emits s s' acts where
  log := hlog
  client ha hc := by
    cases (h _ ha).1.symm.trans hc
    rw [hx]
    rfl
  remote ha hr := by cases (h _ ha).2.symm.trans hr
  opened ha := by cases (h _ ha).2
  once ha := by cases (h _ ha).2

theorem Emits.of_remote {r : RemotePtr} {y : RemoteMux} (hy : s.remotes r = some y)
    (hlog : s'.log = s.log ++ acts) (h : ∀ a ∈ acts, a.remote = some r ∧ a.client = none) :
    Emits s s' acts where
  log := hlog
  client ha hc := by cases (h _ ha).2.symm.trans hc
  remote ha hr := by
    cases (h _ ha).1.symm.trans hr
    rw [hy]
    exact Or.inl rfl
  opened ha := by cases (h _ ha).2
  once ha := by cases (h _ ha).2

theorem Emits.nil (hlog : s'.log = s.log) : Emits s s' [] where
  log := by rw [hlog, List.append_nil]
  client ha := by cases ha
  remote ha := by cases ha
  opened ha := by cases ha
  once ha := by cases ha

/-- One act of a client before the acts of a state with the same objects. -/
theorem Emits.cons {c : ClientPtr} {x : MuxClient} {a : Act} (hx : s.clients c = some x)
    (ha : a.client = some c ∧ a.remote = none) (hlog : s'.log = s.log ++ [a])
    (h : Emits s' s'' acts) (hc : ∀ c, (s'.clients c).isSome → (s.clients c).isSome)
    (hr : s'.remotes = s.remotes) (hn : s'.nextRemote = s.nextRemote) :
    Emits s s'' (a :: acts) where
  log := by rw [h.log, hlog, List.append_assoc, List.singleton_append]
  client hb hact := by
    rcases List.mem_cons.mp hb with rfl | hb
    · cases ha.1.symm.trans hact
      rw [hx]
      rfl
    · exact hc _ (h.client hb hact)
  remote hb hact := by
    rcases List.mem_cons.mp hb with rfl | hb
    · cases ha.2.symm.trans hact
    · rw [← hr, ← hn]
      exact h.remote hb hact
  opened hb := by
    rcases List.mem_cons.mp hb with rfl | hb
    · cases ha.2
    · rw [← hn]
      exact h.opened hb
  once hb hb' := by
    rcases List.mem_cons.mp hb with rfl | hb
    · cases ha.2
    · rcases List.mem_cons.mp hb' with rfl | hb'
      · cases ha.2
      · exact h.once hb hb'

/-- Whoever is live after packets were queued was so before. -/
theorem SameButClients.isSome_before (h : SameButClients s s') (c : ClientPtr)
    (hc : (s'.clients c).isSome) : (s.clients c).isSome := by
  cases hx : s.clients c with
  | some x => rfl
  | none =>
      rw [h.noClient hx] at hc
      cases hc

theorem Queued.emits {c : ClientPtr} {x : MuxClient} {hdr : Header} {payload : Payload}
    (h : Queued c x hdr payload s s') (h' : Emits s' s'' acts) :
    Emits s s'' (.queue c hdr payload :: acts) := by
  refine .cons h.1 ⟨rfl, rfl⟩ ?_ h' h.same.isSome_before h.same.remotes h.same.nextRemote
  obtain ⟨_, _, _, _, rfl⟩ := h
  rfl

theorem Announces.emits (h : Announces s s') : ∃ acts, Emits s s' acts := by
  induction h using Relation.ReflTransGen.head_induction_on with
  | refl => exact ⟨[], .nil rfl⟩
  | head hfirst _ ih =>
      obtain ⟨c, x, hdr, payload, _, hq⟩ := hfirst
      obtain ⟨acts, h⟩ := ih
      exact ⟨_, hq.emits h⟩

@[simp] theorem Core.log_closeClient {c : ClientPtr} {x : MuxClient} :
    (s.closeClient c x).log = s.log := by
  rw [closeClient]
  cases x.remote <;> rfl

@[simp] theorem Core.log_dispose {r : RemotePtr} {y : RemoteMux} :
    (s.dispose r y).log = s.log := by
  rw [dispose, releaseId]
  cases y.client <;> split <;> rfl

theorem Emits.of_open {c : ClientPtr} {x : MuxClient} {state : RemoteState}
    (hx : s.clients c = some x)
    (hnext : s.nextRemote < s'.nextRemote)
    (hlog : s'.log = s.log ++ .openRemote c ⟨s.nextRemote⟩ state :: acts)
    (h : ∀ a ∈ acts, a.remote = some ⟨s.nextRemote⟩ ∧ a.client = none) :
    Emits s s' (.openRemote c ⟨s.nextRemote⟩ state :: acts) where
  log := hlog
  client ha hc := by
    rcases List.mem_cons.mp ha with rfl | ha
    · cases hc
      rw [hx]
      rfl
    · cases (h _ ha).2.symm.trans hc
  remote ha hr := by
    rcases List.mem_cons.mp ha with rfl | ha
    · exact Or.inr ⟨(Option.some.inj hr).symm, hnext⟩
    · exact Or.inr ⟨(Option.some.inj ((h _ ha).1.symm.trans hr)).symm, hnext⟩
  opened ha := by
    rcases List.mem_cons.mp ha with heq | ha
    · cases heq
      rfl
    · cases (h _ ha).2
  once ha ha' := by
    rcases List.mem_cons.mp ha with heq | ha
    · rcases List.mem_cons.mp ha' with heq' | ha'
      · cases heq
        cases heq'
        exact ⟨rfl, rfl⟩
      · cases (h _ ha').2
    · cases (h _ ha).2

/-- Every move adds to the log only what concerns the objects it touches. -/
theorem Move.emits {A : Allow} (hm : Move A s s') : ∃ acts, Emits s s' acts := by
  cases hm with
  | client hx h => exact ⟨_, .of_client hx rfl h.act_client⟩
  | remote hy h => exact ⟨_, .of_remote hy rfl h.act_remote⟩
  | forward _ _ _ _ _ hx | relayRead hx | relayWrite hx =>
      refine ⟨_, .of_client hx rfl fun a ha => ?_⟩
      cases List.mem_singleton.mp ha
      exact ⟨rfl, rfl⟩
  | accept => exact ⟨[], .nil rfl⟩
  | connect hx _ _ _ _ hacts | request hx _ _ _ _ hacts =>
      exact ⟨_, .of_open hx (Nat.lt_succ_self _) rfl hacts.act_remote⟩
  | notifyOk hy _ _ hx =>
      have hno : ∀ {c' r' st c r hdr payload res}, Act.openRemote c' r' st ∉
          [Act.queue c hdr payload, .notifyConnect c res, .remoteConnected r] := by
        intro c' r' st c r hdr payload res ha
        simp at ha
      refine ⟨_, rfl, fun {a c'} ha hc => ?_, fun {a r'} ha hr => ?_, fun ha => ?_,
        fun ha => ?_⟩
      · rcases List.mem_cons.mp ha with rfl | ha
        · cases hc
          rw [hx]
          rfl
        · rcases List.mem_pair.mp ha with rfl | rfl <;> cases hc
          rw [hx]
          rfl
      · rcases List.mem_cons.mp ha with rfl | ha
        · cases hr
        · rcases List.mem_pair.mp ha with rfl | rfl <;> cases hr
          rw [hy]
          exact Or.inl rfl
      · exact absurd ha hno
      · exact absurd ha hno
  | addListener _ hacts =>
      refine ⟨_, rfl, fun ha hc => ?_, fun ha hr => ?_, fun ha => ?_, fun ha => ?_⟩
      · cases (hacts.act_remote _ ha).2.symm.trans hc
      · exact Or.inr ⟨(Option.some.inj ((hacts.act_remote _ ha).1.symm.trans hr)).symm,
          Nat.lt_succ_self _⟩
      · cases (hacts.act_remote _ ha).2
      · cases (hacts.act_remote _ ha).2
  | closeClient => exact ⟨[], .nil Core.log_closeClient⟩
  | closeRemote | killId => exact ⟨[], .nil rfl⟩
  | dispose => exact ⟨[], .nil Core.log_dispose⟩
  | deviceSet _ hn | deviceErase _ hn =>
      obtain ⟨acts, h⟩ := hn.announces.emits
      exact ⟨acts, h.log, h.client, h.remote, h.opened, h.once⟩
  | @listen c x _ hx _ hn =>
      obtain ⟨acts, h⟩ := hn.announces.emits
      refine ⟨.listen c :: acts, .cons hx ⟨rfl, rfl⟩ rfl h (fun c' hc' => ?_) rfl rfl⟩
      rw [Core.clients_emit, Core.clients_setClient] at hc'
      split at hc'
      · next heq =>
          rw [heq, hx]
          rfl
      · exact hc'

end Emits

/-! ## The past of an object -/

/-- Acts name objects that were handed out, and links were made by an
`openRemote` that is the only one for its remote. -/
structure LogOk (s : Core) : Prop where
  client : ∀ {a c}, a ∈ s.log → a.client = some c → c.block < s.nextClient
  remote : ∀ {a r}, a ∈ s.log → a.remote = some r → r.block < s.nextRemote
  unique : ∀ {c c' r state state'}, .openRemote c r state ∈ s.log →
    .openRemote c' r state' ∈ s.log → c = c' ∧ state = state'
  link : ∀ {c x r}, s.clients c = some x → x.remote = some r →
    ∃ state, .openRemote c r state ∈ s.log
  back : ∀ {r y c}, s.remotes r = some y → y.client = some c →
    ∃ state, .openRemote c r state ∈ s.log

section Past

variable {A : Allow} {s s' : Core} {acts : List Act}

theorem Shape.next_le (h : Shape A s s') :
    s.nextClient ≤ s'.nextClient ∧ s.nextRemote ≤ s'.nextRemote := by
  cases h with
  | inPlace h => exact ⟨Nat.le_of_eq h.nextClient.symm, Nat.le_of_eq h.nextRemote.symm⟩
  | accept _ h =>
      rw [h]
      exact ⟨Nat.le_succ _, Nat.le_refl _⟩
  | opens h =>
      rw [h.result]
      exact ⟨Nat.le_refl _, Nat.le_succ _⟩
  | addListener _ h =>
      rw [h]
      exact ⟨Nat.le_refl _, Nat.le_succ _⟩
  | @closeClient c x _ h =>
      rw [h, Core.closeClient]
      cases x.remote <;> exact ⟨Nat.le_refl _, Nat.le_refl _⟩
  | closeRemote _ _ _ h =>
      rw [h]
      exact ⟨Nat.le_refl _, Nat.le_refl _⟩
  | @dispose r y _ _ h =>
      rw [h, Core.dispose, Core.releaseId]
      cases y.client <;> split <;> exact ⟨Nat.le_refl _, Nat.le_refl _⟩

/-- What a client points to was its remote before, or is the one just opened
for it. -/
theorem Shape.link_before {c : ClientPtr} {x : MuxClient} {r : RemotePtr} (h : Shape A s s')
    (hx : s'.clients c = some x) (hr : x.remote = some r) :
    (∃ x₀, s.clients c = some x₀ ∧ x₀.remote = some r) ∨
      ∃ state, .openRemote c r state ∈ s'.log := by
  cases h with
  | inPlace h =>
      obtain ⟨x₀, hx₀, he⟩ := h.client_before hx
      exact Or.inl ⟨x₀, hx₀, he.remote.symm.trans hr⟩
  | accept _ h =>
      rw [h] at hx
      rcases Core.clients_addClient_cases hx with ⟨_, rfl⟩ | hx
      · cases hr
      · exact Or.inl ⟨x, hx, hr⟩
  | opens h =>
      rw [h.result, Core.clients_emit, Core.clients_addRemote, Core.clients_setClient] at hx
      split at hx
      · next heq =>
          cases hx
          cases h.link.symm.trans hr
          obtain ⟨state, hmem⟩ := h.logged
          rw [heq, h.result]
          exact Or.inr ⟨state, List.mem_append_right _ hmem⟩
      · exact Or.inl ⟨x, hx, hr⟩
  | addListener _ h =>
      rw [h] at hx
      exact Or.inl ⟨x, hx, hr⟩
  | closeClient _ h =>
      rw [h, Core.clients_closeClient] at hx
      split at hx
      · cases hx
      · exact Or.inl ⟨x, hx, hr⟩
  | closeRemote _ _ _ h =>
      rw [h] at hx
      exact Or.inl ⟨x, hx, hr⟩
  | dispose _ _ h =>
      rw [h, Core.clients_dispose] at hx
      split at hx
      · cases hx
      · exact Or.inl ⟨x, hx, hr⟩

/-- The same for what a remote points to. -/
theorem Shape.back_before {r : RemotePtr} {y : RemoteMux} {c : ClientPtr} (h : Shape A s s')
    (hy : s'.remotes r = some y) (hc : y.client = some c) :
    (∃ y₀, s.remotes r = some y₀ ∧ y₀.client = some c) ∨
      ∃ state, .openRemote c r state ∈ s'.log := by
  cases h with
  | inPlace h =>
      obtain ⟨y₀, hy₀, he⟩ := h.remote_before hy
      exact Or.inl ⟨y₀, hy₀, he.client.symm.trans hc⟩
  | accept _ h =>
      rw [h] at hy
      exact Or.inl ⟨y, hy, hc⟩
  | @opens c' _ _ _ _ _ h =>
      rw [h.result, Core.remotes_emit] at hy
      rcases Core.remotes_addRemote_cases hy with ⟨hr, rfl⟩ | hy
      · have hclient : y.client = some c' ∨ y.client = none := by
          rcases h.kind with ⟨⟨_, _, h', _⟩, _⟩ | ⟨⟨_, _, ⟨h', _⟩ | ⟨_, h', _⟩⟩, _⟩
          · exact Or.inl h'
          · exact Or.inl h'
          · exact Or.inr h'
        rcases hclient with h' | h' <;> cases h'.symm.trans hc
        obtain ⟨state, hmem⟩ := h.logged
        rw [hr, h.result]
        exact Or.inr ⟨state, List.mem_append_right _ hmem⟩
      · exact Or.inl ⟨y, hy, hc⟩
  | addListener hnew h =>
      rw [h, Core.remotes_emit] at hy
      rcases Core.remotes_addRemote_cases hy with ⟨_, rfl⟩ | hy
      · cases hnew.client.symm.trans hc
      · exact Or.inl ⟨y, hy, hc⟩
  | closeClient _ h =>
      rw [h, Core.remotes_closeClient] at hy
      split at hy
      · cases hy
      · exact Or.inl ⟨y, hy, hc⟩
  | closeRemote _ _ _ h =>
      rw [h, Core.remotes_dropRemote] at hy
      split at hy
      · cases hy
      · exact Or.inl ⟨y, hy, hc⟩
  | dispose _ _ h =>
      rw [h, Core.remotes_dispose] at hy
      split at hy
      · cases hy
      · exact Or.inl ⟨y, hy, hc⟩

theorem LogOk.move (hwf : WF s) (hm : Move A s s') (h : LogOk s) : LogOk s' := by
  obtain ⟨acts, he⟩ := hm.emits
  obtain ⟨hclient, hremote⟩ := hm.shape.next_le
  have hmem : ∀ {a}, a ∈ s.log → a ∈ s'.log := by
    intro a ha
    rw [he.log]
    exact List.mem_append_left _ ha
  have hnew : ∀ {a}, a ∈ s'.log → a ∈ s.log ∨ a ∈ acts := by
    intro a ha
    rw [he.log] at ha
    exact List.mem_append.mp ha
  have hopened : ∀ {c r state}, .openRemote c r state ∈ acts → r.block = s.nextRemote :=
    fun ha => congrArg RemotePtr.block (he.opened ha)
  refine ⟨fun {a c} ha hc => ?_, fun {a r} ha hr => ?_, fun {c c' r st st'} ha ha' => ?_,
    fun {c x r} hx hr => ?_, fun {r y c} hy hc => ?_⟩
  · rcases hnew ha with ha | ha
    · exact Nat.lt_of_lt_of_le (h.client ha hc) hclient
    · exact Nat.lt_of_lt_of_le (hwf.clientFresh c (he.client ha hc)) hclient
  · rcases hnew ha with ha | ha
    · exact Nat.lt_of_lt_of_le (h.remote ha hr) hremote
    · rcases he.remote ha hr with hlive | hnext
      · exact Nat.lt_of_lt_of_le (hwf.remoteFresh r hlive) hremote
      · rw [hnext.1]
        exact hnext.2
  · rcases hnew ha with ha | ha
    · rcases hnew ha' with ha' | ha'
      · exact h.unique ha ha'
      · have hlt : r.block < s.nextRemote := h.remote ha rfl
        rw [hopened ha'] at hlt
        exact absurd hlt (Nat.lt_irrefl _)
    · rcases hnew ha' with ha' | ha'
      · have hlt : r.block < s.nextRemote := h.remote ha' rfl
        rw [hopened ha] at hlt
        exact absurd hlt (Nat.lt_irrefl _)
      · exact he.once ha ha'
  · rcases hm.shape.link_before hx hr with ⟨x₀, hx₀, hr₀⟩ | hopen
    · obtain ⟨state, hstate⟩ := h.link hx₀ hr₀
      exact ⟨state, hmem hstate⟩
    · exact hopen
  · rcases hm.shape.back_before hy hc with ⟨y₀, hy₀, hc₀⟩ | hopen
    · obtain ⟨state, hstate⟩ := h.back hy₀ hc₀
      exact ⟨state, hmem hstate⟩
    · exact hopen

theorem LogOk.initial (h : Initial s) : LogOk s := by
  cases h with
  | empty =>
      exact ⟨fun ha => (nomatch ha), fun ha => (nomatch ha), fun ha => (nomatch ha),
        fun hx => (nomatch hx), fun hy => (nomatch hy)⟩
  | listener hlocal hacts =>
      refine ⟨fun ha hc => ?_, fun ha hr => ?_, fun ha => ?_, fun hx => (nomatch hx),
        fun hy hc => ?_⟩
      · cases (hacts.act_remote _ ha).2.symm.trans hc
      · cases (hacts.act_remote _ ha).1.symm.trans hr
        exact Nat.zero_lt_one
      · cases (hacts.act_remote _ ha).2
      · rcases Core.remotes_addRemote_cases hy with ⟨_, rfl⟩ | hy
        · cases hlocal.client.symm.trans hc
        · cases hy

/-- What is still to be handed out has no past. -/
theorem LogOk.clientTrace_new (h : LogOk s) {c : ClientPtr} (hc : s.nextClient ≤ c.block) :
    clientTrace c s.log = {} := by
  have hforeign : ∀ a ∈ s.log, a.client ≠ some c :=
    fun a ha heq => absurd (h.client ha heq) (Nat.not_lt.mpr hc)
  have hnil : clientTrace c ([] ++ s.log) = clientTrace c [] := clientTrace_of_foreign hforeign
  rw [List.nil_append] at hnil
  exact hnil

theorem LogOk.remoteTrace_new (h : LogOk s) {r : RemotePtr} (hr : s.nextRemote ≤ r.block) :
    remoteTrace r s.log = {} := by
  have hforeign : ∀ a ∈ s.log, a.remote ≠ some r :=
    fun a ha heq => absurd (h.remote ha heq) (Nat.not_lt.mpr hr)
  have hnil : remoteTrace r ([] ++ s.log) = remoteTrace r [] := remoteTrace_of_foreign hforeign
  rw [List.nil_append] at hnil
  exact hnil

end Past

end Usbfluxd
