import Usbfluxd.Proofs.Waiting

/-!
# Output queues

What is queued on a client goes into its output buffer, which grows when a
packet does not fit: to the old capacity and the packet and a page, rounded
down to pages, in 32-bit arithmetic. As long as that sum does not wrap around,
the new buffer has room for the packet, and the queue is a queue: what was
sent and what is still to be sent is what was queued. Once it wraps, the new
buffer is smaller than the old one and the copy runs past its end.

With packets of at most a megabyte there is nothing in between, so the sum is
the exact condition. A client that does not read while packets are queued on
it gets there.
-/

namespace Usbfluxd

open Lib

/-! ## One packet -/

section Growth

variable {b : Buf} {bs : List UInt8}

/-- Making room for `n` bytes does not wrap around. -/
def Roomy (b : Buf) (n : Nat) : Prop :=
  b.capacity - b.size < n → b.capacity + n + 4096 < 2 ^ 32

/-- `realloc` succeeds and the sum does not wrap around: the packet fits. -/
theorem queueBytes_roomy (hnull : b.isNull = false) (h : Roomy b bs.length) :
    ∃ ob, queueBytes (fun _ => true) b bs = .ok (some ob) ∧ Appended b bs ob := by
  have hsize := b.size_le
  rw [queueBytes]
  split
  · next hroom =>
      have hlt := h hroom
      have hfit : b.size + bs.length ≤ enlargedSize b.capacity bs.length := by
        rw [enlargedSize, Nat.mod_eq_of_lt hlt]
        rw [Buf.size] at hroom ⊢
        omega
      rw [if_pos rfl, dif_pos hfit]
      exact ⟨_, rfl, rfl, rfl⟩
  · rw [if_neg (by rw [hnull]; decide)]
    exact ⟨_, rfl, rfl, hnull⟩

/-- It wraps around: the bytes that do not fit the old buffer fit the new one
even less. -/
theorem queueBytes_wraps (hlen : bs.length ≤ 2 ^ 20) (h : ¬ Roomy b bs.length) :
    queueBytes (fun _ => true) b bs = .error .outOfBounds := by
  rw [Roomy, Classical.not_imp] at h
  obtain ⟨hroom, hwrap⟩ := h
  have hlt := b.capacity_lt
  have hfit : ¬ b.size + bs.length ≤ enlargedSize b.capacity bs.length := by
    rw [enlargedSize]
    omega
  rw [queueBytes, dif_pos hroom, if_pos rfl, dif_neg hfit]

end Growth

/-! ## Operations -/

/-- What happens at the output buffer of one client. -/
inductive OutputOp where
  /-- `send_pkt`. -/
  | pkt (tag message : UInt32) (payload : Payload)
  /-- `send_pkt_raw`. -/
  | raw (bytes : List UInt8)
  /-- `process_send`, and `send` takes this many bytes. -/
  | sent (n : Nat)

/-- What is queued. -/
def OutputOp.packet (version : UInt32) : OutputOp → List UInt8
  | .pkt tag message payload =>
      packetBytes { length := UInt32.ofNat (headerSize + payload.wire.length)
                    version := version, message := message, tag := tag } payload
  | .raw bytes => bytes
  | .sent _ => []

def outputOp (s : Daemon) (c : ClientPtr) : OutputOp → Except Fault Daemon
  | .pkt tag message payload => do
      let (_, s) ← sendPkt {} s c tag message payload
      pure s
  | .raw bytes => do
      let (_, s) ← sendPktRaw {} s c bytes
      pure s
  | .sent n => processSend { send := some n } s c

def outputOps (c : ClientPtr) : List OutputOp → Daemon → Except Fault Daemon
  | [], s => .ok s
  | op :: ops, s => do
      let s ← outputOp s c op
      outputOps c ops s

/-- A condition on the client holds before every operation. -/
def EachOp (P : MuxClient → OutputOp → Prop) (c : ClientPtr) : List OutputOp → Daemon → Prop
  | [], _ => True
  | op :: ops, s => (∃ x, s.clients c = some x ∧ P x op) ∧
      ∀ s', outputOp s c op = .ok s' → EachOp P c ops s'

/-- Packets are queued and sent before the client is connected. A packet has
at most a megabyte, and `send` takes something, but no more than there is. -/
structure OutputOp.InScope (x : MuxClient) (op : OutputOp) : Prop where
  state : x.state ≠ .connected
  length : (op.packet x.protoVersion).length ≤ 2 ^ 20
  send : ∀ n, op = .sent n → 0 < n ∧ n ≤ x.ob.size

/-- If the packet does not fit, making room for it does not wrap around. -/
def OutputOp.Roomy (x : MuxClient) (op : OutputOp) : Prop :=
  Usbfluxd.Roomy x.ob (op.packet x.protoVersion).length

/-! ## What one operation does -/

/-- A client that can be sent to. -/
structure Sendable (s : Core) (c : ClientPtr) (x : MuxClient) : Prop where
  client : s.clients c = some x
  buffer : x.state ≠ .connected → x.ob.isNull = false
  remote : x.state = .connecting2 → ∃ r y, x.remote = some r ∧ s.remotes r = some y

/-- Bytes were queued at the end of a client's output and bytes were sent
from its start. -/
structure Passed (c : ClientPtr) (bytes : List UInt8) (s s' : Core) (x x' : MuxClient) :
    Prop where
  sendable : Sendable s' c x'
  version : x'.protoVersion = x.protoVersion
  log : ∃ acts, s'.log = s.log ++ acts ∧
    (clientTrace c acts).sent ++ x'.ob.data = x.ob.data ++ bytes

section Operation

variable {s s' : Daemon} {c : ClientPtr} {x x' : MuxClient} {op : OutputOp}

theorem client_of_sendable (h : Sendable s.toCore c x) : s.client c = .ok x := by
  rw [Daemon.client, h.client]

/-- The state after a packet was queued. -/
def queuedState (s : Daemon) (c : ClientPtr) (x : MuxClient) (ob : Buf) (a : Act) : Daemon :=
  (s.update (·.setClient c { x with ob := ob, events := { x.events with pollout := true } })).emit
    [a]

theorem Passed.queued {ob : Buf} {bytes : List UInt8} {a : Act} (h : Sendable s.toCore c x)
    (hob : Appended x.ob bytes ob) (hsent : (clientTrace c [a]).sent = []) :
    Passed c bytes s.toCore (queuedState s c x ob a).toCore x
      { x with ob := ob, events := { x.events with pollout := true } } where
  sendable := ⟨if_pos rfl, fun _ => hob.isNull, h.remote⟩
  version := rfl
  log := by
    refine ⟨[a], rfl, ?_⟩
    rw [hsent, List.nil_append]
    exact hob.data

/-- The two functions that queue differ in the packet and in the log. -/
theorem outputOp_packet (h : Sendable s.toCore c x) (hscope : op.InScope x)
    (hop : ∀ n, op ≠ .sent n) :
    ∃ a, (clientTrace c [a]).sent = [] ∧ outputOp s c op =
      (queueBytes (fun _ => true) x.ob (op.packet x.protoVersion) >>= fun o =>
        match o with
        | none => .ok s
        | some ob => .ok (queuedState s c x ob a)) := by
  cases op with
  | sent n => exact absurd rfl (hop n)
  | raw bytes =>
      refine ⟨.queueRaw c bytes, ?_, ?_⟩
      · simp [clientTrace, ClientTrace.act]
      · rw [outputOp, sendPktRaw, client_of_sendable h]
        change (queueBytes (fun _ => true) x.ob bytes >>= _) >>= _ = _
        cases hq : queueBytes (fun _ => true) x.ob bytes with
        | error f => rw [OutputOp.packet, hq]; rfl
        | ok o => rw [OutputOp.packet, hq]; cases o <;> rfl
  | pkt tag message payload =>
      have hlen := hscope.length
      have hlt : headerSize + payload.wire.length < 2 ^ 31 := by
        simp only [OutputOp.packet, packetBytes, List.length_append, Header.bytes, length_le32]
          at hlen
        rw [headerSize]
        omega
      refine ⟨.queue c { length := UInt32.ofNat (headerSize + payload.wire.length)
                         version := x.protoVersion, message := message, tag := tag } payload,
        ?_, ?_⟩
      · simp [clientTrace, ClientTrace.act]
      · rw [outputOp, sendPkt, client_of_sendable h]
        change (packetHeader x.protoVersion tag message payload >>= _) >>= _ = _
        rw [packetHeader, if_pos hlt]
        change (queueBytes (fun _ => true) x.ob (packetBytes _ payload) >>= _) >>= _ = _
        rw [OutputOp.packet]
        cases queueBytes (fun _ => true) x.ob (packetBytes _ payload) with
        | error f => rfl
        | ok o => cases o <;> rfl

theorem Passed.sent {n : Nat} {t : Daemon} (h : Sendable s.toCore c x)
    (ht : t.toCore = (s.toCore.setClient c x').emit [.clientSend c (x.ob.data.take n)])
    (hob : x'.ob.data = x.ob.data.drop n) (hversion : x'.protoVersion = x.protoVersion)
    (hremote : x'.remote = x.remote)
    (hstate : x'.state = .connected ∨ (x'.state = x.state ∧ x'.ob.isNull = x.ob.isNull)) :
    Passed c [] s.toCore t.toCore x x' where
  sendable := by
    rw [ht]
    refine ⟨if_pos rfl, fun hne => ?_, fun hconn => ?_⟩
    · obtain ⟨hstate, hnull⟩ := hstate.resolve_left hne
      rw [hnull]
      exact h.buffer (hstate ▸ hne)
    · rcases hstate with hstate | ⟨hstate, _⟩
      · cases hconn.symm.trans hstate
      · rw [hremote]
        exact h.remote (hstate.symm.trans hconn)
  version := hversion
  log := by
    refine ⟨[.clientSend c (x.ob.data.take n)], by rw [ht]; rfl, ?_⟩
    rw [hob, List.append_nil, show (clientTrace c [.clientSend c (x.ob.data.take n)]).sent =
      x.ob.data.take n by simp [clientTrace, ClientTrace.act]]
    exact List.take_append_drop n _

/-- `process_send` sends from the start of the buffer. -/
theorem outputOp_sent {n : Nat} (h : Sendable s.toCore c x)
    (hscope : (OutputOp.sent n).InScope x) :
    ∃ s' x', outputOp s c (.sent n) = .ok s' ∧ Passed c [] s.toCore s'.toCore x x' := by
  obtain ⟨hpos, hle⟩ := hscope.send n rfl
  have hmod : ∀ (a : List Act) (f : MuxClient → MuxClient),
      (s.emit a).modifyClient c f = .ok ((s.emit a).update (·.setClient c (f x))) := by
    intro a f
    rw [Daemon.modifyClient, Daemon.client, show (s.emit a).clients c = some x from h.client]
    rfl
  have hsend : sendFrom { send := some n } x.ob = some n := by
    rw [sendFrom, h.buffer hscope.state, if_neg (by decide), Sys.sendUpTo]
    simp [Nat.min_eq_right hle, hpos]
  rw [outputOp, processSend, client_of_sendable h]
  change ∃ s' x', (if x.ob.size = 0 then _ else _) = _ ∧ _
  rw [if_neg (by omega), hsend]
  change ∃ s' x', (if n ≠ x.ob.size then _ else _) = _ ∧ _
  split
  · rw [hmod]
    exact ⟨_, _, rfl, .sent h rfl rfl rfl rfl (Or.inr ⟨rfl, rfl⟩)⟩
  · next hall =>
      rw [not_not] at hall
      have hdrop : x.ob.data.drop n = [] := List.drop_eq_nil_of_le (Nat.le_of_eq hall.symm)
      split
      · rw [hmod]
        exact ⟨_, _, rfl, .sent h rfl hdrop.symm rfl rfl (Or.inr ⟨rfl, rfl⟩)⟩
      · next hconn =>
          rw [not_not] at hconn
          obtain ⟨r, y, hr, hy⟩ := h.remote hconn
          have hfollow : (s.emit [.clientSend c (x.ob.data.take n)]).clientRemote c x =
              .ok (r, y) := by
            rw [Daemon.clientRemote, hr]
            simp only [show (s.emit [.clientSend c (x.ob.data.take n)]).remotes r = some y from hy]
          rw [hfollow]
          change ∃ s' x', (s.emit _).modifyClient c _ = _ ∧ _
          rw [hmod]
          exact ⟨_, _, rfl, .sent h rfl hdrop.symm rfl rfl (Or.inl rfl)⟩

/-- With room for the packet the bytes are passed on. -/
theorem outputOp_of_roomy (h : Sendable s.toCore c x) (hscope : op.InScope x)
    (hroomy : op.Roomy x) : ∃ s' x', outputOp s c op = .ok s' ∧
      Passed c (op.packet x.protoVersion) s.toCore s'.toCore x x' := by
  by_cases hop : ∀ n, op ≠ .sent n
  · obtain ⟨a, hsent, heq⟩ := outputOp_packet h hscope hop
    obtain ⟨ob, hob, happ⟩ := queueBytes_roomy (h.buffer hscope.state) hroomy
    rw [heq, hob]
    exact ⟨_, _, rfl, .queued h happ hsent⟩
  · rw [not_forall] at hop
    obtain ⟨n, hn⟩ := hop
    rw [not_not] at hn
    subst hn
    exact outputOp_sent h hscope

/-- Without, the copy runs past the end. -/
theorem roomy_of_outputOp (h : Sendable s.toCore c x) (hscope : op.InScope x)
    (hs' : outputOp s c op = .ok s') : op.Roomy x := by
  by_contra hwrap
  have hop : ∀ n, op ≠ .sent n := by
    intro n hn
    subst hn
    exact hwrap fun hlt => absurd hlt (Nat.not_lt_zero _)
  obtain ⟨a, _, heq⟩ := outputOp_packet h hscope hop
  rw [heq, queueBytes_wraps hscope.length hwrap] at hs'
  cases hs'

end Operation

/-! ## Runs -/

/-- What was queued on a client, and what was sent to it and is still to be
sent, after operations on its output. -/
def QueueKept (c : ClientPtr) (ops : List OutputOp) (s s' : Core) (x : MuxClient) : Prop :=
  ∃ x' acts, s'.clients c = some x' ∧ x'.ob.size ≤ x'.ob.capacity ∧ s'.log = s.log ++ acts ∧
    (clientTrace c acts).sent ++ x'.ob.data =
      x.ob.data ++ (ops.map (·.packet x.protoVersion)).flatten

section Run

variable {s : Daemon} {c : ClientPtr} {x : MuxClient} {ops : List OutputOp}

theorem ClientTrace.sent_foldl {t : ClientTrace} {acts : List Act} :
    (acts.foldl (ClientTrace.act c) t).sent = t.sent ++ (clientTrace c acts).sent := by
  have hact : ∀ (t : ClientTrace) (a : Act),
      (t.act c a).sent = t.sent ++ (ClientTrace.act c {} a).sent := by
    intro t a
    cases a <;> simp only [ClientTrace.act] <;> first | (split <;> simp) | simp
  induction acts generalizing t with
  | nil => exact (List.append_nil _).symm
  | cons a rest ih =>
      rw [clientTrace, List.foldl_cons, List.foldl_cons, ih, ih (t := ClientTrace.act c {} a),
        hact, List.append_assoc]

/-- Room at every step keeps the queue. -/
theorem queueKept_of_roomy (h : Sendable s.toCore c x) (hscope : EachOp OutputOp.InScope c ops s)
    (hroomy : EachOp OutputOp.Roomy c ops s) :
    ∃ s', outputOps c ops s = .ok s' ∧ QueueKept c ops s.toCore s'.toCore x := by
  induction ops generalizing s x with
  | nil =>
      refine ⟨s, rfl, x, [], h.client, x.ob.size_le, ?_, ?_⟩
      · exact (List.append_nil _).symm
      · exact (List.append_nil _).symm
  | cons op ops ih =>
      obtain ⟨⟨x₀, hx₀, hop⟩, hrest⟩ := hscope
      obtain ⟨⟨x₁, hx₁, hroomy⟩, hlater⟩ := hroomy
      cases h.client.symm.trans hx₀
      cases h.client.symm.trans hx₁
      obtain ⟨s₁, x₁, hs₁, hpassed⟩ := outputOp_of_roomy h hop hroomy
      obtain ⟨s', hrun, x', acts', hx', hsize, hlog', hkept⟩ :=
        ih hpassed.sendable (hrest s₁ hs₁) (hlater s₁ hs₁)
      obtain ⟨acts, hlog, hpass⟩ := hpassed.log
      have hsent : (clientTrace c (acts ++ acts')).sent =
          (clientTrace c acts).sent ++ (clientTrace c acts').sent := by
        rw [clientTrace, List.foldl_append]
        exact ClientTrace.sent_foldl
      refine ⟨s', bind_eq_ok.mpr ⟨s₁, hs₁, hrun⟩, x', acts ++ acts', hx', hsize, ?_, ?_⟩
      · rw [hlog', hlog, List.append_assoc]
      · rw [hsent, List.append_assoc, hkept, ← List.append_assoc, hpass, hpassed.version,
          List.append_assoc]
        rfl

/-- A run that does not end in a fault had room at every step. -/
theorem roomy_of_outputOps {s' : Daemon} (h : Sendable s.toCore c x)
    (hscope : EachOp OutputOp.InScope c ops s) (hs' : outputOps c ops s = .ok s') :
    EachOp OutputOp.Roomy c ops s := by
  induction ops generalizing s x with
  | nil => trivial
  | cons op ops ih =>
      obtain ⟨⟨x₀, hx₀, hop⟩, hrest⟩ := hscope
      cases h.client.symm.trans hx₀
      obtain ⟨s₁, hs₁, hrun⟩ := bind_eq_ok.mp hs'
      have hroomy := roomy_of_outputOp h hop hs₁
      obtain ⟨s₂, x₁, hs₂, hpassed⟩ := outputOp_of_roomy h hop hroomy
      cases hs₁.symm.trans hs₂
      refine ⟨⟨x, hx₀, hroomy⟩, fun s₂ hs₂ => ?_⟩
      cases hs₁.symm.trans hs₂
      exact ih hpassed.sendable (hrest s₁ hs₁) hrun

end Run

/-- Before a client is connected it can be sent to. -/
theorem sendable_of_reachable {plat : Platform} {s : Daemon} {c : ClientPtr} {x : MuxClient}
    (hs : Reachable plat s) (hx : s.clients c = some x) : Sendable s.toCore c x where
  client := hx
  buffer := ((reachable_waiting hs).2.1.client hx).buffer
  remote hconn := by
    obtain ⟨r, y, hr, hy, _⟩ := (reachable_waiting hs).2.2 c x hx (Or.inr (Or.inl hconn))
    exact ⟨r, y, hr, hy⟩

/-- Whatever is queued on a client and sent to it before it is connected: the
output buffer is a queue if and only if the sum by which it grows never wraps
around. -/
theorem outputQueue_kept_iff {plat : Platform} {s : Daemon} {c : ClientPtr} {x : MuxClient}
    {ops : List OutputOp} (hs : Reachable plat s) (hx : s.clients c = some x)
    (hscope : EachOp OutputOp.InScope c ops s) :
    (∃ s', outputOps c ops s = .ok s' ∧ QueueKept c ops s.toCore s'.toCore x) ↔
      EachOp OutputOp.Roomy c ops s := by
  have hsend := sendable_of_reachable hs hx
  constructor
  · intro hok
    obtain ⟨s', hs', _⟩ := hok
    exact roomy_of_outputOps hsend hscope hs'
  · exact queueKept_of_roomy hsend hscope

/-! ## A client that does not read -/

section Flood

variable {plat : Platform} {s : Daemon} {c : ClientPtr} {x : MuxClient}

/-- Queueing on a client that listens makes its queue longer. -/
theorem outputOp_raw_listen {bytes : List UInt8} {s₁ : Daemon} (h : Sendable s.toCore c x)
    (hstate : x.state = .listen) (hlen : bytes.length ≤ 2 ^ 20)
    (hs₁ : outputOp s c (.raw bytes) = .ok s₁) :
    ∃ x₁, Sendable s₁.toCore c x₁ ∧ x₁.state = .listen ∧
      x₁.ob.size = x.ob.size + bytes.length := by
  have hop : (OutputOp.raw bytes).InScope x := by
    refine ⟨?_, hlen, fun _ h => nomatch h⟩
    rw [hstate]
    exact fun h => nomatch h
  obtain ⟨a, hsent, heq⟩ := outputOp_packet h hop fun _ h => nomatch h
  obtain ⟨ob, hob, happ⟩ :=
    queueBytes_roomy (h.buffer hop.state) (roomy_of_outputOp h hop hs₁)
  rw [heq, hob] at hs₁
  cases hs₁
  refine ⟨_, (Passed.queued h happ hsent).sendable, hstate, ?_⟩
  change ob.data.length = _
  rw [happ.data, List.length_append]
  rfl

theorem inScope_of_listen {n : Nat} {bytes : List UInt8} (h : Sendable s.toCore c x)
    (hstate : x.state = .listen) (hlen : bytes.length ≤ 2 ^ 20) :
    EachOp OutputOp.InScope c (List.replicate n (.raw bytes)) s := by
  induction n generalizing s x with
  | zero => trivial
  | succ n ih =>
      refine ⟨⟨x, h.client, ?_, hlen, fun _ h => nomatch h⟩, fun s₁ hs₁ => ?_⟩
      · rw [hstate]
        exact fun h => nomatch h
      · obtain ⟨x₁, h₁, hstate₁, _⟩ := outputOp_raw_listen h hstate hlen hs₁
        exact ih h₁ hstate₁

theorem size_of_outputOps {n : Nat} {bytes : List UInt8} {s' : Daemon}
    (h : Sendable s.toCore c x) (hstate : x.state = .listen) (hlen : bytes.length ≤ 2 ^ 20)
    (hs' : outputOps c (List.replicate n (.raw bytes)) s = .ok s') :
    ∃ x', s'.clients c = some x' ∧ x'.ob.size = x.ob.size + n * bytes.length := by
  induction n generalizing s x with
  | zero =>
      cases hs'
      exact ⟨x, h.client, by rw [Nat.zero_mul, Nat.add_zero]⟩
  | succ n ih =>
      obtain ⟨s₁, hs₁, hrun⟩ := bind_eq_ok.mp hs'
      obtain ⟨x₁, h₁, hstate₁, hsize⟩ := outputOp_raw_listen h hstate hlen hs₁
      obtain ⟨x', hx', hsize'⟩ := ih h₁ hstate₁ hrun
      exact ⟨x', hx', by rw [hsize', hsize, Nat.succ_mul]; omega⟩

end Flood

/-- A client listens. -/
def listenRun : List Event :=
  [.accept (some 5), .client 5 { pollin := true } { recv := some listenFrame }]

/-- A client listens and does not read: the queue outgrows every buffer, and
there is one packet of a megabyte that is copied past the end. -/
theorem flooded_queue_overruns :
    ∃ s x, Reachable (platformWith []) s ∧ s.clients ⟨0⟩ = some x ∧ x.state = .listen ∧
      EachOp OutputOp.InScope ⟨0⟩ (List.replicate 4096 (.raw (List.replicate (2 ^ 20) 0))) s ∧
      ∀ s', outputOps ⟨0⟩ (List.replicate 4096 (.raw (List.replicate (2 ^ 20) 0))) s ≠
        .ok s' := by
  let test : Daemon → Bool := fun s => (s.clients ⟨0⟩).any fun x => decide (x.state = .listen)
  obtain ⟨s, hrun, htest⟩ : ∃ s, runFrom (platformWith []) {} (fun _ _ => true) listenRun =
      some s ∧ test s = true := exists_of_runFrom (by decide +kernel)
  simp only [test, Option.any_eq_true, decide_eq_true_eq] at htest
  obtain ⟨x, hx, hstate⟩ := htest
  have hs := reachable_of_runFrom hrun
  have hsend := sendable_of_reachable hs hx
  have hlen : (List.replicate (2 ^ 20) (0 : UInt8)).length = 2 ^ 20 := List.length_replicate
  refine ⟨s, x, hs, hx, hstate, inScope_of_listen hsend hstate (Nat.le_of_eq hlen), ?_⟩
  intro s' hs'
  obtain ⟨x', _, hsize⟩ := size_of_outputOps hsend hstate (Nat.le_of_eq hlen) hs'
  have hle := x'.ob.size_le
  have hlt := x'.ob.capacity_lt
  rw [hlen] at hsize
  rw [Buf.size] at hsize
  omega

/-- Three bytes for a client that listens. -/
theorem outputQueue_kept_iff_listen :
    ∃ s x s', s.clients ⟨0⟩ = some x ∧ x.state = .listen ∧
      outputOps ⟨0⟩ [.raw [1, 2, 3]] s = .ok s' ∧
      QueueKept ⟨0⟩ [.raw [1, 2, 3]] s.toCore s'.toCore x := by
  let test : Daemon → Bool := fun s => (s.clients ⟨0⟩).any fun x =>
    decide (x.state = .listen) && decide (x.ob.size + 3 ≤ x.ob.capacity)
  obtain ⟨s, hrun, htest⟩ : ∃ s, runFrom (platformWith []) {} (fun _ _ => true) listenRun =
      some s ∧ test s = true := exists_of_runFrom (by decide +kernel)
  simp only [test, Option.any_eq_true, Bool.and_eq_true, decide_eq_true_eq] at htest
  obtain ⟨x, hx, hstate, hroom⟩ := htest
  have hs := reachable_of_runFrom hrun
  have hscope : EachOp OutputOp.InScope ⟨0⟩ (List.replicate 1 (.raw [1, 2, 3])) s :=
    inScope_of_listen (sendable_of_reachable hs hx) hstate (by decide)
  have hroomy : EachOp OutputOp.Roomy ⟨0⟩ [.raw [1, 2, 3]] s := by
    refine ⟨⟨x, hx, fun hlt => ?_⟩, fun _ _ => trivial⟩
    change x.ob.capacity - x.ob.size < 3 at hlt
    omega
  obtain ⟨s', hs', hkept⟩ := (outputQueue_kept_iff hs hx hscope).mpr hroomy
  exact ⟨s, x, s', hx, hstate, hs', hkept⟩

end Usbfluxd
