import Usbfluxd.Proofs.Trace
import Usbfluxd.Proofs.Runs

/-!
# The relay

A connected client and its remote share two buffers: what the client sends
goes through the remote's output buffer, what the remote sends through its
input buffer. The two sides switch from packets to raw bytes at different
steps, and each handler moves what it can.

The invariant is an account of bytes. For every client by itself: what was
sent, and what is still in the output buffer, is what was queued. For a
client with one connect request and the remote opened for it: the remote's
output is its request and then what the client sent, and from the moment the
remote is connected its input is what was written to the client and what is
still in the buffer.
-/

namespace Usbfluxd

open Lib

/-! ## One client -/

/-- The account of one client. -/
structure ClientAccount (t : ClientTrace) (x : MuxClient) : Prop where
  queued : t.sent ++ x.ob.data = t.queued
  quiet : x.state ≠ .connected → t.written = [] ∧ t.read = []
  out : t.out = t.sent ++ t.written
  noInput : x.state = .connecting2 ∨ x.state = .connected → x.ib.isNull = true

section Client

variable {A : Allow} {s s' : Core} {c : ClientPtr} {t : ClientTrace} {x x' : MuxClient}

/-- More was queued on a client. -/
theorem ClientAccount.queue {bs : List UInt8} {ob : Buf} {e : PollEvents}
    (h : ClientAccount t x) (hob : ob.data = x.ob.data ++ bs) :
    ClientAccount { t with queued := t.queued ++ bs } { x with ob := ob, events := e } where
  queued := by
    show t.sent ++ ob.data = t.queued ++ bs
    rw [hob, ← List.append_assoc, h.queued]
  quiet := h.quiet
  out := h.out
  noInput := h.noInput

/-- A change that concerns neither state nor output. -/
theorem ClientAccount.congr (h : ClientAccount t x) (hob : x'.ob.data = x.ob.data)
    (hstate : x'.state = x.state) (hib : x'.ib.isNull = x.ib.isNull) :
    ClientAccount t x' where
  queued := by
    rw [hob]
    exact h.queued
  quiet hne := h.quiet (by rw [← hstate]; exact hne)
  out := h.out
  noInput := by
    rw [hstate, hib]
    exact h.noInput

theorem ClientAccount.step {acts : List Act} (h : ClientAccount t x)
    (hs : ClientStep c x acts x') : ClientAccount (acts.foldl (ClientTrace.act c) t) x' := by
  cases hs with
  | queue hinput hver hkind hob =>
      rw [List.foldl_cons, List.foldl_nil, ClientTrace.act, if_pos rfl]
      exact h.queue hob.data
  | @recv ib bs hib hnull =>
      have hact : (recvActs (.clientRecv c) bs).foldl (ClientTrace.act c) t = t := by
        rw [recvActs]
        split <;> rfl
      rw [hact]
      exact h.congr rfl rfl hnull
  | command | inputDone | proto | info | events => exact h.congr rfl rfl rfl
  | @send ob n e hstate hob hnull =>
      rw [List.foldl_cons, List.foldl_nil, ClientTrace.act, if_pos rfl]
      obtain ⟨hwritten, _⟩ := h.quiet hstate
      refine ⟨?_, h.quiet, ?_, h.noInput⟩
      · show (t.sent ++ x.ob.data.take n) ++ ob.data = t.queued
        rw [hob, List.append_assoc, List.take_append_drop, h.queued]
      · show t.out ++ x.ob.data.take n = (t.sent ++ x.ob.data.take n) ++ t.written
        rw [h.out, hwritten, List.append_nil, List.append_nil]
  | @connected ob e hstate hob hnull =>
      rw [List.foldl_cons, List.foldl_nil, ClientTrace.act, if_pos rfl]
      have hne : x.state ≠ .connected := by
        rw [hstate]
        decide
      obtain ⟨hwritten, _⟩ := h.quiet hne
      refine ⟨?_, fun hc => absurd rfl hc, ?_, fun _ => h.noInput (Or.inl hstate)⟩
      · show (t.sent ++ x.ob.data) ++ ob.data = t.queued
        rw [hob, List.append_nil, h.queued]
      · show t.out ++ x.ob.data = (t.sent ++ x.ob.data) ++ t.written
        rw [h.out, hwritten, List.append_nil, List.append_nil]
  | @notifyFail ob hdr payload result e hstate _ _ hob =>
      have hne : x.state ≠ .connected := by
        rw [hstate]
        decide
      have hact : [Act.queue c hdr payload, .notifyConnect c result].foldl (ClientTrace.act c) t =
          { t with queued := t.queued ++ packetBytes hdr payload } := if_pos rfl
      rw [hact]
      refine ⟨?_, fun _ => h.quiet hne, h.out, ?_⟩
      · show t.sent ++ ob.data = t.queued ++ packetBytes hdr payload
        rw [hob.data, ← List.append_assoc, h.queued]
      · rintro (hc | hc) <;> cases hc

/-- The accounts of all clients. -/
def Accounts (s : Core) : Prop :=
  ∀ c x, s.clients c = some x → ClientAccount (clientTrace c s.log) x

/-- A move that concerns one client. -/
theorem Accounts.update {acts : List Act} (h : Accounts s)
    (hclients : s'.clients = (s.setClient c x').clients) (hlog : s'.log = s.log ++ acts)
    (hforeign : ∀ a ∈ acts, ∀ c', a.client = some c' → c' = c)
    (hx' : ClientAccount (acts.foldl (ClientTrace.act c) (clientTrace c s.log)) x') :
    Accounts s' := by
  intro c' z hz
  rw [hclients, Core.clients_setClient] at hz
  rw [hlog]
  split at hz
  · next heq =>
      cases hz
      rw [heq, clientTrace_append]
      exact hx'
  · next hne =>
      rw [clientTrace_of_foreign fun a ha hact => hne (hforeign a ha c' hact)]
      exact h c' z hz

/-- A move that concerns no client but may take some away. -/
theorem Accounts.sub {acts : List Act} (h : Accounts s)
    (hclients : ∀ {c x}, s'.clients c = some x → s.clients c = some x)
    (hlog : s'.log = s.log ++ acts) (hforeign : ∀ a ∈ acts, a.client = none) :
    Accounts s' := by
  intro c x hx
  rw [hlog, clientTrace_of_foreign fun a ha hact => by cases (hforeign a ha).symm.trans hact]
  exact h c x (hclients hx)

theorem Accounts.queued {hdr : Header} {payload : Payload} (h : Accounts s)
    (hq : Queued c x hdr payload s s') : Accounts s' := by
  obtain ⟨hx, _, ob, hob, rfl⟩ := hq
  refine h.update rfl rfl (fun a ha c' hact => ?_) ?_
  · cases List.mem_singleton.mp ha
    cases hact
    rfl
  · rw [List.foldl_cons, List.foldl_nil, ClientTrace.act, if_pos rfl]
    exact (h c x hx).queue hob.data

theorem Accounts.announces (h : Accounts s) (hn : Announces s s') : Accounts s' := by
  refine invariant_of_step (R := Announce) ?_ hn h
  rintro s s' ⟨c, x, hdr, payload, _, hq⟩ h
  exact h.queued hq

/-- A client opens a connection: it was not connected before. -/
theorem Accounts.opens {y : RemoteMux} {r : RemotePtr} {state : RemoteState} {acts : List Act}
    (h : Accounts s) (hx : s.clients c = some x) (hcommand : x.state = .command)
    (hob : x'.ob = x.ob) (hstate : x'.state = .command ∨ x'.state = .connecting1)
    (hacts : ∀ a ∈ acts, a.client = none) :
    Accounts (((s.setClient c x').addRemote y).emit (.openRemote c r state :: acts)) := by
  refine h.update rfl rfl (fun a ha c' hact => ?_) ?_
  · rcases List.mem_cons.mp ha with rfl | ha
    · exact (Option.some.inj hact).symm
    · cases (hacts a ha).symm.trans hact
  · have hforeign : acts.foldl (ClientTrace.act c) (clientTrace c s.log) =
        clientTrace c s.log :=
      ClientTrace.foldl_of_foreign fun a ha hact => by cases (hacts a ha).symm.trans hact
    have ht := h c x hx
    have hne : x.state ≠ .connected := by
      rw [hcommand]
      decide
    show ClientAccount (acts.foldl (ClientTrace.act c) (clientTrace c s.log)) x'
    rw [hforeign]
    refine ⟨by rw [hob]; exact ht.queued, fun _ => ht.quiet hne, ht.out, fun hconn => ?_⟩
    rcases hstate with hs | hs <;> rw [hs] at hconn <;> rcases hconn with hc | hc <;> cases hc

theorem Accounts.move (hlog : LogOk s) (hm : Move A s s') (h : Accounts s) : Accounts s' := by
  cases hm with
  | client hx hs =>
      refine h.update rfl rfl (fun a ha c' hact => ?_) ((h _ _ hx).step hs)
      exact Option.some.inj (hact.symm.trans (hs.act_client a ha).1)
  | remote hy hs => exact h.sub (fun hx => hx) rfl fun a ha => (hs.act_remote a ha).2
  | forward _ _ _ _ _ hx hob =>
      refine h.update rfl rfl (fun a ha c' hact => ?_) ?_
      · cases List.mem_singleton.mp ha
        exact (Option.some.inj hact).symm
      · rw [List.foldl_cons, List.foldl_nil, ClientTrace.act, if_pos rfl]
        exact (h _ _ hx).queue hob.data
  | relayRead hx hstate =>
      refine h.update rfl rfl (fun a ha c' hact => ?_) ?_
      · cases List.mem_singleton.mp ha
        exact (Option.some.inj hact).symm
      · rw [List.foldl_cons, List.foldl_nil, ClientTrace.act, if_pos rfl]
        have ht := h _ _ hx
        exact ⟨ht.queued, fun hne => absurd hstate hne, ht.out, ht.noInput⟩
  | relayWrite hx hstate =>
      refine h.update rfl rfl (fun a ha c' hact => ?_) ?_
      · cases List.mem_singleton.mp ha
        exact (Option.some.inj hact).symm
      · rw [List.foldl_cons, List.foldl_nil, ClientTrace.act, if_pos rfl]
        have ht := h _ _ hx
        refine ⟨ht.queued, fun hne => absurd hstate hne, ?_, ht.noInput⟩
        rw [ht.out]
        exact List.append_assoc ..
  | accept =>
      intro c' z hz
      rcases Core.clients_addClient_cases hz with ⟨rfl, rfl⟩ | hz
      · show ClientAccount (clientTrace _ s.log) _
        rw [hlog.clientTrace_new (Nat.le_refl _)]
        exact ⟨rfl, fun _ => ⟨rfl, rfl⟩, rfl, fun hc => by rcases hc with hc | hc <;> cases hc⟩
      · exact h c' z hz
  | connect hx hstate _ _ _ hacts =>
      exact h.opens hx hstate rfl (Or.inr rfl) fun a ha => (hacts.act_remote a ha).2
  | request hx hstate _ _ _ hacts =>
      exact h.opens hx hstate rfl (Or.inl hstate) fun a ha => (hacts.act_remote a ha).2
  | @notifyOk r y c x ob hdr payload e _ _ _ hx hstate _ hob =>
      refine h.update rfl rfl (fun a ha c' hact => ?_) ?_
      · rcases List.mem_cons.mp ha with rfl | ha
        · exact (Option.some.inj hact).symm
        · rcases List.mem_pair.mp ha with rfl | rfl
          · exact (Option.some.inj hact).symm
          · cases hact
      · have ht := h _ _ hx
        have hne : x.state ≠ .connected := by
          rw [hstate]
          decide
        have hact : [Act.queue c hdr payload, .notifyConnect c resultOk,
            .remoteConnected r].foldl (ClientTrace.act c) (clientTrace c s.log) =
            { clientTrace c s.log with
              queued := (clientTrace c s.log).queued ++ packetBytes hdr payload } := if_pos rfl
        rw [hact]
        refine ⟨?_, fun _ => ht.quiet hne, ht.out, fun _ => rfl⟩
        show _ ++ ob.data = _ ++ packetBytes hdr payload
        rw [hob.data, ← List.append_assoc, ht.queued]
  | addListener _ hacts => exact h.sub (fun hx => hx) rfl fun a ha => (hacts.act_remote a ha).2
  | closeClient =>
      refine h.sub (fun hx => ?_) (Emits.nil Core.log_closeClient).log fun a ha => by cases ha
      rw [Core.clients_closeClient] at hx
      split at hx
      · cases hx
      · exact hx
  | closeRemote | killId =>
      exact h.sub (fun hx => hx) (List.append_nil _).symm fun a ha => by cases ha
  | dispose =>
      refine h.sub (fun hx => ?_) (Emits.nil Core.log_dispose).log fun a ha => by cases ha
      rw [Core.clients_dispose] at hx
      split at hx
      · cases hx
      · exact hx
  | deviceSet _ hn | deviceErase _ hn =>
      intro c x hx
      exact h.announces hn.announces c x hx
  | @listen c x _ hx hstate hn =>
      have hfirst : Accounts ((s.setClient c { x with state := .listen }).emit [.listen c]) := by
        refine h.update rfl rfl (fun a ha c' hact => ?_) ?_
        · cases List.mem_singleton.mp ha
          exact (Option.some.inj hact).symm
        · have ht := h _ _ hx
          refine ⟨ht.queued, fun _ => ht.quiet ?_, ht.out, fun hc => ?_⟩
          · rw [hstate]
            decide
          · rcases hc with hc | hc <;> cases hc
      exact hfirst.announces hn.announces

theorem Accounts.initial (h : Initial s) : Accounts s := by
  intro c x hx
  cases h with
  | empty | listener => cases hx

end Client

/-! ## A client and its remote -/

/-- The remote an act opens for a client, and the state it starts in. -/
def Act.opens (c : ClientPtr) : Act → Option (RemotePtr × RemoteState)
  | .openRemote c' r state => if c' = c then some (r, state) else none
  | _ => none

/-- The client has issued exactly one forwarded request, a connect request,
and the remote was opened for it. -/
def OnlyConnect (c : ClientPtr) (r : RemotePtr) (log : List Act) : Prop :=
  log.filterMap (Act.opens c) = [(r, .connecting1)]

instance (c : ClientPtr) (r : RemotePtr) (log : List Act) : Decidable (OnlyConnect c r log) :=
  inferInstanceAs (Decidable (_ = _))

/-- The bytes of queued packets. -/
def requestBytes (requests : List (Header × Payload)) : List UInt8 :=
  requests.flatMap fun p => packetBytes p.1 p.2

/-- The account of a client and its remote. -/
structure Stream (lossOk : Prop) (ct : ClientTrace) (rt : RemoteTrace) (x : MuxClient)
    (y : RemoteMux) : Prop where
  phase : (y.state = .connecting1 ∧ rt.connected = false) ∨
    (y.state = .connected ∧ rt.connected = true) ∨ y.state = .dead
  early : rt.connected = false → rt.relayed = []
  linked : x.state = .connecting2 ∨ x.state = .connected → rt.connected = true
  input : rt.connected = true → ct.written ++ y.ib.data = rt.relayed
  output : rt.sent ++ y.ob.data = requestBytes rt.requests ++ ct.read
  request : (lossOk ∧ rt.requests = []) ∨
    ∃ hdr payload, rt.requests = [(hdr, payload)] ∧ IsForwardedConnect x.connectDevice payload
  result : x.state = .connecting2 ∨ x.state = .connected →
    ∃ before hdr payload, IsResultPacket x.protoVersion x.connectTag resultOk hdr payload ∧
      ct.queued = before ++ packetBytes hdr payload
  flushed : x.state = .connected → x.ob.data = []

section Stream

variable {A : Allow} {lossOk : Prop} {ct : ClientTrace} {rt : RemoteTrace} {x x' : MuxClient}
  {y y' : RemoteMux} {c : ClientPtr} {r : RemotePtr} {acts : List Act}

/-- Only a remote that is connected, or was, has relayed anything. -/
theorem Stream.of_framed (h : Stream lossOk ct rt x y) (hy : y.Framed) :
    y.state = .connecting1 ∧ rt.connected = false := by
  rcases h.phase with h | ⟨h, _⟩ | h
  · exact h
  · exact absurd h hy.1
  · exact absurd h hy.2

/-- A client that still takes commands is before its connect result. -/
theorem ClientAccount.before_result (h : ClientAccount ct x) (hinput : x.ib.isNull = false) :
    ¬ (x.state = .connecting2 ∨ x.state = .connected) := by
  intro hstate
  cases hinput.symm.trans (h.noInput hstate)

/-- The account when the client is before its connect result. -/
theorem Stream.of_before {ct' : ClientTrace} (h : Stream lossOk ct rt x y)
    (hwritten : ct'.written = ct.written) (hread : ct'.read = ct.read)
    (hdevice : x'.connectDevice = x.connectDevice)
    (hx' : ¬ (x'.state = .connecting2 ∨ x'.state = .connected)) :
    Stream lossOk ct' rt x' y where
  phase := h.phase
  early := h.early
  linked hc := absurd hc hx'
  input := by
    rw [hwritten]
    exact h.input
  output := by
    rw [hread]
    exact h.output
  request := by
    rw [hdevice]
    exact h.request
  result hc := absurd hc hx'
  flushed hc := absurd (Or.inr hc) hx'

/-- A change of the client that does not show. -/
theorem Stream.client_congr (h : Stream lossOk ct rt x y) (hstate : x'.state = x.state)
    (hproto : x'.protoVersion = x.protoVersion) (htag : x'.connectTag = x.connectTag)
    (hdevice : x'.connectDevice = x.connectDevice) (hob : x'.ob.data = x.ob.data) :
    Stream lossOk ct rt x' y where
  phase := h.phase
  early := h.early
  linked := by
    rw [hstate]
    exact h.linked
  input := h.input
  output := h.output
  request := by
    rw [hdevice]
    exact h.request
  result := by
    rw [hstate, hproto, htag]
    exact h.result
  flushed := by
    rw [hstate, hob]
    exact h.flushed

theorem Stream.client_step (h : Stream lossOk ct rt x y) (hacc : ClientAccount ct x)
    (hs : ClientStep c x acts x') :
    Stream lossOk (acts.foldl (ClientTrace.act c) ct) rt x' y := by
  cases hs with
  | queue hinput =>
      rw [List.foldl_cons, List.foldl_nil, ClientTrace.act, if_pos rfl]
      exact h.of_before rfl rfl rfl (hacc.before_result hinput)
  | @recv ib bs =>
      have hact : (recvActs (.clientRecv c) bs).foldl (ClientTrace.act c) ct = ct := by
        rw [recvActs]
        split <;> rfl
      rw [hact]
      exact h.client_congr rfl rfl rfl rfl rfl
  | command | inputDone | info | events => exact h.client_congr rfl rfl rfl rfl rfl
  | proto hstate =>
      refine h.of_before rfl rfl rfl ?_
      rw [hstate]
      decide
  | send hstate =>
      rw [List.foldl_cons, List.foldl_nil, ClientTrace.act, if_pos rfl]
      exact ⟨h.phase, h.early, h.linked, h.input, h.output, h.request, h.result,
        fun hc => absurd hc hstate⟩
  | connected hstate hob =>
      rw [List.foldl_cons, List.foldl_nil, ClientTrace.act, if_pos rfl]
      exact ⟨h.phase, h.early, fun _ => h.linked (Or.inl hstate), h.input, h.output, h.request,
        fun _ => h.result (Or.inl hstate), fun _ => hob⟩
  | @notifyFail ob hdr payload result =>
      have hact : [Act.queue c hdr payload, .notifyConnect c result].foldl (ClientTrace.act c) ct =
          { ct with queued := ct.queued ++ packetBytes hdr payload } := if_pos rfl
      rw [hact]
      refine h.of_before rfl rfl rfl ?_
      rintro (hc | hc) <;> cases hc

/-- A change of the remote that does not show. -/
theorem Stream.remote_congr (h : Stream lossOk ct rt x y) (hstate : y'.state = y.state)
    (hib : y'.ib.data = y.ib.data) (hob : y'.ob.data = y.ob.data) :
    Stream lossOk ct rt x y' where
  phase := by
    rw [hstate]
    exact h.phase
  early := h.early
  linked := h.linked
  input := by
    rw [hib]
    exact h.input
  output := by
    rw [hob]
    exact h.output
  request := h.request
  result := h.result
  flushed := h.flushed

/-- A change of the input of a remote that is not connected. -/
theorem Stream.remote_input (h : Stream lossOk ct rt x y) (hconn : rt.connected = false)
    (hstate : y'.state = y.state) (hob : y'.ob.data = y.ob.data) :
    Stream lossOk ct rt x y' where
  phase := by
    rw [hstate]
    exact h.phase
  early := h.early
  linked := h.linked
  input hc := by cases hconn.symm.trans hc
  output := by
    rw [hob]
    exact h.output
  request := h.request
  result := h.result
  flushed := h.flushed

/-- The remote becomes connected, with nothing left of its frames. -/
theorem Stream.connect (h : Stream lossOk ct rt x y) (hacc : ClientAccount ct x)
    (hstate : y.state = .connecting1) (hy' : y'.state = .connected) (hib : y'.ib.data = [])
    (hob : y'.ob.data = y.ob.data) :
    Stream lossOk ct { rt with connected := true } x y' := by
  have hconn : rt.connected = false := by
    refine (h.of_framed ?_).2
    rw [RemoteMux.Framed, hstate]
    decide
  have hwritten : ct.written = [] := by
    refine (hacc.quiet fun hc => ?_).1
    cases hconn.symm.trans (h.linked (Or.inr hc))
  refine ⟨Or.inr (Or.inl ⟨hy', rfl⟩), fun hc => (by cases hc), fun _ => rfl, fun _ => ?_, ?_,
    h.request, h.result, h.flushed⟩
  · show ct.written ++ y'.ib.data = rt.relayed
    rw [hwritten, hib, h.early hconn, List.append_nil]
  · show rt.sent ++ y'.ob.data = _
    rw [hob]
    exact h.output

theorem Stream.remote_step (h : Stream lossOk ct rt x y) (hacc : ClientAccount ct x)
    (hs : RemoteStep r y acts y') :
    Stream lossOk ct (acts.foldl (RemoteTrace.act r) rt) x y' := by
  have hlisten : y.state ≠ .command ∧ y.state ≠ .listen ∧ y.state ≠ .connecting2 := by
    rcases h.phase with ⟨h, _⟩ | ⟨h, _⟩ | h <;> rw [h] <;> decide
  cases hs with
  | @recv ib bs t hstate hib =>
      obtain ⟨_, hconn⟩ := h.of_framed hstate
      have hact : (recvActs (.remoteRecv r) bs).foldl (RemoteTrace.act r) rt = rt := by
        rw [recvActs]
        split
        · rfl
        · rw [List.foldl_cons, List.foldl_nil, RemoteTrace.act, hconn, if_neg]
          rintro ⟨_, hc⟩
          cases hc
      rw [hact]
      exact h.remote_input hconn rfl rfl
  | @relayRecv ib bs t hstate hib =>
      have hconn : rt.connected = true := by
        rcases h.phase with ⟨hs, _⟩ | ⟨_, hc⟩ | hs
        · cases hs.symm.trans hstate
        · exact hc
        · cases hs.symm.trans hstate
      rw [List.foldl_cons, List.foldl_nil, RemoteTrace.act, if_pos ⟨rfl, hconn⟩]
      refine ⟨h.phase, fun hc => ?_, h.linked, fun _ => ?_, h.output, h.request, h.result,
        h.flushed⟩
      · cases hconn.symm.trans hc
      · show ct.written ++ ib.data = rt.relayed ++ bs
        rw [hib, ← List.append_assoc, h.input hconn]
  | frame | events | active | clearCommand => exact h.remote_congr rfl rfl rfl
  | inputDone hstate => exact h.remote_input (h.of_framed hstate).2 rfl rfl
  | input hstate => exact absurd hstate hlisten.2.1
  | @send ob n e t hob =>
      rw [List.foldl_cons, List.foldl_nil, RemoteTrace.act, if_pos rfl]
      refine ⟨h.phase, h.early, h.linked, h.input, ?_, h.request, h.result, h.flushed⟩
      show (rt.sent ++ y.ob.data.take n) ++ ob.data = _
      rw [hob, List.append_assoc, List.take_append_drop]
      exact h.output
  | listen hstate => exact absurd hstate hlisten.1
  | connected hstate =>
      rw [List.foldl_cons, List.foldl_nil, RemoteTrace.act, if_pos rfl]
      exact h.connect hacc hstate rfl rfl rfl
  | connected2 hstate => exact absurd hstate hlisten.2.2

end Stream

/-! ## All streams -/

/-- The accounts of all clients with one connect request. -/
def Streams (lossOk : Prop) (s : Core) : Prop :=
  ∀ c r x y, OnlyConnect c r s.log → s.clients c = some x → s.remotes r = some y →
    Stream lossOk (clientTrace c s.log) (remoteTrace r s.log) x y

section Streams

variable {A : Allow} {s s' : Core} {c c' : ClientPtr} {r r' : RemotePtr} {x x' : MuxClient}
  {y y' : RemoteMux} {acts : List Act}

theorem mem_filterMap_opens {log : List Act} {state : RemoteState} :
    (r, state) ∈ log.filterMap (Act.opens c) ↔ .openRemote c r state ∈ log := by
  rw [List.mem_filterMap]
  constructor
  · rintro ⟨a, ha, hopens⟩
    cases a with
    | openRemote c' r' st =>
        rw [Act.opens] at hopens
        split at hopens
        · next heq =>
            cases hopens
            rw [← heq]
            exact ha
        · cases hopens
    | queue | queueRaw | clientRecv | clientSend | clientRead | clientWrite | command | listen
    | notifyConnect | remoteQueue | remoteSend | remoteRecv | remoteConnected | relayRecv
    | frame => cases hopens
  · exact fun ha => ⟨_, ha, if_pos rfl⟩

theorem OnlyConnect.mem_iff {log : List Act} {state : RemoteState} (h : OnlyConnect c r log) :
    .openRemote c r' state ∈ log ↔ r' = r ∧ state = .connecting1 := by
  rw [← mem_filterMap_opens, h, List.mem_singleton, Prod.mk.injEq]

theorem OnlyConnect.opened {log : List Act} (h : OnlyConnect c r log) :
    .openRemote c r .connecting1 ∈ log :=
  h.mem_iff.mpr ⟨rfl, rfl⟩

theorem OnlyConnect.of_append {log : List Act} (h : OnlyConnect c r (log ++ acts))
    (hno : ∀ r state, .openRemote c r state ∉ acts) : OnlyConnect c r log := by
  have hnil : acts.filterMap (Act.opens c) = [] := by
    refine List.eq_nil_iff_forall_not_mem.mpr ?_
    rintro ⟨r', state⟩ hmem
    exact hno r' state (mem_filterMap_opens.mp hmem)
  rw [OnlyConnect, List.filterMap_append, hnil, List.append_nil] at h
  exact h

/-- The only remote a client was linked to. -/
theorem OnlyConnect.link (ho : OnlyConnect c r s.log) (hlog : LogOk s)
    (hx : s.clients c = some x) (hr : x.remote = some r') : r' = r := by
  obtain ⟨state, hmem⟩ := hlog.link hx hr
  exact (ho.mem_iff.mp hmem).1

theorem OnlyConnect.back (ho : OnlyConnect c r s.log) (hlog : LogOk s)
    (hy : s.remotes r' = some y) (hc : y.client = some c) : r' = r := by
  obtain ⟨state, hmem⟩ := hlog.back hy hc
  exact (ho.mem_iff.mp hmem).1

/-- The only client that was linked to the remote. -/
theorem OnlyConnect.owner_link (ho : OnlyConnect c r s.log) (hlog : LogOk s)
    (hx : s.clients c' = some x) (hr : x.remote = some r) : c' = c := by
  obtain ⟨state, hmem⟩ := hlog.link hx hr
  exact (hlog.unique hmem ho.opened).1

theorem OnlyConnect.owner_back (ho : OnlyConnect c r s.log) (hlog : LogOk s)
    (hy : s.remotes r = some y) (hc : y.client = some c') : c' = c := by
  obtain ⟨state, hmem⟩ := hlog.back hy hc
  exact (hlog.unique hmem ho.opened).1

/-- A move that opens nothing is judged pair by pair. -/
theorem Streams.of_pairs (h : Streams A.lossOk s) (hlog : s'.log = s.log ++ acts)
    (hno : ∀ c r state, .openRemote c r state ∉ acts)
    (hpair : ∀ c r x' y', OnlyConnect c r s.log → s'.clients c = some x' →
      s'.remotes r = some y' → ∃ x y, s.clients c = some x ∧ s.remotes r = some y ∧
      (Stream A.lossOk (clientTrace c s.log) (remoteTrace r s.log) x y →
        Stream A.lossOk (acts.foldl (ClientTrace.act c) (clientTrace c s.log))
          (acts.foldl (RemoteTrace.act r) (remoteTrace r s.log)) x' y')) :
    Streams A.lossOk s' := by
  intro c r x' y' ho hx' hy'
  rw [hlog] at ho ⊢
  have ho' := ho.of_append (hno c)
  obtain ⟨x, y, hx, hy, hstream⟩ := hpair c r x' y' ho' hx' hy'
  rw [clientTrace_append, remoteTrace_append]
  exact hstream (h c r x y ho' hx hy)

/-- One client changes. -/
theorem Streams.client (h : Streams A.lossOk s) (hx : s.clients c' = some x)
    (hacts : ∀ a ∈ acts, a.client = some c' ∧ a.remote = none)
    (hstep : ∀ r y, OnlyConnect c' r s.log → s.remotes r = some y →
      Stream A.lossOk (clientTrace c' s.log) (remoteTrace r s.log) x y →
      Stream A.lossOk (acts.foldl (ClientTrace.act c') (clientTrace c' s.log))
        (remoteTrace r s.log) x' y) :
    Streams A.lossOk ((s.setClient c' x').emit acts) := by
  refine h.of_pairs rfl (fun c r state ha => by cases (hacts _ ha).2) ?_
  intro c r z y ho hz hy
  have hforeign : ∀ a ∈ acts, a.remote ≠ some r :=
    fun a ha hr => by cases (hacts a ha).2.symm.trans hr
  rw [RemoteTrace.foldl_of_foreign hforeign]
  rw [Core.clients_emit, Core.clients_setClient] at hz
  split at hz
  · next heq =>
      cases hz
      rw [heq] at ho ⊢
      exact ⟨x, y, hx, hy, hstep r y ho hy⟩
  · next hne =>
      refine ⟨z, y, hz, hy, fun hs => ?_⟩
      rw [ClientTrace.foldl_of_foreign]
      · exact hs
      · intro a ha hc
        exact hne (Option.some.inj (hc.symm.trans (hacts a ha).1))

/-- One remote changes. -/
theorem Streams.remote (h : Streams A.lossOk s) (hy : s.remotes r' = some y)
    (hacts : ∀ a ∈ acts, a.remote = some r' ∧ a.client = none)
    (hstep : ∀ c x, s.clients c = some x →
      Stream A.lossOk (clientTrace c s.log) (remoteTrace r' s.log) x y →
      Stream A.lossOk (clientTrace c s.log)
        (acts.foldl (RemoteTrace.act r') (remoteTrace r' s.log)) x y') :
    Streams A.lossOk ((s.setRemote r' y').emit acts) := by
  refine h.of_pairs rfl (fun c r state ha => by cases (hacts _ ha).2) ?_
  intro c r x z ho hx hz
  have hforeign : ∀ a ∈ acts, a.client ≠ some c :=
    fun a ha hc => by cases (hacts a ha).2.symm.trans hc
  rw [ClientTrace.foldl_of_foreign hforeign]
  rw [Core.remotes_emit, Core.remotes_setRemote] at hz
  split at hz
  · next heq =>
      cases hz
      rw [heq]
      exact ⟨x, y, hx, hy, hstep c x hx⟩
  · next hne =>
      refine ⟨x, z, hx, hz, fun hs => ?_⟩
      rw [RemoteTrace.foldl_of_foreign]
      · exact hs
      · intro a ha hr
        exact hne (Option.some.inj (hr.symm.trans (hacts a ha).1))

/-- A client and a remote change together, which nobody else is linked to. -/
theorem Streams.both (h : Streams A.lossOk s) (hx : s.clients c' = some x)
    (hy : s.remotes r' = some y)
    (hclient : ∀ a ∈ acts, ∀ c, a.client = some c → c = c')
    (hremote : ∀ a ∈ acts, ∀ r, a.remote = some r → r = r')
    (hno : ∀ c r state, .openRemote c r state ∉ acts)
    (hone : ∀ r, OnlyConnect c' r s.log → r = r')
    (howner : ∀ c, OnlyConnect c r' s.log → c = c')
    (hstep : Stream A.lossOk (clientTrace c' s.log) (remoteTrace r' s.log) x y →
      Stream A.lossOk (acts.foldl (ClientTrace.act c') (clientTrace c' s.log))
        (acts.foldl (RemoteTrace.act r') (remoteTrace r' s.log)) x' y') :
    Streams A.lossOk (((s.setRemote r' y').setClient c' x').emit acts) := by
  refine h.of_pairs rfl hno ?_
  intro c r z w ho hz hw
  have hz' : (s.setClient c' x').clients c = some z := hz
  have hw' : (s.setRemote r' y').remotes r = some w := hw
  rw [Core.clients_setClient] at hz'
  rw [Core.remotes_setRemote] at hw'
  split at hz'
  · next heq =>
      rw [heq] at ho
      cases hone r ho
      rw [if_pos rfl] at hw'
      cases hz'
      cases hw'
      rw [heq]
      exact ⟨x, y, hx, hy, hstep⟩
  · next hne =>
      rw [if_neg] at hw'
      · refine ⟨z, w, hz', hw', fun hs => ?_⟩
        rw [ClientTrace.foldl_of_foreign fun a ha hc => hne (hclient a ha c hc),
          RemoteTrace.foldl_of_foreign]
        · exact hs
        · intro a ha hr
          rw [hremote a ha r hr] at ho
          exact hne (howner c ho)
      · intro heq
        rw [heq] at ho
        exact hne (howner c ho)

/-- Objects may leave, and new ones that nobody was connected to may come. -/
theorem Streams.sub (h : Streams A.lossOk s) (hlog : s'.log = s.log)
    (hpair : ∀ c r x y, OnlyConnect c r s.log → s'.clients c = some x → s'.remotes r = some y →
      s.clients c = some x ∧ s.remotes r = some y) : Streams A.lossOk s' := by
  intro c r x y ho hx hy
  rw [hlog] at ho ⊢
  obtain ⟨hx', hy'⟩ := hpair c r x y ho hx hy
  exact h c r x y ho hx' hy'

/-- A remote that a client was opened for is not one still to be handed out. -/
theorem OnlyConnect.old (ho : OnlyConnect c r s.log) (hlog : LogOk s) :
    c ≠ ⟨s.nextClient⟩ ∧ r ≠ ⟨s.nextRemote⟩ := by
  constructor
  · rintro rfl
    exact Nat.lt_irrefl _ (hlog.client ho.opened rfl)
  · rintro rfl
    exact Nat.lt_irrefl _ (hlog.remote ho.opened rfl)

/-- A connection is opened for a client. -/
theorem Streams.opens {state : RemoteState} (h : Streams A.lossOk s) (hlog : LogOk s)
    (hacts : ∀ a ∈ acts, a.remote = some ⟨s.nextRemote⟩ ∧ a.client = none)
    (hself : state = .connecting1 → Stream A.lossOk (clientTrace c' s.log)
      (acts.foldl (RemoteTrace.act ⟨s.nextRemote⟩) {}) x' y') :
    Streams A.lossOk (((s.setClient c' x').addRemote y').emit
      (.openRemote c' ⟨s.nextRemote⟩ state :: acts)) := by
  intro c r z w ho hz hw
  have hz' : (s.setClient c' x').clients c = some z := hz
  have hw' : (s.addRemote y').remotes r = some w := hw
  have hno : ∀ {r' st}, .openRemote c r' st ∉ acts := fun ha => by cases (hacts _ ha).2
  rw [Core.log_emit] at ho ⊢
  show Stream _ (clientTrace c (s.log ++ _)) (remoteTrace r (s.log ++ _)) z w
  have hct : clientTrace c (s.log ++ .openRemote c' ⟨s.nextRemote⟩ state :: acts) =
      clientTrace c s.log := by
    rw [clientTrace_append, List.foldl_cons]
    exact ClientTrace.foldl_of_foreign fun a ha hc => by cases (hacts a ha).2.symm.trans hc
  rw [hct]
  rw [Core.clients_setClient] at hz'
  rw [Core.remotes_addRemote] at hw'
  split at hz'
  · next heq =>
      have hnew := ho.mem_iff.mp
        (List.mem_append_right _ (by rw [heq]; exact List.mem_cons_self))
      rw [if_pos hnew.1.symm] at hw'
      cases hz'
      cases hw'
      rw [← hnew.1, heq, remoteTrace_append, hlog.remoteTrace_new (Nat.le_refl _), List.foldl_cons]
      exact hself hnew.2
  · next hne =>
      have ho' : OnlyConnect c r s.log := by
        refine ho.of_append fun r' st ha => ?_
        rcases List.mem_cons.mp ha with ha | ha
        · cases ha
          exact hne rfl
        · exact hno ha
      have hr := (ho'.old hlog).2
      rw [if_neg hr] at hw'
      have hrt : remoteTrace r (s.log ++ .openRemote c' ⟨s.nextRemote⟩ state :: acts) =
          remoteTrace r s.log := by
        rw [remoteTrace_append, List.foldl_cons]
        exact RemoteTrace.foldl_of_foreign fun a ha hact =>
          hr (Option.some.inj (hact.symm.trans (hacts a ha).1))
      rw [hrt]
      exact h c r z w ho' hz' hw'

/-- A packet is queued on a client that listens. -/
theorem Streams.queued {hdr : Header} {payload : Payload} (h : Streams A.lossOk s)
    (hstate : x.state = .listen) (hq : Queued c' x hdr payload s s') : Streams A.lossOk s' := by
  obtain ⟨hx, _, ob, _, rfl⟩ := hq
  refine h.client hx (fun a ha => ?_) fun r y _ _ hs => ?_
  · cases List.mem_singleton.mp ha
    exact ⟨rfl, rfl⟩
  · rw [List.foldl_cons, List.foldl_nil, ClientTrace.act, if_pos rfl]
    refine hs.of_before rfl rfl rfl ?_
    rw [hstate]
    decide

theorem Streams.announces (h : Streams A.lossOk s) (hn : Announces s s') :
    Streams A.lossOk s' := by
  refine invariant_of_step (R := Announce) ?_ hn h
  rintro s s' ⟨c, x, hdr, payload, hstate, hq⟩ h
  exact h.queued hstate hq

theorem Streams.move (hlog : LogOk s) (hacc : Accounts s) (hm : Move A s s')
    (h : Streams A.lossOk s) : Streams A.lossOk s' := by
  cases hm with
  | client hx hs =>
      exact h.client hx hs.act_client fun r y _ _ hst => hst.client_step (hacc _ _ hx) hs
  | remote hy hs =>
      exact h.remote hy hs.act_remote fun c x hx hst => hst.remote_step (hacc _ _ hx) hs
  | forward hy hstate _ _ hclient hx =>
      refine h.client hx (fun a ha => ?_) fun r y ho hy' hst => ?_
      · cases List.mem_singleton.mp ha
        exact ⟨rfl, rfl⟩
      · -- the one remote of the client is not in `REMOTE_COMMAND`
        cases ho.back hlog hy hclient
        cases hy.symm.trans hy'
        rcases hst.phase with ⟨hs, _⟩ | ⟨hs, _⟩ | hs <;> cases hs.symm.trans hstate
  | @relayRead c x r y ob bs e hx hstate hremote hy hob =>
      refine h.both hx hy (fun a ha c₁ hc => ?_) (fun a ha r₁ hr => ?_)
        (fun c₁ r₁ st ha => ?_) (fun r₁ ho => (ho.link hlog hx hremote).symm)
        (fun c₁ ho => (ho.owner_link hlog hx hremote).symm) fun hst => ?_
      · cases List.mem_singleton.mp ha
        exact (Option.some.inj hc).symm
      · cases List.mem_singleton.mp ha
        cases hr
      · cases List.mem_singleton.mp ha
      · rw [List.foldl_cons, List.foldl_nil, ClientTrace.act, if_pos rfl]
        refine ⟨hst.phase, hst.early, hst.linked, hst.input, ?_, hst.request, hst.result,
          hst.flushed⟩
        show (remoteTrace r s.log).sent ++ ob.data =
          requestBytes (remoteTrace r s.log).requests ++ ((clientTrace c s.log).read ++ bs)
        rw [hob, ← List.append_assoc, ← List.append_assoc, hst.output]
  | @relayWrite c x r y ib n e hx hstate hremote hy hib =>
      refine h.both hx hy (fun a ha c₁ hc => ?_) (fun a ha r₁ hr => ?_)
        (fun c₁ r₁ st ha => ?_) (fun r₁ ho => (ho.link hlog hx hremote).symm)
        (fun c₁ ho => (ho.owner_link hlog hx hremote).symm) fun hst => ?_
      · cases List.mem_singleton.mp ha
        exact (Option.some.inj hc).symm
      · cases List.mem_singleton.mp ha
        cases hr
      · cases List.mem_singleton.mp ha
      · rw [List.foldl_cons, List.foldl_nil, ClientTrace.act, if_pos rfl]
        refine ⟨hst.phase, hst.early, hst.linked, fun hc => ?_, hst.output, hst.request,
          hst.result, hst.flushed⟩
        show ((clientTrace c s.log).written ++ y.ib.data.take n) ++ ib.data = _
        rw [hib, List.append_assoc, List.take_append_drop]
        exact hst.input hc
  | accept =>
      refine h.sub rfl fun c r x y ho hx hy => ⟨?_, hy⟩
      rcases Core.clients_addClient_cases hx with ⟨hc, _⟩ | hx
      · exact absurd hc (ho.old hlog).1
      · exact hx
  | @connect c x tag deviceId y acts hx hstate _ hnew hkind hacts =>
      refine h.opens hlog hacts.act_remote fun _ => ?_
      have hne : x.state ≠ .connected := by
        rw [hstate]
        decide
      obtain ⟨hwritten, hread⟩ := (hacc _ _ hx).quiet hne
      have hbefore : ¬ (ClientState.connecting1 = .connecting2 ∨
          ClientState.connecting1 = .connected) := by decide
      rcases hacts with ⟨hloss, rfl, hob, _⟩ | ⟨hdr, payload, hp, rfl, hob, _⟩
      · exact ⟨Or.inl ⟨hkind.1, rfl⟩, fun _ => rfl, fun hc => absurd hc hbefore,
          fun hc => (nomatch hc), by rw [hob, hread]; rfl, Or.inl ⟨hloss, rfl⟩,
          fun hc => absurd hc hbefore, fun hc => (nomatch hc)⟩
      · rw [List.foldl_cons, List.foldl_nil, RemoteTrace.act, if_pos rfl]
        refine ⟨Or.inl ⟨hkind.1, rfl⟩, fun _ => rfl, fun hc => absurd hc hbefore,
          fun hc => (nomatch hc), ?_, Or.inr ⟨hdr, payload, rfl, hp⟩,
          fun hc => absurd hc hbefore, fun hc => (nomatch hc)⟩
        rw [hob, hread]
        simp [requestBytes]
  | request hx hstate _ _ _ hacts =>
      exact h.opens hlog hacts.act_remote fun hst => (nomatch hst)
  | @notifyOk r y c x ob hdr payload e hy hconn hclient hx hstate hpkt hob =>
      refine h.both hx hy (fun a ha c₁ hc => ?_) (fun a ha r₁ hr => ?_)
        (fun c₁ r₁ st ha => ?_) (fun r₁ ho => (ho.back hlog hy hclient).symm)
        (fun c₁ ho => (ho.owner_back hlog hy hclient).symm) fun hst => ?_
      · rcases List.mem_cons.mp ha with rfl | ha
        · exact (Option.some.inj hc).symm
        · rcases List.mem_pair.mp ha with rfl | rfl
          · exact (Option.some.inj hc).symm
          · cases hc
      · rcases List.mem_cons.mp ha with rfl | ha
        · cases hr
        · rcases List.mem_pair.mp ha with rfl | rfl
          · cases hr
          · exact (Option.some.inj hr).symm
      · simp at ha
      · have hct : [Act.queue c hdr payload, .notifyConnect c resultOk,
            .remoteConnected r].foldl (ClientTrace.act c) (clientTrace c s.log) =
            { clientTrace c s.log with
              queued := (clientTrace c s.log).queued ++ packetBytes hdr payload } := if_pos rfl
        have hrt : [Act.queue c hdr payload, .notifyConnect c resultOk,
            .remoteConnected r].foldl (RemoteTrace.act r) (remoteTrace r s.log) =
            { remoteTrace r s.log with connected := true } := if_pos rfl
        rw [hct, hrt]
        have hst' : Stream A.lossOk (clientTrace c s.log)
            { remoteTrace r s.log with connected := true } x
            { y.frameDone with state := .connected, events := e } :=
          hst.connect (hacc _ _ hx) hconn rfl rfl rfl
        exact ⟨hst'.phase, hst'.early, fun _ => rfl, hst'.input, hst'.output, hst'.request,
          fun _ => ⟨_, hdr, payload, hpkt, rfl⟩, fun hc => (nomatch hc)⟩
  | addListener _ hacts =>
      refine h.of_pairs rfl (fun c r st ha => by cases (hacts.act_remote _ ha).2) ?_
      intro c r x y ho hx hy
      have hr := (ho.old hlog).2
      rw [Core.remotes_emit] at hy
      rcases Core.remotes_addRemote_cases hy with ⟨heq, _⟩ | hy
      · exact absurd heq hr
      · refine ⟨x, y, hx, hy, fun hst => ?_⟩
        rw [ClientTrace.foldl_of_foreign, RemoteTrace.foldl_of_foreign]
        · exact hst
        · exact fun a ha hact =>
            hr (Option.some.inj (hact.symm.trans (hacts.act_remote a ha).1))
        · exact fun a ha hact => by cases (hacts.act_remote a ha).2.symm.trans hact
  | closeClient =>
      refine h.sub Core.log_closeClient fun c r x y _ hx hy => ?_
      rw [Core.clients_closeClient] at hx
      rw [Core.remotes_closeClient] at hy
      split at hx
      · cases hx
      · split at hy
        · cases hy
        · exact ⟨hx, hy⟩
  | closeRemote =>
      refine h.sub rfl fun c r x y _ hx hy => ⟨hx, ?_⟩
      rw [Core.remotes_dropRemote] at hy
      split at hy
      · cases hy
      · exact hy
  | dispose =>
      refine h.sub Core.log_dispose fun c r x y _ hx hy => ?_
      rw [Core.clients_dispose] at hx
      rw [Core.remotes_dispose] at hy
      split at hx
      · cases hx
      · split at hy
        · cases hy
        · exact ⟨hx, hy⟩
  | killId =>
      intro c r x y' ho hx hy'
      rw [Core.remotes_killId] at hy'
      obtain ⟨y, hy, rfl⟩ := Option.map_eq_some_iff.mp hy'
      have hst := h c r x y ho hx hy
      show Stream _ (clientTrace c s.log) (remoteTrace r s.log) x _
      rw [RemoteMux.killed]
      split
      · exact ⟨Or.inr (Or.inr rfl), hst.early, hst.linked, hst.input, hst.output, hst.request,
          hst.result, hst.flushed⟩
      · exact hst
  | deviceSet _ hn | deviceErase _ hn =>
      intro c r x y ho hx hy
      exact h.announces hn.announces c r x y ho hx hy
  | @listen c x _ hx hstate hn =>
      have hfirst : Streams A.lossOk
          ((s.setClient c { x with state := .listen }).emit [.listen c]) := by
        refine h.client hx (fun a ha => ?_) fun r y _ _ hs => ?_
        · cases List.mem_singleton.mp ha
          exact ⟨rfl, rfl⟩
        · refine hs.of_before rfl rfl rfl ?_
          rintro (hc | hc) <;> cases hc
      exact hfirst.announces hn.announces

theorem Streams.initial {lossOk : Prop} (h : Initial s) : Streams lossOk s := by
  intro c r x y _ hx
  cases h with
  | empty | listener => cases hx

/-- The accounts hold in every reachable state. -/
theorem reachable_streams {plat : Platform} {C : Daemon → Event → Prop} {t : Daemon}
    (hallow : ∀ s e, C s e → Allows A plat s e) (h : ReachableBy plat C t) :
    LogOk t.toCore ∧ Accounts t.toCore ∧ Streams A.lossOk t.toCore := by
  refine (reachable_inv (A := A) (P := fun s => LogOk s ∧ Accounts s ∧ Streams A.lossOk s)
    (fun h => ⟨.initial h, .initial h, .initial h⟩) (fun _ _ he => hallow _ _ he) ?_ h).2
  rintro s s' hwf hm ⟨hlog, hacc, hst⟩
  exact ⟨hlog.move hwf hm, hacc.move hlog hm, hst.move hlog hacc hm⟩

end Streams

/-- A connect request is accepted, and bytes go both ways in parts. -/
def relayRun : List Event :=
  .accept (some 5) :: (clientSends 5 { connect := some 10 } (connectFrame 7 3 80) ++
    .remote 10 { pollout := true } { send := some 300 } :: (remoteSends 10 (resultFrame 0) ++
    [.client 5 { pollout := true } { send := some 100 },
     .remote 10 { pollin := true } { recv := some [9, 8, 7] },
     .client 5 { pollin := true } { recv := some [1, 2, 3] },
     .client 5 { pollout := true } { send := some 2 },
     .remote 10 { pollout := true } { send := some 300 }]))

end Usbfluxd
