import Usbfluxd.Proofs.Reassembly
import Usbfluxd.Proofs.Relay

/-!
# Replies that are passed on

A `ReadBUID` or pair-record request opens a remote of its own, and what comes
back there goes to the client unread. Which bytes were passed on for a remote
is read off the log: `send_pkt_raw` is called for nothing else, and the frame
that is being handled was logged right before (`passing`).

Three things are kept over a run. The remote stays in `REMOTE_COMMAND`, and if
it waits for a reply then for one to its client (`Requested`), which is a
statement about moves. It waits exactly while no frame was handled, provided
the request went out (`Awaits`): an event that does not read from it leaves
`last_command` alone, which for a client's event is what the moves of
`Allow.sparing` can do, and for an event on some other remote needs a look at
the functions themselves. And a frame that is handled is passed on or dropped
as a whole (`FramePassed`). With the frames cut out of the stream as in
`remote_reassembly`, what was passed on is the first of them.
-/

namespace Usbfluxd

open Lib

/-! ## What is passed on -/

/-- Whose frame was handled last, and the bytes passed on for one remote. -/
structure Passing where
  handled : Option RemotePtr := none
  bytes : List UInt8 := []

def Passing.act (c : ClientPtr) (r : RemotePtr) (t : Passing) : Act → Passing
  | .frame r' _ => { t with handled := some r' }
  | .queueRaw c' bs =>
      if t.handled = some r ∧ c' = c then { t with bytes := t.bytes ++ bs } else t
  | _ => t

/-- What `send_pkt_raw` appended to the output buffer of a client while frames
of a remote were handled. -/
def passing (c : ClientPtr) (r : RemotePtr) (log : List Act) : Passing :=
  log.foldl (Passing.act c r) {}

/-- A frame as it is passed on: unchanged if its version is known, else not at
all. -/
def passedFrame (f : List UInt8) : List UInt8 :=
  if (frameHeader f).version = 0 ∨ (frameHeader f).version = 1 then f else []

/-- What a stream of frames amounts to for the client. -/
def firstReply : List (List UInt8) → List UInt8
  | [] => []
  | f :: _ => passedFrame f

/-- The packets queued on a remote for the other side. -/
def requests (r : RemotePtr) (log : List Act) : List (Header × Payload) :=
  (remoteTrace r log).requests

/-- Acts that pass nothing on, open nothing and ask for nothing. -/
def Act.isPlain : Act → Bool
  | .queueRaw .. | .openRemote .. | .remoteQueue .. => false
  | _ => true

section Acts

variable {c : ClientPtr} {r : RemotePtr} {log acts : List Act} {f : List UInt8} {a : Act}

theorem firstReply_append {fs : List (List UInt8)} :
    firstReply (fs ++ [f]) = if fs = [] then passedFrame f else firstReply fs := by
  cases fs with
  | nil => rfl
  | cons g fs => rfl

theorem passing_append :
    passing c r (log ++ acts) = acts.foldl (Passing.act c r) (passing c r log) :=
  List.foldl_append

theorem RemoteTrace.requests_act {t : RemoteTrace}
    (ha : ∀ hdr payload, a ≠ .remoteQueue r hdr payload) :
    (t.act r a).requests = t.requests := by
  cases a with
  | remoteQueue r' hdr payload =>
      have hne : r' ≠ r := fun heq => ha hdr payload (by rw [heq])
      rw [RemoteTrace.act, if_neg hne]
  | remoteSend r' | remoteConnected r' | remoteRecv r' | relayRecv r' =>
      rw [RemoteTrace.act]
      split <;> rfl
  | _ => rfl

theorem requests_append (h : ∀ a ∈ acts, ∀ hdr payload, a ≠ .remoteQueue r hdr payload) :
    requests r (log ++ acts) = requests r log := by
  rw [requests, requests, remoteTrace_append]
  exact foldl_keeps fun a ha t => RemoteTrace.requests_act (h a ha)

theorem Passing.bytes_act {t : Passing} (ha : ∀ bs, a ≠ .queueRaw c bs) :
    (t.act c r a).bytes = t.bytes := by
  cases a with
  | queueRaw c' bs =>
      have hne : c' ≠ c := fun heq => ha bs (by rw [heq])
      rw [Passing.act, if_neg fun hc => hne hc.2]
  | _ => rfl

theorem passing_bytes_append (h : ∀ a ∈ acts, ∀ bs, a ≠ .queueRaw c bs) :
    (passing c r (log ++ acts)).bytes = (passing c r log).bytes := by
  rw [passing_append]
  exact foldl_keeps fun a ha t => Passing.bytes_act (h a ha)

/-- Packets queued for the client itself are no replies that are passed on. -/
theorem ClientStep.plain {x x' : MuxClient} (h : ClientStep c x acts x') :
    ∀ a ∈ acts, a.isPlain = true := by
  intro a ha
  cases h with
  | queue | command | send | connected =>
      cases List.mem_singleton.mp ha
      rfl
  | recv =>
      rw [mem_recvActs ha]
      rfl
  | inputDone | proto | info | events => cases ha
  | notifyFail => rcases List.mem_pair.mp ha with rfl | rfl <;> rfl

theorem RemoteStep.plain {y y' : RemoteMux} (h : RemoteStep r y acts y') :
    ∀ a ∈ acts, a.isPlain = true := by
  intro a ha
  cases h with
  | relayRecv | frame | send | connected | connected2 =>
      cases List.mem_singleton.mp ha
      rfl
  | recv =>
      rw [mem_recvActs ha]
      rfl
  | inputDone | input | events | active | clearCommand | listen => cases ha

theorem Announces.plain {s s' : Core} (h : Announces s s') :
    ∃ acts, s'.log = s.log ++ acts ∧ ∀ a ∈ acts, a.isPlain = true := by
  refine invariant_of_step (R := Announce) (P := fun t => ∃ acts, t.log = s.log ++ acts ∧
    ∀ a ∈ acts, a.isPlain = true) ?_ h ⟨[], (List.append_nil _).symm, fun a ha => nomatch ha⟩
  rintro t t' ⟨c, x, hdr, payload, _, _, _, ob, _, rfl⟩ ⟨acts, hlog, hacts⟩
  refine ⟨acts ++ [.queue c hdr payload], ?_, fun a ha => ?_⟩
  · show t.log ++ [.queue c hdr payload] = _
    rw [hlog, List.append_assoc]
  · rcases List.mem_append.mp ha with ha | ha
    · exact hacts a ha
    · cases List.mem_singleton.mp ha
      rfl

end Acts

/-! ## Remotes of requests -/

/-- A remote that was opened for a request of the client stays in
`REMOTE_COMMAND` until it is dead, and the reply it waits for is one to the
client. -/
def Requested (c : ClientPtr) (r : RemotePtr) (s : Core) : Prop :=
  .openRemote c r .command ∈ s.log → ∀ y, s.remotes r = some y →
    (y.state = .command ∨ y.state = .dead) ∧
      ∀ cmd, y.lastCommand = some cmd → cmd ≠ .listen ∧ y.client = some c

section Requested

variable {A : Allow} {c : ClientPtr} {r : RemotePtr} {s s' : Core}

theorem RemoteMux.Evolves.requested {y y' : RemoteMux} (he : y.Evolves y')
    (h : (y.state = .command ∨ y.state = .dead) ∧
      ∀ cmd, y.lastCommand = some cmd → cmd ≠ .listen ∧ y.client = some c) :
    (y'.state = .command ∨ y'.state = .dead) ∧
      ∀ cmd, y'.lastCommand = some cmd → cmd ≠ .listen ∧ y'.client = some c := by
  constructor
  · rcases he.state with heq | hdead | ⟨_, hlisten, _⟩ | ⟨hconn, _⟩
    · rw [heq]
      exact h.1
    · exact Or.inr hdead
    · exact absurd rfl (h.2 _ hlisten).1
    · rcases h.1 with hst | hst <;> rw [hst] at hconn <;> simp at hconn
  · intro cmd hcmd
    rw [he.client]
    refine h.2 cmd ?_
    rcases he.lastCommand with heq | hnone
    · rw [← heq, hcmd]
    · cases hnone.symm.trans hcmd

/-- The new remote of a request. -/
theorem Move.requested_new (hlog : LogOk s) (hm : Move A s s')
    (hopen : .openRemote c ⟨s.nextRemote⟩ .command ∈ s'.log) :
    ∃ y, s'.remotes ⟨s.nextRemote⟩ = some y ∧ RequestRemote A.lossOk c y := by
  have hnot : ∀ {acts : List Act}, s'.log = s.log ++ acts →
      .openRemote c ⟨s.nextRemote⟩ .command ∈ acts := by
    intro acts heq
    rw [heq] at hopen
    refine (List.mem_append.mp hopen).resolve_left fun hmem => ?_
    exact absurd (hlog.remote hmem rfl) (Nat.lt_irrefl _)
  have hsame : s'.log ≠ s.log := by
    intro heq
    have hnil : s'.log = s.log ++ [] := by rw [heq, List.append_nil]
    cases hnot hnil
  have hplain : ∀ {acts : List Act}, s'.log = s.log ++ acts →
      ¬ ∀ a ∈ acts, a.isPlain = true := fun heq h => by cases h _ (hnot heq)
  cases hm with
  | client _ hstep => exact absurd hstep.plain (hplain rfl)
  | remote _ hstep => exact absurd hstep.plain (hplain rfl)
  | forward | relayRead | relayWrite => cases List.mem_singleton.mp (hnot rfl)
  | accept | closeRemote | killId => exact absurd rfl hsame
  | connect _ _ _ _ _ hacts =>
      rcases List.mem_cons.mp (hnot rfl) with ha | ha
      · cases ha
      · cases (hacts.act_remote _ ha).2
  | request _ _ _ _ hkind hacts =>
      rcases List.mem_cons.mp (hnot rfl) with ha | ha
      · cases ha
        exact ⟨_, Core.remotes_addRemote.trans (if_pos rfl), hkind⟩
      · cases (hacts.act_remote _ ha).2
  | notifyOk =>
      have ha := hnot rfl
      simp at ha
  | addListener _ hacts => cases (hacts.act_remote _ (hnot rfl)).2
  | closeClient => exact absurd Core.log_closeClient hsame
  | dispose => exact absurd Core.log_dispose hsame
  | deviceSet _ hn | deviceErase _ hn =>
      obtain ⟨acts, hl, hpl⟩ := hn.announces.plain
      exact absurd hpl (hplain hl)
  | @listen c' _ _ _ _ hn =>
      obtain ⟨acts, hl, hpl⟩ := hn.announces.plain
      have hmem := hnot (hl.trans (List.append_assoc ..))
      rcases List.mem_cons.mp hmem with ha | ha
      · cases ha
      · cases hpl _ ha

theorem Requested.move (hlog : LogOk s) (hm : Move A s s') (h : Requested c r s) :
    Requested c r s' := by
  intro hopen y' hy'
  by_cases hnew : r = ⟨s.nextRemote⟩
  · subst hnew
    obtain ⟨y, hy, hstate, _, hwaits⟩ := hm.requested_new hlog hopen
    cases hy.symm.trans hy'
    refine ⟨Or.inl hstate, fun cmd hcmd => ?_⟩
    rcases hwaits with ⟨hclient, cmd', hne, hcmd'⟩ | ⟨_, _, hnone⟩
    · cases hcmd'.symm.trans hcmd
      exact ⟨hne, hclient⟩
    · cases hnone.symm.trans hcmd
  · obtain ⟨acts, he⟩ := hm.emits
    obtain ⟨y, hy, hev⟩ := hm.remote_before hnew hy'
    refine hev.requested (h ?_ y hy)
    rw [he.log] at hopen
    exact (List.mem_append.mp hopen).resolve_right fun ha => hnew (he.opened ha)

theorem Requested.initial (h : Initial s) : Requested c r s := by
  intro hopen
  cases h with
  | empty => cases hopen
  | listener _ hacts => cases (hacts.act_remote _ hopen).2

/-- So it is in every run. -/
theorem reachable_requested {plat : Platform} {s : Daemon} (h : Reachable plat s) :
    Requested c r s.toCore :=
  (reachable_inv (A := .all) (P := fun s => LogOk s ∧ Requested c r s)
    (fun hi => ⟨.initial hi, .initial hi⟩) (fun _ _ _ => allows_all)
    (fun hwf hm hP => ⟨hP.1.move hwf hm, hP.2.move hP.1 hm⟩) h).2.2

end Requested

/-! ## Waiting for a reply -/

/-- What was passed on for a remote so far, if a request went out, and when it
waits if it was opened for a request of the client: if the request went out
and `pending` says that no frame has come. -/
structure Awaits (c : ClientPtr) (r : RemotePtr) (pending : Prop) (bytes : List UInt8)
    (s : Core) : Prop where
  passed : (passing c r s.log).bytes = if requests r s.log = [] then [] else bytes
  waits : .openRemote c r .command ∈ s.log → ∀ y, s.remotes r = some y →
    (y.lastCommand ≠ none ↔ pending ∧ requests r s.log ≠ [])

section Awaits

variable {A : Allow} {c : ClientPtr} {r : RemotePtr} {pending : Prop} {bytes : List UInt8}
  {s s' : Core} {acts : List Act}

/-- Plain acts, and a remote that is gone or waits for what it waited for. -/
theorem Awaits.plain (h : Awaits c r pending bytes s) (hlog : s'.log = s.log ++ acts)
    (hplain : ∀ a ∈ acts, a.isPlain = true) (hrem : ∀ y', s'.remotes r = some y' →
      ∃ y, s.remotes r = some y ∧ y'.lastCommand = y.lastCommand) :
    Awaits c r pending bytes s' := by
  have hreq : requests r s'.log = requests r s.log := by
    rw [hlog]
    refine requests_append fun a ha hdr payload heq => ?_
    rw [heq] at ha
    cases hplain _ ha
  refine ⟨?_, fun hopen y' hy' => ?_⟩
  · rw [hreq, hlog, passing_bytes_append fun a ha bs heq => ?_]
    · exact h.passed
    · rw [heq] at ha
      cases hplain _ ha
  · obtain ⟨y, hy, hlast⟩ := hrem y' hy'
    rw [hlast, hreq]
    refine h.waits ?_ y hy
    rw [hlog] at hopen
    refine (List.mem_append.mp hopen).resolve_right fun ha => ?_
    cases hplain _ ha

theorem Awaits.silent (h : Awaits c r pending bytes s) (hlog : s'.log = s.log)
    (hrem : ∀ y', s'.remotes r = some y' →
      ∃ y, s.remotes r = some y ∧ y'.lastCommand = y.lastCommand) :
    Awaits c r pending bytes s' := by
  have hnil : s'.log = s.log ++ [] := by rw [hlog, List.append_nil]
  exact h.plain hnil (fun _ ha => nomatch ha) hrem

/-- One remote changes. -/
theorem Awaits.setRemote {r' : RemotePtr} {y y' : RemoteMux} (h : Awaits c r pending bytes s)
    (hlog : s'.log = s.log ++ acts) (hplain : ∀ a ∈ acts, a.isPlain = true)
    (hy : s.remotes r' = some y) (hrem : s'.remotes = (s.setRemote r' y').remotes)
    (hlast : r' = r → y'.lastCommand = y.lastCommand) : Awaits c r pending bytes s' := by
  refine h.plain hlog hplain fun z hz => ?_
  rw [hrem, Core.remotes_setRemote] at hz
  split at hz
  · next heq =>
      subst heq
      cases hz
      exact ⟨y, hy, hlast rfl⟩
  · exact ⟨z, hz, rfl⟩

/-- The acts of a new remote, and what they ask for. -/
theorem FirstPacket.opening {lossOk : Prop} {P : Payload → Prop} {y : RemoteMux}
    {c' : ClientPtr} {state : RemoteState} (h : FirstPacket lossOk r P y acts) :
    (∀ a ∈ Act.openRemote c' r state :: acts, a.remote = some r) ∧
      (requests r (.openRemote c' r state :: acts) ≠ [] ↔ acts ≠ []) := by
  refine ⟨fun a ha => ?_, ?_⟩
  · rcases List.mem_cons.mp ha with rfl | ha
    · rfl
    · exact (h.act_remote a ha).1
  · rcases h with ⟨_, rfl, _⟩ | ⟨hdr, payload, _, rfl, _⟩
    · exact iff_of_false (fun hne => hne rfl) fun hne => hne rfl
    · refine iff_of_true ?_ (List.cons_ne_nil _ _)
      rw [requests, remoteTrace]
      simp [RemoteTrace.act]

/-- One remote changes and nothing is logged. -/
theorem Awaits.setSilent {r' : RemotePtr} {y y' : RemoteMux} (h : Awaits c r pending bytes s)
    (hy : s.remotes r' = some y) (hlast : r' = r → y'.lastCommand = y.lastCommand) :
    Awaits c r pending bytes (s.setRemote r' y') := by
  have hnil : (s.setRemote r' y').log = s.log ++ [] := (List.append_nil _).symm
  exact h.setRemote hnil (fun _ ha => nomatch ha) hy rfl hlast

/-- Nothing was passed on for a remote that is only now added. -/
theorem Awaits.passed_add (h : Awaits c r pending bytes s)
    (hnew : r = ⟨s.nextRemote⟩ → pending ∧ bytes = []) (hacts : s'.log = s.log ++ acts)
    (hother : ∀ a ∈ acts, a.remote = some ⟨s.nextRemote⟩) :
    (passing c r s'.log).bytes = if requests r s'.log = [] then [] else bytes := by
  rw [hacts, passing_bytes_append fun a ha bs heq => ?_, h.passed]
  · by_cases hr : r = ⟨s.nextRemote⟩
    · rw [(hnew hr).2, ite_self, ite_self]
    · rw [requests_append fun a ha hdr payload heq => hr ?_]
      rw [heq] at ha
      exact Option.some.inj (hother _ ha)
  · rw [heq] at ha
    cases hother _ ha

/-- A remote is added, though not the one in question for a request of the
client. -/
theorem Awaits.addOther {y : RemoteMux} (h : Awaits c r pending bytes s) (hlog : LogOk s)
    (hnew : r = ⟨s.nextRemote⟩ → pending ∧ bytes = []) (hacts : s'.log = s.log ++ acts)
    (hrem : s'.remotes = (s.addRemote y).remotes)
    (hopen : .openRemote c r .command ∉ acts)
    (hother : ∀ a ∈ acts, a.remote = some ⟨s.nextRemote⟩) : Awaits c r pending bytes s' := by
  refine ⟨h.passed_add hnew hacts hother, fun hmem y' hy' => ?_⟩
  have hold : .openRemote c r .command ∈ s.log := by
    rw [hacts] at hmem
    exact (List.mem_append.mp hmem).resolve_right hopen
  have hne : r ≠ ⟨s.nextRemote⟩ := by
    rintro rfl
    exact absurd (hlog.remote hold rfl) (Nat.lt_irrefl _)
  have hreq : requests r s'.log = requests r s.log := by
    rw [hacts]
    refine requests_append fun a ha hdr payload heq => hne ?_
    rw [heq] at ha
    exact Option.some.inj (hother _ ha)
  rw [hrem, Core.remotes_addRemote, if_neg hne] at hy'
  rw [hreq]
  exact h.waits hold y' hy'

/-- The remote is opened, and waits if a request was queued on it. -/
theorem Awaits.opened {y : RemoteMux} (h : Awaits c ⟨s.nextRemote⟩ pending bytes s)
    (hlog : LogOk s) (hnew : pending ∧ bytes = []) (hacts : s'.log = s.log ++ acts)
    (hrem : s'.remotes = (s.addRemote y).remotes)
    (hother : ∀ a ∈ acts, a.remote = some ⟨s.nextRemote⟩)
    (hqueued : y.lastCommand ≠ none ↔ requests ⟨s.nextRemote⟩ acts ≠ []) :
    Awaits c ⟨s.nextRemote⟩ pending bytes s' := by
  refine ⟨h.passed_add (fun _ => hnew) hacts hother, fun _ y' hy' => ?_⟩
  rw [hrem, Core.remotes_addRemote, if_pos rfl] at hy'
  cases hy'
  have hreq : requests ⟨s.nextRemote⟩ s'.log = requests ⟨s.nextRemote⟩ acts := by
    rw [hacts, requests, remoteTrace_append, hlog.remoteTrace_new (Nat.le_refl _)]
    rfl
  rw [hqueued, hreq, and_iff_right hnew.1]

/-- No remote's own event is handled, and nothing is passed on. -/
structure Allow.Spares (A : Allow) : Prop where
  remote : ¬ A.remoteOk
  forward : ∀ state, ¬ A.forwardOk state

/-- Such moves leave alone what a remote waits for. -/
theorem Awaits.move (hA : A.Spares) (hlog : LogOk s)
    (hnew : r = ⟨s.nextRemote⟩ → pending ∧ bytes = []) (hm : Move A s s')
    (h : Awaits c r pending bytes s) : Awaits c r pending bytes s' := by
  have hsub : s'.log = s.log → (∀ y, s'.remotes r = some y → s.remotes r = some y) →
      Awaits c r pending bytes s' := fun hl hr => h.silent hl fun y hy => ⟨y, hr y hy, rfl⟩
  have hsame : s'.remotes = s.remotes → ∀ y, s'.remotes r = some y →
      ∃ y₀, s.remotes r = some y₀ ∧ y.lastCommand = y₀.lastCommand := by
    intro heq y hy
    rw [heq] at hy
    exact ⟨y, hy, rfl⟩
  cases hm with
  | client _ hstep => exact h.plain rfl hstep.plain (hsame rfl)
  | remote hy hstep hok =>
      exact h.setRemote rfl hstep.plain hy rfl fun _ => (hok.resolve_right hA.remote).lastCommand
  | forward _ _ _ _ _ _ _ hok => exact absurd hok (hA.forward _)
  | relayRead _ _ _ hy | relayWrite _ _ _ hy =>
      refine h.setRemote rfl (fun a ha => ?_) hy rfl fun _ => rfl
      cases List.mem_singleton.mp ha
      rfl
  | accept => exact hsub rfl fun y hy => hy
  | connect _ _ _ _ _ hacts =>
      refine h.addOther hlog hnew rfl rfl (fun ha => ?_) hacts.opening.1
      rcases List.mem_cons.mp ha with ha | ha
      · cases ha
      · cases (hacts.act_remote _ ha).2
  | request _ _ _ _ _ hacts _ _ hqueued =>
      by_cases hr : r = ⟨s.nextRemote⟩
      · subst hr
        refine h.opened hlog (hnew rfl) rfl rfl hacts.opening.1 ?_
        rw [hacts.opening.2]
        exact not_congr hqueued
      · refine h.addOther hlog hnew rfl rfl (fun ha => hr ?_) hacts.opening.1
        exact Option.some.inj (hacts.opening.1 _ ha)
  | notifyOk _ _ _ _ _ _ _ _ hok => exact absurd hok hA.remote
  | addListener _ hacts =>
      refine h.addOther hlog hnew rfl rfl (fun ha => ?_) fun a ha => (hacts.act_remote a ha).1
      cases (hacts.act_remote _ ha).2
  | closeClient =>
      exact hsub Core.log_closeClient fun y hy => Leaves.closeClient.remote hy
  | closeRemote => exact hsub rfl fun y hy => Leaves.dropRemote.remote hy
  | dispose => exact hsub Core.log_dispose fun y hy => Leaves.dispose.remote hy
  | killId =>
      refine h.silent rfl fun y' hy' => ?_
      rw [Core.remotes_killId] at hy'
      obtain ⟨y, hy, rfl⟩ := Option.map_eq_some_iff.mp hy'
      refine ⟨y, hy, ?_⟩
      rw [RemoteMux.killed]
      split <;> rfl
  | deviceSet _ hn | deviceErase _ hn =>
      obtain ⟨acts, hl, hplain⟩ := hn.announces.plain
      exact h.plain hl hplain (hsame hn.announces.same.remotes)
  | @listen c' _ _ _ _ hn =>
      obtain ⟨acts, hl, hplain⟩ := hn.announces.plain
      have hl' : _ = s.log ++ (.listen c' :: acts) := hl.trans (List.append_assoc ..)
      refine h.plain hl' (fun a ha => ?_) (hsame hn.announces.same.remotes)
      rcases List.mem_cons.mp ha with rfl | ha
      · rfl
      · exact hplain a ha

end Awaits

/-! ## Events that leave the remote alone -/

/-- Nothing else is forbidden. -/
def Allow.sparing : Allow := { Allow.all with forwardOk := fun _ => False, remoteOk := False }

theorem Allow.sparing_spares : Allow.sparing.Spares := ⟨id, fun _ => id⟩

/-- What the lemmas below take along. -/
structure AwaitsIn (c : ClientPtr) (r : RemotePtr) (pending : Prop) (bytes : List UInt8)
    (s : Core) : Prop where
  wf : WF s
  log : LogOk s
  fresh : s.nextRemote ≤ r.block → pending ∧ bytes = []
  awaits : Awaits c r pending bytes s

section Leaves

variable {c : ClientPtr} {r r' : RemotePtr} {pending : Prop} {bytes : List UInt8}
  {plat : Platform} {sys : Sys} {s : Daemon} {s₀ t : Core} {y : RemoteMux}

theorem AwaitsIn.run (h : AwaitsIn c r pending bytes s₀) (hm : Moves .sparing s₀ t) :
    AwaitsIn c r pending bytes t := by
  refine invariant_of_step (R := Move .sparing) (P := AwaitsIn c r pending bytes) ?_ hm h
  intro u u' hmove hu
  refine ⟨hu.wf.move hmove, hu.log.move hu.wf hmove, fun hnew => hu.fresh ?_, ?_⟩
  · exact Nat.le_trans hmove.shape.next_le.2 hnew
  · exact hu.awaits.move Allow.sparing_spares hu.log (fun hr => hu.fresh (by rw [hr])) hmove

theorem AwaitsIn.moves (h : AwaitsIn c r pending bytes s₀) (hm : Moves .sparing s₀ t) :
    Awaits c r pending bytes t :=
  (h.run hm).awaits

theorem clientOrEvents_awaits {events : PollEvents} {c' : ClientPtr}
    (h : Awaits c r pending bytes s.toCore) :
    Runs .sparing s₀ (fun s' => Awaits c r pending bytes s'.toCore)
      (clientOrEvents s c' events) := by
  refine client_runs.bind fun x hx => Runs.ite (fun _ => h) fun _ => ?_
  refine modifyClient_runs.imp ?_
  rintro s₁ ⟨x', hx', rfl⟩
  exact h.silent rfl fun y hy => ⟨y, hy, rfl⟩

theorem usbmuxRemoteClose_awaits (h : AwaitsIn c r pending bytes s.toCore) :
    Runs .sparing s.toCore (fun s' => Awaits c r pending bytes s'.toCore)
      (usbmuxRemoteClose s r') :=
  (usbmuxRemoteClose_runs (fun _ _ _ => trivial) fun _ _ _ => trivial).imp fun _ hm => h.moves hm

theorem remoteProcessSend_awaits (h : AwaitsIn c r pending bytes s.toCore) :
    Runs .sparing s.toCore (fun s' => Awaits c r pending bytes s'.toCore)
      (remoteProcessSend sys s r') := by
  refine remote_runs.bind fun y hy => ?_
  refine Runs.ite (fun _ => ?_) fun _ => ?_
  · refine modifyRemote_runs.imp ?_
    rintro s₁ ⟨y', hy', rfl⟩
    exact h.awaits.setSilent hy' fun _ => rfl
  split
  · exact usbmuxRemoteClose_awaits h
  · next n hn =>
      have hplain : ∀ a ∈ [Act.remoteSend r' (y.ob.data.take n)], a.isPlain = true := by
        simp [Act.isPlain]
      dsimp only
      refine Runs.ite (fun _ => ?_) fun _ => Runs.ite (fun _ => ?_) fun _ => ?_
      · refine modifyRemote_runs.imp ?_
        rintro s₁ ⟨y', hy', rfl⟩
        exact h.awaits.setRemote rfl hplain hy' rfl fun _ => rfl
      · refine modifyRemote_runs.imp ?_
        rintro s₁ ⟨y', hy', rfl⟩
        exact h.awaits.setRemote rfl hplain hy' rfl fun _ => rfl
      · refine modifyRemote_runs.bind ?_
        rintro s₁ ⟨y', hy', rfl⟩
        have hlog : (s.log ++ [.remoteSend r' (y.ob.data.take n)]) ++ [.remoteConnected r'] =
            s.log ++ [.remoteSend r' (y.ob.data.take n), .remoteConnected r'] :=
          List.append_assoc ..
        exact h.awaits.setRemote hlog (by simp [Act.isPlain]) hy' rfl fun _ => rfl

theorem remoteConnectedProcess_awaits {events : PollEvents}
    (h : AwaitsIn c r pending bytes s.toCore) (hy : s.remotes r' = some y)
    (hstate : y.state = .connected) :
    Runs .sparing s.toCore (fun s' => Awaits c r pending bytes s'.toCore)
      (remoteConnectedProcess sys s r' y events) := by
  refine Runs.ite (fun _ => ?_) fun _ => Runs.ite (fun _ => ?_) fun _ => ?_
  · refine (remoteRelayRecv_moves (fun _ _ _ => trivial) hy hstate trivial).imp ?_
    exact fun _ hm => h.moves hm
  · refine (remoteProcessSend_awaits h).bind fun s₁ h₁ => ?_
    exact remote_runs.bind fun y₁ _ => remoteClient_runs.bind fun _ _ => clientOrEvents_awaits h₁
  · exact usbmuxRemoteClose_awaits h

/-- Bytes are passed on while a frame of another remote is handled. -/
theorem Awaits.passedOther {bs : List UInt8} {c' : ClientPtr} (h : Awaits c r pending bytes s₀)
    (hother : (passing c r s₀.log).handled ≠ some r) (hlog : t.log = s₀.log ++ [.queueRaw c' bs])
    (hrem : t.remotes = s₀.remotes) :
    Awaits c r pending bytes t ∧ (passing c r t.log).handled ≠ some r := by
  have hsame : passing c r t.log = passing c r s₀.log := by
    rw [hlog, passing_append]
    exact if_neg fun hc => hother hc.1
  have hreq : requests r t.log = requests r s₀.log := by
    rw [hlog]
    refine requests_append fun _ ha hdr payload heq => ?_
    cases (List.mem_singleton.mp ha).symm.trans heq
  refine ⟨⟨?_, fun hopen y hy => ?_⟩, ?_⟩
  · rw [hsame, hreq]
    exact h.passed
  · rw [hrem] at hy
    rw [hreq]
    refine h.waits ?_ y hy
    rw [hlog] at hopen
    refine (List.mem_append.mp hopen).resolve_right fun ha => ?_
    cases List.mem_singleton.mp ha
  · rw [hsame]
    exact hother

theorem sendPktRaw_awaits {bs : List UInt8} {c' : ClientPtr} (h : Awaits c r pending bytes s.toCore)
    (hother : (passing c r s.log).handled ≠ some r) :
    Runs .sparing s₀ (fun res => (Awaits c r pending bytes res.2.toCore ∧
      (passing c r res.2.log).handled ≠ some r) ∧ res.2.remotes = s.remotes)
      (sendPktRaw sys s c' bs) := by
  refine sendPktRaw_runs.imp ?_
  rintro res (heq | ⟨x, ob, _, _, heq⟩)
  · rw [heq]
    exact ⟨⟨h, hother⟩, rfl⟩
  · rw [heq]
    exact ⟨h.passedOther hother rfl rfl, rfl⟩

theorem clientSendPacketData_awaits {hdr payload : List UInt8} {c' : ClientPtr}
    (h : Awaits c r pending bytes s.toCore) (hother : (passing c r s.log).handled ≠ some r) :
    Runs .sparing s₀ (fun res => Awaits c r pending bytes res.2.toCore ∧ res.2.remotes = s.remotes)
      (clientSendPacketData sys s c' hdr payload) := by
  refine (sendPktRaw_awaits h hother).bind ?_
  rintro ⟨res, s₁⟩ ⟨⟨h₁, hother₁⟩, hrem⟩
  refine Runs.ite (fun _ => ?_) fun _ => ⟨h₁, hrem⟩
  refine (sendPktRaw_awaits h₁ hother₁).imp ?_
  rintro res' ⟨⟨h₂, _⟩, hrem₂⟩
  exact ⟨h₂, hrem₂.trans hrem⟩

theorem handleCommandState_awaits {p : Option Plist} (hne : r' ≠ r)
    (h : Awaits c r pending bytes s.toCore) (hother : (passing c r s.log).handled ≠ some r) :
    Runs .sparing s₀ (fun s' => Awaits c r pending bytes s'.toCore)
      (handleCommandState plat sys s r' y p) := by
  have hreply : Runs .sparing s₀ (fun s' => Awaits c r pending bytes s'.toCore)
      (commandReply plat sys s r' y p) := by
    rw [commandReply]
    split
    · refine Runs.ite (fun _ => ?_) fun _ => h
      refine modifyRemote_runs.imp ?_
      rintro s₁ ⟨z, hz, rfl⟩
      exact h.setSilent hz fun heq => absurd heq hne
    · refine remoteClient_runs.bind fun c' _ => ?_
      exact (clientSendPacketData_awaits h hother).bind fun _ h₁ => h₁.1
    · exact h
  refine hreply.bind fun s₁ h₁ => ?_
  refine modifyRemote_runs.imp ?_
  rintro s₂ ⟨z, hz, rfl⟩
  exact h₁.setSilent hz fun heq => absurd heq hne

theorem handleConnectingState_awaits {p : Option Plist} (hne : r' ≠ r)
    (h : Awaits c r pending bytes s.toCore) :
    Runs .sparing s₀ (fun s' => Awaits c r pending bytes s'.toCore)
      (handleConnectingState plat sys s r' y p) := by
  refine remoteClient_runs.bind fun c' _ => ?_
  refine clientNotifyConnect_runs.bind ?_
  rintro ⟨res, s₁⟩ hnotify
  have h₁ : Awaits c r pending bytes s₁.toCore := by
    rcases hnotify with heq | ⟨x, hdr, payload, ob, _, _, _, _, heq⟩
    · rw [show s₁.toCore = _ from heq]
      exact h
    · rw [show s₁.toCore = _ from heq]
      exact h.plain rfl (by simp [Act.isPlain]) fun z hz => ⟨z, hz, rfl⟩
  refine Runs.ite (fun _ => ?_) fun _ => h₁
  refine modifyRemote_runs.bind ?_
  rintro s₂ ⟨z, hz, rfl⟩
  exact h₁.setRemote rfl (by simp [Act.isPlain]) hz rfl fun heq => absurd heq hne

/-- The log before a frame of another remote is handled. -/
theorem AwaitsIn.frame {f : List UInt8} (h : AwaitsIn c r pending bytes s₀)
    (hy : s₀.remotes r' = some y) :
    Move .sparing s₀ (s₀.emit [.frame r' f]) ∧
      AwaitsIn c r pending bytes (s₀.emit [.frame r' f]) ∧
      (passing c r (s₀.emit [.frame r' f]).log).handled = some r' := by
  have hmove : Move .sparing s₀ ((s₀.setRemote r' y).emit [.frame r' f]) :=
    .remote hy .frame (Or.inl ⟨rfl, id, rfl⟩)
  rw [Core.setRemote_self hy] at hmove
  refine ⟨hmove, h.run hmove.single, ?_⟩
  rw [Core.log_emit, passing_append]
  rfl

theorem remoteHandleCommandResult_awaits (hne : r' ≠ r) (h : AwaitsIn c r pending bytes s.toCore) :
    Runs .sparing s.toCore (fun s' => Awaits c r pending bytes s'.toCore)
      (remoteHandleCommandResult plat sys s r') := by
  refine remote_runs.bind fun y hy => ?_
  obtain ⟨hmove, hin, hhandled⟩ := h.frame (f := bufFrame plat y.ib) hy
  have hother : (passing c r (s.emit [.frame r' (bufFrame plat y.ib)]).log).handled ≠ some r :=
    fun heq => hne (Option.some.inj (hhandled.symm.trans heq))
  refine Runs.ite (fun _ => hin.awaits) fun _ => ?_
  split
  · exact handleCommandState_awaits hne hin.awaits hother
  · next hlisten =>
      refine Runs.after hmove.single ((handleListenState_moves (A := .sparing)
        (s := s.emit [.frame r' (bufFrame plat y.ib)]) (fun _ => trivial) (fun _ => trivial) hy
        hlisten).imp ?_)
      rintro s₁ ⟨hm, _⟩
      exact hin.moves hm
  · exact handleConnectingState_awaits hne hin.awaits
  · exact hin.awaits

/-- The remote once the bytes of an event are in. -/
def RemoteMux.received (sys : Sys) (y : RemoteMux) (rf : ReadFrame) : RemoteMux :=
  { y with ib := rf.ib, lastActive := if rf.bodyRead then sys.now else y.lastActive }

/-- The state in which the frame is looked at. -/
def Daemon.received (sys : Sys) (s : Daemon) (r : RemotePtr) (y : RemoteMux) (rf : ReadFrame) :
    Daemon :=
  (s.update (·.setRemote r (y.received sys rf))).emit (recvActs (.remoteRecv r) rf.got)

theorem AwaitsIn.received {rf : ReadFrame} (sys : Sys)
    (h : AwaitsIn c r pending bytes s.toCore) (hy : s.remotes r' = some y)
    (hframed : y.Framed) (hib : rf.ib.data = y.ib.data ++ rf.got) :
    Move .sparing s.toCore (s.received sys r' y rf).toCore ∧
      AwaitsIn c r pending bytes (s.received sys r' y rf).toCore := by
  have hmove : Move .sparing s.toCore (s.received sys r' y rf).toCore :=
    .remote hy (.recv hframed hib) (Or.inl ⟨rfl, id, rfl⟩)
  exact ⟨hmove, h.run hmove.single⟩

/-- A remote is read from, and it is not the one in question or has no frame
that is complete. -/
theorem remoteProcessRecv_awaits (h : AwaitsIn c r pending bytes s.toCore)
    (hy : s.remotes r' = some y) (hframed : y.Framed)
    (hother : r' = r → ∀ rf, readFrame plat sys y.ib = .ok rf → rf.outcome ≠ .frame) :
    Runs .sparing s.toCore (fun s' => Awaits c r pending bytes s'.toCore)
      (remoteProcessRecv plat sys s r') := by
  refine remote_runs.bind fun y' hy' => ?_
  cases hy.symm.trans hy'
  refine (readFrame_runs.withEq).bind ?_
  rintro rf ⟨⟨hdata, _, _⟩, hrf⟩
  obtain ⟨hmove, hin⟩ := h.received sys hy hframed hdata
  cases hout : rf.outcome with
  | dead =>
      show Runs _ _ _ (usbmuxRemoteMarkDead plat sys (s.received sys r' y rf) r')
      refine Runs.after hmove.single ((usbmuxRemoteMarkDead_moves (fun _ => trivial) trivial trivial
        hin.wf).imp ?_)
      rintro s₁ ⟨⟨hm, _⟩, _⟩
      exact hin.moves hm
  | more => exact hin.awaits
  | frame =>
      have hne : r' ≠ r := fun heq => hother heq rf hrf hout
      show Runs _ _ _ (remoteHandleCommandResult plat sys (s.received sys r' y rf) r' >>= _)
      refine Runs.after hmove.single
        ((remoteHandleCommandResult_awaits hne hin).bind fun s₁ h₁ => ?_)
      refine modifyRemote_runs.imp ?_
      rintro s₂ ⟨z, hz, rfl⟩
      exact h₁.setSilent hz fun heq => absurd heq hne

/-- A remote is served that is not read from for a frame of the remote in
question. -/
theorem remoteProcessFound_awaits {events : PollEvents} (h : AwaitsIn c r pending bytes s.toCore)
    (hy : s.remotes r' = some y) (hlive : y.state ≠ .dead) (htwo : y.state ≠ .connecting2)
    (hother : r' = r → y.Framed → events.pollin = true →
      ∀ rf, readFrame plat sys y.ib = .ok rf → rf.outcome ≠ .frame) :
    Runs .sparing s.toCore (fun s' => Awaits c r pending bytes s'.toCore)
      (remoteProcessFound plat sys s r' events) := by
  refine remote_runs.bind fun y' hy' => ?_
  cases hy.symm.trans hy'
  refine Runs.ite (fun hconn => remoteConnectedProcess_awaits h hy hconn) fun hconn => ?_
  refine Runs.ite (fun hin => ?_) fun _ => ?_
  · refine Runs.ite (fun heq => absurd heq htwo) fun _ => ?_
    exact remoteProcessRecv_awaits h hy ⟨hconn, hlive⟩ fun heq => hother heq ⟨hconn, hlive⟩ hin
  · exact Runs.ite (fun _ => remoteProcessSend_awaits h) fun _ => h.awaits

end Leaves

/-! ## A frame that is passed on -/

/-- What handling a frame does to the log and to the remote: the frame is
passed on if a reply was awaited, and none is awaited after that. -/
structure FramePassed (c : ClientPtr) (r : RemotePtr) (y : RemoteMux) (f : List UInt8)
    (s s' : Core) : Prop where
  frames : (remoteInput r s'.log).frames = (remoteInput r s.log).frames ++ [f]
  bytes : (passing c r s'.log).bytes = (passing c r s.log).bytes ++
    (if y.lastCommand = none then [] else passedFrame f)
  done : ∀ y', s'.remotes r = some y' → y'.lastCommand = none
  opened : .openRemote c r .command ∈ s'.log → .openRemote c r .command ∈ s.log
  requests : requests r s'.log = requests r s.log

/-- Only bytes for the client were added to the log. -/
structure Sent (c : ClientPtr) (r : RemotePtr) (bs : List UInt8) (s s' : Core) : Prop where
  log : ∃ acts, s'.log = s.log ++ acts ∧ ∀ a ∈ acts, ∃ bs, a = .queueRaw c bs
  passing : (passing c r s.log).handled = some r → passing c r s'.log =
    { passing c r s.log with bytes := (passing c r s.log).bytes ++ bs }
  remotes : s'.remotes = s.remotes

section Passed

variable {A : Allow} {c : ClientPtr} {r : RemotePtr} {plat : Platform} {sys : Sys}
  {s : Daemon} {s₀ t u : Core} {y : RemoteMux}

theorem Sent.refl : Sent c r [] t t :=
  ⟨⟨[], (List.append_nil _).symm, fun _ ha => nomatch ha⟩, fun _ => by rw [List.append_nil], rfl⟩

theorem Sent.trans {bs bs' : List UInt8} (h : Sent c r bs s₀ t) (h' : Sent c r bs' t u) :
    Sent c r (bs ++ bs') s₀ u := by
  obtain ⟨acts, hlog, hacts⟩ := h.log
  obtain ⟨acts', hlog', hacts'⟩ := h'.log
  refine ⟨⟨acts ++ acts', ?_, fun a ha => ?_⟩, fun hr => ?_, h'.remotes.trans h.remotes⟩
  · rw [hlog', hlog, List.append_assoc]
  · exact (List.mem_append.mp ha).elim (hacts a) (hacts' a)
  · have h₁ := h.passing hr
    rw [h'.passing (by rw [h₁, hr]), h₁, List.append_assoc]

theorem sendPktRaw_sent {bs : List UInt8} (hroom : ∀ n, sys.realloc n = true) :
    Runs A s₀ (fun res => Sent c r bs s.toCore res.2.toCore) (sendPktRaw sys s c bs) := by
  refine client_runs.bind fun x _ => ?_
  refine queueBytes_runs.bind ?_
  rintro o (⟨_, n, hfail⟩ | ⟨ob, rfl, _⟩)
  · cases (hroom n).symm.trans hfail
  · refine ⟨⟨_, rfl, fun a ha => ⟨bs, List.mem_singleton.mp ha⟩⟩, fun hr => ?_, rfl⟩
    show passing c r (s.log ++ [.queueRaw c bs]) = _
    rw [passing_append]
    exact if_pos ⟨hr, rfl⟩

theorem clientSendPacketData_sent {hdr payload : List UInt8} (hroom : ∀ n, sys.realloc n = true) :
    Runs A s₀ (fun res => Sent c r (hdr ++ payload) s.toCore res.2.toCore)
      (clientSendPacketData sys s c hdr payload) := by
  refine (sendPktRaw_sent (r := r) hroom).bind ?_
  rintro ⟨res, s₁⟩ h₁
  refine Runs.ite (fun _ => ?_) fun hempty => ?_
  · exact (sendPktRaw_sent hroom).imp fun _ h₂ => h₁.trans h₂
  · have hnil : payload = [] := List.eq_nil_of_length_eq_zero (Nat.eq_zero_of_not_pos hempty)
    rw [hnil, List.append_nil]
    exact h₁

/-- What is copied out of the buffer is the frame. -/
theorem bufFrame_split {b : Buf} (h : headerSize ≤ (bufHeader plat b).length.toNat) :
    b.slice plat.uninit 0 headerSize ++ bufPayload plat b = bufFrame plat b := by
  have hlen : headerSize + ((bufHeader plat b).length.toNat - headerSize) =
      (bufHeader plat b).length.toNat := Nat.add_sub_cancel' h
  calc b.slice plat.uninit 0 headerSize ++ bufPayload plat b
      = b.slice plat.uninit 0 (headerSize + ((bufHeader plat b).length.toNat - headerSize)) := by
        rw [Buf.slice_add, Nat.zero_add, bufPayload]
    _ = bufFrame plat b := by rw [hlen, bufFrame]

/-- What handling a frame in `REMOTE_COMMAND` comes to. -/
theorem handleCommandState_passed {p : Option Plist} (hy : s.remotes r = some y)
    (hlen : headerSize ≤ (bufHeader plat y.ib).length.toNat)
    (hwaits : ∀ cmd, y.lastCommand = some cmd → cmd ≠ .listen ∧ y.client = some c)
    (hroom : ∀ n, sys.realloc n = true) :
    Runs A s₀ (fun s' => ∃ t,
      Sent c r (if y.lastCommand = none then [] else bufFrame plat y.ib) s.toCore t ∧
        s'.toCore = t.setRemote r { y with lastCommand := none })
      (handleCommandState plat sys s r y p) := by
  have hreply : Runs A s₀ (fun s' =>
      Sent c r (if y.lastCommand = none then [] else bufFrame plat y.ib) s.toCore s'.toCore)
      (commandReply plat sys s r y p) := by
    by_cases hnone : y.lastCommand = none
    · rw [if_pos hnone, commandReply, hnone]
      exact Sent.refl
    rw [if_neg hnone, commandReply]
    split
    · next hcmd => exact absurd rfl (hwaits _ hcmd).1
    · next cmd _ hcmd =>
        refine remoteClient_runs.bind ?_
        rintro c' ⟨hclient, _⟩
        cases (hwaits _ hcmd).2.symm.trans hclient
        rw [← bufFrame_split hlen]
        exact (clientSendPacketData_sent hroom).bind fun _ h => h
    · next hcmd => exact absurd hcmd hnone
  refine hreply.bind fun s₁ h₁ => ?_
  refine modifyRemote_runs.imp ?_
  rintro s₂ ⟨z, hz, rfl⟩
  rw [h₁.remotes] at hz
  cases hy.symm.trans hz
  exact ⟨s₁.toCore, h₁, rfl⟩

/-- The log after the bytes of a frame came in, it was handled and some bytes
were passed on. -/
theorem FramePassed.of_sent {f got : List UInt8} {y' : RemoteMux} {t₀ : Core}
    (h : Sent c r (if y.lastCommand = none then [] else passedFrame f) t₀ t)
    (hlog₀ : t₀.log = (s₀.log ++ recvActs (.remoteRecv r) got) ++ [.frame r f])
    (hlog : u.log = t.log) (hrem : u.remotes r = some y') (hlast : y'.lastCommand = none) :
    FramePassed c r y f s₀ u := by
  obtain ⟨acts, htlog, hacts⟩ := h.log
  rw [hlog₀] at htlog
  have hbase := hlog.trans htlog
  have hhandled : (passing c r t₀.log).handled = some r := by
    rw [hlog₀, passing_append]
    rfl
  refine ⟨?_, ?_, fun z hz => ?_, fun hopen => ?_, ?_⟩
  · rw [hbase, remoteInput_other fun a ha => ?_, remoteInput_frame, remoteInput_recv]
    obtain ⟨bs, rfl⟩ := hacts a ha
    exact Or.inr rfl
  · rw [hlog, h.passing hhandled]
    refine congrArg (· ++ _) ?_
    rw [hlog₀, passing_bytes_append, passing_bytes_append]
    · intro a ha bs heq
      cases (mem_recvActs ha).symm.trans heq
    · intro a ha bs heq
      cases (List.mem_singleton.mp ha).symm.trans heq
  · cases hrem.symm.trans hz
    exact hlast
  · rw [hbase] at hopen
    rcases List.mem_append.mp hopen with ha | ha
    · rcases List.mem_append.mp ha with ha | ha
      · refine (List.mem_append.mp ha).resolve_right fun ha => ?_
        cases mem_recvActs ha
      · cases List.mem_singleton.mp ha
    · obtain ⟨bs, heq⟩ := hacts _ ha
      cases heq
  · rw [hbase, requests_append, requests_append, requests_append]
    · intro a ha hdr payload heq
      cases (mem_recvActs ha).symm.trans heq
    · intro a ha hdr payload heq
      cases (List.mem_singleton.mp ha).symm.trans heq
    · intro a ha hdr payload heq
      obtain ⟨bs, rfl⟩ := hacts a ha
      cases heq

/-- A call of `remote_process_recv` that completes a frame. -/
theorem remoteProcessRecv_passed {rf : ReadFrame} (hy : s.remotes r = some y)
    (hstate : y.state = .command)
    (hwaits : ∀ cmd, y.lastCommand = some cmd → cmd ≠ .listen ∧ y.client = some c)
    (hroom : ∀ n, sys.realloc n = true) (hrf : readFrame plat sys y.ib = .ok rf)
    (hout : rf.outcome = .frame) (hwhole : (usbmuxFraming remoteInputSize).Whole rf.ib.data) :
    Runs A s₀ (fun s' => FramePassed c r y rf.ib.data s.toCore s'.toCore)
      (remoteProcessRecv plat sys s r) := by
  have hhdr : bufHeader plat rf.ib = frameHeader rf.ib.data := bufHeader_data hwhole.header
  have hbytes : bufFrame plat rf.ib = rf.ib.data := bufFrame_whole hwhole
  have hlen : headerSize ≤ (bufHeader plat rf.ib).length.toNat := by
    rw [hhdr]
    exact hwhole.1.1
  have hy₁ : (s.received sys r y rf).remotes r = some (y.received sys rf) :=
    Function.update_self ..
  have hhandle : Runs A s₀ (fun s' => ∃ t,
      Sent c r (if y.lastCommand = none then [] else passedFrame rf.ib.data)
        ((s.received sys r y rf).emit [.frame r rf.ib.data]).toCore t ∧ s'.log = t.log)
      (remoteHandleCommandResult plat sys (s.received sys r y rf) r) := by
    refine remote_runs.bind fun z hz => ?_
    obtain rfl : y.received sys rf = z := Option.some.inj (hy₁.symm.trans hz)
    rw [show (y.received sys rf).ib = rf.ib from rfl, hbytes, hhdr]
    refine Runs.ite (fun hversion => ?_) fun hversion => ?_
    · rw [← not_or] at hversion
      rw [passedFrame, if_neg hversion, ite_self]
      exact ⟨_, Sent.refl, rfl⟩
    · rw [← not_or, not_not] at hversion
      rw [show (y.received sys rf).state = .command from hstate, passedFrame, if_pos hversion]
      refine (handleCommandState_passed (s := (s.received sys r y rf).emit [.frame r rf.ib.data])
        hy₁ hlen hwaits hroom).imp ?_
      rintro s₁ ⟨t, hsent, heq⟩
      refine ⟨t, ?_, by rw [heq]; rfl⟩
      rw [show (y.received sys rf).ib = rf.ib from rfl, hbytes] at hsent
      exact hsent
  refine remote_runs.bind fun y' hy' => ?_
  cases hy.symm.trans hy'
  rw [hrf, ok_bind, hout]
  refine hhandle.bind ?_
  rintro s₁ ⟨t, hsent, hlog⟩
  refine modifyRemote_runs.imp ?_
  rintro s₂ ⟨z, hz, rfl⟩
  exact FramePassed.of_sent hsent rfl hlog (Function.update_self ..) rfl

end Passed

/-! ## A run -/

/-- The client is not connected, and there is room for what is passed on. -/
structure Delivers (plat : Platform) (c : ClientPtr) (r : RemotePtr) (s : Daemon) (e : Event) :
    Prop where
  unconnected : ∀ x, s.clients c = some x → x.state ≠ .connected
  room : ∀ sys y, ReadsFrom plat sys s r y e → ∀ n, sys.realloc n = true

/-- The reply of every frame so far was passed on, once the remote is opened
for a request of the client. -/
def ReplyPassed (c : ClientPtr) (r : RemotePtr) (s : Core) : Prop :=
  s.nextRemote ≤ r.block ∨ .openRemote c r .command ∈ s.log →
    Awaits c r ((remoteInput r s.log).frames = []) (firstReply (remoteInput r s.log).frames) s

section Run

variable {c : ClientPtr} {r : RemotePtr} {pending : Prop} {bytes : List UInt8}
  {plat : Platform} {sys : Sys} {s s' t : Daemon} {y : RemoteMux} {e : Event}

theorem allows_sparing (he : ∀ fd revents sys, e ≠ .remote fd revents sys) :
    Allows .sparing plat s e := by
  have hall : Allows .all plat s e := allows_all
  cases e with
  | remote fd revents sys => exact absurd rfl (he fd revents sys)
  | accept | client | getFds | addRemote | mdnsAdd | mdnsRemove => exact hall

/-- The reap loop leaves everybody's input alone, and the mutexes free. -/
theorem reapLoop_input {fd : Nat} {revents : PollEvents} {found : Option RemotePtr}
    (hunlocked : s.Unlocked) (h : reapLoop plat sys fd revents s = .ok (t, found)) :
    remoteInput r t.log = remoteInput r s.log ∧ t.Unlocked := by
  have hwatched : Watched (watchRemote r (fun _ => True) (fun t => t = remoteInput r s.log) 0
      fun _ => trivial) false false s :=
    ⟨fun _ _ _ => trivial, fun _ _ _ _ => trivial, rfl, Nat.zero_le _, hunlocked.1, hunlocked.2⟩
  have ht := (reapLoop_keeps hwatched).of_ok h
  exact ⟨ht.log, ht.remoteLock, ht.clientLock⟩

/-- Without a frame that is complete none is handled. -/
theorem remoteProcessRecv_frames {rf : ReadFrame} (hunlocked : s.Unlocked)
    (hy : s.remotes r = some y) (hrf : readFrame plat sys y.ib = .ok rf)
    (hout : rf.outcome ≠ .frame) (h : remoteProcessRecv plat sys s r = .ok s') :
    (remoteInput r s'.log).frames = (remoteInput r s.log).frames := by
  have hremote : s.remote r = .ok y := by
    rw [Daemon.remote, hy]
  have hinput : (remoteInput r (s.received sys r y rf).log).frames =
      (remoteInput r s.log).frames := by
    show (remoteInput r (s.log ++ recvActs (.remoteRecv r) rf.got)).frames = _
    rw [remoteInput_recv]
  rw [remoteProcessRecv, hremote] at h
  dsimp only [bind, Except.bind] at h
  rw [hrf] at h
  cases hcase : rf.outcome with
  | dead =>
      simp only [hcase] at h
      rw [usbmuxRemoteMarkDead_input (s := s.received sys r y rf) hunlocked h]
      exact hinput
  | more =>
      simp only [hcase] at h
      cases h
      exact hinput
  | frame => exact absurd hcase hout

/-- An event on the remote that reads from it. -/
theorem step_reads {fd : Nat} {revents : PollEvents} (hs : Settled s)
    (hreap : reapLoop plat sys fd revents s = .ok (t, some r)) (hin : revents.pollin = true)
    (hy : s.remotes r = some y) (hf : y.Framed)
    (hstep : step plat s (.remote fd revents sys) = .ok s') :
    remoteProcessRecv plat sys t r = .ok s' ∧ t.remotes r = some y := by
  obtain ⟨⟨t', found⟩, hreap', hrest⟩ := bind_eq_ok.mp hstep
  cases hreap.symm.trans hreap'
  obtain ⟨hreaping, hfound⟩ := (reapLoop_runs (A := .all) (fun _ => trivial) trivial hs.wf
    fun _ _ _ _ _ _ _ _ => trivial).of_ok hreap
  obtain ⟨_, z, hz, _, _⟩ := hfound r rfl
  cases hy.symm.trans (hreaping.sub hz)
  have hremote : t.remote r = .ok y := by
    rw [Daemon.remote, hz]
  have hfound' : remoteProcessFound plat sys t r revents = .ok s' := hrest
  rw [remoteProcessFound, hremote] at hfound'
  dsimp only [bind, Except.bind] at hfound'
  rw [if_neg hf.1, if_pos hin, if_neg (hs.switched r y hy).2] at hfound'
  exact ⟨hfound', hz⟩

/-- Everything but a frame of the remote leaves alone what it waits for. -/
theorem step_awaits (hs : Settled s) (h : AwaitsIn c r pending bytes s.toCore)
    (hnot : ∀ sys y, ReadsFrom plat sys s r y e →
      ∀ rf, readFrame plat sys y.ib = .ok rf → rf.outcome ≠ .frame)
    (hstep : step plat s e = .ok s') : Awaits c r pending bytes s'.toCore := by
  by_cases he : ∃ fd revents sys, e = .remote fd revents sys
  · obtain ⟨fd, revents, sys, rfl⟩ := he
    obtain ⟨⟨t, found⟩, hreap, hrest⟩ := bind_eq_ok.mp hstep
    obtain ⟨hreaping, hfound⟩ := (reapLoop_runs (A := .sparing) (fun _ => trivial) trivial hs.wf
      fun _ _ _ _ _ _ _ _ => trivial).of_ok hreap
    have ht : AwaitsIn c r pending bytes t.toCore := h.run hreaping.moves
    cases found with
    | none =>
        cases hrest
        exact ht.awaits
    | some r' =>
        obtain ⟨_, z, hz, _, hlive⟩ := hfound r' rfl
        have hzs := hreaping.sub hz
        refine (remoteProcessFound_awaits ht hz hlive (hs.switched r' z hzs).2 ?_).of_ok hrest
        rintro rfl hf hin
        exact hnot sys z ⟨fd, revents, t, rfl, hin, hreap, hzs, hf⟩
  · have hm := step_moves hs.wf (allows_sparing fun fd revents sys heq =>
      he ⟨fd, revents, sys, heq⟩) hstep
    exact h.moves hm

theorem Moves.nextRemote_le {A : Allow} {u u' : Core} (hm : Moves A u u') :
    u.nextRemote ≤ u'.nextRemote :=
  invariant_of_step (R := Move A) (P := fun t => u.nextRemote ≤ t.nextRemote)
    (fun hmove hle => Nat.le_trans hle hmove.shape.next_le.2) hm (Nat.le_refl _)

/-- A remote that has a past had it before, or was new then. -/
theorem Moves.opened_before {A : Allow} {u u' : Core} {state : RemoteState} (hm : Moves A u u')
    (h : u'.nextRemote ≤ r.block ∨ .openRemote c r state ∈ u'.log) :
    u.nextRemote ≤ r.block ∨ .openRemote c r state ∈ u.log := by
  rcases h with hnew | hopen
  · exact Or.inl (Nat.le_trans hm.nextRemote_le hnew)
  induction hm with
  | refl => exact Or.inr hopen
  | tail hm hmove ih =>
      obtain ⟨acts, he⟩ := hmove.emits
      rw [he.log] at hopen
      rcases List.mem_append.mp hopen with hmem | hmem
      · exact ih hmem
      · rw [he.opened hmem]
        exact Or.inl (Moves.nextRemote_le hm)

/-- Who is linked to the remote is connected before it touches it. -/
theorem Delivers.untouched (hs : Settled s) (h : Delivers plat c r s e)
    (hopen : s.nextRemote ≤ r.block ∨ .openRemote c r .command ∈ s.log) : Untouched r s e := by
  intro htouch
  cases e with
  | client =>
      obtain ⟨_, _, c', x, hx, _, hconn, hr⟩ := htouch
      obtain ⟨state, hopen'⟩ := hs.log.link hx hr
      rcases hopen with hnew | hopen
      · exact absurd (hs.log.remote hopen' rfl) (Nat.not_lt.mpr hnew)
      · obtain ⟨rfl, _⟩ := hs.log.unique hopen hopen'
        exact absurd hconn (h.unconnected x hx)
  | accept | remote | getFds | addRemote | mdnsAdd | mdnsRemove => exact htouch.elim

/-- A frame that is handled is passed on if it is the first. -/
theorem Awaits.framePassed {f : List UInt8} {fs : List (List UInt8)}
    (h : Awaits c r (fs = []) (firstReply fs) s.toCore) (hy : s.remotes r = some y)
    (hopen : .openRemote c r .command ∈ s.log) (hf : FramePassed c r y f s.toCore s'.toCore) :
    Awaits c r (fs ++ [f] = []) (firstReply (fs ++ [f])) s'.toCore := by
  have hwaits := h.waits hopen y hy
  refine ⟨?_, fun _ y' hy' => iff_of_false (fun hne => hne (hf.done y' hy')) fun hand => ?_⟩
  · rw [hf.bytes, hf.requests, h.passed, firstReply_append]
    by_cases hreq : requests r s.log = []
    · have hnone : y.lastCommand = none := not_not.mp fun hne => (hwaits.mp hne).2 hreq
      rw [if_pos hreq, if_pos hreq, if_pos hnone]
      rfl
    · rw [if_neg hreq, if_neg hreq]
      by_cases hfs : fs = []
      · rw [if_neg (hwaits.mpr ⟨hfs, hreq⟩), if_pos hfs, hfs]
        rfl
      · have hnone : y.lastCommand = none := not_not.mp fun hne => hfs (hwaits.mp hne).1
        rw [if_pos hnone, if_neg hfs, List.append_nil]
  · exact List.append_ne_nil_of_right_ne_nil fs (List.cons_ne_nil f []) hand.1

/-- A remote that is read from says no more than that without a complete
frame. -/
theorem frames_of_step (hs : Settled s) (hacc : RemoteAccount r s.toCore)
    (huntouched : Untouched r s e) (hnot : ∀ sys y, ReadsFrom plat sys s r y e →
      ∀ rf, readFrame plat sys y.ib = .ok rf → rf.outcome ≠ .frame)
    (hstep : step plat s e = .ok s') :
    (remoteInput r s'.log).frames = (remoteInput r s.log).frames := by
  by_cases hreads : ∃ sys y, ReadsFrom plat sys s r y e
  · obtain ⟨sys, y, hreads⟩ := hreads
    obtain ⟨fd, revents, t, rfl, hin, hreap, hy, hf⟩ := id hreads
    obtain ⟨hrecv, hyt⟩ := step_reads hs hreap hin hy hf hstep
    obtain ⟨hlog, hunlocked⟩ := reapLoop_input (r := r) hs.unlocked hreap
    obtain ⟨z, hz, hrest⟩ := bind_eq_ok.mp hrecv
    obtain ⟨rf, hrf, _⟩ := bind_eq_ok.mp hrest
    have hzy : z = y := by
      rw [Daemon.remote, hyt] at hz
      exact (Except.ok.inj hz).symm
    rw [hzy] at hrf
    rw [remoteProcessRecv_frames hunlocked hyt hrf (hnot sys y hreads rf hrf) hrecv, hlog]
  · rw [(hacc.step hs huntouched hstep).2.2 fun sys y h => hreads ⟨sys, y, h⟩]

/-- One event more. -/
theorem ReplyPassed.step (hs : Settled s) (hreq : Requested c r s.toCore)
    (hacc : RemoteAccount r s.toCore) (hd : Delivers plat c r s e) (h : ReplyPassed c r s.toCore)
    (hstep : step plat s e = .ok s') : ReplyPassed c r s'.toCore := by
  intro hopen'
  have hmoves : Moves .all s.toCore s'.toCore := step_moves hs.wf allows_all hstep
  have hbefore := hmoves.opened_before hopen'
  have hin : AwaitsIn c r ((remoteInput r s.log).frames = [])
      (firstReply (remoteInput r s.log).frames) s.toCore := by
    refine ⟨hs.wf, hs.log, fun hnew => ?_, h hbefore⟩
    rw [remoteInput_new hs hnew]
    exact ⟨rfl, rfl⟩
  by_cases hframe : ∃ sys y rf, ReadsFrom plat sys s r y e ∧
      readFrame plat sys y.ib = .ok rf ∧ rf.outcome = .frame
  · obtain ⟨sys, y, rf, hreads, hrf, hout⟩ := hframe
    obtain ⟨fd, revents, t, rfl, hpollin, hreap, hy, hf⟩ := id hreads
    have hold : r.block < s.nextRemote := hs.wf.remoteFresh r (by rw [hy]; rfl)
    have hopen := hbefore.resolve_left (Nat.not_le.mpr hold)
    obtain ⟨hrecv, hyt⟩ := step_reads hs hreap hpollin hy hf hstep
    obtain ⟨hreaping, _⟩ := (reapLoop_runs (A := .sparing) (fun _ => trivial) trivial hs.wf
      fun _ _ _ _ _ _ _ _ => trivial).of_ok hreap
    have ht := (hin.run hreaping.moves).awaits
    obtain ⟨hlog, _⟩ := reapLoop_input (r := r) hs.unlocked hreap
    obtain ⟨hstate, hwaits⟩ := hreq hopen y hy
    obtain ⟨hcoll, _, hunf⟩ := hacc.reading y hy hf
    have hwhole : (usbmuxFraming remoteInputSize).Whole rf.ib.data := by
      obtain ⟨_, _, ⟨hdead, _⟩ | ⟨_, ⟨hdead, _⟩ | ⟨hmore, _⟩ | ⟨_, hwhole⟩⟩⟩ :=
        readFrame_spec hcoll hunf hrf
      · cases hout.symm.trans hdead
      · cases hout.symm.trans hdead
      · cases hout.symm.trans hmore
      · exact hwhole
    have hruns : Runs .all t.toCore
        (fun s' => FramePassed c r y rf.ib.data t.toCore s'.toCore)
        (remoteProcessRecv plat sys t r) :=
      remoteProcessRecv_passed hyt (hstate.resolve_right hf.2) hwaits (hd.room sys y hreads)
        hrf hout hwhole
    have hpass := hruns.of_ok hrecv
    have hopent : .openRemote c r .command ∈ t.log := by
      refine hpass.opened (hopen'.resolve_left (Nat.not_le.mpr ?_))
      exact Nat.lt_of_lt_of_le hold hmoves.nextRemote_le
    rw [hpass.frames, hlog]
    exact ht.framePassed hyt hopent hpass
  · have hnot : ∀ sys y, ReadsFrom plat sys s r y e →
        ∀ rf, readFrame plat sys y.ib = .ok rf → rf.outcome ≠ .frame :=
      fun sys y hreads rf hrf hout => hframe ⟨sys, y, rf, hreads, hrf, hout⟩
    rw [frames_of_step hs hacc (hd.untouched hs hbefore) hnot hstep]
    exact step_awaits hs hin hnot hstep

theorem ReplyPassed.initial {u : Core} (h : Initial u) : ReplyPassed c r u := by
  have hsilent : ∀ {acts : List Act}, u.log = acts →
      acts = [] ∨ (∃ r' hdr payload, acts = [.remoteQueue r' hdr payload]) → ReplyPassed c r u := by
    rintro acts hlog (rfl | ⟨r', hdr, payload, rfl⟩) _
    · rw [hlog]
      refine ⟨?_, fun hopen => ?_⟩
      · rw [hlog]
        exact (ite_self []).symm
      · rw [hlog] at hopen
        cases hopen
    · rw [hlog]
      refine ⟨?_, fun hopen => ?_⟩
      · rw [hlog]
        exact (ite_self []).symm
      · rw [hlog] at hopen
        cases List.mem_singleton.mp hopen
  cases h with
  | empty => exact hsilent rfl (Or.inl rfl)
  | listener _ hacts =>
      refine hsilent rfl ?_
      rcases hacts with ⟨_, rfl, _⟩ | ⟨hdr, payload, _, rfl, _⟩
      · exact Or.inl rfl
      · exact Or.inr ⟨_, hdr, payload, rfl⟩

/-- In every state of a run. -/
theorem reachable_replyPassed (h : ReachableBy plat (Delivers plat c r) s)
    (hopen : s.nextRemote ≤ r.block ∨ .openRemote c r .command ∈ s.log) :
    RemoteAccount r s.toCore ∧ ReplyPassed c r s.toCore := by
  refine reachableBy_induct (P := fun s =>
    s.nextRemote ≤ r.block ∨ .openRemote c r .command ∈ s.log →
      RemoteAccount r s.toCore ∧ ReplyPassed c r s.toCore) (fun h₀ _ => ?_) ?_ h hopen
  · exact ⟨.initial h₀, .initial (usbmuxRemoteInit_initial h₀)⟩
  · intro t t' e hr ih hd hstep hopen'
    have hs := reachable_settled hr
    have hmoves : Moves .all t.toCore t'.toCore := step_moves hs.wf allows_all hstep
    have hbefore := hmoves.opened_before hopen'
    obtain ⟨hacc, hpass⟩ := ih hbefore
    exact ⟨(hacc.step hs (hd.untouched hs hbefore) hstep).1,
      hpass.step hs (reachable_requested hr) hacc hd hstep⟩

end Run

/-! ## Transparency -/

/-- What is passed on to the client for a remote that was opened for one of
its requests is the first frame of the remote's stream, header and payload
unchanged, if that frame is complete, has a length between 16 and the size of
the input buffer and has version 0 or 1; nothing otherwise, nothing after it,
and nothing at all when the request could not be queued. It is in the client's
output buffer behind what was queued before, and the remote stays in
`REMOTE_COMMAND` until it is dead. -/
theorem reply_transparent {plat : Platform} {c : ClientPtr} {r : RemotePtr} {s : Daemon}
    (h : ReachableBy plat (Delivers plat c r) s)
    (hopen : .openRemote c r .command ∈ s.log) :
    (passing c r s.log).bytes =
        (if requests r s.log = [] then [] else firstReply (remoteCut r s).frames) ∧
      (∀ x, s.clients c = some x →
        (clientTrace c s.log).sent ++ x.ob.data = (clientTrace c s.log).queued) ∧
      ∀ y, s.remotes r = some y → y.state = .command ∨ y.state = .dead := by
  obtain ⟨hacc, hpass⟩ := reachable_replyPassed h (Or.inr hopen)
  refine ⟨?_, fun x hx => ?_, fun y hy => ?_⟩
  · obtain ⟨rest, hrest⟩ := hacc.account
    rw [remoteCut, hrest.cut]
    exact (hpass (Or.inr hopen)).passed
  · exact ((reachable_streams (A := .all) (fun _ _ _ => allows_all) h).2.1 c x hx).queued
  · exact (reachable_requested h.reachable hopen y hy).1

/-- A client asks for the BUID, and what it asks sends the reply and then a
result that nobody waits for. -/
def replyRun : List Event :=
  .accept (some 5) :: (clientSends 5 { connect := some 10 } (plistFrame 1 1 readBuidRequest) ++
    remoteSends 10 (plistFrame 1 1 buidReply) ++ remoteSends 10 (resultFrame resultOk))

/-- Not connected, as a test. -/
def isUnconnected (s : Daemon) (c : ClientPtr) : Bool :=
  match s.clients c with
  | some x => x.state ≠ .connected
  | none => true

/-- Opened for a request, as a test. -/
def Act.opensCommand (c : ClientPtr) (r : RemotePtr) : Act → Bool
  | .openRemote c' r' .command => c' = c ∧ r' = r
  | _ => false

section Tests

variable {c : ClientPtr} {r : RemotePtr} {plat : Platform} {s : Daemon}

theorem unconnected_of_test (h : isUnconnected s c = true) :
    ∀ x, s.clients c = some x → x.state ≠ .connected := by
  intro x hx
  rw [isUnconnected, hx] at h
  exact of_decide_eq_true h

theorem mem_of_opensCommand {log : List Act} (h : log.any (Act.opensCommand c r) = true) :
    .openRemote c r .command ∈ log := by
  obtain ⟨a, ha, htest⟩ := List.any_eq_true.mp h
  unfold Act.opensCommand at htest
  split at htest
  · obtain ⟨rfl, rfl⟩ := of_decide_eq_true htest
    exact ha
  · cases htest

/-- No allocation fails in `replyRun`. -/
theorem replyRun_room {e : Event} (he : e ∈ replyRun) {sys : Sys} {y : RemoteMux}
    (h : ReadsFrom plat sys s r y e) : ∀ n, sys.realloc n = true := by
  obtain ⟨fd, revents, t, rfl, _⟩ := h
  simp only [replyRun, clientSends, remoteSends, List.cons_append, List.nil_append,
    List.mem_cons, List.not_mem_nil, or_false, reduceCtorEq, false_or, Event.remote.injEq] at he
  intro n
  rcases he with h | h | h | h <;> rw [h.2.2]

theorem reachable_replyRun
    (h : runFrom plat {} (fun s _ => isUnconnected s c) replyRun = some s) :
    ReachableBy plat (Delivers plat c r) s :=
  reachableBy_of_runFrom (fun _ _ he _ hok =>
    ⟨unconnected_of_test hok, fun _ _ hreads => replyRun_room he hreads⟩) h

end Tests

theorem reply_transparent_buid :
    ∃ s, ReachableBy (platformWith [readBuidRequest])
        (Delivers (platformWith [readBuidRequest]) ⟨0⟩ ⟨0⟩) s ∧
      .openRemote ⟨0⟩ ⟨0⟩ .command ∈ s.log ∧ requests ⟨0⟩ s.log ≠ [] ∧
      (passing ⟨0⟩ ⟨0⟩ s.log).bytes = plistFrame 1 1 buidReply ∧
      ∀ y, s.remotes ⟨0⟩ = some y → y.state = .command ∨ y.state = .dead := by
  let test : Daemon → Bool := fun s =>
    s.log.any (Act.opensCommand ⟨0⟩ ⟨0⟩) && decide ((requests ⟨0⟩ s.log).length ≠ 0) &&
      decide ((remoteInput ⟨0⟩ s.log).frames =
        [plistFrame 1 1 buidReply, resultFrame resultOk])
  obtain ⟨s, hrun, htest⟩ : ∃ s, runFrom (platformWith [readBuidRequest]) {}
      (fun s _ => isUnconnected s ⟨0⟩) replyRun = some s ∧ test s = true :=
    exists_of_runFrom (by decide +kernel)
  have hreach := reachable_replyRun (r := ⟨0⟩) hrun
  simp only [test, Bool.and_eq_true, decide_eq_true_eq] at htest
  obtain ⟨⟨hany, hreq⟩, hframes⟩ := htest
  have hopen := mem_of_opensCommand hany
  have hasked : requests ⟨0⟩ s.log ≠ [] := fun hnil => hreq (congrArg List.length hnil)
  obtain ⟨hbytes, _, hstate⟩ := reply_transparent hreach hopen
  have hcut : (remoteCut ⟨0⟩ s).frames = [plistFrame 1 1 buidReply, resultFrame resultOk] := by
    obtain ⟨rest, hrest⟩ := (reachable_replyPassed hreach (Or.inr hopen)).1.account
    rw [remoteCut, hrest.cut]
    exact hframes
  refine ⟨s, hreach, hopen, hasked, ?_, hstate⟩
  rw [hbytes, if_neg hasked, hcut]
  decide +kernel

/-- A platform that has no memory left for the request that is passed on. -/
def platformUnasked : Platform :=
  { platformWith [readBuidRequest] with
    plistToXml := fun p =>
      if xmlDocument p = xmlDocument (createPlistMessage "ReadBUID") then none
      else some (xmlDocument p) }

/-- The request never goes out, and the complete first frame of what was to
answer it is not passed on. -/
theorem unasked_not_passed :
    ∃ s, ReachableBy platformUnasked (Delivers platformUnasked ⟨0⟩ ⟨0⟩) s ∧
      .openRemote ⟨0⟩ ⟨0⟩ .command ∈ s.log ∧
      firstReply (remoteCut ⟨0⟩ s).frames = plistFrame 1 1 buidReply ∧
      (passing ⟨0⟩ ⟨0⟩ s.log).bytes = [] := by
  let test : Daemon → Bool := fun s =>
    s.log.any (Act.opensCommand ⟨0⟩ ⟨0⟩) && decide ((passing ⟨0⟩ ⟨0⟩ s.log).bytes = []) &&
      decide ((remoteInput ⟨0⟩ s.log).frames =
        [plistFrame 1 1 buidReply, resultFrame resultOk])
  obtain ⟨s, hrun, htest⟩ : ∃ s, runFrom platformUnasked {}
      (fun s _ => isUnconnected s ⟨0⟩) replyRun = some s ∧ test s = true :=
    exists_of_runFrom (by decide +kernel)
  have hreach := reachable_replyRun (r := ⟨0⟩) hrun
  simp only [test, Bool.and_eq_true, decide_eq_true_eq] at htest
  obtain ⟨⟨hany, hnothing⟩, hframes⟩ := htest
  have hopen := mem_of_opensCommand hany
  obtain ⟨rest, hrest⟩ := (reachable_replyPassed hreach (Or.inr hopen)).1.account
  refine ⟨s, hreach, hopen, ?_, hnothing⟩
  rw [remoteCut, hrest.cut, hframes]
  show firstReply [plistFrame 1 1 buidReply, resultFrame resultOk] = plistFrame 1 1 buidReply
  decide +kernel

end Usbfluxd
