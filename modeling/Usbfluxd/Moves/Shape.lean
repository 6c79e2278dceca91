import Usbfluxd.Moves.Step

/-!
# The shape of a move

Most moves change objects in place and leave alone who is live, who is
linked to whom and what the ids are. `Move.shape` separates them from the
seven that add or remove something, so that an invariant of links or ids has
eight cases and not seventeen.
-/

namespace Usbfluxd

open Lib

/-! ## What is polled for -/

/-- A client polls for what its state and its output buffer call for. -/
structure MuxClient.Polls (x : MuxClient) : Prop where
  buffer : x.state ≠ .connected → x.ob.isNull = false
  output : x.state ≠ .connected → x.ob.data ≠ [] → x.events.pollout = true
  input : x.state = .command ∨ x.state = .listen ∨ x.state = .connecting1 →
    x.events.pollin = true
  handover : x.state = .connecting2 → x.ob.data ≠ [] ∧ x.events.pollin = false

/-- So does a remote, which never waits in `REMOTE_CONNECTING2`. -/
structure RemoteMux.Polls (y : RemoteMux) : Prop where
  output : y.ob.data ≠ [] → y.events.pollout = true
  input : y.state = .command ∨ y.state = .listen ∨ y.state = .connecting1 →
    y.events.pollin = true
  state : y.state ≠ .connecting2

section Polls

variable {x : MuxClient} {y : RemoteMux}

theorem MuxClient.Polls.of_connected (h : x.state = .connected) : x.Polls where
  buffer hne := absurd h hne
  output hne := absurd h hne
  input hstate := by
    rw [h] at hstate
    simp at hstate
  handover hstate := by
    rw [h] at hstate
    cases hstate

/-- What `Polls` says does not depend on the other fields. -/
theorem MuxClient.Polls.congr {x' : MuxClient} (h : x.Polls) (hstate : x'.state = x.state)
    (hob : x'.ob = x.ob) (hev : x'.events = x.events) : x'.Polls := by
  constructor
  · rw [hstate, hob]
    exact h.buffer
  · rw [hstate, hob, hev]
    exact h.output
  · rw [hstate, hev]
    exact h.input
  · rw [hstate, hob, hev]
    exact h.handover

theorem MuxClient.Polls.fed {ob : Buf} {e : PollEvents} (h : x.Polls) (hfed : x.Fed ob e) :
    MuxClient.Polls { x with ob := ob, events := e } := by
  rcases hfed with ⟨rfl, rfl⟩ | ⟨hnull, hpre, rfl⟩
  · exact h
  · refine ⟨fun _ => hnull, fun _ _ => rfl, h.input, fun hstate => ⟨fun hnil => ?_, ?_⟩⟩
    · have hold := (h.handover hstate).1
      rw [show ob.data = [] from hnil, List.prefix_nil] at hpre
      exact hold hpre
    · exact (h.handover hstate).2

/-- A client starts to listen or to wait for a connection. -/
theorem MuxClient.Polls.of_command {x' : MuxClient} (h : x.Polls) (hstate : x.state = .command)
    (hstate' : x'.state = .command ∨ x'.state = .listen ∨ x'.state = .connecting1)
    (hob : x'.ob = x.ob) (hev : x'.events = x.events) : x'.Polls := by
  have hne : x.state ≠ .connected := by rw [hstate]; exact fun h => nomatch h
  refine ⟨fun _ => ?_, fun _ => ?_, fun _ => ?_, fun hconn => ?_⟩
  · rw [hob]
    exact h.buffer hne
  · rw [hob, hev]
    exact h.output hne
  · rw [hev]
    exact h.input (Or.inl hstate)
  · rw [hconn] at hstate'
    simp at hstate'

theorem ClientStep.polls {c : ClientPtr} {x' : MuxClient} {acts : List Act}
    (h : ClientStep c x acts x') (hx : x.Polls) : x'.Polls := by
  cases h with
  | queue _ _ _ hob => exact hx.fed hob.fed
  | recv | command | inputDone | info => exact hx.congr rfl rfl rfl
  | proto => exact hx.congr rfl rfl rfl
  | events hmask =>
      cases hmask with
      | wake hstate =>
          rcases hstate with hstate | hstate
          · exact .of_connected hstate
          · refine hx.congr rfl rfl (if_neg ?_)
            rw [hstate]
            exact fun h => nomatch h
      | idle hstate hob =>
          refine ⟨hx.buffer, fun _ hne => absurd hob hne, hx.input, fun hconn => ?_⟩
          exact absurd hob (hx.handover hconn).1
  | send hstate _ hnull hmask hsent =>
      refine ⟨fun hne => hnull.trans (hx.buffer hne), fun hne hdata => ?_, fun hin => ?_,
        fun hconn => ⟨hsent hconn, ?_⟩⟩
      · rcases hmask with ⟨_, rfl⟩ | ⟨hempty, _⟩
        · refine hx.output hne fun hnil => hdata ?_
          simp_all
        · exact absurd hempty hdata
      · rcases hmask with ⟨_, rfl⟩ | ⟨_, rfl⟩ <;> exact hx.input hin
      · rcases hmask with ⟨_, rfl⟩ | ⟨_, rfl⟩ <;> exact (hx.handover hconn).2
  | connected => exact .of_connected rfl
  | notifyFail hstate _ _ hob hmask =>
      rw [hmask]
      refine ⟨fun _ => hob.isNull, fun _ _ => rfl, fun _ => ?_, fun hconn => nomatch hconn⟩
      exact hx.input (Or.inr (Or.inr hstate))

theorem RemoteMux.Polls.congr {y' : RemoteMux} (h : y.Polls) (hstate : y'.state = y.state)
    (hob : y'.ob = y.ob) (hev : y'.events = y.events) : y'.Polls := by
  constructor
  · rw [hob, hev]
    exact h.output
  · rw [hstate, hev]
    exact h.input
  · rw [hstate]
    exact h.state

/-- A remote that waits for both, and is not about to be connected. -/
theorem RemoteMux.Polls.of_both (hev : y.events.pollin = true ∧ y.events.pollout = true)
    (hstate : y.state ≠ .connecting2) : y.Polls :=
  ⟨fun _ => hev.2, fun _ => hev.1, hstate⟩

theorem RemoteStep.polls {r : RemotePtr} {y' : RemoteMux} {acts : List Act}
    (h : RemoteStep r y acts y') (hy : y.Polls) : y'.Polls := by
  cases h with
  | recv | relayRecv | frame | inputDone | input | active | clearCommand =>
      exact hy.congr rfl rfl rfl
  | events hmask =>
      cases hmask with
      | idle hob => exact ⟨fun hne => absurd hob hne, hy.input, hy.state⟩
      | wake => exact ⟨fun _ => rfl, hy.input, hy.state⟩
      | ended hstate =>
          refine ⟨hy.output, fun hin => ?_, hy.state⟩
          rw [show y.state = .connected from hstate] at hin
          simp at hin
  | send hob hmask =>
      rcases hmask with ⟨_, rfl⟩ | ⟨hempty, rfl⟩
      · refine ⟨fun hne => hy.output fun hnil => hne ?_, hy.input, hy.state⟩
        rw [show _ = _ from hob, hnil, List.drop_nil]
      · exact ⟨fun hne => absurd hempty hne, hy.input, hy.state⟩
  | listen hstate => exact ⟨hy.output, fun _ => hy.input (Or.inl hstate), fun h => nomatch h⟩
  | connected _ hmask =>
      rw [hmask]
      exact .of_both ⟨rfl, rfl⟩ fun h => nomatch h
  | connected2 hstate => exact absurd hstate hy.state

theorem RemoteMux.Polls.killed {k : UInt8} (h : y.Polls) : (y.killed k).Polls := by
  rw [RemoteMux.killed]
  split
  · refine ⟨h.output, fun hin => ?_, fun h => by cases h⟩
    simp at hin
  · exact h

/-- So does a remote with its first packet. -/
theorem FirstPacket.polls {lossOk : Prop} {r : RemotePtr} {P : Payload → Prop} {acts : List Act}
    (h : FirstPacket lossOk r P y acts) (hstate : y.state ≠ .connecting2) : y.Polls := by
  rcases h with ⟨_, _, hob, hev⟩ | ⟨_, _, _, _, _, hev⟩
  · refine ⟨fun hne => absurd hob hne, fun _ => ?_, hstate⟩
    rw [hev]
  · refine .of_both ?_ hstate
    rw [hev]
    exact ⟨rfl, rfl⟩

end Polls

/-! ## Objects that change in place -/

/-- What may become of a remote while it stays in the list. -/
structure RemoteMux.Evolves (y y' : RemoteMux) : Prop where
  id : y'.id = y.id
  isListener : y'.isListener = y.isListener
  serviceName : y'.serviceName = y.serviceName
  isUnix : y'.isUnix = y.isUnix
  host : y'.host = y.host
  port : y'.port = y.port
  client : y'.client = y.client
  lastCommand : y'.lastCommand = y.lastCommand ∨ y'.lastCommand = none
  state : y'.state = y.state ∨ y'.state = .dead ∨
    (y.state = .command ∧ y.lastCommand = some .listen ∧ y'.state = .listen) ∨
    ((y.state = .connecting1 ∨ y.state = .connecting2) ∧ y'.state = .connected)
  polls : y.Polls → y'.Polls
  fd : y'.fd = y.fd

/-- What may become of a client, links aside. -/
structure MuxClient.Evolves (x x' : MuxClient) : Prop where
  remote : x'.remote = x.remote
  state : x'.state = x.state ∨ (x.state = .command ∧ x'.state = .listen) ∨
    (x.state = .connecting1 ∧ (x'.state = .command ∨ x'.state = .connecting2)) ∨
    (x.state = .connecting2 ∧ x'.state = .connected)
  input : x'.ib.isNull = x.ib.isNull ∨
    (x.state = .connecting1 ∧ x'.state = .connecting2 ∧ x'.ib.isNull = true)
  device : x'.connectDevice = x.connectDevice
  polls : x.Polls → x'.Polls
  fd : x'.fd = x.fd

theorem RemoteMux.Evolves.refl {y : RemoteMux} : y.Evolves y :=
  ⟨rfl, rfl, rfl, rfl, rfl, rfl, rfl, Or.inl rfl, Or.inl rfl, fun hp => hp, rfl⟩

theorem MuxClient.Evolves.refl {x : MuxClient} : x.Evolves x :=
  ⟨rfl, Or.inl rfl, Or.inl rfl, rfl, fun hp => hp, rfl⟩

theorem RemoteStep.evolves {r : RemotePtr} {y y' : RemoteMux} {acts : List Act}
    (h : RemoteStep r y acts y') : y.Evolves y' := by
  have hpolls := h.polls
  cases h with
  | recv | relayRecv | frame | input | events | active | send =>
      exact ⟨rfl, rfl, rfl, rfl, rfl, rfl, rfl, Or.inl rfl, Or.inl rfl, hpolls, rfl⟩
  | inputDone | clearCommand =>
      exact ⟨rfl, rfl, rfl, rfl, rfl, rfl, rfl, Or.inr rfl, Or.inl rfl, hpolls, rfl⟩
  | listen hstate hcmd =>
      exact ⟨rfl, rfl, rfl, rfl, rfl, rfl, rfl, Or.inl rfl,
        Or.inr (Or.inr (Or.inl ⟨hstate, hcmd, rfl⟩)), hpolls, rfl⟩
  | connected hstate =>
      exact ⟨rfl, rfl, rfl, rfl, rfl, rfl, rfl, Or.inr rfl,
        Or.inr (Or.inr (Or.inr ⟨Or.inl hstate, rfl⟩)), hpolls, rfl⟩
  | connected2 hstate =>
      exact ⟨rfl, rfl, rfl, rfl, rfl, rfl, rfl, Or.inl rfl,
        Or.inr (Or.inr (Or.inr ⟨Or.inr hstate, rfl⟩)), hpolls, rfl⟩

theorem ClientStep.evolves {c : ClientPtr} {x x' : MuxClient} {acts : List Act}
    (h : ClientStep c x acts x') : x.Evolves x' := by
  have hpolls := h.polls
  cases h with
  | queue | command | inputDone | proto | info | events | send =>
      exact ⟨rfl, Or.inl rfl, Or.inl rfl, rfl, hpolls, rfl⟩
  | recv _ hnull => exact ⟨rfl, Or.inl rfl, Or.inl hnull, rfl, hpolls, rfl⟩
  | connected hstate =>
      exact ⟨rfl, Or.inr (Or.inr (Or.inr ⟨hstate, rfl⟩)), Or.inl rfl, rfl, hpolls, rfl⟩
  | notifyFail hstate =>
      exact ⟨rfl, Or.inr (Or.inr (Or.inl ⟨hstate, Or.inl rfl⟩)), Or.inl rfl, rfl, hpolls, rfl⟩

theorem RemoteMux.evolves_killed {k : UInt8} {y : RemoteMux} : y.Evolves (y.killed k) := by
  by_cases hid : y.id = k
  · have hdead : y.killed k = { y with state := .dead } := if_pos hid
    have hpolls : y.Polls → (y.killed k).Polls := fun hp => hp.killed
    rw [hdead] at hpolls ⊢
    exact ⟨rfl, rfl, rfl, rfl, rfl, rfl, rfl, Or.inl rfl, Or.inr (Or.inl rfl), hpolls, rfl⟩
  · rw [show y.killed k = y from if_neg hid]
    exact .refl

/-! ## Moves in place -/

/-- Every object stays and evolves; ids and lists are as they were. -/
structure InPlace (s s' : Core) : Prop where
  remote : ∀ {r y}, s.remotes r = some y → ∃ y', s'.remotes r = some y' ∧ y.Evolves y'
  noRemote : ∀ {r}, s.remotes r = none → s'.remotes r = none
  client : ∀ {c x}, s.clients c = some x → ∃ x', s'.clients c = some x' ∧ x.Evolves x'
  noClient : ∀ {c}, s.clients c = none → s'.clients c = none
  remoteIdMap : s'.remoteIdMap = s.remoteIdMap
  remoteList : s'.remoteList = s.remoteList
  nextRemote : s'.nextRemote = s.nextRemote
  nextClient : s'.nextClient = s.nextClient

section InPlace

variable {s s' s'' : Core}

/-- An object after a move in place was there before it. -/
theorem InPlace.remote_before {r : RemotePtr} {y' : RemoteMux} (h : InPlace s s')
    (hy' : s'.remotes r = some y') : ∃ y, s.remotes r = some y ∧ y.Evolves y' := by
  cases hy : s.remotes r with
  | none => cases (h.noRemote hy).symm.trans hy'
  | some y =>
      obtain ⟨y₁, hy₁, he⟩ := h.remote hy
      cases hy₁.symm.trans hy'
      exact ⟨y, rfl, he⟩

theorem InPlace.client_before {c : ClientPtr} {x' : MuxClient} (h : InPlace s s')
    (hx' : s'.clients c = some x') : ∃ x, s.clients c = some x ∧ x.Evolves x' := by
  cases hx : s.clients c with
  | none => cases (h.noClient hx).symm.trans hx'
  | some x =>
      obtain ⟨x₁, hx₁, he⟩ := h.client hx
      cases hx₁.symm.trans hx'
      exact ⟨x, rfl, he⟩

theorem InPlace.of_client {c : ClientPtr} {x x' : MuxClient} {acts : List Act}
    (hx : s.clients c = some x) (he : x.Evolves x') :
    InPlace s ((s.setClient c x').emit acts) where
  remote {r y} hy := ⟨y, hy, .refl⟩
  noRemote h := h
  client {c' z} hz := by
    rw [Core.clients_emit, Core.clients_setClient]
    split
    · next heq =>
        subst heq
        cases hx.symm.trans hz
        exact ⟨x', rfl, he⟩
    · exact ⟨z, hz, .refl⟩
  noClient {c'} hc' := by
    rw [Core.clients_emit, Core.clients_setClient]
    split
    · next heq =>
        subst heq
        cases hx.symm.trans hc'
    · exact hc'
  remoteIdMap := rfl
  remoteList := rfl
  nextRemote := rfl
  nextClient := rfl

theorem InPlace.of_remote {r : RemotePtr} {y y' : RemoteMux} {acts : List Act}
    (hy : s.remotes r = some y) (he : y.Evolves y') :
    InPlace s ((s.setRemote r y').emit acts) where
  remote {r' z} hz := by
    rw [Core.remotes_emit, Core.remotes_setRemote]
    split
    · next heq =>
        subst heq
        cases hy.symm.trans hz
        exact ⟨y', rfl, he⟩
    · exact ⟨z, hz, .refl⟩
  noRemote {r'} hr' := by
    rw [Core.remotes_emit, Core.remotes_setRemote]
    split
    · next heq =>
        subst heq
        cases hy.symm.trans hr'
    · exact hr'
  client {c x} hx := ⟨x, hx, .refl⟩
  noClient h := h
  remoteIdMap := rfl
  remoteList := rfl
  nextRemote := rfl
  nextClient := rfl

/-- A remote and a client at once, as the relay does. -/
theorem InPlace.of_both {r : RemotePtr} {y y' : RemoteMux} {c : ClientPtr} {x x' : MuxClient}
    {acts : List Act} (hy : s.remotes r = some y) (hye : y.Evolves y')
    (hx : s.clients c = some x) (hxe : x.Evolves x') :
    InPlace s (((s.setRemote r y').setClient c x').emit acts) := by
  have hr : InPlace s ((s.setRemote r y').emit acts) := .of_remote hy hye
  have hc : InPlace s ((s.setClient c x').emit acts) := .of_client hx hxe
  exact ⟨hr.remote, hr.noRemote, hc.client, hc.noClient, rfl, rfl, rfl, rfl⟩

theorem InPlace.killId {k : UInt8} : InPlace s (s.killId k) where
  remote {r y} hy := by
    rw [Core.remotes_killId, hy]
    exact ⟨_, rfl, RemoteMux.evolves_killed⟩
  noRemote {r} hr := by
    rw [Core.remotes_killId, hr]
    rfl
  client {c x} hx := ⟨x, hx, .refl⟩
  noClient h := h
  remoteIdMap := rfl
  remoteList := rfl
  nextRemote := rfl
  nextClient := rfl

theorem SameButClients.inPlace (h : SameButClients s s') : InPlace s s' where
  remote {r y} hy := ⟨y, by rw [h.remotes]; exact hy, .refl⟩
  noRemote hr := by rw [h.remotes]; exact hr
  client hx := by
    obtain ⟨ob, e, hx', hfed⟩ := h.client hx
    exact ⟨_, hx', rfl, Or.inl rfl, Or.inl rfl, rfl, fun hp => hp.fed hfed, rfl⟩
  noClient := h.noClient
  remoteIdMap := h.remoteIdMap
  remoteList := h.remoteList
  nextRemote := h.nextRemote
  nextClient := h.nextClient

theorem MuxClient.Evolves.trans_output {x x' : MuxClient} {ob : Buf} {e : PollEvents}
    (h : x.Evolves x') (hfed : x'.Fed ob e) : x.Evolves { x' with ob := ob, events := e } :=
  ⟨h.remote, h.state, h.input, h.device, fun hp => (h.polls hp).fed hfed, h.fd⟩

/-- Output that is queued after a change in place. -/
theorem InPlace.then_same (h : InPlace s s') (h' : SameButClients s' s'') :
    InPlace s s'' where
  remote hy := by
    obtain ⟨y', hy', he⟩ := h.remote hy
    rw [h'.remotes]
    exact ⟨y', hy', he⟩
  noRemote hr := by rw [h'.remotes]; exact h.noRemote hr
  client hx := by
    obtain ⟨x', hx', he⟩ := h.client hx
    obtain ⟨ob, e, hx'', hfed⟩ := h'.client hx'
    exact ⟨_, hx'', he.trans_output hfed⟩
  noClient hc := h'.noClient (h.noClient hc)
  remoteIdMap := h'.remoteIdMap.trans h.remoteIdMap
  remoteList := h'.remoteList.trans h.remoteList
  nextRemote := h'.nextRemote.trans h.nextRemote
  nextClient := h'.nextClient.trans h.nextClient

end InPlace

/-! ## The other moves -/

/-- A new connection and the client it is for. -/
structure Opens (A : Allow) (s s' : Core) (c : ClientPtr) (x x' : MuxClient) (k : UInt8)
    (y : RemoteMux) (acts : List Act) : Prop where
  result : s' = ((s.setClient c x').addRemote y).emit acts
  client : s.clients c = some x
  command : x.state = .command
  endpoint : EndpointFor s k y
  new : NewConnection y
  allowed : A.openOk s c k y
  kind : (ConnectRemote c k y ∧ x'.state = .connecting1) ∨
    (RequestRemote A.lossOk c y ∧ x'.state = .command)
  link : x'.remote = some ⟨s.nextRemote⟩
  input : x'.ib = x.ib
  polls : x.Polls → x'.Polls
  polls_new : y.Polls
  descriptor : x'.fd = x.fd ∧ A.remoteFdOk s y.fd
  logged : ∃ state, .openRemote c ⟨s.nextRemote⟩ state ∈ acts

theorem Opens.clients_cases {A : Allow} {s s' : Core} {c c' : ClientPtr} {x x' z : MuxClient}
    {k : UInt8} {y : RemoteMux} {acts : List Act} (ho : Opens A s s' c x x' k y acts)
    (hz : s'.clients c' = some z) : (c' = c ∧ z = x') ∨ s.clients c' = some z := by
  rw [ho.result, Core.clients_emit, Core.clients_addRemote, Core.clients_setClient] at hz
  split at hz
  · next hc => exact Or.inl ⟨hc, (Option.some.inj hz).symm⟩
  · exact Or.inr hz

/-- A move by what it does to the set of live objects. -/
inductive Shape (A : Allow) (s s' : Core) : Prop where
  | inPlace (h : InPlace s s')
  | accept {fd : Nat} (hfd : A.acceptOk s fd)
      (h : s' = { s.addClient (newClient fd s.clientNumber) with
        clientNumber := s.clientNumber + 1 })
  | opens {c : ClientPtr} {x x' : MuxClient} {k : UInt8} {y : RemoteMux} {acts : List Act}
      (h : Opens A s s' c x x' k y acts)
  | addListener {y : RemoteMux} {acts : List Act} (hnew : NewListener s y)
      (h : s' = { s.addRemote y with
        remoteIdMap := setRemoteIdUsed s.remoteIdMap y.id true }.emit acts) (hok : A.growOk)
      (hname : y.serviceName = y.host ∨ A.namedOk) (hpolls : y.Polls) (hfd : A.remoteFdOk s y.fd)
  | closeClient {c : ClientPtr} {x : MuxClient} (hx : s.clients c = some x)
      (h : s' = s.closeClient c x) (hok : A.leaveOk s c x)
  | closeRemote {r : RemotePtr} {y : RemoteMux} (hy : s.remotes r = some y)
      (hclient : y.client = none) (hok : A.closeOk s r y) (h : s' = s.dropRemote r)
  | dispose {r : RemotePtr} {y : RemoteMux} (hy : s.remotes r = some y)
      (hwhy : (y.state = .dead ∧ A.reapOk) ∨ A.disposeOk s r y) (h : s' = s.dispose r y)
      (hclear : ∀ key ∈ s.remoteDeviceList.keys, keyDevice key >>> 24 ≠ y.id.toUInt32)

/-- Objects go and nothing else happens to any of them. -/
structure Leaves (s s' : Core) : Prop where
  client : ∀ {c x}, s'.clients c = some x → s.clients c = some x
  remote : ∀ {r y}, s'.remotes r = some y → s.remotes r = some y
  nextRemote : s'.nextRemote = s.nextRemote

section Leaves

variable {s : Core} {c : ClientPtr} {x : MuxClient} {r : RemotePtr} {y : RemoteMux}

theorem Leaves.closeClient : Leaves s (s.closeClient c x) where
  client {c' z} hz := by
    rw [Core.clients_closeClient] at hz
    split at hz
    · cases hz
    · exact hz
  remote {r y} hy := by
    rw [Core.remotes_closeClient] at hy
    split at hy
    · cases hy
    · exact hy
  nextRemote := by
    rw [Core.closeClient]
    cases x.remote <;> rfl

theorem Leaves.dropRemote : Leaves s (s.dropRemote r) where
  client hz := hz
  remote {r' y} hy := by
    rw [Core.remotes_dropRemote] at hy
    split at hy
    · cases hy
    · exact hy
  nextRemote := rfl

theorem Leaves.dispose : Leaves s (s.dispose r y) where
  client {c' z} hz := by
    rw [Core.clients_dispose] at hz
    split at hz
    · cases hz
    · exact hz
  remote {r' y} hy := by
    rw [Core.remotes_dispose] at hy
    split at hy
    · cases hy
    · exact hy
  nextRemote := by
    rw [Core.dispose, Core.releaseId]
    cases y.client <;> split <;> rfl

end Leaves

theorem Move.shape {A : Allow} {s s' : Core} (hm : Move A s s') : Shape A s s' := by
  cases hm with
  | client hx h => exact .inPlace (.of_client hx h.evolves)
  | remote hy h => exact .inPlace (.of_remote hy h.evolves)
  | forward _ _ _ _ _ hx hob =>
      exact .inPlace (.of_client hx
        ⟨rfl, Or.inl rfl, Or.inl rfl, rfl, fun hp => hp.fed hob.fed, rfl⟩)
  | relayRead hx hstate _ hy hob =>
      exact .inPlace (.of_both hy ⟨rfl, rfl, rfl, rfl, rfl, rfl, rfl, Or.inl rfl, Or.inl rfl,
        fun hp => ⟨fun _ => rfl, hp.input, hp.state⟩, rfl⟩ hx
        ⟨rfl, Or.inl rfl, Or.inl rfl, rfl, fun _ => .of_connected hstate, rfl⟩)
  | relayWrite hx hstate _ hy =>
      exact .inPlace (.of_both hy ⟨rfl, rfl, rfl, rfl, rfl, rfl, rfl, Or.inl rfl, Or.inl rfl,
        fun hp => hp.congr rfl rfl rfl, rfl⟩ hx
        ⟨rfl, Or.inl rfl, Or.inl rfl, rfl, fun _ => .of_connected hstate, rfl⟩)
  | accept hfd => exact .accept hfd rfl
  | connect hx hstate hend hnew hkind hacts hok hfd =>
      refine .opens ⟨rfl, hx, hstate, hend, hnew, hok, Or.inl ⟨hkind, rfl⟩, rfl, rfl,
        fun hp => hp.of_command hstate (Or.inr (Or.inr rfl)) rfl rfl, hacts.polls ?_,
        ⟨rfl, hfd⟩, _, List.mem_cons_self⟩
      rw [hkind.1]
      exact fun h => nomatch h
  | request hx hstate hend hnew hkind hacts hok hfd hqueued =>
      refine .opens ⟨rfl, hx, hstate, hend, hnew, hok, Or.inr ⟨hkind, hstate⟩, rfl, rfl,
        fun hp => hp.congr rfl rfl rfl, hacts.polls ?_, ⟨rfl, hfd⟩, _, List.mem_cons_self⟩
      rw [hkind.1]
      exact fun h => nomatch h
  | notifyOk hy hconn _ hx hstate _ hob hmask =>
      refine .inPlace (.of_both hy ⟨rfl, rfl, rfl, rfl, rfl, rfl, rfl, Or.inr rfl,
        Or.inr (Or.inr (Or.inr ⟨Or.inl hconn, rfl⟩)), fun _ => ?_, rfl⟩ hx
        ⟨rfl, Or.inr (Or.inr (Or.inl ⟨hstate, Or.inr rfl⟩)), Or.inr ⟨hstate, rfl, rfl⟩, rfl,
          fun _ => ?_, rfl⟩)
      · rw [hmask]
        exact .of_both ⟨rfl, rfl⟩ fun h => nomatch h
      · refine ⟨fun _ => hob.isNull, fun _ _ => rfl, fun hin => ?_, fun _ => ⟨?_, rfl⟩⟩
        · simp at hin
        · rw [hob.data]
          simp [packetBytes, Header.bytes, le32]
  | addListener hnew hacts hok hname hfd =>
      refine .addListener hnew rfl hok hname (hacts.polls ?_) hfd
      rw [hnew.state]
      exact fun h => nomatch h
  | closeClient hx _ hok => exact .closeClient hx rfl hok
  | closeRemote hy hclient hok => exact .closeRemote hy hclient hok rfl
  | dispose hy _ hwhy hclear => exact .dispose hy hwhy rfl hclear
  | killId => exact .inPlace .killId
  | deviceSet _ hn | deviceErase _ hn => exact .inPlace hn.announces.same.withDevices.inPlace
  | listen hx hstate hn =>
      refine .inPlace (InPlace.then_same (InPlace.of_client hx ?_) hn.announces.same)
      exact ⟨rfl, Or.inr (Or.inl ⟨hstate, rfl⟩), Or.inl rfl, rfl,
        fun hp => hp.of_command hstate (Or.inr (Or.inl rfl)) rfl rfl, rfl⟩

/-! ## Devices -/

theorem Core.remoteDeviceList_dispose {s : Core} {r : RemotePtr} {y : RemoteMux} :
    (s.dispose r y).remoteDeviceList = s.remoteDeviceList := by
  rw [dispose, releaseId]
  cases y.client <;> split <;> rfl

/-- What a move can do to the device dictionary. -/
theorem Move.devices {A : Allow} {s s' : Core} (hm : Move A s s') :
    s'.remoteDeviceList = s.remoteDeviceList ∨
      (∃ devid dev, Announced s devid ∧
        s'.remoteDeviceList = s.remoteDeviceList.set (deviceKey devid) dev) ∨
      ∃ key, Notified A.lossOk (.detached (keyDevice key)) s.clientList.elems s
          { s' with remoteDeviceList := s.remoteDeviceList } ∧
        s'.remoteDeviceList = s.remoteDeviceList.erase key := by
  cases hm with
  | client | remote | forward | relayRead | relayWrite | accept | connect | request | notifyOk
  | addListener | closeRemote | killId => exact Or.inl rfl
  | @closeClient c x =>
      left
      rw [Core.closeClient]
      cases x.remote <;> rfl
  | dispose => exact Or.inl Core.remoteDeviceList_dispose
  | deviceSet _ _ hfrom => exact Or.inr (Or.inl ⟨_, _, hfrom, rfl⟩)
  | @deviceErase key s' _ hn =>
      refine Or.inr (Or.inr ⟨key, ?_, rfl⟩)
      rw [← hn.announces.remoteDeviceList]
      exact hn
  | listen _ _ hn => exact Or.inl hn.announces.remoteDeviceList

end Usbfluxd
