import Usbfluxd.Proofs.MainLoop
import Usbfluxd.Proofs.Locks
import Usbfluxd.Proofs.Waiting

/-!
# The life of a client's input buffer

`client_notify_connect` frees the input buffer of the client it tells that it
is connected. Nothing reads the buffer after that, but the reason is not in
`process_recv`, which asks neither for the state nor for the buffer: it is in
the order of the poll set. A client is told by a remote's event, and those
come after all the clients'. So while entries of clients are left, no client
has become `CLIENT_CONNECTING2` since `poll`, and one that was in that state
had not asked for input.

The states a client goes through are read off the moves on the way.
-/

namespace Usbfluxd

open Lib

/-! ## The states of a client -/

section States

variable {A : Allow} {s s' : Core}

end States

/-! ## Who frees the buffer -/

/-- The input buffer is there until the client is told that it is connected. -/
def InputHeld (s : Core) : Prop :=
  ∀ c x, s.clients c = some x → x.state ≠ .connecting2 → x.state ≠ .connected →
    x.ib.isNull = false

section InputHeld

variable {A : Allow} {s s' : Core}

theorem MuxClient.Evolves.input_held {x x' : MuxClient} (he : x.Evolves x')
    (h : x.state ≠ .connecting2 → x.state ≠ .connected → x.ib.isNull = false)
    (hconn2 : x'.state ≠ .connecting2) (hconn : x'.state ≠ .connected) :
    x'.ib.isNull = false := by
  have hsame : x'.ib.isNull = x.ib.isNull := by
    rcases he.input with heq | ⟨_, hx', _⟩
    · exact heq
    · exact absurd hx' hconn2
  rw [hsame]
  rcases he.state with heq | ⟨hx, _⟩ | ⟨hx, _⟩ | ⟨_, hx'⟩
  · rw [heq] at hconn2 hconn
    exact h hconn2 hconn
  · exact h (by rw [hx]; decide) (by rw [hx]; decide)
  · exact h (by rw [hx]; decide) (by rw [hx]; decide)
  · exact absurd hx' hconn

theorem InputHeld.leaves (h : InputHeld s) (hl : Leaves s s') : InputHeld s' :=
  fun c x hx => h c x (hl.client hx)

theorem InputHeld.move (hm : Move A s s') (h : InputHeld s) : InputHeld s' := by
  cases hm.shape with
  | inPlace hp =>
      intro c x' hx'
      obtain ⟨x, hx, he⟩ := hp.client_before hx'
      exact he.input_held (h c x hx)
  | accept _ heq =>
      rw [heq]
      intro c x hx hconn2 hconn
      rcases Core.clients_addClient_cases hx with ⟨_, rfl⟩ | hx
      · rfl
      · exact h c x hx hconn2 hconn
  | opens ho =>
      intro c z hz hconn2 hconn
      rcases ho.clients_cases hz with ⟨_, rfl⟩ | hz
      · rw [ho.input]
        exact h _ _ ho.client (by rw [ho.command]; decide) (by rw [ho.command]; decide)
      · exact h c z hz hconn2 hconn
  | addListener _ heq =>
      rw [heq]
      exact h
  | closeClient _ heq =>
      rw [heq]
      exact h.leaves .closeClient
  | closeRemote _ _ _ heq =>
      rw [heq]
      exact h.leaves .dropRemote
  | dispose _ _ heq =>
      rw [heq]
      exact h.leaves .dispose

theorem InputHeld.initial (h : Initial s) : InputHeld s := by
  intro c x hx
  cases h with
  | empty | listener => cases hx

end InputHeld

/-! ## Only a remote's event frees it -/

section Handover

variable {A : Allow} {s s' : Core}

theorem ClientStep.not_handover {c : ClientPtr} {x x' : MuxClient} {acts : List Act}
    (h : ClientStep c x acts x') (hstate : x'.state = .connecting2) :
    x.state = .connecting2 ∧ x.fd = x'.fd := by
  cases h with
  | queue | recv | command | inputDone | proto | info | events | send => exact ⟨hstate, rfl⟩
  | connected | notifyFail => cases hstate

/-- The client was in `CLIENT_CONNECTING2` before, under the same number. -/
def WasHandedOver (s : Core) (c : ClientPtr) (x' : MuxClient) : Prop :=
  x'.state = .connecting2 → ∃ x, s.clients c = some x ∧ x.state = .connecting2 ∧ x.fd = x'.fd

theorem WasHandedOver.setClient {c c' : ClientPtr} {x z x' : MuxClient}
    (hx' : s'.clients c' = some x') (hs : s'.clients = (s.setClient c z).clients)
    (hx : s.clients c = some x)
    (hset : z.state = .connecting2 → x.state = .connecting2 ∧ x.fd = z.fd) :
    WasHandedOver s c' x' := by
  intro hstate
  rw [hs, Core.clients_setClient] at hx'
  split at hx'
  · next hc =>
      cases hx'
      obtain ⟨hconn2, hfd⟩ := hset hstate
      exact ⟨x, hc ▸ hx, hconn2, hfd⟩
  · exact ⟨x', hx', hstate, rfl⟩

theorem SameButClients.handedOver {c : ClientPtr} {x' : MuxClient} (h : SameButClients s s')
    (hx' : s'.clients c = some x') : WasHandedOver s c x' := by
  intro hstate
  cases hx : s.clients c with
  | none => cases (h.noClient hx).symm.trans hx'
  | some x =>
      obtain ⟨ob, e, hx₁, _⟩ := h.client hx
      cases hx₁.symm.trans hx'
      exact ⟨x, rfl, hstate, rfl⟩

/-- No other move takes a client to `CLIENT_CONNECTING2`. -/
theorem Move.handedOver {c' : ClientPtr} {x' : MuxClient} (hno : ¬ A.remoteOk) (hm : Move A s s')
    (hx' : s'.clients c' = some x') : WasHandedOver s c' x' := by
  have hkept : s.clients c' = some x' → WasHandedOver s c' x' :=
    fun h hstate => ⟨x', h, hstate, rfl⟩
  cases hm with
  | client hx h => exact .setClient hx' rfl hx h.not_handover
  | remote | closeRemote | killId | addListener => exact hkept hx'
  | forward _ _ _ _ _ hx => exact .setClient hx' rfl hx fun hstate => ⟨hstate, rfl⟩
  | relayRead hx | relayWrite hx => exact .setClient hx' rfl hx fun hstate => ⟨hstate, rfl⟩
  | accept =>
      rcases Core.clients_addClient_cases hx' with ⟨_, rfl⟩ | hx
      · exact fun hstate => nomatch hstate
      · exact hkept hx
  | connect hx => exact .setClient hx' rfl hx fun hstate => by cases hstate
  | request hx => exact .setClient hx' rfl hx fun hstate => ⟨hstate, rfl⟩
  | notifyOk _ _ _ _ _ _ _ _ hok => exact absurd hok hno
  | closeClient => exact hkept (Leaves.closeClient.client hx')
  | dispose => exact hkept (Leaves.dispose.client hx')
  | deviceSet _ hn | deviceErase _ hn => exact hn.announces.same.handedOver hx'
  | listen hx hstate hn =>
      intro hconn2
      obtain ⟨z, hz, hz2, hfd⟩ := hn.announces.same.handedOver hx' hconn2
      obtain ⟨z₀, hz₀, hz₂, hfd'⟩ :=
        WasHandedOver.setClient hz rfl hx (fun hstate => by cases hstate) hz2
      exact ⟨z₀, hz₀, hz₂, hfd'.trans hfd⟩

/-- Nor does a chain of them. -/
theorem Moves.handedOver {c : ClientPtr} {x' : MuxClient} (hno : ¬ A.remoteOk)
    (hm : Moves A s s') (hx' : s'.clients c = some x') : WasHandedOver s c x' := by
  induction hm generalizing x' with
  | refl => exact fun hstate => ⟨x', hx', hstate, rfl⟩
  | tail _ hmove ih =>
      intro hstate
      obtain ⟨x₁, hx₁, hstate₁, hfd₁⟩ := hmove.handedOver hno hx' hstate
      obtain ⟨x, hx, hstate, hfd⟩ := ih hx₁ hstate₁
      exact ⟨x, hx, hstate, hfd.trans hfd₁⟩

end Handover

/-! ## The poll set -/

/-- The clients come first in the poll set, and those that are left have not
become `CLIENT_CONNECTING2` if they had asked for input. -/
structure InputAsked (L : LoopState) : Prop where
  order : L.fds.Pairwise fun p q => (∃ r, p.owner = .remote r) → ∀ c, q.owner ≠ .client c
  reported : ∀ p ∈ L.fds, p.revents.pollin = true → p.events.pollin = true
  client : ∀ p ∈ L.fds, ∀ c₀, p.owner = .client c₀ → p.events.pollin = true →
    ∀ c x, L.daemon.clients c = some x → x.fd = p.fd → x.state ≠ .connecting2

section InputAsked

variable {plat : Platform} {L L' : LoopState} {ev : LoopEvent}

/-- The poll set of a new iteration. -/
theorem InputAsked.collect (hd : DistinctFds L.daemon.toCore) (hpoll : Polling L.daemon.toCore) :
    InputAsked (L.next L.daemon .getClientFds) where
  order := by
    refine List.pairwise_cons.mpr ⟨fun q _ hr => ?_, List.Pairwise.imp_of_mem ?_
      (List.pairwise_of_forall (R := fun _ _ => True) fun _ _ => trivial)⟩
    · obtain ⟨r, hr⟩ := hr
      cases hr
    · intro p q hp _ _ hr
      obtain ⟨r, hr⟩ := hr
      obtain ⟨c, x, _, rfl⟩ := mem_clientEntries hp
      cases hr
  reported p hp hin := by
    rcases List.mem_cons.mp hp with rfl | hp
    · cases hin
    · obtain ⟨c, x, _, rfl⟩ := mem_clientEntries hp
      cases hin
  client p hp c₀ howner hin c x hx hfd hstate := by
    rcases List.mem_cons.mp hp with rfl | hp
    · cases howner
    · obtain ⟨c₁, x₁, hx₁, rfl⟩ := mem_clientEntries hp
      obtain rfl : c = c₁ := hd.client hx hx₁ hfd
      cases hx.symm.trans hx₁
      exact Bool.false_ne_true (((hpoll.client hx).handover hstate).2.symm.trans hin)

/-- An entry that is left is of a state in which it was left, too. -/
theorem InputAsked.sub (h : InputAsked L) (hsub : L'.fds.Sublist L.fds)
    (hstate : ∀ p ∈ L'.fds, ∀ c₀, p.owner = .client c₀ → ∀ c x', L'.daemon.clients c = some x' →
      x'.fd = p.fd → WasHandedOver L.daemon.toCore c x') : InputAsked L' where
  order := h.order.sublist hsub
  reported p hp := h.reported p (hsub.subset hp)
  client p hp c₀ howner hin c x' hx' hfd hconn2 := by
    obtain ⟨x, hx, hx2, hfd'⟩ := hstate p hp c₀ howner c x' hx' hfd hconn2
    exact h.client p (hsub.subset hp) c₀ howner hin c x hx (hfd'.trans hfd) hx2

/-- After `poll` the remotes are in the set, too, and something may be
reported. -/
theorem InputAsked.polled {now : Nat} {ready : PollFd → PollEvents} (h : InputAsked L)
    (hsame : ∀ c x', L'.daemon.clients c = some x' → WasHandedOver L.daemon.toCore c x')
    (heq : L' = L.next L'.daemon (.poll now ready)) : InputAsked L' := by
  have hfds : L'.fds = (L.fds ++ remoteEntries L'.daemon.toCore).map fun p =>
      { p with revents := p.events.reported (ready p) } := by
    rw [heq]
    rfl
  have hremote : ∀ q ∈ remoteEntries L'.daemon.toCore, ∀ c, q.owner ≠ .client c := by
    intro q hq c hc
    obtain ⟨r, y, _, rfl⟩ := mem_remoteEntries hq
    cases hc
  constructor
  · rw [hfds, List.pairwise_map, List.pairwise_append]
    refine ⟨h.order, ?_, fun p _ q hq _ => hremote q hq⟩
    exact List.Pairwise.imp_of_mem (fun {p q} _ hq _ _ c => hremote q hq c)
      (List.pairwise_of_forall (R := fun _ _ => True) fun _ _ => trivial)
  · intro p hp hin
    rw [hfds] at hp
    obtain ⟨q, _, rfl⟩ := List.mem_map.mp hp
    exact (Bool.and_eq_true_iff.mp hin).1
  · intro p hp c₀ howner hin c x' hx' hfd hstate
    rw [hfds] at hp
    obtain ⟨q, hq, rfl⟩ := List.mem_map.mp hp
    rcases List.mem_append.mp hq with hq | hq
    · obtain ⟨x, hx, hx2, hfd'⟩ := hsame c x' hx' hstate
      exact h.client q hq c₀ howner hin c x hx (hfd'.trans hfd) hx2
    · exact hremote q hq c₀ howner

/-- When a remote's entry is next, no entry of a client is left. -/
theorem InputAsked.no_client (h : InputAsked L) {p : PollFd} {rest : List PollFd}
    {r : RemotePtr} (hfds : L.fds = p :: rest) (hp : p.owner = .remote r) :
    ∀ q ∈ L.fds, ∀ c, q.owner ≠ .client c := by
  intro q hq c hc
  have horder := h.order
  rw [hfds] at hq horder
  rcases List.mem_cons.mp hq with rfl | hq
  · cases hp.symm.trans hc
  · exact (List.pairwise_cons.mp horder).1 q hq ⟨r, hp⟩ c hc

theorem InputAsked.step (hr : LoopReachable plat L) (h : InputAsked L)
    (hen : L.enabled ev = true) (hk : Kernel L ev) (hs : loopStep plat L ev = .ok L') :
    InputAsked L' := by
  have hm : Moves (.fds (fun _ => True) (fun _ => True) _) L.daemon.toCore L'.daemon.toCore :=
    loopStep_moves (reachable_wf hr.daemon) hk (fun _ _ => trivial) (fun _ _ => trivial) id hs
  obtain ⟨⟨s, hnext, hdaemon⟩, -⟩ := loopStep_daemon hs
  -- a client that is told has no entry left, nor has any other
  have hkept : ∀ p ∈ L.fds, ∀ c₀, p.owner = .client c₀ → ∀ c x',
      L'.daemon.clients c = some x' → WasHandedOver L.daemon.toCore c x' := by
    intro p hp c₀ howner c x' hx'
    refine hm.handedOver ?_ hx'
    intro hremote
    obtain ⟨q, rest, r, hfds, hq⟩ := hremote
    exact h.no_client hfds hq p hp c₀ howner
  cases ev with
  | getClientFds =>
      have heq : s = L.daemon := by
        rcases (loopStep_daemon hs).2 with ⟨_, heq⟩ | ⟨e, he, _⟩
        · exact hdaemon.symm.trans heq
        · cases he
      rw [hnext, heq]
      exact .collect (loopReachable_distinct hr) (reachable_waiting hr.daemon).2.1
  | poll now ready =>
      refine InputAsked.polled h (fun c x' hx' => ?_) (hdaemon ▸ hnext)
      rcases (loopStep_daemon hs).2 with ⟨he, _⟩ | ⟨e, he, hstep⟩
      · cases he
      · cases he
        have hpoll : Moves (.fds (fun _ => True) (fun _ => True) False) L.daemon.toCore
            L'.daemon.toCore := step_moves (e := .getFds now) (reachable_wf hr.daemon) trivial hstep
        exact hpoll.handedOver id hx'
  | dispatch cfd sys =>
      refine h.sub ?_ ?_
      · rw [hnext]
        exact List.tail_sublist _
      · intro p hp c₀ howner c x' hx' _
        rw [hnext] at hp
        exact hkept p (List.mem_of_mem_tail hp) c₀ howner c x' hx'
  | mdnsAdd | mdnsRemove =>
      refine h.sub ?_ ?_
      · rw [hnext]
        exact List.Sublist.refl _
      · intro p hp c₀ howner c x' hx' _
        rw [hnext] at hp
        exact hkept p hp c₀ howner c x' hx'

end InputAsked

/-! ## The buffer is not used after it was freed -/

/-- `process_recv` is entered next, for this client. -/
def LoopState.EntersRecv (L : LoopState) (c : ClientPtr) (x : MuxClient) : Prop :=
  L.phase = .dispatching ∧ ∃ p rest c₀, L.fds = p :: rest ∧ p.owner = .client c₀ ∧
    findClient L.daemon p.fd L.daemon.clientList.elems = .ok (some (c, x)) ∧
    x.state ≠ .connected ∧ p.revents.pollin = true

section Life

variable {plat : Platform} {L L' : LoopState} {ev : LoopEvent} {c : ClientPtr} {x : MuxClient}

/-- That is what the dispatch of the next entry comes down to. -/
theorem LoopState.EntersRecv.handle (h : L.EntersRecv c x)
    (hlock : L.daemon.clientListLocked = false) (cfd : Option Nat) (sys : Sys) :
    L.handle plat (.dispatch cfd sys) = processRecv plat sys L.daemon c := by
  obtain ⟨_, p, rest, c₀, hfds, howner, hfind, hstate, hin⟩ := h
  have hne : p.revents ≠ {} := by
    intro he
    rw [he] at hin
    cases hin
  have hevent : L.event (.dispatch cfd sys) = some (.client p.fd p.revents sys) := by
    rw [LoopState.event, hfds, List.head?_cons, Option.bind_some, PollFd.event, if_neg hne,
      howner]
  rw [LoopState.handle, hevent]
  show clientProcess plat sys L.daemon p.fd p.revents = _
  rw [clientProcess_eq hlock, hfind]
  show (if _ then _ else _) = _
  rw [if_neg hstate, if_pos hin]

end Life

end Usbfluxd
