import Usbfluxd.Moves.WF

/-!
# Programs that make moves

`Runs` is the judgement the functions of the source are proved against: the
program may fault or return, and when it returns its result satisfies a
condition, most often that the new state is some moves away. A fault is
blamed on a state that moves lead to, so that a fault can be excluded by an
invariant of moves as well.

The rest of the module is the primitive operations: reading and writing
through pointers, appending to output buffers, and queueing packets on
clients and remotes. From here on the code above them is never unfolded down
to a buffer again.
-/

namespace Usbfluxd

open Lib

/-! ## The judgement -/

/-- What is wrong in the state in which a fault happens: following
`client->remote` takes a client whose remote is gone, or one in the states
that need a remote without any. -/
def FaultAt (s : Core) : Fault → Prop
  | .clientRemote c => ∃ x, s.clients c = some x ∧
      ((∃ r, x.remote = some r ∧ s.remotes r = none) ∨
        (x.remote = none ∧ (x.state = .connecting2 ∨ x.state = .connected)))
  | _ => True

/-- A fault is explained by a state that moves lead to. -/
def Blame (A : Allow) (s : Core) (f : Fault) : Prop :=
  ∃ s', Moves A s s' ∧ FaultAt s' f

/-- A program started in `s` returns something that satisfies `Q`, or faults
for a reason. -/
def Runs {α : Type} (A : Allow) (s : Core) (Q : α → Prop) (m : Except Fault α) : Prop :=
  Post (Blame A s) Q m

section Rules

variable {A : Allow} {s s' : Core} {α β : Type} {P Q : α → Prop} {R : β → Prop}

theorem Blame.of_faultAt {f : Fault} (h : FaultAt s f) : Blame A s f := ⟨s, Moves.refl, h⟩

theorem Blame.after {f : Fault} (hm : Moves A s s') (h : Blame A s' f) : Blame A s f := by
  obtain ⟨t, ht, hf⟩ := h
  exact ⟨t, hm.trans ht, hf⟩

theorem Runs.pure {a : α} (h : Q a) : Runs A s Q (Pure.pure a) := h

theorem Runs.fault {f : Fault} (h : FaultAt s f) : Runs A s Q (.error f) :=
  Blame.of_faultAt h

theorem Runs.imp {m : Except Fault α} (h : Runs A s P m) (hQ : ∀ a, P a → Q a) :
    Runs A s Q m :=
  Post.imp h (fun _ hf => hf) hQ

/-- A result may be used together with the equation that produced it. -/
theorem Runs.withEq {m : Except Fault α} (h : Runs A s Q m) :
    Runs A s (fun a => Q a ∧ m = .ok a) m :=
  Post.intro (fun _ hm => ⟨Post.of_ok h hm, hm⟩) fun _ hm => Post.of_error h hm

theorem Runs.bind {m : Except Fault α} {f : α → Except Fault β} (hm : Runs A s P m)
    (hf : ∀ a, P a → Runs A s R (f a)) : Runs A s R (m >>= f) :=
  Post.bind hm hf

theorem Runs.ite {p : Prop} [Decidable p] {m m' : Except Fault α} (h : p → Runs A s Q m)
    (h' : ¬ p → Runs A s Q m') : Runs A s Q (if p then m else m') := by
  by_cases hp : p
  · rw [if_pos hp]
    exact h hp
  · rw [if_neg hp]
    exact h' hp

/-- What a program does after some moves, it does. -/
theorem Runs.after {m : Except Fault α} (hm : Moves A s s') (h : Runs A s' Q m) :
    Runs A s Q m :=
  Post.imp h (fun _ hf => hf.after hm) fun _ ha => ha

end Rules

/-! ## Weaker restrictions -/

/-- What `A` allows, `B` does. -/
structure Allow.Le (A B : Allow) : Prop where
  openOk : ∀ {s c k y}, A.openOk s c k y → B.openOk s c k y
  closeOk : ∀ {s r y}, A.closeOk s r y → B.closeOk s r y
  disposeOk : ∀ {s r y}, A.disposeOk s r y → B.disposeOk s r y
  forwardOk : ∀ {state}, A.forwardOk state → B.forwardOk state
  reapOk : A.reapOk → B.reapOk
  lossOk : A.lossOk = B.lossOk
  binaryOk : A.binaryOk → B.binaryOk
  growOk : A.growOk → B.growOk
  namedOk : A.namedOk → B.namedOk
  acceptOk : ∀ {s fd}, A.acceptOk s fd → B.acceptOk s fd
  remoteFdOk : ∀ {s fd}, A.remoteFdOk s fd → B.remoteFdOk s fd
  remoteOk : A.remoteOk → B.remoteOk
  killOk : A.killOk → B.killOk
  leaveOk : ∀ {s c x}, A.leaveOk s c x → B.leaveOk s c x

section Mono

variable {A B : Allow} {s s' : Core}

theorem Move.mono (hle : A.Le B) (h : Move A s s') : Move B s s' := by
  cases h with
  | client hx h => exact .client hx h
  | remote hy h hok => exact .remote hy h (hok.imp id hle.remoteOk)
  | forward hy hstate hcmd hne hclient hx hob hok =>
      exact .forward hy hstate hcmd hne hclient hx hob (hle.forwardOk hok)
  | relayRead hx hstate hremote hy hob hmask => exact .relayRead hx hstate hremote hy hob hmask
  | relayWrite hx hstate hremote hy hib hmask =>
      exact .relayWrite hx hstate hremote hy hib hmask
  | accept hfd => exact .accept (hle.acceptOk hfd)
  | connect hx hstate hend hnew hkind hacts hok hfd =>
      exact .connect hx hstate hend hnew hkind (hle.lossOk ▸ hacts) (hle.openOk hok)
        (hle.remoteFdOk hfd)
  | request hx hstate hend hnew hkind hacts hok hfd hqueued =>
      exact .request hx hstate hend hnew (hle.lossOk ▸ hkind) (hle.lossOk ▸ hacts)
        (hle.openOk hok) (hle.remoteFdOk hfd) hqueued
  | notifyOk hy hconn hclient hx hstate hpkt hob hmask hok =>
      exact .notifyOk hy hconn hclient hx hstate hpkt hob hmask (hle.remoteOk hok)
  | addListener hnew hacts hok hname hfd =>
      exact .addListener hnew hacts (hle.growOk hok) (hname.imp id hle.namedOk)
        (hle.remoteFdOk hfd)
  | closeClient hx hlive hok => exact .closeClient hx hlive (hle.leaveOk hok)
  | closeRemote hy hclient hok => exact .closeRemote hy hclient (hle.closeOk hok)
  | dispose hy hlive hwhy hclear =>
      exact .dispose hy hlive (hwhy.imp (fun h => ⟨h.1, hle.reapOk h.2⟩) hle.disposeOk) hclear
  | killId hy hok => exact .killId hy (hle.killOk hok)
  | deviceSet hdev h hfrom =>
      exact .deviceSet (hdev.imp id hle.binaryOk) (hle.lossOk ▸ h) hfrom
  | deviceErase hkey h => exact .deviceErase hkey (hle.lossOk ▸ h)
  | listen hx hstate h hok => exact .listen hx hstate (hle.lossOk ▸ h) (hle.growOk hok)

theorem Moves.mono (hle : A.Le B) (h : Moves A s s') : Moves B s s' :=
  Relation.ReflTransGen.mono (fun _ _ hm => Move.mono hle hm) _ _ h

theorem Runs.mono {α : Type} {Q : α → Prop} {m : Except Fault α} (hle : A.Le B)
    (h : Runs A s Q m) : Runs B s Q m :=
  Post.imp h (fun _ ⟨t, ht, hf⟩ => ⟨t, ht.mono hle, hf⟩) fun _ ha => ha

end Mono

/-! ## Phases

Remotes die in one place, `remote_mark_dead`, which sees to it that they are
disposed of: it wakes up a live remote, whose event will do so, or disposes of
all of them at once. Until the end of the event after that nothing happens
that takes back the wake-up. -/

/-- When a remote is dead, a live one is going to have an event. -/
def ReapDue (s : Core) : Prop :=
  ∀ r y, s.remotes r = some y → y.state = .dead →
    ∃ r' y', s.remotes r' = some y' ∧ y'.state ≠ .dead ∧ y'.events.pollout = true

/-- The same moves while no remote dies and no dead one is disposed of. -/
def Allow.noKill (A : Allow) : Allow := { A with reapOk := False, killOk := False }

/-- The same moves while no remote dies, leaves or has an event. -/
def Allow.calm (A : Allow) : Allow :=
  { A.noKill with
    closeOk := fun _ _ _ => False
    disposeOk := fun _ _ _ => False
    remoteOk := False
    leaveOk := fun _ _ _ => False }

/-- Moves of which none kills, or moves to a state where one is due and calm ones from
there on. -/
def Phase (A : Allow) (s s' : Core) : Prop :=
  Moves A.noKill s s' ∨ ∃ t, Moves A s t ∧ ReapDue t ∧ Moves A.calm t s'

section Phases

variable {A : Allow} {s s' s'' : Core}

theorem Allow.noKill_le : A.noKill.Le A where
  openOk h := h
  closeOk h := h
  disposeOk h := h
  forwardOk h := h
  reapOk h := h.elim
  lossOk := rfl
  binaryOk h := h
  growOk h := h
  namedOk h := h
  acceptOk h := h
  remoteFdOk h := h
  remoteOk h := h
  killOk h := h.elim
  leaveOk h := h

theorem Allow.calm_le_noKill : A.calm.Le A.noKill where
  openOk h := h
  closeOk h := h.elim
  disposeOk h := h.elim
  forwardOk h := h
  reapOk h := h
  lossOk := rfl
  binaryOk h := h
  growOk h := h
  namedOk h := h
  acceptOk h := h
  remoteFdOk h := h
  remoteOk h := h.elim
  killOk h := h
  leaveOk h := h.elim

theorem Moves.of_noKill (h : Moves A.noKill s s') : Moves A s s' := h.mono Allow.noKill_le

theorem Runs.of_noKill {α : Type} {Q : α → Prop} {m : Except Fault α}
    (h : Runs A.noKill s Q m) : Runs A s Q m :=
  h.mono Allow.noKill_le

theorem Runs.of_calm {α : Type} {Q : α → Prop} {m : Except Fault α}
    (h : Runs A.calm s Q m) : Runs A s Q m :=
  (h.mono Allow.calm_le_noKill).of_noKill

theorem Phase.of_moves (h : Moves A.noKill s s') : Phase A s s' := Or.inl h

theorem Phase.refl : Phase A s s := .of_moves Moves.refl

theorem Phase.of_reapDue (h : Moves A s s') (hset : ReapDue s') : Phase A s s' :=
  Or.inr ⟨s', h, hset, Moves.refl⟩

theorem Phase.moves (h : Phase A s s') : Moves A s s' := by
  obtain h | ⟨t, hm, _, h⟩ := h
  · exact h.of_noKill
  · exact hm.trans (h.mono Allow.calm_le_noKill).of_noKill

theorem Phase.after (h : Moves A.noKill s s') (h' : Phase A s' s'') : Phase A s s'' := by
  obtain h' | ⟨t, hm, hset, h'⟩ := h'
  · exact Or.inl (h.trans h')
  · exact Or.inr ⟨t, h.of_noKill.trans hm, hset, h'⟩

theorem Phase.then_calm (h : Phase A s s') (h' : Moves A.calm s' s'') : Phase A s s'' := by
  obtain h | ⟨t, hm, hset, h⟩ := h
  · exact Or.inl (h.trans (h'.mono Allow.calm_le_noKill))
  · exact Or.inr ⟨t, hm, hset, h.trans h'⟩

/-- Moves without a death are a phase. -/
theorem Runs.phase {α : Type} {t : Core} {g : α → Core} {m : Except Fault α}
    (h : Runs A.noKill s (fun a => Moves A.noKill t (g a)) m) :
    Runs A s (fun a => Phase A t (g a)) m :=
  h.of_noKill.imp fun _ hm => .of_moves hm

end Phases

/-! ## Pointers and mutexes -/

section Primitives

variable {A : Allow} {s₀ : Core} {s : Daemon} {c : ClientPtr} {r : RemotePtr}

theorem client_runs : Runs A s₀ (fun x => s.clients c = some x) (s.client c) := by
  rw [Daemon.client]
  split
  · next x hx => exact hx
  · exact Runs.fault trivial

theorem remote_runs : Runs A s₀ (fun y => s.remotes r = some y) (s.remote r) := by
  rw [Daemon.remote]
  split
  · next y hy => exact hy
  · exact Runs.fault trivial

theorem modifyClient_runs {f : MuxClient → MuxClient} :
    Runs A s₀ (fun s' => ∃ x, s.clients c = some x ∧
      s' = s.update (·.setClient c (f x))) (s.modifyClient c f) :=
  client_runs.bind fun x hx => ⟨x, hx, rfl⟩

theorem modifyRemote_runs {f : RemoteMux → RemoteMux} :
    Runs A s₀ (fun s' => ∃ y, s.remotes r = some y ∧
      s' = s.update (·.setRemote r (f y))) (s.modifyRemote r f) :=
  remote_runs.bind fun y hy => ⟨y, hy, rfl⟩

theorem remoteClient_runs {y : RemoteMux} :
    Runs A s₀ (fun c => y.client = some c ∧ (s.clients c).isSome) (s.remoteClient r y) := by
  rw [Daemon.remoteClient]
  split
  · exact Runs.fault trivial
  · next c hc =>
      split
      · exact Runs.fault trivial
      · next x hx => exact ⟨hc, by rw [hx]; rfl⟩

/-- Following `client->remote`: the fault is blamed on the state the program
started in. -/
theorem clientRemote_runs {x : MuxClient}
    (hnull : x.remote = none → FaultAt s₀ (.clientRemote c))
    (hfreed : ∀ r, x.remote = some r → s.remotes r = none → FaultAt s₀ (.clientRemote c)) :
    Runs A s₀ (fun p => x.remote = some p.1 ∧ s.remotes p.1 = some p.2)
      (s.clientRemote c x) := by
  rw [Daemon.clientRemote]
  split
  · next h => exact Runs.fault (hnull h)
  · next r hr =>
      split
      · next h => exact Runs.fault (hfreed r hr h)
      · next y hy => exact ⟨hr, hy⟩

/-- The same in a state that moves lead to, for a client that needs its
remote. -/
theorem clientRemote_runs_of_state {x : MuxClient} (hx : s.clients c = some x)
    (hstate : x.state = .connecting2 ∨ x.state = .connected) :
    Runs A s.toCore (fun p => x.remote = some p.1 ∧ s.remotes p.1 = some p.2)
      (s.clientRemote c x) :=
  clientRemote_runs (fun h => ⟨x, hx, Or.inr ⟨h, hstate⟩⟩)
    fun r hr h => ⟨x, hx, Or.inl ⟨r, hr, h⟩⟩

theorem lockRemoteList_runs :
    Runs A s₀ (fun s' => s'.toCore = s.toCore) s.lockRemoteList := by
  rw [Daemon.lockRemoteList]
  refine Runs.ite (fun _ => Runs.fault trivial) fun _ => ?_
  exact Runs.ite (fun _ => Runs.fault trivial) fun _ => Runs.pure rfl

theorem lockClientList_runs :
    Runs A s₀ (fun s' => s'.toCore = s.toCore) s.lockClientList := by
  rw [Daemon.lockClientList]
  split
  · exact Runs.fault trivial
  · exact Runs.pure rfl

@[simp] theorem toCore_unlockRemoteList : s.unlockRemoteList.toCore = s.toCore := rfl
@[simp] theorem toCore_unlockClientList : s.unlockClientList.toCore = s.toCore := rfl
@[simp] theorem toCore_update {f : Core → Core} : (s.update f).toCore = f s.toCore := rfl
@[simp] theorem toCore_emit {acts : List Act} : (s.emit acts).toCore = s.toCore.emit acts := rfl

end Primitives

/-! ## Queueing -/

/-- A conversion to XML or an allocation can fail. -/
def Loss (plat : Platform) (sys : Sys) : Prop :=
  (∃ p, plat.plistToXml p = none) ∨ ∃ n, sys.realloc n = false

/-- How an attempt to queue a packet on a client ends: nothing happened, or
the packet is there. -/
def SendOutcome (plat : Platform) (sys : Sys) (c : ClientPtr)
    (packet : UInt32 → Header → Payload → Prop) (s : Core) (res : Int × Daemon) : Prop :=
  (res.1 < 0 ∧ Loss plat sys ∧ res.2.toCore = s) ∨
    (0 < res.1 ∧ ∃ x hdr payload, packet x.protoVersion hdr payload ∧
      Queued c x hdr payload s res.2.toCore)

/-- The same for a remote. -/
def RemoteSendOutcome (plat : Platform) (sys : Sys) (r : RemotePtr)
    (packet : Payload → Prop) (s : Core) (res : Int × Daemon) : Prop :=
  (res.1 < 0 ∧ Loss plat sys ∧ res.2.toCore = s) ∨
    (0 < res.1 ∧ ∃ y ob hdr payload, packet payload ∧ s.remotes r = some y ∧
      Appended y.ob (packetBytes hdr payload) ob ∧
      res.2.toCore = (s.setRemote r { y with
        ob := ob, events := { y.events with pollout := true } }).emit
        [.remoteQueue r hdr payload])

section Queueing

variable {A : Allow} {s₀ : Core} {s : Daemon} {c : ClientPtr} {r : RemotePtr}
  {plat : Platform} {sys : Sys} {tag msg : UInt32}

theorem queueBytes_runs {b : Buf} {bs : List UInt8} :
    Runs A s₀ (fun o => (o = none ∧ ∃ n, sys.realloc n = false) ∨
      ∃ ob, o = some ob ∧ Appended b bs ob) (queueBytes sys.realloc b bs) := by
  rw [queueBytes]
  split
  · split
    · split
      · exact Or.inr ⟨_, rfl, rfl, rfl⟩
      · exact Runs.fault trivial
    · next hfail =>
        rw [Bool.not_eq_true] at hfail
        exact Or.inl ⟨rfl, _, hfail⟩
  · split
    · exact Runs.fault trivial
    · next hnull => exact Or.inr ⟨_, rfl, rfl, Bool.not_eq_true _ ▸ hnull⟩

theorem packetHeader_runs {version : UInt32} {payload : Payload} :
    Runs A s₀ (fun hdr => hdr.version = version ∧ hdr.tag = tag ∧ hdr.message = msg ∧
      (0 : Int) < hdr.length.toNat) (packetHeader version tag msg payload) := by
  rw [packetHeader]
  split
  · next hlt =>
      refine ⟨rfl, rfl, rfl, ?_⟩
      have hmod : (headerSize + payload.wire.length) % 2 ^ 32 =
          headerSize + payload.wire.length := Nat.mod_eq_of_lt (by omega)
      rw [UInt32.toNat_ofNat', hmod, headerSize]
      omega
  · exact Runs.fault trivial

theorem sendPktRaw_runs {bytes : List UInt8} :
    Runs A s₀ (fun res => res.2.toCore = s.toCore ∨ ∃ x ob, s.clients c = some x ∧
      Appended x.ob bytes ob ∧
      res.2.toCore = (s.toCore.setClient c
        { x with ob := ob, events := { x.events with pollout := true } }).emit
        [.queueRaw c bytes]) (sendPktRaw sys s c bytes) := by
  refine client_runs.bind fun x hx => ?_
  refine queueBytes_runs.bind ?_
  rintro o (⟨rfl, _⟩ | ⟨ob, rfl, hob⟩)
  · exact Or.inl rfl
  · exact Or.inr ⟨x, ob, hx, hob, rfl⟩

theorem sendPkt_runs {payload : Payload} :
    Runs A s₀ (SendOutcome plat sys c (fun _ hdr p => hdr.tag = tag ∧ hdr.message = msg ∧
      p = payload) s.toCore) (sendPkt sys s c tag msg payload) := by
  refine client_runs.bind fun x hx => ?_
  refine packetHeader_runs.bind ?_
  rintro hdr ⟨hver, htag, hmsg, hpos⟩
  refine queueBytes_runs.bind ?_
  rintro o (⟨rfl, hloss⟩ | ⟨ob, rfl, hob⟩)
  · exact Or.inl ⟨Int.negSucc_lt_zero 0, Or.inr hloss, rfl⟩
  · exact Or.inr ⟨hpos, x, hdr, payload, ⟨htag, hmsg, rfl⟩, hx, hver, ob, hob, rfl⟩

theorem SendOutcome.imp {P Q : UInt32 → Header → Payload → Prop} {s : Core}
    {res : Int × Daemon} (h : SendOutcome plat sys c P s res)
    (hPQ : ∀ {x hdr payload}, s.clients c = some x → P x.protoVersion hdr payload →
      hdr.version = x.protoVersion → Q x.protoVersion hdr payload) :
    SendOutcome plat sys c Q s res := by
  rcases h with h | ⟨hpos, x, hdr, payload, hP, hq⟩
  · exact Or.inl h
  · exact Or.inr ⟨hpos, x, hdr, payload, hPQ hq.1 hP hq.2.1, hq⟩

theorem sendPlistPkt_runs {plist : Plist} :
    Runs A s₀ (SendOutcome plat sys c (fun _ hdr p => hdr.tag = tag ∧
      hdr.message = messagePlist ∧ ∃ xml, p = .plist plist xml) s.toCore)
      (sendPlistPkt plat sys s c tag plist) := by
  rw [sendPlistPkt]
  split
  · next hnone => exact Or.inl ⟨Int.negSucc_lt_zero 0, Or.inl ⟨plist, hnone⟩, rfl⟩
  · next xml _ =>
      refine sendPkt_runs.imp fun res h => h.imp ?_
      rintro x hdr payload _ ⟨htag, hmsg, hp⟩ _
      exact ⟨htag, hmsg, xml, hp⟩

/-- A packet that is a plist to a client that speaks plists and binary
otherwise, the shape of `send_result` and of both notifications. -/
theorem sendEither_runs {plist : Plist} {bytes : List UInt8}
    {send : Except Fault (Int × Daemon)} {x : MuxClient} (hx : s.clients c = some x)
    (hsend : send = if x.protoVersion = 1 then sendPlistPkt plat sys s c tag plist
      else sendPkt sys s c tag msg (.binary bytes)) :
    Runs A s₀ (SendOutcome plat sys c (fun proto hdr p => hdr.version = proto ∧
      hdr.tag = tag ∧
      ((proto = 1 ∧ hdr.message = messagePlist ∧ ∃ xml, p = .plist plist xml) ∨
        (proto ≠ 1 ∧ hdr.message = msg ∧ p = .binary bytes))) s.toCore) send := by
  rw [hsend]
  split
  · next hproto =>
      refine sendPlistPkt_runs.imp fun res h => h.imp ?_
      rintro x' hdr payload hx' ⟨htag, hmsg, hp⟩ hver
      cases hx.symm.trans hx'
      exact ⟨hver, htag, Or.inl ⟨hproto, hmsg, hp⟩⟩
  · next hproto =>
      refine sendPkt_runs.imp fun res h => h.imp ?_
      rintro x' hdr payload hx' ⟨htag, hmsg, hp⟩ hver
      cases hx.symm.trans hx'
      exact ⟨hver, htag, Or.inr ⟨hproto, hmsg, hp⟩⟩

theorem sendResult_runs {result : UInt32} :
    Runs A s₀ (SendOutcome plat sys c (fun proto hdr p => IsResultPacket proto tag result hdr p)
      s.toCore) (sendResult plat sys s c tag result) :=
  client_runs.bind fun _ hx => sendEither_runs hx rfl

theorem notifyDeviceAdd_runs {dev : Plist} :
    Runs A s₀ (SendOutcome plat sys c (Note.attached dev).packet s.toCore)
      (notifyDeviceAdd plat sys s c dev) :=
  client_runs.bind fun _ hx => (sendEither_runs hx rfl).imp fun _ h =>
    h.imp fun _ hpkt _ => hpkt.2.2

theorem notifyDeviceRemove_runs {deviceId : UInt32} :
    Runs A s₀ (SendOutcome plat sys c (Note.detached deviceId).packet s.toCore)
      (notifyDeviceRemove plat sys s c deviceId) :=
  client_runs.bind fun _ hx => (sendEither_runs hx rfl).imp fun _ h =>
    h.imp fun _ hpkt _ => hpkt.2.2

theorem remoteSendPkt_runs {payload : Payload} :
    Runs A s₀ (RemoteSendOutcome plat sys r (fun p => p = payload) s.toCore)
      (remoteSendPkt sys s r tag msg payload) := by
  refine packetHeader_runs.bind ?_
  rintro hdr ⟨_, _, _, hpos⟩
  refine remote_runs.bind fun y hy => ?_
  refine queueBytes_runs.bind ?_
  rintro o (⟨rfl, hloss⟩ | ⟨ob, rfl, hob⟩)
  · exact Or.inl ⟨Int.negSucc_lt_zero 0, Or.inr hloss, rfl⟩
  · exact Or.inr ⟨hpos, y, ob, hdr, payload, rfl, hy, hob, rfl⟩

theorem RemoteSendOutcome.imp {P Q : Payload → Prop} {s : Core} {res : Int × Daemon}
    (h : RemoteSendOutcome plat sys r P s res) (hPQ : ∀ {payload}, P payload → Q payload) :
    RemoteSendOutcome plat sys r Q s res := by
  rcases h with h | ⟨hpos, y, ob, hdr, payload, hP, h⟩
  · exact Or.inl h
  · exact Or.inr ⟨hpos, y, ob, hdr, payload, hPQ hP, h⟩

theorem remoteSendPlistPkt_runs {plist : Plist} :
    Runs A s₀ (RemoteSendOutcome plat sys r (fun p => ∃ xml, p = .plist plist xml) s.toCore)
      (remoteSendPlistPkt plat sys s r tag plist) := by
  rw [remoteSendPlistPkt]
  split
  · next hnone => exact Or.inl ⟨Int.negSucc_lt_zero 0, Or.inl ⟨plist, hnone⟩, rfl⟩
  · next xml _ =>
      exact remoteSendPkt_runs.imp fun res h => h.imp fun hp => ⟨xml, hp⟩

end Queueing

end Usbfluxd
