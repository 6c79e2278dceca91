import Mathlib.Data.Option.Defs
import Usbfluxd.Model.Loop

/-!
# States that differ in their input buffers

The two receive functions read frames out of input buffers, and nothing below
them looks at an input buffer again: not the commands, not the handlers of a
remote's frames once they have taken the frame apart, not the functions that
queue, notify, open and close. This part of the development says so with a
relation between two states.

A `View` says what may differ: the contents of input buffers, as far as the
view relates them, and what the log says about input. `Alike V lr lc` holds
of two states that agree on everything else and in which the two list mutexes
are held as `lr` and `lc` say. Each function of the source is then run on two
such states at once: it returns in both or faults in both, and what it leaves
is alike again, with the mutexes as they were (`Agree`).

One pass over the functions serves three purposes. With two different buffers
it is the statement that leftovers in a buffer do not show. With the same
state on both sides it says what becomes of one buffer while others are
served. And since the mutexes are part of the relation, it says that every
function gives back what it takes, and that no lock is ever requested in the
wrong order, because such a fault is not one `Agree` allows.
-/

namespace Usbfluxd

open Lib

/-- Entries of the log about input that is cut into frames, and about the end
of that. -/
def Act.isInput : Act → Bool
  | .clientRecv .. | .command .. | .remoteRecv .. | .frame .. | .remoteConnected _ => true
  | _ => false

/-- Faults of the locking discipline. -/
def Fault.isLock : Fault → Bool
  | .relock | .lockOrder => true
  | _ => false

/-- The input buffer a remote starts with. -/
def newInput : Buf := Buf.malloc (replyBufSize * 8) replyBufSize_mul_lt

/-- What may differ between two states. -/
structure View where
  client : ClientPtr → Buf → Buf → Prop
  remote : RemotePtr → Buf → Buf → Prop
  log : List Act → List Act → Prop
  /-- Remotes from this block on are not opened yet. -/
  bound : Nat
  free : ∀ {c b b'}, client c b b' → client c b.free b'.free
  fresh : ∀ {r : RemotePtr}, bound ≤ r.block → remote r newInput newInput
  emit : ∀ {l l' acts}, log l l' → (∀ a ∈ acts, Act.isInput a = false) →
    log (l ++ acts) (l' ++ acts)

/-- Two clients that differ in their input buffers. -/
def LikeClient (R : Buf → Buf → Prop) (x x' : MuxClient) : Prop :=
  ∃ ib, x' = { x with ib := ib } ∧ R x.ib ib

/-- Two remotes that differ in their input buffers. -/
def LikeRemote (R : Buf → Buf → Prop) (y y' : RemoteMux) : Prop :=
  ∃ ib, y' = { y with ib := ib } ∧ R y.ib ib

structure Alike (V : View) (lr lc : Bool) (s s' : Daemon) : Prop where
  clients : ∀ c, Option.Rel (LikeClient (V.client c)) (s.clients c) (s'.clients c)
  remotes : ∀ r, Option.Rel (LikeRemote (V.remote r)) (s.remotes r) (s'.remotes r)
  clientList : s'.clientList = s.clientList
  remoteList : s'.remoteList = s.remoteList
  clientNumber : s'.clientNumber = s.clientNumber
  remoteDeviceList : s'.remoteDeviceList = s.remoteDeviceList
  remoteIdMap : s'.remoteIdMap = s.remoteIdMap
  nextClient : s'.nextClient = s.nextClient
  nextRemote : s'.nextRemote = s.nextRemote
  log : V.log s.log s'.log
  bound : V.bound ≤ s.nextRemote
  remoteLock : s.remoteListLocked = lr ∧ s'.remoteListLocked = lr
  clientLock : s.clientListLocked = lc ∧ s'.clientListLocked = lc

/-- The two programs do the same, and no mutex is misused. -/
def Agree {α : Type} (R : α → α → Prop) : Except Fault α → Except Fault α → Prop :=
  Both (fun f => f.isLock = false) R

/-- The same return value and states that are alike. -/
def AlikeRes {α : Type} (V : View) (lr lc : Bool) (p p' : α × Daemon) : Prop :=
  p'.1 = p.1 ∧ Alike V lr lc p.2 p'.2

section Primitives

variable {V : View} {lr lc : Bool} {s s' : Daemon} {c : ClientPtr} {r : RemotePtr}

theorem clients_setClient_self {t : Core} {x : MuxClient} :
    (t.setClient c x).clients c = some x :=
  Function.update_self ..

theorem optionRel_update {ι α : Type} [DecidableEq ι] {R : ι → α → α → Prop}
    {f f' : ι → Option α} (h : ∀ i, Option.Rel (R i) (f i) (f' i)) {j : ι} {o o' : Option α}
    (ho : Option.Rel (R j) o o') (i : ι) :
    Option.Rel (R i) (Function.update f j o i) (Function.update f' j o' i) := by
  by_cases hi : i = j
  · subst hi
    rw [Function.update_self, Function.update_self]
    exact ho
  · rw [Function.update_of_ne hi, Function.update_of_ne hi]
    exact h i

theorem Alike.setClient {x x' : MuxClient} (h : Alike V lr lc s s')
    (hx : LikeClient (V.client c) x x') :
    Alike V lr lc (s.update (·.setClient c x)) (s'.update (·.setClient c x')) :=
  { h with clients := optionRel_update h.clients (.some hx) }

theorem Alike.setRemote {y y' : RemoteMux} (h : Alike V lr lc s s')
    (hy : LikeRemote (V.remote r) y y') :
    Alike V lr lc (s.update (·.setRemote r y)) (s'.update (·.setRemote r y')) :=
  { h with remotes := optionRel_update h.remotes (.some hy) }

theorem Alike.emit {acts : List Act} (h : Alike V lr lc s s')
    (hacts : ∀ a ∈ acts, Act.isInput a = false) : Alike V lr lc (s.emit acts) (s'.emit acts) :=
  { h with log := V.emit h.log hacts }

/-- One entry that is not about input. -/
theorem Alike.emit_one {a : Act} (h : Alike V lr lc s s') (ha : a.isInput = false) :
    Alike V lr lc (s.emit [a]) (s'.emit [a]) :=
  h.emit fun _ hb => (List.mem_singleton.mp hb) ▸ ha

theorem Alike.dropClient (h : Alike V lr lc s s') :
    Alike V lr lc (s.update (·.dropClient c)) (s'.update (·.dropClient c)) :=
  { h with
    clients := optionRel_update h.clients .none
    clientList := congrArg (·.remove c) h.clientList }

theorem Alike.dropRemote (h : Alike V lr lc s s') :
    Alike V lr lc (s.update (·.dropRemote r)) (s'.update (·.dropRemote r)) :=
  { h with
    remotes := optionRel_update h.remotes .none
    remoteList := congrArg (·.remove r) h.remoteList }

theorem Alike.addRemote {y : RemoteMux} (h : Alike V lr lc s s') (hib : y.ib = newInput) :
    Alike V lr lc (s.update (·.addRemote y)) (s'.update (·.addRemote y)) := by
  have hnew : LikeRemote (V.remote ⟨s.nextRemote⟩) y y :=
    ⟨newInput, by rw [← hib], by rw [hib]; exact V.fresh h.bound⟩
  have hnext := h.nextRemote
  refine { h with
    remotes := fun r => ?_
    remoteList := ?_
    nextRemote := congrArg (· + 1) hnext
    bound := Nat.le_succ_of_le h.bound }
  · show Option.Rel _ (Function.update s.remotes ⟨s.nextRemote⟩ (some y) r)
      (Function.update s'.remotes ⟨s'.nextRemote⟩ (some y) r)
    rw [hnext]
    exact optionRel_update h.remotes (.some hnew) r
  · show s'.remoteList.add ⟨s'.nextRemote⟩ = s.remoteList.add ⟨s.nextRemote⟩
    rw [hnext, h.remoteList]

/-- A client is live in both states or in neither. -/
theorem Alike.client_cases (h : Alike V lr lc s s') (c : ClientPtr) :
    (s.clients c = none ∧ s'.clients c = none) ∨
      ∃ x x', LikeClient (V.client c) x x' ∧ s.clients c = some x ∧ s'.clients c = some x' := by
  generalize ho : s.clients c = o
  generalize ho' : s'.clients c = o'
  have hrel := h.clients c
  rw [ho, ho'] at hrel
  cases hrel with
  | none => exact Or.inl ⟨rfl, rfl⟩
  | some hx => exact Or.inr ⟨_, _, hx, rfl, rfl⟩

theorem Alike.remote_cases (h : Alike V lr lc s s') (r : RemotePtr) :
    (s.remotes r = none ∧ s'.remotes r = none) ∨
      ∃ y y', LikeRemote (V.remote r) y y' ∧ s.remotes r = some y ∧ s'.remotes r = some y' := by
  generalize ho : s.remotes r = o
  generalize ho' : s'.remotes r = o'
  have hrel := h.remotes r
  rw [ho, ho'] at hrel
  cases hrel with
  | none => exact Or.inl ⟨rfl, rfl⟩
  | some hy => exact Or.inr ⟨_, _, hy, rfl, rfl⟩

theorem client_agree (h : Alike V lr lc s s') :
    Agree (fun x x' => LikeClient (V.client c) x x' ∧ s.clients c = some x ∧
      s'.clients c = some x') (s.client c) (s'.client c) := by
  rw [Daemon.client, Daemon.client]
  obtain ⟨hx, hx'⟩ | ⟨x, x', hxx, hx, hx'⟩ := h.client_cases c
  · rw [hx, hx']
    exact Both.error rfl
  · rw [hx, hx']
    exact ⟨hxx, rfl, rfl⟩

theorem remote_agree (h : Alike V lr lc s s') :
    Agree (fun y y' => LikeRemote (V.remote r) y y' ∧ s.remotes r = some y ∧
      s'.remotes r = some y') (s.remote r) (s'.remote r) := by
  rw [Daemon.remote, Daemon.remote]
  obtain ⟨hy, hy'⟩ | ⟨y, y', hyy, hy, hy'⟩ := h.remote_cases r
  · rw [hy, hy']
    exact Both.error rfl
  · rw [hy, hy']
    exact ⟨hyy, rfl, rfl⟩

/-- An assignment that leaves the input buffer alone. -/
theorem modifyClient_agree {f : MuxClient → MuxClient} (h : Alike V lr lc s s')
    (hf : ∀ {x x'}, LikeClient (V.client c) x x' → LikeClient (V.client c) (f x) (f x')) :
    Agree (Alike V lr lc) (s.modifyClient c f) (s'.modifyClient c f) :=
  (client_agree h).bind fun hx => h.setClient (hf hx.1)

theorem modifyRemote_agree {f : RemoteMux → RemoteMux} (h : Alike V lr lc s s')
    (hf : ∀ {y y'}, LikeRemote (V.remote r) y y' → LikeRemote (V.remote r) (f y) (f y')) :
    Agree (Alike V lr lc) (s.modifyRemote r f) (s'.modifyRemote r f) :=
  (remote_agree h).bind fun hy => h.setRemote (hf hy.1)

theorem clientRemote_agree {x x' : MuxClient} (h : Alike V lr lc s s')
    (hx : x'.remote = x.remote) :
    Agree (fun p p' => p'.1 = p.1 ∧ x.remote = some p.1 ∧
      LikeRemote (V.remote p.1) p.2 p'.2) (s.clientRemote c x) (s'.clientRemote c x') := by
  rw [Daemon.clientRemote, Daemon.clientRemote, hx]
  cases hr : x.remote with
  | none => exact Both.error rfl
  | some r =>
      obtain ⟨hy, hy'⟩ | ⟨y, y', hyy, hy, hy'⟩ := h.remote_cases r
      · simp only [hy, hy']
        exact Both.error rfl
      · simp only [hy, hy']
        exact ⟨rfl, rfl, hyy⟩

theorem remoteClient_agree {y y' : RemoteMux} (h : Alike V lr lc s s')
    (hy : y'.client = y.client) :
    Agree (fun c c' => c' = c ∧ y.client = some c) (s.remoteClient r y)
      (s'.remoteClient r y') := by
  rw [Daemon.remoteClient, Daemon.remoteClient, hy]
  cases hc : y.client with
  | none => exact Both.error rfl
  | some c =>
      obtain ⟨hx, hx'⟩ | ⟨x, x', hxx, hx, hx'⟩ := h.client_cases c
      · simp only [hx, hx']
        exact Both.error rfl
      · simp only [hx, hx']
        exact ⟨rfl, rfl⟩

theorem lockRemoteList_agree (h : Alike V false false s s') :
    Agree (Alike V true false) s.lockRemoteList s'.lockRemoteList := by
  obtain ⟨hr, hr'⟩ := h.remoteLock
  obtain ⟨hc, hc'⟩ := h.clientLock
  have hlock : s.lockRemoteList = .ok { s with remoteListLocked := true } := by
    simp [Daemon.lockRemoteList, hr, hc]
  have hlock' : s'.lockRemoteList = .ok { s' with remoteListLocked := true } := by
    simp [Daemon.lockRemoteList, hr', hc']
  rw [hlock, hlock']
  exact { h with remoteLock := ⟨rfl, rfl⟩ }

theorem lockClientList_agree (h : Alike V lr false s s') :
    Agree (Alike V lr true) s.lockClientList s'.lockClientList := by
  obtain ⟨hc, hc'⟩ := h.clientLock
  have hlock : s.lockClientList = .ok { s with clientListLocked := true } := by
    simp [Daemon.lockClientList, hc]
  have hlock' : s'.lockClientList = .ok { s' with clientListLocked := true } := by
    simp [Daemon.lockClientList, hc']
  rw [hlock, hlock']
  exact { h with clientLock := ⟨rfl, rfl⟩ }

theorem Alike.unlockRemoteList (h : Alike V true lc s s') :
    Alike V false lc s.unlockRemoteList s'.unlockRemoteList :=
  { h with remoteLock := ⟨rfl, rfl⟩ }

theorem Alike.unlockClientList (h : Alike V lr true s s') :
    Alike V lr false s.unlockClientList s'.unlockClientList :=
  { h with clientLock := ⟨rfl, rfl⟩ }

end Primitives

/-! ## Queueing -/

section Queueing

variable {V : View} {lr lc : Bool} {s s' : Daemon} {c : ClientPtr} {r : RemotePtr}
  {plat : Platform} {sys : Sys} {tag msg : UInt32}

theorem queueBytes_agree {realloc : Nat → Bool} {b : Buf} {bs : List UInt8} :
    Agree (fun o o' => o' = o) (queueBytes realloc b bs) (queueBytes realloc b bs) := by
  refine Both.same fun e he => ?_
  rw [queueBytes] at he
  split at he
  · split at he
    · split at he
      · cases he
      · cases he
        rfl
    · cases he
  · split at he
    · cases he
      rfl
    · cases he

theorem packetHeader_agree {version : UInt32} {payload : Payload} :
    Agree (fun h h' => h' = h) (packetHeader version tag msg payload)
      (packetHeader version tag msg payload) := by
  refine Both.same fun e he => ?_
  rw [packetHeader] at he
  split at he
  · cases he
  · cases he
    rfl

theorem sendPktRaw_agree {bytes : List UInt8} (h : Alike V lr lc s s') :
    Agree (AlikeRes V lr lc) (sendPktRaw sys s c bytes) (sendPktRaw sys s' c bytes) := by
  refine (client_agree h).bind ?_
  rintro x x' ⟨⟨ib, rfl, hib⟩, hx, hx'⟩
  refine queueBytes_agree.bind ?_
  rintro _ o rfl
  cases o with
  | none => exact ⟨rfl, h⟩
  | some ob =>
      refine ⟨rfl, Alike.emit_one (Alike.setClient h ?_) rfl⟩
      exact ⟨ib, rfl, hib⟩

theorem sendPkt_agree {payload : Payload} (h : Alike V lr lc s s') :
    Agree (AlikeRes V lr lc) (sendPkt sys s c tag msg payload)
      (sendPkt sys s' c tag msg payload) := by
  refine (client_agree h).bind ?_
  rintro x x' ⟨⟨ib, rfl, hib⟩, hx, hx'⟩
  refine packetHeader_agree.bind ?_
  rintro _ hdr rfl
  refine queueBytes_agree.bind ?_
  rintro _ o rfl
  cases o with
  | none => exact ⟨rfl, h⟩
  | some ob =>
      refine ⟨rfl, Alike.emit_one (Alike.setClient h ?_) rfl⟩
      exact ⟨ib, rfl, hib⟩

theorem sendPlistPkt_agree {plist : Plist} (h : Alike V lr lc s s') :
    Agree (AlikeRes V lr lc) (sendPlistPkt plat sys s c tag plist)
      (sendPlistPkt plat sys s' c tag plist) := by
  rw [sendPlistPkt, sendPlistPkt]
  split
  · exact ⟨rfl, h⟩
  · exact sendPkt_agree h

/-- A packet that is a plist to a client that speaks plists and binary
otherwise. -/
theorem sendEither_agree {plist : Plist} {payload : Payload} (h : Alike V lr lc s s') :
    Agree (AlikeRes V lr lc)
      (s.client c >>= fun x => if x.protoVersion = 1 then sendPlistPkt plat sys s c tag plist
        else sendPkt sys s c tag msg payload)
      (s'.client c >>= fun x => if x.protoVersion = 1 then sendPlistPkt plat sys s' c tag plist
        else sendPkt sys s' c tag msg payload) := by
  refine (client_agree h).bind ?_
  rintro x x' ⟨⟨ib, rfl, hib⟩, hx, hx'⟩
  exact Both.ite (fun _ => sendPlistPkt_agree h) fun _ => sendPkt_agree h

theorem sendResult_agree {result : UInt32} (h : Alike V lr lc s s') :
    Agree (AlikeRes V lr lc) (sendResult plat sys s c tag result)
      (sendResult plat sys s' c tag result) :=
  sendEither_agree h

theorem notifyDeviceAdd_agree {dev : Plist} (h : Alike V lr lc s s') :
    Agree (AlikeRes V lr lc) (notifyDeviceAdd plat sys s c dev)
      (notifyDeviceAdd plat sys s' c dev) :=
  sendEither_agree h

theorem notifyDeviceRemove_agree {deviceId : UInt32} (h : Alike V lr lc s s') :
    Agree (AlikeRes V lr lc) (notifyDeviceRemove plat sys s c deviceId)
      (notifyDeviceRemove plat sys s' c deviceId) :=
  sendEither_agree h

theorem clientSendPacketData_agree {hdr payload : List UInt8} (h : Alike V lr lc s s') :
    Agree (AlikeRes V lr lc) (clientSendPacketData sys s c hdr payload)
      (clientSendPacketData sys s' c hdr payload) := by
  refine (sendPktRaw_agree h).bind ?_
  rintro ⟨res, t⟩ ⟨_, t'⟩ ⟨rfl, ht⟩
  exact Both.ite (fun _ => sendPktRaw_agree ht) fun _ => ⟨rfl, ht⟩

theorem remoteSendPkt_agree {payload : Payload} (h : Alike V lr lc s s') :
    Agree (AlikeRes V lr lc) (remoteSendPkt sys s r tag msg payload)
      (remoteSendPkt sys s' r tag msg payload) := by
  refine packetHeader_agree.bind ?_
  rintro _ hdr rfl
  refine (remote_agree h).bind ?_
  rintro y y' ⟨⟨ib, rfl, hib⟩, hy, hy'⟩
  refine queueBytes_agree.bind ?_
  rintro _ o rfl
  cases o with
  | none => exact ⟨rfl, h⟩
  | some ob =>
      refine ⟨rfl, Alike.emit_one (Alike.setRemote h ?_) rfl⟩
      exact ⟨ib, rfl, hib⟩

theorem remoteSendPlistPkt_agree {plist : Plist} (h : Alike V lr lc s s') :
    Agree (AlikeRes V lr lc) (remoteSendPlistPkt plat sys s r tag plist)
      (remoteSendPlistPkt plat sys s' r tag plist) := by
  rw [remoteSendPlistPkt, remoteSendPlistPkt]
  split
  · exact ⟨rfl, h⟩
  · exact remoteSendPkt_agree h

theorem remoteSendListenPacket_agree (h : Alike V lr lc s s') :
    Agree (AlikeRes V lr lc) (remoteSendListenPacket plat sys s r)
      (remoteSendListenPacket plat sys s' r) := by
  refine (remoteSendPlistPkt_agree h).bind ?_
  rintro ⟨res, t⟩ ⟨_, t'⟩ ⟨rfl, ht⟩
  refine Both.ite (fun _ => ?_) fun _ => ⟨rfl, ht⟩
  refine (modifyRemote_agree ht ?_).bind fun hu => ⟨rfl, hu⟩
  rintro y y' ⟨ib, rfl, hib⟩
  exact ⟨ib, rfl, hib⟩

end Queueing

end Usbfluxd
