import Usbfluxd.Alike.Handle

/-!
# Watching a buffer while others are served

The relation of the modules before this one with the same state on both
sides: a `Watch` is a condition on input buffers and on the log, and a
function that agrees with itself keeps it. On top of that come the functions
that do read input. They keep a watch that does not concern the object they
read for, which is what the event loop needs: whatever is served, the buffers
of all the others stay as they are.

The mutexes come along. A watch that demands nothing leaves the statement
that every function gives back both of them.
-/

namespace Usbfluxd

open Lib

/-- A condition on input buffers and on the log. -/
structure Watch where
  client : ClientPtr → Buf → Prop
  remote : RemotePtr → Buf → Prop
  log : List Act → Prop
  bound : Nat
  free : ∀ {c b}, client c b → client c b.free
  fresh : ∀ {r : RemotePtr}, bound ≤ r.block → remote r newInput
  emit : ∀ {l acts}, log l → (∀ a ∈ acts, Act.isInput a = false) → log (l ++ acts)

/-- The condition on both of two states that have the same buffers. -/
def Watch.view (W : Watch) : View where
  client c b b' := b' = b ∧ W.client c b
  remote r b b' := b' = b ∧ W.remote r b
  log l l' := l' = l ∧ W.log l
  bound := W.bound
  free h := ⟨congrArg Buf.free h.1, W.free h.2⟩
  fresh h := ⟨rfl, W.fresh h⟩
  emit h hacts := ⟨congrArg (· ++ _) h.1, W.emit h.2 hacts⟩

/-- The condition holds, and the mutexes are held as said. -/
structure Watched (W : Watch) (lr lc : Bool) (s : Daemon) : Prop where
  client : ∀ c x, s.clients c = some x → W.client c x.ib
  remote : ∀ r y, s.remotes r = some y → W.remote r y.ib
  log : W.log s.log
  bound : W.bound ≤ s.nextRemote
  remoteLock : s.remoteListLocked = lr
  clientLock : s.clientListLocked = lc

/-- No misuse of a mutex, and the condition holds at the end. -/
def Keeps {α : Type} (Q : α → Prop) (m : Except Fault α) : Prop :=
  Post (fun f => f.isLock = false) Q m

section Watched

variable {W : Watch} {lr lc : Bool} {s : Daemon} {c : ClientPtr} {r : RemotePtr}

theorem Watched.alike (h : Watched W lr lc s) : Alike W.view lr lc s s where
  clients c := by
    cases hx : s.clients c with
    | none => exact .none
    | some x => exact .some ⟨x.ib, rfl, rfl, h.client c x hx⟩
  remotes r := by
    cases hy : s.remotes r with
    | none => exact .none
    | some y => exact .some ⟨y.ib, rfl, rfl, h.remote r y hy⟩
  clientList := rfl
  remoteList := rfl
  clientNumber := rfl
  remoteDeviceList := rfl
  remoteIdMap := rfl
  nextClient := rfl
  nextRemote := rfl
  log := ⟨rfl, h.log⟩
  bound := h.bound
  remoteLock := ⟨h.remoteLock, h.remoteLock⟩
  clientLock := ⟨h.clientLock, h.clientLock⟩

theorem Alike.watched (h : Alike W.view lr lc s s) : Watched W lr lc s where
  client c x hx := by
    obtain ⟨hn, _⟩ | ⟨z, z', ⟨ib, rfl, _, hib⟩, hz, _⟩ := h.client_cases c
    · cases hx.symm.trans hn
    · cases hx.symm.trans hz
      exact hib
  remote r y hy := by
    obtain ⟨hn, _⟩ | ⟨z, z', ⟨ib, rfl, _, hib⟩, hz, _⟩ := h.remote_cases r
    · cases hy.symm.trans hn
    · cases hy.symm.trans hz
      exact hib
  log := h.log.2
  bound := h.bound
  remoteLock := h.remoteLock.1
  clientLock := h.clientLock.1

theorem Agree.keeps {m : Except Fault Daemon} (h : Agree (Alike W.view lr lc) m m) :
    Keeps (Watched W lr lc) m :=
  (Both.post h).imp (fun _ hf => hf) fun _ ha => Alike.watched ha

theorem Agree.keeps_res {α : Type} {m : Except Fault (α × Daemon)}
    (h : Agree (AlikeRes W.view lr lc) m m) :
    Keeps (fun p => Watched W lr lc p.2) m :=
  (Both.post h).imp (fun _ hf => hf) fun _ ha => Alike.watched ha.2

theorem Watched.setClient {x : MuxClient} (h : Watched W lr lc s) (hx : W.client c x.ib) :
    Watched W lr lc (s.update (·.setClient c x)) :=
  Alike.watched (h.alike.setClient ⟨x.ib, rfl, rfl, hx⟩)

theorem Watched.setRemote {y : RemoteMux} (h : Watched W lr lc s) (hy : W.remote r y.ib) :
    Watched W lr lc (s.update (·.setRemote r y)) :=
  Alike.watched (h.alike.setRemote ⟨y.ib, rfl, rfl, hy⟩)

theorem Watched.emit {acts : List Act} (h : Watched W lr lc s) (hlog : W.log (s.log ++ acts)) :
    Watched W lr lc (s.emit acts) :=
  { h with log := hlog }

theorem Watched.emit_one {a : Act} (h : Watched W lr lc s) (ha : a.isInput = false) :
    Watched W lr lc (s.emit [a]) :=
  Alike.watched (h.alike.emit_one ha)

theorem client_keeps : Keeps (fun x => s.clients c = some x) (s.client c) := by
  rw [Daemon.client]
  split
  · next x hx => exact hx
  · rfl

theorem remote_keeps : Keeps (fun y => s.remotes r = some y) (s.remote r) := by
  rw [Daemon.remote]
  split
  · next y hy => exact hy
  · rfl

theorem modifyClient_keeps {f : MuxClient → MuxClient} (h : Watched W lr lc s)
    (hf : ∀ x, s.clients c = some x → W.client c (f x).ib) :
    Keeps (Watched W lr lc) (s.modifyClient c f) :=
  Post.bind client_keeps fun x hx => h.setClient (hf x hx)

theorem modifyRemote_keeps {f : RemoteMux → RemoteMux} (h : Watched W lr lc s)
    (hf : ∀ y, s.remotes r = some y → W.remote r (f y).ib) :
    Keeps (Watched W lr lc) (s.modifyRemote r f) :=
  Post.bind remote_keeps fun y hy => h.setRemote (hf y hy)

theorem Keeps.ite {α : Type} {Q : α → Prop} {p : Prop} [Decidable p] {m m' : Except Fault α}
    (h : p → Keeps Q m) (h' : ¬ p → Keeps Q m') : Keeps Q (if p then m else m') := by
  by_cases hp : p
  · rw [if_pos hp]
    exact h hp
  · rw [if_neg hp]
    exact h' hp

theorem clientRemote_keeps {x : MuxClient} :
    Keeps (fun p => x.remote = some p.1 ∧ s.remotes p.1 = some p.2) (s.clientRemote c x) := by
  rw [Daemon.clientRemote]
  split
  · rfl
  · next r hr =>
      split
      · rfl
      · next y hy => exact ⟨hr, hy⟩

theorem remoteClient_keeps {y : RemoteMux} :
    Keeps (fun c => y.client = some c ∧ (s.clients c).isSome) (s.remoteClient r y) := by
  rw [Daemon.remoteClient]
  split
  · rfl
  · next c hc =>
      split
      · rfl
      · next x hx => exact ⟨hc, by rw [hx]; rfl⟩

end Watched

/-! ## Functions that read input -/

/-- Of the input buffer of a remote the condition looks at the capacity at
most. -/
def Watch.SkipsBytes (W : Watch) (r : RemotePtr) : Prop :=
  ∀ {b b' : Buf}, b'.capacity = b.capacity → W.remote r b → W.remote r b'

/-- The condition says nothing about a client, the capacity of its input
buffer aside. -/
structure Watch.SkipsClient (W : Watch) (c : ClientPtr) : Prop where
  input : ∀ {b b' : Buf}, b'.capacity = b.capacity → W.client c b → W.client c b'
  recv : ∀ {l bs}, W.log l → W.log (l ++ recvActs (.clientRecv c) bs)
  command : ∀ {l frame}, W.log l → W.log (l ++ [.command c frame])

/-- The condition says nothing about a remote, the capacity of its input
buffer aside. -/
structure Watch.SkipsRemote (W : Watch) (r : RemotePtr) : Prop where
  input : W.SkipsBytes r
  recv : ∀ {l bs}, W.log l → W.log (l ++ recvActs (.remoteRecv r) bs)
  frame : ∀ {l bytes}, W.log l → W.log (l ++ [.frame r bytes])
  connected : ∀ {l}, W.log l → W.log (l ++ [.remoteConnected r])

section Readers

variable {W : Watch} {s : Daemon} {c : ClientPtr} {r : RemotePtr} {plat : Platform} {sys : Sys}

theorem recvInto_keeps {b : Buf} {len : Nat} :
    Keeps (fun o => ∀ p, o = some p → p.2.capacity = b.capacity) (recvInto sys b len) := by
  rw [recvInto]
  refine Keeps.ite (fun _ => ?_) fun _ => ?_
  · intro p hp
    cases hp
  split
  · intro p hp
    cases hp
  · intro p hp
    cases hp
  · split
    · intro p hp
      cases hp
      rfl
    · rfl

theorem readBody_keeps {got : Option (List UInt8)} {b : Buf} :
    Keeps (fun rf => rf.ib.capacity = b.capacity) (readBody plat sys got b) := by
  rw [readBody]
  refine Keeps.ite (fun _ => rfl) fun _ => ?_
  refine Keeps.ite (fun _ => rfl) fun _ => ?_
  refine Keeps.ite (fun _ => ?_) fun _ => rfl
  split
  · rfl
  · refine Post.bind recvInto_keeps fun o ho => ?_
    cases o with
    | none => rfl
    | some p => exact ho p rfl

/-- Reading a frame leaves the capacity of the buffer as it is. -/
theorem readFrame_keeps {b : Buf} :
    Keeps (fun rf => rf.ib.capacity = b.capacity) (readFrame plat sys b) := by
  rw [readFrame]
  refine Keeps.ite (fun _ => ?_) fun _ => readBody_keeps
  refine Post.bind recvInto_keeps fun o ho => ?_
  cases o with
  | none => rfl
  | some p =>
      have hcap := ho p rfl
      refine Keeps.ite (fun _ => hcap) fun _ => ?_
      exact Post.imp readBody_keeps (fun _ hf => hf) fun _ h => h.trans hcap

theorem clientCommand_keeps (hskip : W.SkipsClient c) (h : Watched W false false s) :
    Keeps (fun p => Watched W false false p.2) (clientCommand plat sys s c) := by
  cases hx : s.clients c with
  | none =>
      rw [clientCommand, Daemon.client, hx]
      rfl
  | some x =>
      exact Agree.keeps_res (clientCommand_agree hx hx (fun _ => .refl) rfl rfl
        (h.emit (hskip.command h.log)).alike)

theorem processRecv_keeps (hskip : W.SkipsClient c) (h : Watched W false false s) :
    Keeps (Watched W false false) (processRecv plat sys s c) := by
  refine Post.bind client_keeps fun x hx => ?_
  refine Post.bind readFrame_keeps fun rf hcap => ?_
  have h₁ : Watched W false false ((s.update (·.setClient c { x with ib := rf.ib })).emit
      (recvActs (.clientRecv c) rf.got)) :=
    (h.setClient (hskip.input hcap (h.client c x hx))).emit (hskip.recv h.log)
  cases hout : rf.outcome with
  | dead => exact Agree.keeps (clientClose_agree h₁.alike (Or.inl rfl))
  | more => exact h₁
  | frame =>
      refine Post.bind (clientCommand_keeps hskip h₁) fun p hp => ?_
      exact Keeps.ite (fun _ => modifyClient_keeps hp fun x hx =>
        hskip.input (b := x.ib) rfl (hp.client c x hx)) fun _ => hp

theorem processSend_keeps (h : Watched W false false s) :
    Keeps (Watched W false false) (processSend sys s c) := by
  have hown : ∀ t : Daemon, Watched W false false t → ∀ x, t.clients c = some x →
      W.client c x.ib := fun t ht x hx => ht.client c x hx
  refine Post.bind client_keeps fun x _ => ?_
  refine Keeps.ite (fun _ => modifyClient_keeps h fun x hx => hown s h x hx) fun _ => ?_
  split
  · exact Agree.keeps (clientClose_agree h.alike (Or.inl rfl))
  · next n _ =>
      have h₁ : Watched W false false (s.emit [.clientSend c (x.ob.data.take n)]) :=
        h.emit_one rfl
      refine Keeps.ite (fun _ => modifyClient_keeps h₁ fun x hx => hown _ h₁ x hx) fun _ => ?_
      refine Keeps.ite (fun _ => modifyClient_keeps h₁ fun x hx => hown _ h₁ x hx) fun _ => ?_
      refine Post.bind clientRemote_keeps fun _ _ => ?_
      exact modifyClient_keeps h₁ fun x hx => hown _ h₁ x hx

theorem clientRelayRead_keeps {x : MuxClient} (h : Watched W false false s)
    (hx : s.clients c = some x) : Keeps (Watched W false false) (clientRelayRead sys s c x) := by
  refine Post.bind clientRemote_keeps ?_
  rintro ⟨r, y⟩ ⟨_, hy⟩
  refine Keeps.ite (fun _ => h) fun _ => ?_
  refine Post.bind recvInto_keeps fun o _ => ?_
  cases o with
  | none => exact Agree.keeps (clientClose_agree h.alike (Or.inl rfl))
  | some p =>
      refine Watched.emit_one (Watched.setClient (Watched.setRemote h ?_) ?_) rfl
      · exact h.remote r y hy
      · exact h.client c x hx

theorem clientRelayWrite_keeps {x : MuxClient} (h : Watched W false false s)
    (hx : s.clients c = some x) (hskip : ∀ r, x.remote = some r → W.SkipsBytes r) :
    Keeps (Watched W false false) (clientRelayWrite sys s c x) := by
  refine Post.bind clientRemote_keeps ?_
  rintro ⟨r, y⟩ ⟨hr, hy⟩
  refine Keeps.ite (fun _ => h) fun _ => ?_
  split
  · exact Agree.keeps (clientClose_agree h.alike (Or.inl rfl))
  · next n _ =>
      have h₁ : Watched W false false (s.emit [.clientWrite c (y.ib.data.take n)]) :=
        h.emit_one rfl
      have hib : ∀ b : Buf, b.capacity = y.ib.capacity → W.remote r b :=
        fun b hcap => hskip r hr hcap (h.remote r y hy)
      refine Keeps.ite (fun _ => ?_) fun _ => h₁.setRemote (hib (y.ib.consume n) rfl)
      exact (h₁.setRemote (hib y.ib.reset rfl)).setClient (h.client c x hx)

theorem findClient_keeps {fd : Nat} {cs : List ClientPtr} :
    Keeps (fun o => ∀ c x, o = some (c, x) → c ∈ cs ∧ s.clients c = some x ∧ x.fd = fd)
      (findClient s fd cs) := by
  induction cs with
  | nil =>
      intro c x h
      cases h
  | cons c rest ih =>
      refine Post.bind client_keeps fun x hx => ?_
      refine Keeps.ite (fun hfd => ?_) fun _ => ?_
      · intro c' x' h
        cases h
        exact ⟨List.mem_cons_self, hx, hfd⟩
      · refine Post.imp ih (fun _ hf => hf) fun o ho c' x' h => ?_
        obtain ⟨hmem, hrest⟩ := ho c' x' h
        exact ⟨List.mem_cons_of_mem _ hmem, hrest⟩

/-- Taking a free mutex. -/
theorem lockClientList_of_free (h : s.clientListLocked = false) :
    s.lockClientList = .ok { s with clientListLocked := true } := by
  rw [Daemon.lockClientList, h]
  rfl

theorem lockRemoteList_of_free (h : s.remoteListLocked = false)
    (h' : s.clientListLocked = false) :
    s.lockRemoteList = .ok { s with remoteListLocked := true } := by
  rw [Daemon.lockRemoteList, h, h']
  rfl

/-- What `client_process` does with the client it found. -/
theorem clientProcess_eq {fd : Nat} {events : PollEvents} (h : s.clientListLocked = false) :
    clientProcess plat sys s fd events =
      findClient s fd s.clientList.elems >>= fun found =>
        match found with
        | none => pure s
        | some (c, x) =>
            if x.state = .connected then
              if events.pollin then clientRelayRead sys s c x
              else if events.pollout then clientRelayWrite sys s c x
              else pure s
            else if events.pollin then processRecv plat sys s c
            else if events.pollout then processSend sys s c
            else pure s := by
  have hfind : ∀ cs, findClient { s with clientListLocked := true } fd cs =
      findClient s fd cs := by
    intro cs
    induction cs with
    | nil => rfl
    | cons c rest ih =>
        rw [findClient, findClient, ih]
        rfl
  have hsame : Daemon.unlockClientList { s with clientListLocked := true } = s := by
    rw [Daemon.unlockClientList]
    exact congrArg (fun b => { s with clientListLocked := b }) h.symm
  rw [clientProcess, lockClientList_of_free h]
  dsimp only [bind, Except.bind]
  rewrite [hfind, hsame]
  rfl

theorem clientProcess_keeps {fd : Nat} {events : PollEvents} (h : Watched W false false s)
    (hread : ∀ c x, s.clients c = some x → x.fd = fd → x.state ≠ .connected →
      events.pollin = true → W.SkipsClient c)
    (hwrite : ∀ c x r, s.clients c = some x → x.fd = fd → x.state = .connected →
      events.pollin = false → events.pollout = true → x.remote = some r → W.SkipsBytes r) :
    Keeps (Watched W false false) (clientProcess plat sys s fd events) := by
  rw [clientProcess_eq h.clientLock]
  refine Post.bind findClient_keeps fun o ho => ?_
  cases o with
  | none => exact h
  | some p =>
      obtain ⟨c, x⟩ := p
      obtain ⟨_, hx, hfd⟩ := ho c x rfl
      refine Keeps.ite (fun hconn => ?_) fun hconn => ?_
      · refine Keeps.ite (fun _ => clientRelayRead_keeps h hx) fun hin => ?_
        exact Keeps.ite (fun hout => clientRelayWrite_keeps h hx fun r hr =>
          hwrite c x r hx hfd hconn (Bool.eq_false_iff.mpr hin) hout hr) fun _ => h
      · refine Keeps.ite (fun hin => processRecv_keeps (hread c x hx hfd hconn hin) h)
          fun _ => ?_
        exact Keeps.ite (fun _ => processSend_keeps h) fun _ => h

end Readers

/-! ## Events on a remote -/

section Remote

variable {W : Watch} {s : Daemon} {r : RemotePtr} {plat : Platform} {sys : Sys}
  {events : PollEvents}

theorem remoteHandleCommandResult_keeps (hskip : W.SkipsRemote r)
    (h : Watched W false false s) :
    Keeps (Watched W false false) (remoteHandleCommandResult plat sys s r) := by
  cases hy : s.remotes r with
  | none =>
      rw [remoteHandleCommandResult, Daemon.remote, hy]
      rfl
  | some y =>
      refine Agree.keeps (remoteHandleCommandResult_agree hy hy (fun _ => .refl) rfl rfl ?_ ?_
        (h.emit (hskip.frame h.log)).alike)
      · rintro b b' bs ⟨rfl, hb⟩
        exact ⟨rfl, hskip.input (b := b') rfl hb⟩
      · rintro l l' ⟨rfl, hl⟩
        exact ⟨rfl, hskip.connected hl⟩

theorem remoteProcessRecv_keeps (hskip : W.SkipsRemote r) (h : Watched W false false s) :
    Keeps (Watched W false false) (remoteProcessRecv plat sys s r) := by
  refine Post.bind remote_keeps fun y hy => ?_
  refine Post.bind readFrame_keeps fun rf hcap => ?_
  have h₁ : Watched W false false ((s.update (·.setRemote r { y with
      ib := rf.ib, lastActive := if rf.bodyRead then sys.now else y.lastActive })).emit
      (recvActs (.remoteRecv r) rf.got)) :=
    (h.setRemote (hskip.input hcap (h.remote r y hy))).emit (hskip.recv h.log)
  cases hout : rf.outcome with
  | dead => exact Agree.keeps (usbmuxRemoteMarkDead_agree h₁.alike)
  | more => exact h₁
  | frame =>
      refine Post.bind (remoteHandleCommandResult_keeps hskip h₁) fun t ht => ?_
      exact modifyRemote_keeps ht fun z hz => hskip.input (b := z.ib) rfl (ht.remote r z hz)

theorem remoteProcessSend_keeps (h : Watched W false false s)
    (hconn : ∀ y, s.remotes r = some y → y.state = .connecting2 → ∀ {l}, W.log l →
      W.log (l ++ [.remoteConnected r])) :
    Keeps (Watched W false false) (remoteProcessSend sys s r) := by
  have hown : ∀ t : Daemon, Watched W false false t → ∀ y, t.remotes r = some y →
      W.remote r y.ib := fun t ht y hy => ht.remote r y hy
  refine Post.bind remote_keeps fun y hy => ?_
  refine Keeps.ite (fun _ => modifyRemote_keeps h fun y hy => hown s h y hy) fun _ => ?_
  split
  · exact Agree.keeps (usbmuxRemoteClose_agree h.alike)
  · next n _ =>
      have h₁ : Watched W false false (s.emit [.remoteSend r (y.ob.data.take n)]) :=
        h.emit_one rfl
      refine Keeps.ite (fun _ => modifyRemote_keeps h₁ fun y hy => hown _ h₁ y hy) fun _ => ?_
      refine Keeps.ite (fun _ => modifyRemote_keeps h₁ fun y hy => hown _ h₁ y hy)
        fun hstate => ?_
      exact Post.bind (modifyRemote_keeps h₁ fun y hy => hown _ h₁ y hy)
        fun t ht => ht.emit (hconn y hy (not_not.mp hstate) ht.log)

theorem remoteRelayRecv_keeps {y : RemoteMux} (hy : s.remotes r = some y) (hskip : W.SkipsBytes r)
    (h : Watched W false false s) :
    Keeps (Watched W false false) (remoteRelayRecv sys s r y) := by
  rw [remoteRelayRecv]
  refine Keeps.ite (fun _ => h) fun _ => ?_
  split
  · exact Agree.keeps (usbmuxRemoteClose_agree h.alike)
  · exact modifyRemote_keeps h fun z hz => h.remote r z hz
  · next bs _ _ =>
      split
      · refine Post.bind remoteClient_keeps fun c _ => ?_
        refine Agree.keeps (clientOrEvents_agree (Watched.alike ?_))
        refine Watched.emit_one (h.setRemote (hskip (b := y.ib) ?_ (h.remote r y hy))) rfl
        rfl
      · rfl

theorem remoteConnectedProcess_keeps {y : RemoteMux} (hy : s.remotes r = some y)
    (hstate : y.state = .connected) (hskip : events.pollin = true → W.SkipsBytes r)
    (h : Watched W false false s) :
    Keeps (Watched W false false) (remoteConnectedProcess sys s r y events) := by
  refine Keeps.ite (fun hin => remoteRelayRecv_keeps hy (hskip hin) h) fun _ => ?_
  refine Keeps.ite (fun _ => ?_) fun _ => Agree.keeps (usbmuxRemoteClose_agree h.alike)
  have hconn : ∀ z, s.remotes r = some z → z.state = .connecting2 → ∀ {l}, W.log l →
      W.log (l ++ [.remoteConnected r]) := by
    intro z hz hz₂
    cases hy.symm.trans hz
    rw [hstate] at hz₂
    cases hz₂
  refine Post.bind (remoteProcessSend_keeps h hconn) fun t ht => ?_
  refine Post.bind remote_keeps fun z _ => ?_
  refine Post.bind remoteClient_keeps fun c _ => ?_
  exact Agree.keeps (clientOrEvents_agree ht.alike)

theorem remoteProcessFound_keeps (h : Watched W false false s)
    (hread : ∀ y, s.remotes r = some y → y.state ≠ .connected → events.pollin = true →
      W.SkipsRemote r)
    (hrelay : ∀ y, s.remotes r = some y → y.state = .connected → events.pollin = true →
      W.SkipsBytes r)
    (hconn : ∀ y, s.remotes r = some y → y.state = .connecting2 → ∀ {l}, W.log l →
      W.log (l ++ [.remoteConnected r])) :
    Keeps (Watched W false false) (remoteProcessFound plat sys s r events) := by
  refine Post.bind remote_keeps fun y hy => ?_
  refine Keeps.ite (fun hstate => remoteConnectedProcess_keeps hy hstate (hrelay y hy hstate) h)
    fun hstate => ?_
  refine Keeps.ite (fun hin => ?_) fun _ => ?_
  · refine Keeps.ite (fun hstate₂ => ?_) fun _ =>
      remoteProcessRecv_keeps (hread y hy hstate hin) h
    exact Post.bind (modifyRemote_keeps h fun z hz => h.remote r z hz)
      fun t ht => ht.emit (hconn y hy hstate₂ ht.log)
  · exact Keeps.ite (fun _ => remoteProcessSend_keeps h hconn) fun _ => h

theorem reapLoop_keeps {fd : Nat} (h : Watched W false false s) :
    Keeps (fun p => Watched W false false p.1) (reapLoop plat sys fd events s) := by
  refine Post.bind (Both.post (lockRemoteList_agree h.alike)) fun t ht => ?_
  refine Post.bind (slotLoop_post (P := fun _ (acc : Daemon × Option RemotePtr) =>
    Watched W true false acc.1) (fun h _ => h) ?_ (Alike.watched ht)) fun acc hacc => ?_
  · rintro ⟨u, found⟩ i rest rm hu _
    refine Post.bind remote_keeps fun y _ => ?_
    have hdispose : Keeps (Watched W true false) (usbmuxRemoteDispose plat sys u rm) :=
      Agree.keeps (usbmuxRemoteDispose_agree hu.alike)
    refine Keeps.ite (fun _ => Post.bind hdispose fun v hv => hv) fun _ => ?_
    refine Keeps.ite (fun _ => ?_) fun _ => hu
    exact Keeps.ite (fun _ => Post.bind hdispose fun v hv => hv) fun _ => hu
  · exact Alike.watched hacc.alike.unlockRemoteList

theorem usbmuxRemoteGetFds_keeps {now : Nat} (h : Watched W false false s) :
    Keeps (Watched W false false) (usbmuxRemoteGetFds s now) := by
  refine Post.bind (Both.post (lockRemoteList_agree h.alike)) fun t ht => ?_
  refine Post.bind (slotLoop_post (P := fun _ u => Watched W true false u) (fun h _ => h) ?_
    (Alike.watched ht)) fun u hu => ?_
  · rintro u i rest rm hu _
    refine Post.bind remote_keeps fun y _ => ?_
    exact Keeps.ite (fun _ => modifyRemote_keeps hu fun z hz => hu.remote rm z hz) fun _ => hu
  · exact Alike.watched hu.alike.unlockRemoteList

end Remote

/-! ## The other operations -/

section Operations

variable {W : Watch} {s : Daemon} {plat : Platform} {sys : Sys}

theorem clientAccept_keeps {cfd : Option Nat} (h : Watched W false false s)
    (hnew : W.client ⟨s.nextClient⟩ (Buf.malloc replyBufSize (by decide))) :
    Keeps (Watched W false false) (clientAccept s cfd) := by
  cases cfd with
  | none => exact h
  | some fd =>
      rw [clientAccept, lockClientList_of_free h.clientLock]
      refine ⟨fun c x hx => ?_, h.remote, h.log, h.bound, h.remoteLock, rfl⟩
      by_cases hc : c = ⟨s.nextClient⟩
      · subst hc
        cases (Function.update_self ..).symm.trans hx
        exact hnew
      · exact h.client c x ((Function.update_of_ne hc ..).symm.trans hx)

theorem clientGetFds_keeps (h : Watched W false false s) :
    Keeps (fun p => Watched W false false p.2) (clientGetFds s) := by
  refine Post.bind (Both.post (lockClientList_agree h.alike)) fun t ht => ?_
  have hfds : ∀ cs, Keeps (fun _ => True) (clientFds t cs) := by
    intro cs
    induction cs with
    | nil => exact trivial
    | cons c rest ih =>
        exact Post.bind client_keeps fun _ _ => Post.bind ih fun _ _ => trivial
  exact Post.bind (hfds _) fun _ _ => Alike.watched ht.unlockClientList

theorem clientShutdown_keeps (h : Watched W false false s) :
    Keeps (Watched W false false) (clientShutdown s) :=
  slotLoop_post (P := fun _ t => Watched W false false t) (fun h _ => h)
    (fun h _ => Agree.keeps (clientClose_agree h.alike (Or.inl rfl))) h

theorem usbmuxRemoteShutdown_keeps (h : Watched W false false s) :
    Keeps (Watched W false false) (usbmuxRemoteShutdown plat sys s) := by
  refine Post.bind (Both.post (lockRemoteList_agree h.alike)) fun t ht => ?_
  refine Post.bind (slotLoop_post (P := fun _ u => Watched W true false u) (fun h _ => h)
    (fun h _ => Agree.keeps (usbmuxRemoteDispose_agree h.alike)) (Alike.watched ht)) fun u hu => ?_
  exact Alike.watched hu.alike.unlockRemoteList

/-- The state a run starts in. -/
theorem usbmuxRemoteInit_keeps (hbound : W.bound = 0) (hlog : W.log []) :
    Keeps (Watched W false false) (usbmuxRemoteInit plat sys) := by
  have hempty : Watched W false false emptyDaemon :=
    ⟨fun _ _ h => (nomatch h), fun _ _ h => (nomatch h), hlog, by rw [hbound]; exact Nat.zero_le _,
      rfl, rfl⟩
  rw [usbmuxRemoteInit]
  split
  · exact hempty
  · next y hy =>
      refine Post.bind (Both.post (lockRemoteList_agree hempty.alike)) fun t ht => ?_
      have hib : y.ib = newInput := input_unixSocket hy
      have hadd := (ht.addRemote (y := { y with id := 0, isListener := true }) hib).markId 0
      refine Post.bind (Both.post (remoteSendListenPacket_agree (r := ⟨t.nextRemote⟩) hadd))
        fun p hp => ?_
      exact Alike.watched hp.2.unlockRemoteList

/-- Every event keeps a condition that looks at no more of the input buffers
than their capacity. -/
theorem step_keeps {e : Event} (hnew : ∀ c, W.client c (Buf.malloc replyBufSize (by decide)))
    (hclient : ∀ c, W.SkipsClient c) (hremote : ∀ r, W.SkipsRemote r)
    (h : Watched W false false s) : Keeps (Watched W false false) (step plat s e) := by
  cases e with
  | accept cfd => exact clientAccept_keeps h (hnew _)
  | client fd revents sys =>
      exact clientProcess_keeps h (fun c _ _ _ _ _ => hclient c)
        fun _ _ r _ _ _ _ _ _ => (hremote r).input
  | remote fd revents sys =>
      refine Post.bind (reapLoop_keeps h) fun p hp => ?_
      obtain ⟨u, found⟩ := p
      cases found with
      | none => exact hp
      | some r =>
          exact remoteProcessFound_keeps hp (fun _ _ _ _ => hremote r)
            (fun _ _ _ _ => (hremote r).input) fun _ _ _ => (hremote r).connected
  | getFds now => exact usbmuxRemoteGetFds_keeps h
  | addRemote hostName port sys | mdnsAdd serviceName hostName port sys =>
      exact Post.bind (Agree.keeps_res (remoteMuxServiceAdd_agree h.alike)) fun _ hp => hp
  | mdnsRemove serviceName sys =>
      exact Post.bind (Agree.keeps_res (remoteMuxServiceRemove_agree h.alike)) fun _ hp => hp

end Operations

end Usbfluxd
