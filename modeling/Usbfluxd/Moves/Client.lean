import Usbfluxd.Moves.Runs

/-!
# Clients make moves

The functions of `client.c` below `client_command`: closing a client,
telling clients about devices and about connect results.
-/

namespace Usbfluxd

open Lib

/-! ## Closing -/

namespace Core

variable {s : Core} {c : ClientPtr} {r : RemotePtr} {x x' : MuxClient} {y y' : RemoteMux}

@[simp] theorem dropClient_setClient : (s.setClient c x).dropClient c = s.dropClient c := by
  simp [setClient, dropClient]

@[simp] theorem dropRemote_setRemote : (s.setRemote r y).dropRemote r = s.dropRemote r := by
  simp [setRemote, dropRemote]

@[simp] theorem setClient_setClient : (s.setClient c x).setClient c x' = s.setClient c x' := by
  simp [setClient]

@[simp] theorem setRemote_setRemote : (s.setRemote r y).setRemote r y' = s.setRemote r y' := by
  simp [setRemote]

end Core

section Close

variable {A : Allow} {s : Daemon} {c : ClientPtr} {r : RemotePtr}

theorem remoteClose_runs {s₀ : Core} :
    Runs A s₀ (fun s' => (s.remotes r).isSome ∧ s'.toCore = s.toCore.dropRemote r)
      (remoteClose s r) :=
  remote_runs.bind fun _ hy => ⟨by rw [hy]; rfl, rfl⟩

theorem usbmuxRemoteNotifyClientClose_runs {s₀ : Core} :
    Runs A s₀ (fun s' => (s.remotes r).isSome ∧ s'.toCore = s.toCore.dropRemote r)
      (usbmuxRemoteNotifyClientClose s r) := by
  refine lockRemoteList_runs.bind fun s₁ h₁ => ?_
  refine remoteClose_runs.bind fun s₂ h₂ => ?_
  rw [h₁] at h₂
  exact h₂

/-- Closing a client takes the remote it is linked to along. -/
theorem clientClose_runs {s₀ : Core}
    (hblame : ∀ x r, s.clients c = some x → x.remote = some r → s.remotes r = none →
      FaultAt s₀ (.clientRemote c)) :
    Runs A s₀ (fun s' => ∃ x, s.clients c = some x ∧
      (∀ r, x.remote = some r → (s.remotes r).isSome) ∧
      s'.toCore = s.toCore.closeClient c x) (clientClose s c) := by
  refine modifyClient_runs.bind ?_
  rintro s₁ ⟨x, hx, rfl⟩
  set x₁ : MuxClient :=
    if x.state = .connecting1 ∨ x.state = .connecting2 then { x with state := .dead } else x
    with hx₁
  have hremote : x₁.remote = x.remote := by
    rw [hx₁]
    split <;> rfl
  have hclose : Runs A s₀ (fun s' : Daemon =>
      (∀ r, x.remote = some r → (s.remotes r).isSome) ∧
      s'.toCore.dropClient c = s.toCore.closeClient c x)
      (clientCloseRemote (s.update (·.setClient c x₁)) c) := by
    refine client_runs.bind fun x₂ hx₂ => ?_
    rw [toCore_update, Core.clients_setClient, if_pos rfl] at hx₂
    cases hx₂
    split
    · next hnone =>
        rw [hremote] at hnone
        refine ⟨fun r hr => ?_, ?_⟩
        · rw [hnone] at hr
          cases hr
        · rw [toCore_update, Core.dropClient_setClient, Core.closeClient, hnone]
          rfl
    · next r hr =>
        rw [hremote] at hr
        refine (clientRemote_runs (fun h => ?_) fun r' hr' hfree => ?_).bind ?_
        · rw [hremote, hr] at h
          cases h
        · rw [hremote] at hr'
          exact hblame x r' hx hr' hfree
        · rintro ⟨r', y⟩ ⟨hr', hy⟩
          rw [hremote, hr] at hr'
          obtain rfl : r = r' := Option.some.inj hr'
          have hlive : (s.remotes r).isSome := by
            rw [show s.remotes r = some y from hy]
            rfl
          refine modifyRemote_runs.bind ?_
          rintro s₂ ⟨y', _, rfl⟩
          refine usbmuxRemoteNotifyClientClose_runs.imp ?_
          rintro s₃ ⟨_, h₃⟩
          refine ⟨fun r' hr' => ?_, ?_⟩
          · rw [hr] at hr'
            obtain rfl : r = r' := Option.some.inj hr'
            exact hlive
          · rw [h₃, toCore_update, toCore_update, Core.dropRemote_setRemote, Core.closeClient,
              hr]
            show ((s.toCore.dropRemote r).setClient c x₁).dropClient c = _
            rw [Core.dropClient_setClient]
            rfl
  refine hclose.bind ?_
  rintro s₂ ⟨hlive, h₂⟩
  refine lockClientList_runs.bind fun s₃ h₃ => ?_
  refine client_runs.bind fun _ _ => ?_
  refine ⟨x, hx, hlive, ?_⟩
  rw [toCore_unlockClientList, toCore_update, h₃, h₂]

theorem clientClose_moves {s₀ : Core} (hm : Moves A s₀ s.toCore)
    (hleave : ∀ x, s.clients c = some x → A.leaveOk s.toCore c x) :
    Runs A s₀ (fun s' => Moves A s₀ s'.toCore) (clientClose s c) := by
  have hrun := clientClose_runs (A := A) (s := s) (c := c)
    fun x r hx hr hfree => ⟨x, hx, Or.inl ⟨r, hr, hfree⟩⟩
  refine Runs.after hm (hrun.imp ?_)
  rintro s' ⟨x, hx, hlive, h'⟩
  rw [h']
  exact hm.trans (Move.closeClient hx hlive (hleave x hx)).single

end Close

/-! ## Queueing -/

section Queue

variable {A : Allow} {s₀ s : Core} {c : ClientPtr} {plat : Platform} {sys : Sys}

/-- The client is in `CLIENT_COMMAND` and has its input buffer. -/
def Commanding (c : ClientPtr) (s : Core) : Prop :=
  ∃ x, s.clients c = some x ∧ x.state = .command ∧ x.ib.isNull = false

theorem Queued.clients_self {x : MuxClient} {hdr : Header} {payload : Payload} {s' : Core}
    (h : Queued c x hdr payload s s') :
    ∃ ob e, s'.clients c = some { x with ob := ob, events := e } := by
  obtain ⟨_, _, ob, _, rfl⟩ := h
  exact ⟨ob, _, if_pos rfl⟩

theorem Queued.remotes {x : MuxClient} {hdr : Header} {payload : Payload} {s' : Core}
    (h : Queued c x hdr payload s s') : s'.remotes = s.remotes := by
  obtain ⟨_, _, ob, _, rfl⟩ := h
  rfl

/-- Queueing leaves a commanding client one. -/
theorem SendOutcome.commanding {P : UInt32 → Header → Payload → Prop} {res : Int × Daemon}
    (h : SendOutcome plat sys c P s res) (hc : Commanding c s) :
    Commanding c res.2.toCore := by
  rcases h with ⟨_, _, heq⟩ | ⟨_, x, hdr, payload, _, hq⟩
  · rw [heq]
    exact hc
  · obtain ⟨x', hx', hstate, hib⟩ := hc
    cases hq.1.symm.trans hx'
    obtain ⟨ob, e, hs'⟩ := hq.clients_self
    exact ⟨_, hs', hstate, hib⟩

/-- Queueing a reply is a move, or nothing at all. -/
theorem SendOutcome.moves {P : UInt32 → Header → Payload → Prop} {res : Int × Daemon}
    (h : SendOutcome plat sys c P s res)
    (hinput : ∀ x, s.clients c = some x → x.ib.isNull = false)
    (hkind : ∀ {x hdr payload}, s.clients c = some x → P x.protoVersion hdr payload →
      x.state = .command ∨ ∃ tag result, IsResultPacket x.protoVersion tag result hdr payload) :
    Moves A s res.2.toCore := by
  rcases h with ⟨_, _, heq⟩ | ⟨_, x, hdr, payload, hP, hx, hver, ob, hob, heq⟩
  · rw [heq]
    exact Moves.refl
  · rw [heq]
    exact (Move.client hx (.queue (hinput x hx) hver (hkind hx hP) hob)).single

theorem SendOutcome.moves_commanding {P : UInt32 → Header → Payload → Prop}
    {res : Int × Daemon} (h : SendOutcome plat sys c P s res) (hc : Commanding c s) :
    Moves A s res.2.toCore := by
  obtain ⟨x, hx, hstate, hib⟩ := hc
  refine h.moves (fun x' hx' => ?_) fun hx' _ => ?_
  · cases hx.symm.trans hx'
    exact hib
  · cases hx.symm.trans hx'
    exact Or.inl hstate

end Queue

/-! ## Notifications -/

section Notify

variable {A : Allow} {s₀ : Core} {s : Daemon} {c : ClientPtr} {plat : Platform} {sys : Sys}

/-- One turn of the walk over the listening clients. -/
theorem notifyBody_runs {note : Note} {notify : Daemon → ClientPtr → Except Fault (Int × Daemon)}
    (hloss : Loss plat sys → A.lossOk)
    (hnotify : Runs A s₀ (SendOutcome plat sys c note.packet s.toCore) (notify s c)) :
    Runs A s₀ (fun s' => s'.clientList = s.clientList ∧
      ∀ {rest t}, Notified A.lossOk note rest s'.toCore t →
        Notified A.lossOk note (c :: rest) s.toCore t)
      (do
        let x ← s.client c
        if x.state = .listen then
          let (_, s) ← notify s c
          pure s
        else pure s) := by
  refine client_runs.bind fun x hx => ?_
  split
  · next hstate =>
      refine hnotify.bind ?_
      rintro ⟨res, s'⟩ (⟨_, hl, heq⟩ | ⟨_, x', hdr, payload, hpkt, hq⟩)
      · refine ⟨congrArg Core.clientList heq, fun h => ?_⟩
        rw [show s'.toCore = s.toCore from heq] at h
        exact .lost (hloss hl) h
      · cases hx.symm.trans hq.1
        refine ⟨?_, fun h => .sent hstate hpkt hq h⟩
        obtain ⟨_, _, _, _, heq⟩ := hq
        show s'.toCore.clientList = _
        rw [show s'.toCore = _ from heq]
        rfl
  · next hstate => exact ⟨rfl, fun h => .skip hx hstate h⟩

theorem forListeningClients_runs {note : Note}
    {notify : Daemon → ClientPtr → Except Fault (Int × Daemon)}
    (hloss : Loss plat sys → A.lossOk)
    (hnotify : ∀ s c, Runs A s₀ (SendOutcome plat sys c note.packet s.toCore) (notify s c)) :
    Runs A s₀ (fun s' => Notified A.lossOk note s.clientList.elems s.toCore s'.toCore)
      (forListeningClients notify s) := by
  refine lockClientList_runs.bind fun s₁ h₁ => ?_
  -- what is left to visit, read in the list the loop started with
  refine Runs.bind (slotLoop_post (P := fun idx (t : Daemon) =>
    t.clientList = s.clientList ∧
      ∀ u, Notified A.lossOk note (idx.filterMap s.clientList.slot) t.toCore u →
        Notified A.lossOk note s.clientList.elems s.toCore u) ?_ ?_ ?_) fun s₂ h₂ => ?_
  · rintro t i rest ⟨hlist, hnote⟩ hi
    rw [hlist] at hi
    rw [List.filterMap_cons_none hi] at hnote
    exact ⟨hlist, hnote⟩
  · rintro t i rest c ⟨hlist, hnote⟩ hi
    rw [hlist] at hi
    rw [List.filterMap_cons_some hi] at hnote
    refine (notifyBody_runs hloss (hnotify t c)).imp ?_
    rintro t' ⟨hlist', hnote'⟩
    exact ⟨hlist'.trans hlist, fun u hu => hnote u (hnote' hu)⟩
  · refine ⟨congrArg Core.clientList h₁, fun u hu => ?_⟩
    rw [congrArg Core.clientList h₁, Collection.filterMap_slot_range, h₁] at hu
    exact hu
  · exact h₂.2 _ .nil

theorem clientDeviceAdd_runs {dev : Plist} (hloss : Loss plat sys → A.lossOk) :
    Runs A s₀ (fun s' => Notified A.lossOk (.attached dev) s.clientList.elems s.toCore s'.toCore)
      (clientDeviceAdd plat sys s dev) :=
  forListeningClients_runs hloss fun _ _ => notifyDeviceAdd_runs

theorem clientDeviceRemove_runs {deviceId : UInt32} (hloss : Loss plat sys → A.lossOk) :
    Runs A s₀ (fun s' =>
      Notified A.lossOk (.detached deviceId) s.clientList.elems s.toCore s'.toCore)
      (clientDeviceRemove plat sys s deviceId) :=
  forListeningClients_runs hloss fun _ _ => notifyDeviceRemove_runs

theorem usbmuxRemoteCopyDeviceList_runs :
    Runs A s₀ (fun p => p.1 = s.remoteDeviceList.values ∧ p.2.toCore = s.toCore)
      (usbmuxRemoteCopyDeviceList s) := by
  refine lockRemoteList_runs.bind fun s₁ h₁ => ⟨?_, h₁⟩
  rw [h₁]

/-- The walk over the device list, for a client that listens. -/
theorem startListenLoop_runs {devs : List Plist} (hloss : Loss plat sys → A.lossOk) :
    ∀ {s : Daemon} {count : Int}, (∃ x, s.clients c = some x ∧ x.state = .listen) →
      Runs A s₀ (fun res => Snapshot A.lossOk c devs s.toCore res.2.toCore)
        (startListenLoop plat sys c devs count s) := by
  induction devs with
  | nil =>
      intro s count _
      exact Snapshot.nil
  | cons dev rest ih =>
      rintro s count ⟨x, hx, hstate⟩
      rw [startListenLoop]
      refine notifyDeviceAdd_runs.bind ?_
      rintro ⟨res, s'⟩ (⟨hneg, hl, heq⟩ | ⟨hpos, x', hdr, payload, hpkt, hq⟩)
      · have hneg' : res < 0 := hneg
        simp only [if_pos hneg']
        show Snapshot _ _ _ _ s'.toCore
        rw [show s'.toCore = s.toCore from heq]
        exact .lost (hloss hl)
      · have hpos' : ¬ res < 0 := Int.not_lt.mpr (Int.le_of_lt hpos)
        simp only [if_neg hpos']
        cases hx.symm.trans hq.1
        obtain ⟨ob, e, hs'⟩ := hq.clients_self
        refine (ih ⟨_, hs', hstate⟩).imp fun res' h' => ?_
        exact .sent hstate hpkt hq h'

theorem startListen_runs (hloss : Loss plat sys → A.lossOk) (hgrow : A.growOk)
    (hc : Commanding c s.toCore) :
    Runs A s₀ (fun res => Moves A s.toCore res.2.toCore) (startListen plat sys s c) := by
  obtain ⟨x, hx, hstate, _⟩ := hc
  refine modifyClient_runs.bind ?_
  rintro s₁ ⟨x', hx', rfl⟩
  cases hx.symm.trans hx'
  refine usbmuxRemoteCopyDeviceList_runs.bind ?_
  rintro ⟨devs, s₂⟩ ⟨hdevs, h₂⟩
  refine (startListenLoop_runs hloss ⟨{ x with state := .listen }, ?_, rfl⟩).imp ?_
  · rw [show s₂.toCore = _ from h₂]
    exact if_pos rfl
  · intro res hres
    rw [show s₂.toCore = _ from h₂, show devs = _ from hdevs] at hres
    exact (Move.listen hx hstate hres hgrow).single

end Notify

end Usbfluxd
