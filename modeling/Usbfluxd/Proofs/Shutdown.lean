import Usbfluxd.Model.Shutdown
import Usbfluxd.Proofs.Isolation
import Usbfluxd.Proofs.Links
import Usbfluxd.Proofs.Reassembly

/-!
# Shutting down

From any state the daemon can be in, `shutdown` either ends with every client
and every remote freed, or in one of three faults. It closes the clients
first, and each takes the remote it is linked to along, so nothing goes wrong
there unless a client is linked to a remote that is gone already. The remotes
that are left have no client, or one that was freed a moment ago. And where
one of them has the id of a device, the mutex that guarded the clients is
locked after it was destroyed.

Each half is one loop. What it has done so far is said in terms of the state
it started from, and the slots it has left to visit hold all that is left.
-/

namespace Usbfluxd

open Lib

/-- No client is linked to the remote. -/
def Unclaimed (s : Core) (r : RemotePtr) : Prop :=
  ∀ c x, s.clients c = some x → x.remote ≠ some r

/-- A device in the dictionary has this id. -/
def HasDevice (s : Core) (k : UInt8) : Prop :=
  ∃ key ∈ s.remoteDeviceList.keys, keyDevice key >>> 24 = k.toUInt32

/-- What a clean shutdown takes: links lead to live objects, those of the
remotes to clients that point back, and no remote that outlives the clients
has a device. -/
structure Closable (s : Core) : Prop where
  remote : ∀ {c x r}, s.clients c = some x → x.remote = some r → (s.remotes r).isSome
  client : ∀ {r y c}, s.remotes r = some y → y.client = some c →
    ∃ x, s.clients c = some x ∧ x.remote = some r
  devices : ∀ {r y}, s.remotes r = some y → Unclaimed s r → ¬ HasDevice s y.id

/-- What each fault of a shutdown says about the state it started from. -/
def ShutdownFault (s : Core) : Fault → Prop
  | .clientRemote c => ∃ x r, s.clients c = some x ∧ x.remote = some r ∧ s.remotes r = none
  | .remoteClient r => ∃ y c, s.remotes r = some y ∧ y.client = some c ∧ Unclaimed s r
  | .relock => ∃ r y, s.remotes r = some y ∧ Unclaimed s r ∧ HasDevice s y.id
  | _ => False

/-! ## Closing the clients -/

section Clients

variable {s : Daemon} {c : ClientPtr} {x : MuxClient}

/-- Closing a client that is there goes wrong only at a remote that is not. -/
theorem clientClose_closes (hx : s.clients c = some x) (hfree : s.Unlocked) :
    Post (fun f => f = .clientRemote c ∧ ∃ r, x.remote = some r ∧ s.remotes r = none)
      (fun s' => s' = s.update (·.closeClient c x) ∧
        ∀ r, x.remote = some r → (s.remotes r).isSome) (clientClose s c) := by
  obtain ⟨hrl, hcl⟩ := hfree
  have hread : s.client c = .ok x := by rw [Daemon.client, hx]
  rw [clientClose, Daemon.modifyClient, hread]
  dsimp only [bind, Except.bind, pure, Except.pure]
  set x' : MuxClient :=
    if x.state = .connecting1 ∨ x.state = .connecting2 then { x with state := .dead } else x
    with hx'
  have hremote : x'.remote = x.remote := by
    rw [hx']
    split <;> rfl
  cases hr : x.remote with
  | none =>
      rw [hr] at hremote
      simp [clientCloseRemote, Daemon.client, Daemon.lockClientList, Daemon.unlockClientList,
        Daemon.update, Core.setClient, Core.closeClient, Core.dropLinkedRemote, Core.dropClient,
        hr, hremote, hcl, bind, Except.bind, pure, Except.pure, Post]
  | some r =>
      rw [hr] at hremote
      cases hy : s.remotes r with
      | none =>
          simp [clientCloseRemote, Daemon.client, Daemon.clientRemote, Daemon.update,
            Core.setClient, hremote, hy, bind, Except.bind, Post]
      | some y =>
          simp [clientCloseRemote, usbmuxRemoteClearClient, usbmuxRemoteNotifyClientClose,
            remoteClose, Daemon.client, Daemon.clientRemote, Daemon.modifyRemote, Daemon.remote,
            Daemon.lockClientList, Daemon.unlockClientList, Daemon.lockRemoteList,
            Daemon.unlockRemoteList, Daemon.update, Core.setClient, Core.setRemote,
            Core.closeClient, Core.dropLinkedRemote, Core.dropRemote, Core.dropClient, hr,
            hremote, hy, hcl, hrl, bind, Except.bind, pure, Except.pure, Post]

/-- A loop from `s` that has the slots `idx` left to visit has come to `t`. -/
structure Closing (s : Core) (idx : List Nat) (t : Daemon) : Prop where
  wf : WF t.toCore
  unlocked : t.Unlocked
  left : ∀ {j c}, t.clientList.slot j = some c → j ∈ idx
  devices : t.remoteDeviceList = s.remoteDeviceList
  client : ∀ {c x}, t.clients c = some x → s.clients c = some x
  remote : ∀ {r y}, t.remotes r = some y → s.remotes r = some y
  closed : ∀ {c x r}, s.clients c = some x → t.clients c = none → x.remote = some r →
    (s.remotes r).isSome ∧ t.remotes r = none
  gone : ∀ {r y}, s.remotes r = some y → t.remotes r = none →
    ∃ c x, s.clients c = some x ∧ x.remote = some r ∧ t.clients c = none

theorem Closing.start (h : Settled s) :
    Closing s.toCore (List.range s.clientList.capacity) s where
  wf := h.wf
  unlocked := h.unlocked
  left hj := List.mem_range.mpr (Collection.slot_lt hj)
  devices := rfl
  client hx := hx
  remote hy := hy
  closed hx hnone := by cases hx.symm.trans hnone
  gone hy hnone := by cases hy.symm.trans hnone

variable {s₀ : Core} {t : Daemon} {i : Nat} {rest : List Nat}

theorem Closing.skip (h : Closing s₀ (i :: rest) t) (hi : t.clientList.slot i = none) :
    Closing s₀ rest t where
  wf := h.wf
  unlocked := h.unlocked
  left hj := by
    rcases List.mem_cons.mp (h.left hj) with rfl | hj'
    · cases hi.symm.trans hj
    · exact hj'
  devices := h.devices
  client := h.client
  remote := h.remote
  closed := h.closed
  gone := h.gone

/-- Two clients are never linked to one remote. -/
theorem LogOk.linked_unique (h : LogOk s₀) {c' : ClientPtr} {x' : MuxClient} {r : RemotePtr}
    (hx : s₀.clients c = some x) (hx' : s₀.clients c' = some x') (hr : x.remote = some r)
    (hr' : x'.remote = some r) : c = c' := by
  obtain ⟨state, hopen⟩ := h.link hx hr
  obtain ⟨state', hopen'⟩ := h.link hx' hr'
  exact (h.unique hopen hopen').1

theorem Closing.close (h : Closing s₀ (i :: rest) t)
    (hi : t.clientList.slot i = some c) (hx : t.clients c = some x)
    (hlive : ∀ r, x.remote = some r → (t.remotes r).isSome) :
    Closing s₀ rest (t.update (·.closeClient c x)) where
  wf := h.wf.closeClient
  unlocked := h.unlocked
  left {j c'} hj := by
    have hlist : (t.toCore.closeClient c x).clientList = t.clientList.remove c := by
      rw [Core.closeClient, Core.dropClient]
      cases x.remote <;> rfl
    change (t.toCore.closeClient c x).clientList.slot j = some c' at hj
    rw [hlist, Collection.slot_remove_eq h.wf.clientsNodup] at hj
    obtain ⟨hj, hne⟩ := Option.filter_eq_some_iff.mp hj
    rcases List.mem_cons.mp (h.left hj) with rfl | hmem
    · cases hi.symm.trans hj
      exact absurd rfl (of_decide_eq_true hne)
    · exact hmem
  devices := by
    rw [← h.devices]
    show (t.toCore.closeClient c x).remoteDeviceList = _
    rw [Core.closeClient]
    cases x.remote <;> rfl
  client {c' z} hz := by
    rw [toCore_update, Core.clients_closeClient] at hz
    split at hz
    · cases hz
    · exact h.client hz
  remote {r y} hy := by
    rw [toCore_update, Core.remotes_closeClient] at hy
    split at hy
    · cases hy
    · exact h.remote hy
  closed {c' z r} hz hnone hr := by
    rw [toCore_update, Core.clients_closeClient] at hnone
    rw [toCore_update, Core.remotes_closeClient]
    by_cases hc : c' = c
    · subst hc
      cases hz.symm.trans (h.client hx)
      obtain ⟨y, hy⟩ := Option.isSome_iff_exists.mp (hlive r hr)
      exact ⟨by rw [h.remote hy]; rfl, if_pos hr⟩
    · rw [if_neg hc] at hnone
      obtain ⟨hwas, hgone⟩ := h.closed hz hnone hr
      refine ⟨hwas, ?_⟩
      split
      · rfl
      · exact hgone
  gone {r y} hy hnone := by
    rw [toCore_update, Core.remotes_closeClient] at hnone
    by_cases hr : x.remote = some r
    · refine ⟨c, x, h.client hx, hr, ?_⟩
      rw [toCore_update, Core.clients_closeClient, if_pos rfl]
    · rw [if_neg hr] at hnone
      obtain ⟨c', x', hx', hr', hgone⟩ := h.gone hy hnone
      refine ⟨c', x', hx', hr', ?_⟩
      rw [toCore_update, Core.clients_closeClient]
      split
      · rfl
      · exact hgone

/-- All clients are gone, and of the remotes those that clients were linked
to. -/
structure ClientsClosed (s : Core) (t : Daemon) : Prop where
  wf : WF t.toCore
  unlocked : t.Unlocked
  devices : t.remoteDeviceList = s.remoteDeviceList
  clients : ∀ c, t.clients c = none
  remotes : ∀ {r y}, t.remotes r = some y ↔ s.remotes r = some y ∧ Unclaimed s r
  links : ∀ {c x r}, s.clients c = some x → x.remote = some r → (s.remotes r).isSome

theorem Closing.done (h : Closing s₀ [] t) : ClientsClosed s₀ t := by
  have hclients : ∀ c, t.clients c = none := by
    intro c
    by_contra hne
    obtain ⟨j, hj⟩ := Collection.mem_elems_iff.mp
      ((h.wf.clients c).mpr (Option.ne_none_iff_isSome.mp hne))
    exact absurd (h.left hj) List.not_mem_nil
  refine ⟨h.wf, h.unlocked, h.devices, hclients, ?_, ?_⟩
  · intro r y
    constructor
    · intro hy
      refine ⟨h.remote hy, ?_⟩
      intro c x hx hr
      cases hy.symm.trans (h.closed hx (hclients c) hr).2
    · rintro ⟨hy, hfree⟩
      cases hgone : t.remotes r with
      | none =>
          obtain ⟨c, x, hx, hr, _⟩ := h.gone hy hgone
          exact absurd hr (hfree c x hx)
      | some y' => rw [← hy, ← h.remote hgone]
  · intro c x r hx hr
    exact (h.closed hx (hclients c) hr).1

/-- `client_shutdown` closes every client, or comes to one whose remote is
gone. -/
theorem clientShutdown_closes (h : Settled s) :
    Post (ShutdownFault s.toCore) (ClientsClosed s.toCore) (clientShutdown s) := by
  refine Post.imp (slotLoop_post (P := fun idx t => Closing s.toCore idx t)
    (F := ShutdownFault s.toCore) (fun h hi => h.skip hi) ?_ (Closing.start h))
    (fun _ hf => hf) fun t ht => ht.done
  intro t i rest c hc hi
  obtain ⟨x, hx⟩ := Option.isSome_iff_exists.mp
    ((hc.wf.clients c).mp (Collection.slot_mem hi))
  refine Post.imp (clientClose_closes hx hc.unlocked) ?_ ?_
  · rintro f ⟨rfl, r, hr, hnone⟩
    have hx₀ := hc.client hx
    refine ⟨x, r, hx₀, hr, ?_⟩
    -- a remote that went with another client was that client's alone
    cases hy : s.remotes r with
    | none => rfl
    | some y =>
        obtain ⟨c', x', hx', hr', hgone⟩ := hc.gone hy hnone
        cases h.log.linked_unique hx₀ hx' hr hr'
        cases hx.symm.trans hgone
  · rintro t' ⟨rfl, hlive⟩
    exact hc.close hi hx hlive

end Clients

/-! ## Disposing of the rest -/

section Remotes

variable {plat : Platform} {sys : Sys} {s t : Daemon} {r : RemotePtr} {y : RemoteMux} {k : UInt8}

/-- With the mutex of the clients gone, the walk over the dictionary passes
over the devices of other ids and stops at the first of this one. -/
theorem notifyDeviceList_destroyed {l : List (String × Plist)} (hlock : s.clientListLocked = true) :
    Post (fun f => f = .relock ∧ ∃ p ∈ l, keyDevice p.1 >>> 24 = k.toUInt32)
      (fun s' => s' = s ∧ ∀ p ∈ l, keyDevice p.1 >>> 24 ≠ k.toUInt32)
      (plistDictForeach (remoteDeviceNotifyRemove plat sys k) l s) := by
  induction l with
  | nil => exact ⟨rfl, by simp⟩
  | cons p rest ih =>
      obtain ⟨key, value⟩ := p
      rw [plistDictForeach, remoteDeviceNotifyRemove]
      by_cases hk : keyDevice key >>> 24 = k.toUInt32
      · have hfail : clientDeviceRemove plat sys s (keyDevice key) = .error .relock := by
          rw [clientDeviceRemove, forListeningClients, Daemon.lockClientList, if_pos hlock]
          rfl
        rw [if_pos hk, hfail]
        exact ⟨rfl, (key, value), List.mem_cons_self, hk⟩
      · rw [if_neg hk]
        refine Post.imp ih ?_ ?_
        · rintro f ⟨hf, p, hp, hpk⟩
          exact ⟨hf, p, List.mem_cons_of_mem _ hp, hpk⟩
        · rintro s' ⟨rfl, hrest⟩
          refine ⟨rfl, ?_⟩
          intro p hp
          rcases List.mem_cons.mp hp with rfl | hp
          · exact hk
          · exact hrest p hp

/-- Disposing of a remote when no client is left and their mutex is gone. -/
theorem usbmuxRemoteDispose_destroyed (hy : s.remotes r = some y)
    (hlock : s.clientListLocked = true) (hnone : ∀ c, s.clients c = none) :
    Post (fun f => (f = .relock ∧ HasDevice s.toCore y.id) ∨
        f = .remoteClient r ∧ ∃ c, y.client = some c)
      (fun s' => s' = s.update (·.dispose r y) ∧ y.client = none ∧ ¬ HasDevice s.toCore y.id)
      (usbmuxRemoteDispose plat sys s r) := by
  have hread : s.remote r = .ok y := by rw [Daemon.remote, hy]
  rw [usbmuxRemoteDispose, hread, ok_bind]
  refine Post.bind (Post.imp (notifyDeviceList_destroyed hlock) ?_ fun _ h => h) ?_
  · rintro f ⟨rfl, p, hp, hk⟩
    exact Or.inl ⟨rfl, p.1, List.mem_map.mpr ⟨p, hp, rfl⟩, hk⟩
  · rintro s₁ ⟨rfl, hother⟩
    have hdevices : ¬ HasDevice s₁.toCore y.id := by
      rintro ⟨key, hkey, hk⟩
      obtain ⟨p, hp, rfl⟩ := List.mem_map.mp hkey
      exact hother p hp hk
    refine Post.bind (P := fun u => u = s₁.update (fun v => { v with
        remoteList := v.remoteList.remove r }) ∧ y.client = none) ?_ ?_
    · cases hclient : y.client with
      | none => simp [disposeClient, hclient, Post]
      | some c =>
          simp [disposeClient, Daemon.remoteClient, Daemon.update, hclient, hnone, bind,
            Except.bind, Post]
    · rintro u ⟨rfl, hclient⟩
      by_cases hid : y.isListener ∧ y.host.isSome <;>
        simp [Daemon.remote, Daemon.update, Core.dispose, Core.dropRemote, Core.dropLinkedClient,
          Core.releaseId, hid, hy, hclient, hdevices, bind, Except.bind, pure, Except.pure, Post]

/-- A loop from `s` that has the slots `idx` left to visit has come to `t`. -/
structure Disposing (s : Core) (idx : List Nat) (t : Daemon) : Prop where
  wf : WF t.toCore
  destroyed : t.clientListLocked = true
  clients : ∀ c, t.clients c = none
  left : ∀ {j r}, t.remoteList.slot j = some r → j ∈ idx
  devices : t.remoteDeviceList = s.remoteDeviceList
  remote : ∀ {r y}, t.remotes r = some y → s.remotes r = some y
  gone : ∀ {r y}, s.remotes r = some y → t.remotes r = none →
    y.client = none ∧ ¬ HasDevice s y.id

variable {s₀ : Core} {i : Nat} {rest : List Nat}

theorem Disposing.skip (h : Disposing s₀ (i :: rest) t) (hi : t.remoteList.slot i = none) :
    Disposing s₀ rest t where
  wf := h.wf
  destroyed := h.destroyed
  clients := h.clients
  left hj := by
    rcases List.mem_cons.mp (h.left hj) with rfl | hj'
    · cases hi.symm.trans hj
    · exact hj'
  devices := h.devices
  remote := h.remote
  gone := h.gone

theorem Disposing.dispose (h : Disposing s₀ (i :: rest) t) (hi : t.remoteList.slot i = some r)
    (hy : t.remotes r = some y) (hclient : y.client = none) (hdevice : ¬ HasDevice s₀ y.id) :
    Disposing s₀ rest (t.update (·.dispose r y)) where
  wf := h.wf.dispose
  destroyed := h.destroyed
  clients c := by
    rw [toCore_update, Core.dispose, Core.clients_releaseId, Core.clients_dropLinkedClient,
      hclient, if_neg (by simp)]
    exact h.clients c
  left {j r'} hj := by
    have hlist : (t.toCore.dispose r y).remoteList = t.remoteList.remove r := by
      rw [Core.dispose, Core.remoteList_releaseId, Core.remoteList_dropLinkedClient]
      rfl
    change (t.toCore.dispose r y).remoteList.slot j = some r' at hj
    rw [hlist, Collection.slot_remove_eq h.wf.remotesNodup] at hj
    obtain ⟨hj, hne⟩ := Option.filter_eq_some_iff.mp hj
    rcases List.mem_cons.mp (h.left hj) with rfl | hmem
    · cases hi.symm.trans hj
      exact absurd rfl (of_decide_eq_true hne)
    · exact hmem
  devices := by
    rw [← h.devices]
    show (t.toCore.dispose r y).remoteDeviceList = _
    rw [Core.dispose, hclient, Core.releaseId]
    split <;> rfl
  remote {r' z} hz := by
    rw [toCore_update, Core.remotes_dispose] at hz
    split at hz
    · cases hz
    · exact h.remote hz
  gone {r' z} hz hnone := by
    rw [toCore_update, Core.remotes_dispose] at hnone
    by_cases hr : r' = r
    · subst hr
      cases hz.symm.trans (h.remote hy)
      exact ⟨hclient, hdevice⟩
    · rw [if_neg hr] at hnone
      exact h.gone hz hnone

/-- The loop of `usbmux_remote_shutdown` frees every remote, or comes to one
that it cannot dispose of any more. -/
theorem disposeAll_destroyed (h : Disposing s.toCore (List.range s.remoteList.capacity) s) :
    Post (fun f => ∃ r y, s.remotes r = some y ∧
        ((f = .relock ∧ HasDevice s.toCore y.id) ∨ f = .remoteClient r ∧ ∃ c, y.client = some c))
      (fun t => (∀ c, t.clients c = none) ∧ (∀ r, t.remotes r = none) ∧
        ∀ r y, s.remotes r = some y → y.client = none ∧ ¬ HasDevice s.toCore y.id)
      (forRemotes (usbmuxRemoteDispose plat sys) s) := by
  refine Post.imp (slotLoop_post (P := fun idx t => Disposing s.toCore idx t)
    (fun h hi => h.skip hi) ?_ h) (fun _ hf => hf) ?_
  · intro t i rest r hd hi
    obtain ⟨y, hy⟩ := Option.isSome_iff_exists.mp
      ((hd.wf.remotes r).mp (Collection.slot_mem hi))
    have hsame : HasDevice t.toCore y.id ↔ HasDevice s.toCore y.id := by
      rw [HasDevice, HasDevice, hd.devices]
    refine Post.imp (usbmuxRemoteDispose_destroyed hy hd.destroyed hd.clients) ?_ ?_
    · intro f hf
      rw [hsame] at hf
      exact ⟨r, y, hd.remote hy, hf⟩
    · rintro t' ⟨rfl, hclient, hdevice⟩
      rw [hsame] at hdevice
      exact hd.dispose hi hy hclient hdevice
  · intro t ht
    have hremotes : ∀ r, t.remotes r = none := by
      intro r
      by_contra hne
      obtain ⟨j, hj⟩ := Collection.mem_elems_iff.mp
        ((ht.wf.remotes r).mpr (Option.ne_none_iff_isSome.mp hne))
      exact absurd (ht.left hj) List.not_mem_nil
    exact ⟨ht.clients, hremotes, fun r y hy => ht.gone hy (hremotes r)⟩

end Remotes

/-! ## The whole -/

section Whole

variable {plat : Platform} {sys : Sys} {s t : Daemon}

/-- The second loop starts when the first is done. -/
theorem ClientsClosed.disposing (h : ClientsClosed s.toCore t) (locked : Bool) :
    Disposing { t with remoteListLocked := locked }.destroyClientList.toCore
      (List.range t.remoteList.capacity)
      { t with remoteListLocked := locked }.destroyClientList where
  wf :=
    { clients := fun c => by
        have hnone : t.clients c = none := h.clients c
        simp [Daemon.destroyClientList, Collection.elems, hnone]
      remotes := h.wf.remotes
      clientsNodup := List.nodup_nil
      remotesNodup := h.wf.remotesNodup
      clientFresh := h.wf.clientFresh
      remoteFresh := h.wf.remoteFresh }
  destroyed := rfl
  clients := h.clients
  left hj := List.mem_range.mpr (Collection.slot_lt hj)
  devices := rfl
  remote hy := hy
  gone hy hnone := by cases hy.symm.trans hnone

/-- What a shutdown comes to. -/
theorem shutdown_post (h : Settled s) :
    Post (ShutdownFault s.toCore)
      (fun s' => Closable s.toCore ∧ (∀ c, s'.clients c = none) ∧ ∀ r, s'.remotes r = none)
      (shutdown plat sys s) := by
  refine Post.bind (clientShutdown_closes h) fun t ht => ?_
  rw [lockRemoteList_of_free ht.unlocked.1 ht.unlocked.2, ok_bind]
  refine Post.bind (Post.imp (disposeAll_destroyed (ht.disposing true)) ?_ fun _ h => h) ?_
  · rintro f ⟨r, y, hy, hf⟩
    obtain ⟨hy₀, hfree⟩ := ht.remotes.mp hy
    rcases hf with ⟨rfl, key, hkey, hk⟩ | ⟨rfl, c, hc⟩
    · refine ⟨r, y, hy₀, hfree, key, ?_, hk⟩
      rw [← ht.devices]
      exact hkey
    · exact ⟨y, c, hy₀, hc, hfree⟩
  · rintro u ⟨hclients, hremotes, hleft⟩
    refine ⟨⟨ht.links, ?_, ?_⟩, hclients, hremotes⟩
    · intro r y c hy hc
      by_contra hnot
      have hfree : Unclaimed s.toCore r := by
        intro c' x' hx' hr'
        obtain ⟨state, hopen⟩ := h.log.link hx' hr'
        obtain ⟨state', hopen'⟩ := h.log.back hy hc
        obtain rfl := (h.log.unique hopen hopen').1
        exact hnot ⟨x', hx', hr'⟩
      cases hc.symm.trans (hleft r y (ht.remotes.mpr ⟨hy, hfree⟩)).1
    · intro r y hy hfree
      rintro ⟨key, hkey, hk⟩
      refine (hleft r y (ht.remotes.mpr ⟨hy, hfree⟩)).2 ⟨key, ?_, hk⟩
      show key ∈ t.remoteDeviceList.keys
      rw [ht.devices]
      exact hkey

theorem Closable.no_fault {s : Core} (h : Closable s) (f : Fault) : ¬ ShutdownFault s f := by
  intro hf
  cases f with
  | clientRemote c =>
      obtain ⟨x, r, hx, hr, hnone⟩ := hf
      have hlive := h.remote hx hr
      rw [hnone] at hlive
      cases hlive
  | remoteClient r =>
      obtain ⟨y, c, hy, hc, hfree⟩ := hf
      obtain ⟨x, hx, hr⟩ := h.client hy hc
      exact hfree c x hx hr
  | relock =>
      obtain ⟨r, y, hy, hfree, hdevice⟩ := hf
      exact h.devices hy hfree hdevice
  | freedClient | freedRemote | nullBuffer | outOfBounds | intOverflow | wildPointer
  | nullString | lockOrder => exact hf

/-- Shutting down from a reachable state frees every client and every remote
if the links are as they should be and no remote that outlives the clients
has a device. Otherwise it faults, and the fault says which of these it
was. -/
theorem shutdown_iff (h : Reachable plat s) :
    ((∃ s', shutdown plat sys s = .ok s') ↔ Closable s.toCore) ∧
      (∀ s', shutdown plat sys s = .ok s' →
        (∀ c, s'.clients c = none) ∧ ∀ r, s'.remotes r = none) ∧
      ∀ f, shutdown plat sys s = .error f → ShutdownFault s.toCore f := by
  have hpost : Post (ShutdownFault s.toCore) _ (shutdown plat sys s) :=
    shutdown_post (reachable_settled h)
  refine ⟨⟨?_, ?_⟩, fun s' hs' => (hpost.of_ok hs').2, fun f hf => hpost.of_error hf⟩
  · rintro ⟨s', hs'⟩
    exact (hpost.of_ok hs').1
  · intro hclose
    cases hrun : shutdown plat sys s with
    | ok s' => exact ⟨s', rfl⟩
    | error f => exact absurd (hpost.of_error hrun) (hclose.no_fault f)

end Whole

/-- A client waits for its connect request to be answered, and both it and
its remote go. -/
theorem shutdown_iff_connecting :
    ∃ s s', Reachable (platformWith []) s ∧ (s.clients ⟨0⟩).isSome ∧ (s.remotes ⟨0⟩).isSome ∧
      shutdown (platformWith []) {} s = .ok s' ∧ Closable s.toCore ∧
      (∀ c, s'.clients c = none) ∧ ∀ r, s'.remotes r = none := by
  let test : Daemon → Bool := fun s => (s.clients ⟨0⟩).isSome && (s.remotes ⟨0⟩).isSome &&
    okAnd (fun _ => true) (shutdown (platformWith []) {} s)
  obtain ⟨s, hrun, htest⟩ : ∃ s, runFrom (platformWith []) {} (fun _ _ => true) connectRun =
      some s ∧ test s = true := exists_of_runFrom (by decide +kernel)
  simp only [test, Bool.and_eq_true] at htest
  obtain ⟨⟨hclient, hremote⟩, hok⟩ := htest
  obtain ⟨s', hs', _⟩ := exists_of_okAnd hok
  have hreach := reachable_of_runFrom hrun
  obtain ⟨hiff, hempty, _⟩ := @shutdown_iff _ {} s hreach
  exact ⟨s, s', hreach, hclient, hremote, hs', hiff.mp ⟨s', hs'⟩, hempty s' hs'⟩

/-- With a device attached, the daemon goes on to lock a mutex that it has
destroyed. -/
theorem shutdown_locks_destroyed :
    ∃ s, Reachable (platformWith [numberedMessage]) s ∧
      s.remoteDeviceList.keys = ["0x01000005"] ∧
      shutdown (platformWith [numberedMessage]) {} s = .error .relock := by
  let test : Daemon → Bool := fun s => decide (s.remoteDeviceList.keys = ["0x01000005"]) &&
    failsWith .relock (shutdown (platformWith [numberedMessage]) {} s)
  obtain ⟨s, hrun, htest⟩ : ∃ s, runFrom (platformWith [numberedMessage]) {} (fun _ _ => true)
      (listeningRun ++ remoteSends 10 (plistFrame 1 0 numberedMessage)) = some s ∧
      test s = true := exists_of_runFrom (by decide +kernel)
  simp only [test, Bool.and_eq_true, decide_eq_true_eq] at htest
  exact ⟨s, reachable_of_runFrom hrun, htest.1, eq_of_failsWith htest.2⟩

end Usbfluxd
