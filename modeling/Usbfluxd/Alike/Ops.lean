import Usbfluxd.Alike.Defs

/-!
# Closing, notifying and listing in step

`Agree` for the functions of `client.c` below `client_command` and for the
registry of remotes. The statements say which mutexes a function finds held:
`client_close` needs both free, except on a client without a remote, where
`remote_list_mutex` may be held, and that is what `usbmux_remote_dispose`
relies on.
-/

namespace Usbfluxd

open Lib

/-! ## Clients -/

section Clients

variable {V : View} {lr lc : Bool} {s s' : Daemon} {c : ClientPtr} {r : RemotePtr}
  {plat : Platform} {sys : Sys} {tag : UInt32}

/-- Fields of a client other than its input buffer. -/
theorem setFields_agree {f : MuxClient → MuxClient} (h : Alike V lr lc s s')
    (hf : ∀ x ib, f { x with ib := ib } = { f x with ib := ib } ∧ (f x).ib = x.ib) :
    Agree (Alike V lr lc) (s.modifyClient c f) (s'.modifyClient c f) := by
  refine modifyClient_agree h ?_
  rintro x x' ⟨ib, rfl, hib⟩
  obtain ⟨heq, hsame⟩ := hf x ib
  exact ⟨ib, heq, by rw [hsame]; exact hib⟩

/-- Fields of a remote other than its input buffer. -/
theorem setRemoteFields_agree {f : RemoteMux → RemoteMux} (h : Alike V lr lc s s')
    (hf : ∀ y ib, f { y with ib := ib } = { f y with ib := ib } ∧ (f y).ib = y.ib) :
    Agree (Alike V lr lc) (s.modifyRemote r f) (s'.modifyRemote r f) := by
  refine modifyRemote_agree h ?_
  rintro y y' ⟨ib, rfl, hib⟩
  obtain ⟨heq, hsame⟩ := hf y ib
  exact ⟨ib, heq, by rw [hsame]; exact hib⟩

theorem clientOrEvents_agree {events : PollEvents} (h : Alike V lr lc s s') :
    Agree (Alike V lr lc) (clientOrEvents s c events) (clientOrEvents s' c events) := by
  refine (client_agree h).bind ?_
  rintro x x' ⟨⟨ib, rfl, hib⟩, hx, hx'⟩
  exact Both.ite (fun _ => h) fun _ => setFields_agree h fun _ _ => ⟨rfl, rfl⟩

theorem clientSetRemote_agree (h : Alike V lr lc s s') :
    Agree (Alike V lr lc) (clientSetRemote s c r) (clientSetRemote s' c r) :=
  setFields_agree h fun _ _ => ⟨rfl, rfl⟩

theorem remoteClose_agree (h : Alike V lr lc s s') :
    Agree (Alike V lr lc) (remoteClose s r) (remoteClose s' r) :=
  (remote_agree h).bind fun _ => h.dropRemote

theorem usbmuxRemoteNotifyClientClose_agree (h : Alike V false false s s') :
    Agree (Alike V false false) (usbmuxRemoteNotifyClientClose s r)
      (usbmuxRemoteNotifyClientClose s' r) :=
  (lockRemoteList_agree h).bind fun ht =>
    (remoteClose_agree ht).bind fun hu => hu.unlockRemoteList

/-- The remote of a client is closed with it, which takes the list mutex
unless there is none. -/
theorem clientCloseRemote_agree (h : Alike V lr false s s')
    (hfree : lr = false ∨ ∀ x, s.clients c = some x → x.remote = none) :
    Agree (Alike V lr false) (clientCloseRemote s c) (clientCloseRemote s' c) := by
  refine (client_agree h).bind ?_
  rintro x x' ⟨⟨ib, rfl, hib⟩, hx, hx'⟩
  dsimp only
  cases hr : x.remote with
  | none => exact h
  | some r =>
      obtain rfl : lr = false := by
        rcases hfree with hfree | hfree
        · exact hfree
        · exact absurd ((hfree x hx).symm.trans hr) (by simp)
      refine Both.bind (clientRemote_agree h hr.symm) ?_
      rintro ⟨r', y⟩ ⟨_, y'⟩ ⟨rfl, _, _⟩
      refine Both.bind (setRemoteFields_agree h fun _ _ => ⟨rfl, rfl⟩) fun ht => ?_
      exact usbmuxRemoteNotifyClientClose_agree ht

theorem clientClose_agree (h : Alike V lr false s s')
    (hfree : lr = false ∨ ∀ x, s.clients c = some x → x.remote = none) :
    Agree (Alike V lr false) (clientClose s c) (clientClose s' c) := by
  refine Both.bind (R := fun t t' => Alike V lr false t t' ∧
    (lr = false ∨ ∀ x, t.clients c = some x → x.remote = none)) ?_ ?_
  · refine (client_agree h).bind ?_
    rintro x x' ⟨⟨ib, rfl, hib⟩, hx, hx'⟩
    refine ⟨Alike.setClient h ?_, hfree.imp id fun hnone z hz => ?_⟩
    · dsimp only
      split
      · exact ⟨ib, rfl, hib⟩
      · exact ⟨ib, rfl, hib⟩
    · cases clients_setClient_self.symm.trans hz
      dsimp only
      split
      · exact hnone x hx
      · exact hnone x hx
  · rintro t t' ⟨ht, hfree'⟩
    refine (clientCloseRemote_agree ht hfree').bind fun hu => ?_
    refine (lockClientList_agree hu).bind fun hv => ?_
    exact (client_agree hv).bind fun _ => hv.dropClient.unlockClientList

theorem clientNotifyConnect_agree {result : UInt32} (h : Alike V lr lc s s') :
    Agree (AlikeRes V lr lc) (clientNotifyConnect plat sys s c result)
      (clientNotifyConnect plat sys s' c result) := by
  refine (client_agree h).bind ?_
  rintro x x' ⟨⟨ib, rfl, hib⟩, hx, hx'⟩
  refine Both.ite (fun _ => ⟨rfl, h⟩) fun _ => ?_
  refine (sendResult_agree h).bind ?_
  rintro ⟨res, t⟩ ⟨_, t'⟩ ⟨rfl, ht⟩
  refine Both.ite (fun _ => ⟨rfl, ht⟩) fun _ => ?_
  refine Both.bind (R := Alike V lr lc) (modifyClient_agree ht ?_)
    fun hu => ⟨rfl, hu.emit_one rfl⟩
  rintro z z' ⟨ib, rfl, hib⟩
  dsimp only
  split
  · exact ⟨ib.free, rfl, V.free hib⟩
  · exact ⟨ib, rfl, hib⟩

theorem usbmuxRemoteCopyDeviceList_agree (h : Alike V false false s s') :
    Agree (AlikeRes V false false) (usbmuxRemoteCopyDeviceList s)
      (usbmuxRemoteCopyDeviceList s') :=
  (lockRemoteList_agree h).bind fun ht =>
    ⟨congrArg OMap.values ht.remoteDeviceList, ht.unlockRemoteList⟩

theorem sendDeviceList_agree (h : Alike V false false s s') :
    Agree (AlikeRes V false false) (sendDeviceList plat sys s c tag)
      (sendDeviceList plat sys s' c tag) := by
  refine (usbmuxRemoteCopyDeviceList_agree h).bind ?_
  rintro ⟨devices, t⟩ ⟨_, t'⟩ ⟨rfl, ht⟩
  exact sendPlistPkt_agree ht

theorem listenerEntries_agree {number : UInt32} {cs : List ClientPtr}
    (h : Alike V lr lc s s') :
    Agree (fun a a' => a' = a) (listenerEntries s number cs) (listenerEntries s' number cs) := by
  induction cs with
  | nil => rfl
  | cons c rest ih =>
      refine (client_agree h).bind ?_
      rintro x x' ⟨⟨ib, rfl, hib⟩, hx, hx'⟩
      refine Both.bind ih ?_
      rintro _ entries rfl
      rfl

theorem sendListenerList_agree (h : Alike V lr false s s') :
    Agree (AlikeRes V lr false) (sendListenerList plat sys s c tag)
      (sendListenerList plat sys s' c tag) := by
  refine (lockClientList_agree h).bind ?_
  rintro t t' ht
  refine (client_agree ht).bind ?_
  rintro x x' ⟨⟨ib, rfl, hib⟩, hx, hx'⟩
  rw [ht.clientList]
  refine (listenerEntries_agree ht).bind ?_
  rintro _ entries rfl
  exact sendPlistPkt_agree ht.unlockClientList

theorem startListenLoop_agree {devs : List Plist} {count : Int} (h : Alike V lr lc s s') :
    Agree (AlikeRes V lr lc) (startListenLoop plat sys c devs count s)
      (startListenLoop plat sys c devs count s') := by
  induction devs generalizing count s s' with
  | nil => exact ⟨rfl, h⟩
  | cons dev rest ih =>
      refine (notifyDeviceAdd_agree h).bind ?_
      rintro ⟨res, t⟩ ⟨_, t'⟩ ⟨rfl, ht⟩
      exact Both.ite (fun _ => ⟨rfl, ht⟩) fun _ => ih ht

theorem startListen_agree (h : Alike V false false s s') :
    Agree (AlikeRes V false false) (startListen plat sys s c) (startListen plat sys s' c) := by
  refine Both.bind (R := Alike V false false) (setFields_agree h fun _ _ => ⟨rfl, rfl⟩)
    fun ht => ?_
  refine (usbmuxRemoteCopyDeviceList_agree (ht.emit_one rfl)).bind ?_
  rintro ⟨devices, t⟩ ⟨_, t'⟩ ⟨rfl, ht⟩
  exact startListenLoop_agree ht

/-- The walk over the listening clients, for a notification that is in step. -/
theorem forListeningClients_agree
    {notify : Daemon → ClientPtr → Except Fault (Int × Daemon)} (h : Alike V lr false s s')
    (hnotify : ∀ {t t' c}, Alike V lr true t t' →
      Agree (AlikeRes V lr true) (notify t c) (notify t' c)) :
    Agree (Alike V lr false) (forListeningClients notify s) (forListeningClients notify s') := by
  refine (lockClientList_agree h).bind ?_
  rintro t t' ht
  rw [ht.clientList]
  refine Both.bind (R := Alike V lr true) (slotLoop_both (fun hu => ?_) ?_ ht)
    fun hu => hu.unlockClientList
  · rw [hu.clientList]
  · rintro u u' i c hu _
    refine (client_agree hu).bind ?_
    rintro x x' ⟨⟨ib, rfl, hib⟩, hx, hx'⟩
    refine Both.ite (fun _ => ?_) fun _ => hu
    refine (hnotify hu).bind ?_
    rintro ⟨res, v⟩ ⟨_, v'⟩ ⟨rfl, hv⟩
    exact hv

theorem clientDeviceAdd_agree {dev : Plist} (h : Alike V lr false s s') :
    Agree (Alike V lr false) (clientDeviceAdd plat sys s dev) (clientDeviceAdd plat sys s' dev) :=
  forListeningClients_agree h fun ht => notifyDeviceAdd_agree ht

theorem clientDeviceRemove_agree {deviceId : UInt32} (h : Alike V lr false s s') :
    Agree (Alike V lr false) (clientDeviceRemove plat sys s deviceId)
      (clientDeviceRemove plat sys s' deviceId) :=
  forListeningClients_agree h fun ht => notifyDeviceRemove_agree ht

end Clients

/-! ## The registry -/

section Registry

variable {V : View} {lr lc : Bool} {s s' : Daemon} {c : ClientPtr} {r : RemotePtr}
  {plat : Platform} {sys : Sys} {tag : UInt32}

/-- Both searches find the same remote, provided the predicate does not read
the input buffer. -/
theorem findRemote_agree {p : RemoteMux → Bool} {rs : List RemotePtr} (h : Alike V lr lc s s')
    (hp : ∀ y ib, p { y with ib := ib } = p y) :
    Agree (Option.Rel fun q q' => q'.1 = q.1 ∧ LikeRemote (V.remote q.1) q.2 q'.2)
      (findRemote s p rs) (findRemote s' p rs) := by
  induction rs with
  | nil => exact Option.Rel.none
  | cons r rest ih =>
      refine (remote_agree h).bind ?_
      rintro y y' ⟨⟨ib, rfl, hib⟩, hy, hy'⟩
      rw [hp y ib]
      cases p y with
      | true => exact Option.Rel.some ⟨rfl, ib, rfl, hib⟩
      | false => exact ih

theorem forRemotes_agree {body : Daemon → RemotePtr → Except Fault Daemon}
    (h : Alike V lr lc s s')
    (hbody : ∀ {t t' r}, Alike V lr lc t t' → Agree (Alike V lr lc) (body t r) (body t' r)) :
    Agree (Alike V lr lc) (forRemotes body s) (forRemotes body s') := by
  rw [forRemotes, forRemotes, h.remoteList]
  refine slotLoop_both (P := Alike V lr lc) ?_ ?_ h
  · intro t t' i ht
    rw [ht.remoteList]
  · intro t t' i r ht _
    exact hbody ht

theorem plistDictForeach_agree {func : String → Plist → Daemon → Except Fault (Int × Daemon)}
    {entries : List (String × Plist)} (h : Alike V lr lc s s')
    (hfunc : ∀ {key value t t'}, Alike V lr lc t t' →
      Agree (AlikeRes V lr lc) (func key value t) (func key value t')) :
    Agree (Alike V lr lc) (plistDictForeach func entries s)
      (plistDictForeach func entries s') := by
  induction entries generalizing s s' with
  | nil => exact h
  | cons entry rest ih =>
      obtain ⟨key, value⟩ := entry
      refine (hfunc h).bind ?_
      rintro ⟨res, t⟩ ⟨_, t'⟩ ⟨rfl, ht⟩
      exact Both.ite (fun _ => ht) fun _ => ih ht

theorem usbmuxRemoteClose_agree (h : Alike V false false s s') :
    Agree (Alike V false false) (usbmuxRemoteClose s r) (usbmuxRemoteClose s' r) := by
  refine (remote_agree h).bind ?_
  rintro y y' ⟨⟨ib, rfl, hib⟩, hy, hy'⟩
  dsimp only
  cases hc : y.client with
  | none => exact usbmuxRemoteNotifyClientClose_agree h
  | some c =>
      refine Both.bind (remoteClient_agree h hc.symm) ?_
      rintro _ c' ⟨rfl, _⟩
      exact clientClose_agree h (Or.inl rfl)

theorem Alike.setDevices {f : OMap String Plist → OMap String Plist} (h : Alike V lr lc s s') :
    Alike V lr lc (s.update fun t => { t with remoteDeviceList := f t.remoteDeviceList })
      (s'.update fun t => { t with remoteDeviceList := f t.remoteDeviceList }) :=
  { h with remoteDeviceList := congrArg f h.remoteDeviceList }

theorem remoteDeviceNotifyRemove_agree {id : UInt8} {key : String} {value : Plist}
    (h : Alike V lr false s s') :
    Agree (AlikeRes V lr false) (remoteDeviceNotifyRemove plat sys id key value s)
      (remoteDeviceNotifyRemove plat sys id key value s') := by
  refine Both.ite (fun _ => ?_) fun _ => ⟨rfl, h⟩
  exact (clientDeviceRemove_agree h).bind fun ht =>
    ⟨rfl, ht.setDevices (f := fun d => d.erase key)⟩

/-- The client is closed with the list mutex held: its link to the remote was
cleared first. -/
theorem disposeClient_agree {y y' : RemoteMux} (h : Alike V lr false s s')
    (hy : y'.client = y.client) :
    Agree (Alike V lr false) (disposeClient s r y) (disposeClient s' r y') := by
  rw [disposeClient, disposeClient, hy]
  cases hc : y.client with
  | none => exact h
  | some c =>
      refine Both.bind (remoteClient_agree h hy) ?_
      rintro _ c' ⟨rfl, _⟩
      refine Both.bind (R := fun t t' => Alike V lr false t t' ∧
        ∀ z, t.clients c' = some z → z.remote = none) ?_
        fun ht => clientClose_agree ht.1 (Or.inr ht.2)
      refine (client_agree h).bind ?_
      rintro x x' ⟨⟨ib, rfl, hib⟩, hx, hx'⟩
      refine ⟨Alike.setClient h ⟨ib, rfl, hib⟩, fun z hz => ?_⟩
      cases clients_setClient_self.symm.trans hz
      rfl

/-- The id of a disposed remote is given back. -/
theorem Alike.releaseId {y : RemoteMux} (h : Alike V lr lc s s') :
    Alike V lr lc
      (s.update fun t => if y.isListener ∧ y.host.isSome then
        { t with remoteIdMap := setRemoteIdUsed t.remoteIdMap y.id false } else t)
      (s'.update fun t => if y.isListener ∧ y.host.isSome then
        { t with remoteIdMap := setRemoteIdUsed t.remoteIdMap y.id false } else t) := by
  by_cases hl : y.isListener ∧ y.host.isSome
  · simp only [hl, and_self, if_true]
    exact { h with remoteIdMap := congrArg (setRemoteIdUsed · y.id false) h.remoteIdMap }
  · simp only [hl, if_false]
    exact { h with }

theorem usbmuxRemoteDispose_agree (h : Alike V lr false s s') :
    Agree (Alike V lr false) (usbmuxRemoteDispose plat sys s r)
      (usbmuxRemoteDispose plat sys s' r) := by
  rw [usbmuxRemoteDispose, usbmuxRemoteDispose]
  refine Both.bind (remote_agree h) ?_
  rintro y y' ⟨⟨ib, rfl, hib⟩, hy, hy'⟩
  rw [h.remoteDeviceList]
  refine Both.bind (R := Alike V lr false)
    (plistDictForeach_agree h fun ht => remoteDeviceNotifyRemove_agree ht) ?_
  rintro t t' ht
  have hlist : Alike V lr false
      (t.update fun u => { u with remoteList := u.remoteList.remove r })
      (t'.update fun u => { u with remoteList := u.remoteList.remove r }) :=
    { ht with remoteList := congrArg (·.remove r) ht.remoteList }
  refine Both.bind (R := Alike V lr false) (disposeClient_agree hlist rfl) ?_
  rintro u u' hu
  have hmap := hu.releaseId (y := y)
  refine Both.bind (remote_agree hmap) fun _ => ?_
  exact { hmap with remotes := optionRel_update hmap.remotes .none }

theorem remoteMarkDead_agree (h : Alike V true false s s') :
    Agree (Alike V true false) (remoteMarkDead plat sys s r)
      (remoteMarkDead plat sys s' r) := by
  refine (remote_agree h).bind ?_
  rintro y y' ⟨⟨ib, rfl, hib⟩, hy, hy'⟩
  refine Both.bind (setRemoteFields_agree h fun _ _ => ⟨rfl, rfl⟩) fun ht => ?_
  refine Both.bind (R := Alike V true false) (forRemotes_agree ht fun hu => ?_) ?_
  · refine (remote_agree hu).bind ?_
    rintro z z' ⟨⟨ib', rfl, hib'⟩, hz, hz'⟩
    exact Both.ite (fun _ => setRemoteFields_agree hu fun _ _ => ⟨rfl, rfl⟩) fun _ => hu
  · rintro u u' hu
    rw [hu.remoteList]
    refine Both.bind (findRemote_agree hu fun _ _ => rfl) ?_
    rintro o o' ho
    cases ho with
    | none => exact forRemotes_agree hu fun hv => usbmuxRemoteDispose_agree hv
    | some hq =>
        obtain ⟨hr, _⟩ := hq
        dsimp only
        rw [hr]
        exact setRemoteFields_agree hu fun _ _ => ⟨rfl, rfl⟩

theorem usbmuxRemoteMarkDead_agree (h : Alike V false false s s') :
    Agree (Alike V false false) (usbmuxRemoteMarkDead plat sys s r)
      (usbmuxRemoteMarkDead plat sys s' r) :=
  (lockRemoteList_agree h).bind fun ht =>
    (remoteMarkDead_agree ht).bind fun hu => hu.unlockRemoteList

theorem Alike.markId (h : Alike V lr lc s s') (id : UInt8) :
    Alike V lr lc
      (s.update fun t => { t with remoteIdMap := setRemoteIdUsed t.remoteIdMap id true })
      (s'.update fun t => { t with remoteIdMap := setRemoteIdUsed t.remoteIdMap id true }) :=
  { h with remoteIdMap := congrArg (setRemoteIdUsed · id true) h.remoteIdMap }

theorem remoteMuxServiceAdd_agree {serviceName hostName : String} {port : UInt16}
    (h : Alike V false false s s') :
    Agree (AlikeRes V false false) (remoteMuxServiceAdd plat sys s serviceName hostName port)
      (remoteMuxServiceAdd plat sys s' serviceName hostName port) := by
  refine (lockRemoteList_agree h).bind ?_
  rintro t t' ht
  rw [ht.remoteList]
  refine Both.bind (findRemote_agree ht fun _ _ => rfl) ?_
  rintro o o' ho
  cases ho with
  | some hq => exact ⟨rfl, ht.unlockRemoteList⟩
  | none =>
      dsimp only
      cases hnew : remoteMuxNewWithHost sys (some hostName) port with
      | none => exact ⟨rfl, ht.unlockRemoteList⟩
      | some y =>
          dsimp only
          rw [ht.remoteIdMap, ht.nextRemote]
          refine Both.ite (fun _ => ⟨rfl, ht.unlockRemoteList⟩) fun _ => ?_
          have hib : y.ib = newInput := by
            rw [remoteMuxNewWithHost, Option.bind_some, Option.map_eq_some_iff] at hnew
            obtain ⟨fd, _, rfl⟩ := hnew
            rfl
          have hadd := ht.addRemote (y := { y with
            id := getNewRemoteId t.remoteIdMap, serviceName := some serviceName,
            isListener := true }) hib
          have hmap := hadd.markId (getNewRemoteId t.remoteIdMap)
          refine (remoteSendListenPacket_agree (r := ⟨t.nextRemote⟩) hmap).bind ?_
          rintro ⟨res, u⟩ ⟨_, u'⟩ ⟨rfl, hu⟩
          exact ⟨rfl, hu.unlockRemoteList⟩

theorem remoteMuxServiceRemove_agree {serviceName hostName : Option String} {port : UInt16}
    (h : Alike V false false s s') :
    Agree (AlikeRes V false false)
      (remoteMuxServiceRemove plat sys s serviceName hostName port)
      (remoteMuxServiceRemove plat sys s' serviceName hostName port) := by
  refine (lockRemoteList_agree h).bind ?_
  rintro t t' ht
  rw [ht.remoteList]
  refine Both.bind (findRemote_agree ht fun _ _ => rfl) ?_
  rintro o o' ho
  cases ho with
  | none => exact ⟨rfl, ht.unlockRemoteList⟩
  | @some q q' hq =>
      obtain ⟨r, y⟩ := q
      obtain ⟨_, y'⟩ := q'
      obtain ⟨rfl, _⟩ := hq
      exact (remoteMarkDead_agree ht).bind fun hu => ⟨rfl, hu.unlockRemoteList⟩

/-- A walk over the devices that collects something. -/
theorem plistDictForeach_pure_agree {σ : Type}
    {func : String → Plist → σ → Except Fault (Int × σ)} {entries : List (String × Plist)}
    {ctx : σ} (hfunc : ∀ {key value ctx e}, func key value ctx = .error e → e.isLock = false) :
    Agree (fun a a' => a' = a) (plistDictForeach func entries ctx)
      (plistDictForeach func entries ctx) := by
  induction entries generalizing ctx with
  | nil => rfl
  | cons entry rest ih =>
      obtain ⟨key, value⟩ := entry
      refine Both.bind (Both.same fun e he => hfunc he) ?_
      rintro _ ⟨res, ctx'⟩ rfl
      exact Both.ite (fun _ => rfl) fun _ => ih

theorem copyInstancesLoop_agree {rs : List RemotePtr} {dict : Plist} (h : Alike V lr lc s s') :
    Agree (fun a a' => a' = a) (copyInstancesLoop s rs dict) (copyInstancesLoop s' rs dict) := by
  induction rs generalizing dict with
  | nil => rfl
  | cons r rest ih =>
      refine (remote_agree h).bind ?_
      rintro y y' ⟨⟨ib, rfl, hib⟩, hy, hy'⟩
      refine Both.ite (fun _ => ?_) fun _ => ih
      rw [h.remoteDeviceList]
      refine Both.bind (plistDictForeach_pure_agree fun he => ?_) ?_
      · rw [remoteDeviceGetForInstance] at he
        split at he <;> cases he
      · rintro _ devices rfl
        exact ih

theorem sendInstances_agree (h : Alike V false false s s') :
    Agree (AlikeRes V false false) (sendInstances plat sys s c tag)
      (sendInstances plat sys s' c tag) := by
  refine Both.bind (R := AlikeRes V false false) ?_ ?_
  · refine (lockRemoteList_agree h).bind ?_
    rintro t t' ht
    rw [ht.remoteList]
    refine (copyInstancesLoop_agree ht).bind ?_
    rintro _ dict rfl
    exact ⟨rfl, ht.unlockRemoteList⟩
  · rintro ⟨instances, t⟩ ⟨_, t'⟩ ⟨rfl, ht⟩
    exact sendPlistPkt_agree ht

end Registry

end Usbfluxd
