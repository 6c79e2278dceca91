import Usbfluxd.Moves.Shape
import Usbfluxd.Proofs.Runs

/-!
# The registry of listeners

The ids of TCP listeners come from a bitmap, and a listener is refused when
its name or its endpoint is taken. That this makes listeners distinct for
good is an invariant that ties the bitmap to the list: the bit of every TCP
listener in the list is set, so a new id is nobody's, and a bit is cleared
only when its one owner leaves.

Ids of connections play no part in it: connections are no listeners, and
nothing but a listener ever reaches `REMOTE_LISTEN`.
-/

namespace Usbfluxd

open Lib

/-! ## The invariant -/

/-- What holds of every remote by itself. -/
structure RemoteOk (m : IdMap) (y : RemoteMux) : Prop where
  listening : y.state = .listen → y.isListener = true
  waiting : y.lastCommand = some .listen → y.isListener = true
  listener : y.isListener = true →
    y.client = none ∧ (y.state = .command ∨ y.state = .listen ∨ y.state = .dead)
  unix : y.isUnix = true → y.id = 0 ∧ y.host = none
  tcp : y.isTcpListener = true → y.id ≠ 0 ∧ idUsed m y.id = true ∧ y.host ≠ none

/-- Two TCP listeners have nothing in common. -/
def Unlike (y y' : RemoteMux) : Prop :=
  y.id ≠ y'.id ∧ y.serviceName ≠ y'.serviceName ∧ ¬ (y.host = y'.host ∧ y.port = y'.port)

structure Registry (s : Core) : Prop where
  remote : ∀ {r y}, s.remotes r = some y → RemoteOk s.remoteIdMap y
  unlike : ∀ {r r' y y'}, s.remotes r = some y → s.remotes r' = some y' →
    y.isTcpListener = true → y'.isTcpListener = true → r ≠ r' → Unlike y y'

section Preservation

variable {A : Allow} {s s' : Core} {m : IdMap} {y y' : RemoteMux}

theorem Unlike.symm (h : Unlike y y') : Unlike y' y :=
  ⟨h.1.symm, h.2.1.symm, fun hend => h.2.2 ⟨hend.1.symm, hend.2.symm⟩⟩

theorem RemoteMux.Evolves.isTcpListener (h : y.Evolves y') :
    y'.isTcpListener = y.isTcpListener := by
  rw [RemoteMux.isTcpListener, RemoteMux.isTcpListener, h.isUnix, h.isListener]

theorem RemoteOk.evolves (h : RemoteOk m y) (he : y.Evolves y') : RemoteOk m y' where
  listening hstate := by
    rw [he.isListener]
    rcases he.state with heq | hdead | ⟨_, hcmd, _⟩ | ⟨_, hconn⟩
    · exact h.listening (heq.symm.trans hstate)
    · cases hdead.symm.trans hstate
    · exact h.waiting hcmd
    · cases hconn.symm.trans hstate
  waiting hcmd := by
    rw [he.isListener]
    rcases he.lastCommand with heq | hnone
    · exact h.waiting (heq.symm.trans hcmd)
    · cases hnone.symm.trans hcmd
  listener hlistener := by
    rw [he.isListener] at hlistener
    obtain ⟨hclient, hstate⟩ := h.listener hlistener
    refine ⟨he.client.trans hclient, ?_⟩
    rcases he.state with heq | hdead | ⟨_, _, hlisten⟩ | ⟨hconn, _⟩
    · rw [heq]
      exact hstate
    · exact Or.inr (Or.inr hdead)
    · exact Or.inr (Or.inl hlisten)
    · rcases hstate with hs | hs | hs <;> rw [hs] at hconn <;> rcases hconn with hc | hc <;>
        cases hc
  unix hunix := by
    rw [he.isUnix] at hunix
    rw [he.id, he.host]
    exact h.unix hunix
  tcp htcp := by
    rw [he.isTcpListener] at htcp
    rw [he.id, he.host]
    exact h.tcp htcp

theorem Unlike.evolves {z z' : RemoteMux} (h : Unlike y z) (hy : y.Evolves y')
    (hz : z.Evolves z') : Unlike y' z' := by
  rw [Unlike, hy.id, hz.id, hy.serviceName, hz.serviceName, hy.host, hz.host, hy.port, hz.port]
  exact h

/-- A change of the id map that keeps the bits of the TCP listeners. -/
theorem RemoteOk.withMap {m' : IdMap} (h : RemoteOk m y)
    (hm : y.isTcpListener = true → idUsed m' y.id = true) : RemoteOk m' y :=
  ⟨h.listening, h.waiting, h.listener, h.unix,
    fun htcp => ⟨(h.tcp htcp).1, hm htcp, (h.tcp htcp).2.2⟩⟩

theorem isTcpListener_iff : y.isTcpListener = true ↔ y.isUnix = false ∧ y.isListener = true := by
  rw [RemoteMux.isTcpListener, Bool.and_eq_true, Bool.not_eq_true']

theorem RemoteOk.of_newConnection {c : ClientPtr} {k : UInt8} (hend : EndpointFor s k y)
    (hnew : NewConnection y)
    (hkind : ConnectRemote c k y ∨ RequestRemote A.lossOk c y) : RemoteOk m y where
  listening hstate := by
    rcases hkind with ⟨h, _⟩ | ⟨h, _⟩ <;> cases h.symm.trans hstate
  waiting hcmd := by
    rcases hkind with ⟨_, _, _, h⟩ | ⟨_, _, ⟨_, cmd, hne, h⟩ | ⟨_, _, h⟩⟩
    · cases h.symm.trans hcmd
    · cases h.symm.trans hcmd
      exact absurd rfl hne
    · cases h.symm.trans hcmd
  listener hlistener := by cases hnew.isListener.symm.trans hlistener
  unix hunix := by
    rcases hend with ⟨hk, _, hhost⟩ | ⟨_, hunix', _⟩
    · refine ⟨?_, hhost⟩
      rcases hkind with ⟨_, hid, _⟩ | ⟨_, hid, _⟩
      · rw [hid, hk]
      · exact hid
    · cases hunix'.symm.trans hunix
  tcp htcp := by
    cases hnew.isListener.symm.trans (isTcpListener_iff.mp htcp).2

theorem RemoteOk.of_newListener (hnew : NewListener s y) :
    RemoteOk (setRemoteIdUsed s.remoteIdMap y.id true) y where
  listening _ := hnew.isListener
  waiting _ := hnew.isListener
  listener _ := ⟨hnew.client, Or.inl hnew.state⟩
  unix hunix := by cases hnew.isUnix.symm.trans hunix
  tcp _ := by
    refine ⟨hnew.id_ne, ?_, ?_⟩
    · rw [idUsed_setRemoteIdUsed, if_pos rfl]
    · obtain ⟨h, hhost⟩ := hnew.host
      rw [hhost]
      exact Option.some_ne_none h

/-- Remotes may leave, as long as the bits of those that stay are kept. -/
theorem Registry.sub (h : Registry s)
    (hsub : ∀ {r y}, s'.remotes r = some y → s.remotes r = some y)
    (hmap : ∀ {r y}, s'.remotes r = some y → y.isTcpListener = true →
      idUsed s'.remoteIdMap y.id = true) : Registry s' where
  remote hy := (h.remote (hsub hy)).withMap (hmap hy)
  unlike hy hy' := h.unlike (hsub hy) (hsub hy')

theorem Registry.inPlace (h : Registry s) (hm : InPlace s s') : Registry s' where
  remote hy' := by
    obtain ⟨y, hy, he⟩ := hm.remote_before hy'
    rw [hm.remoteIdMap]
    exact (h.remote hy).evolves he
  unlike {r r' y' z'} hy' hz' htcp htcp' hne := by
    obtain ⟨y, hy, he⟩ := hm.remote_before hy'
    obtain ⟨z, hz, he'⟩ := hm.remote_before hz'
    rw [he.isTcpListener] at htcp
    rw [he'.isTcpListener] at htcp'
    exact (h.unlike hy hz htcp htcp' hne).evolves he he'

/-- A new remote that is no TCP listener. -/
theorem Registry.addConnection (h : Registry s) (hremotes : s'.remotes = (s.addRemote y).remotes)
    (hmap : s'.remoteIdMap = s.remoteIdMap) (hy : RemoteOk s.remoteIdMap y)
    (htcp : y.isTcpListener = false) : Registry s' where
  remote {r z} hz := by
    rw [hremotes, Core.remotes_addRemote] at hz
    rw [hmap]
    split at hz
    · cases hz
      exact hy
    · exact h.remote hz
  unlike {r r' z z'} hz hz' hztcp hztcp' hne := by
    rw [hremotes, Core.remotes_addRemote] at hz hz'
    split at hz
    · cases hz
      cases htcp.symm.trans hztcp
    · split at hz'
      · cases hz'
        cases htcp.symm.trans hztcp'
      · exact h.unlike hz hz' hztcp hztcp' hne

/-- A listener whose id was free and whose name and endpoint were not in
use. -/
theorem Registry.addListener {acts : List Act} (h : Registry s) (hwf : WF s)
    (hnew : NewListener s y) :
    Registry ({ s.addRemote y with
      remoteIdMap := setRemoteIdUsed s.remoteIdMap y.id true }.emit acts) := by
  have hfree : idUsed s.remoteIdMap y.id = false := by
    have hid := hnew.id_ne
    rw [hnew.id] at hid ⊢
    exact (getNewRemoteId_spec hid).1
  have hunlike : ∀ {r z}, s.remotes r = some z → z.isTcpListener = true → Unlike z y := by
    intro r z hz htcp
    have hmem : r ∈ s.remoteList.elems := by
      rw [hwf.remotes, hz]
      rfl
    obtain ⟨hname, hend⟩ := hnew.distinct r z hmem hz htcp
    refine ⟨fun hid => ?_, hname, hend⟩
    have hused := ((h.remote hz).tcp htcp).2.1
    rw [hid, hfree] at hused
    cases hused
  refine ⟨fun {r z} hz => ?_, fun {r r' z z'} hz hz' htcp htcp' hne => ?_⟩
  · rw [Core.remotes_emit] at hz
    rcases Core.remotes_addRemote_cases hz with ⟨_, rfl⟩ | hz
    · exact .of_newListener hnew
    · refine (h.remote hz).withMap fun htcp => ?_
      show idUsed (setRemoteIdUsed _ _ _) _ = true
      rw [idUsed_setRemoteIdUsed, if_neg (hunlike hz htcp).1]
      exact ((h.remote hz).tcp htcp).2.1
  · rw [Core.remotes_emit] at hz hz'
    rcases Core.remotes_addRemote_cases hz with ⟨hr, hzy⟩ | hold
    · rcases Core.remotes_addRemote_cases hz' with ⟨hr', _⟩ | hold'
      · exact absurd (hr.trans hr'.symm) hne
      · rw [hzy]
        exact (hunlike hold' htcp').symm
    · rcases Core.remotes_addRemote_cases hz' with ⟨_, hzy'⟩ | hold'
      · rw [hzy']
        exact hunlike hold htcp
      · exact h.unlike hold hold' htcp htcp' hne

theorem Registry.dispose {r : RemotePtr} (h : Registry s) (hy : s.remotes r = some y) :
    Registry (s.dispose r y) := by
  have hleft : ∀ {r' z}, (s.dispose r y).remotes r' = some z → r' ≠ r ∧ s.remotes r' = some z := by
    intro r' z hz
    rw [Core.remotes_dispose] at hz
    split at hz
    · cases hz
    · next hne => exact ⟨hne, hz⟩
  refine h.sub (fun hz => (hleft hz).2) fun {r' z} hz htcp => ?_
  obtain ⟨hne, hz⟩ := hleft hz
  have hused := ((h.remote hz).tcp htcp).2.1
  rw [Core.dispose, Core.remoteIdMap_releaseId, Core.remoteIdMap_dropLinkedClient]
  split
  · next hown =>
      -- the id that is released belonged to the remote that leaves
      have hytcp : y.isTcpListener = true := by
        rw [isTcpListener_iff]
        refine ⟨?_, hown.1⟩
        by_contra hunix
        rw [Bool.not_eq_false] at hunix
        rw [((h.remote hy).unix hunix).2] at hown
        cases hown.2
      rw [idUsed_setRemoteIdUsed, if_neg (h.unlike hz hy htcp hytcp hne).1]
      exact hused
  · exact hused

/-- Every move keeps the registry. -/
theorem Registry.move (hwf : WF s) (hm : Move A s s') (h : Registry s) : Registry s' := by
  cases hm.shape with
  | inPlace hp => exact h.inPlace hp
  | accept _ heq =>
      rw [heq]
      exact ⟨h.remote, h.unlike⟩
  | opens ho =>
      rw [ho.result]
      refine h.addConnection rfl rfl (.of_newConnection ho.endpoint ho.new
        (ho.kind.imp And.left And.left)) ?_
      · rw [RemoteMux.isTcpListener, ho.new.isListener, Bool.and_false]
  | addListener hnew heq =>
      rw [heq]
      exact h.addListener hwf hnew
  | closeClient hx heq =>
      have hsub : ∀ {r y}, s'.remotes r = some y → s.remotes r = some y := by
        intro r y hy
        rw [heq, Core.remotes_closeClient] at hy
        split at hy
        · cases hy
        · exact hy
      refine h.sub hsub fun hy htcp => ?_
      rw [heq, Core.remoteIdMap_closeClient]
      exact ((h.remote (hsub hy)).tcp htcp).2.1
  | closeRemote hy _ _ heq =>
      have hsub : ∀ {r y}, s'.remotes r = some y → s.remotes r = some y := by
        intro r y hy
        rw [heq, Core.remotes_dropRemote] at hy
        split at hy
        · cases hy
        · exact hy
      refine h.sub hsub fun hy htcp => ?_
      rw [heq]
      exact ((h.remote (hsub hy)).tcp htcp).2.1
  | dispose hy _ heq =>
      rw [heq]
      exact h.dispose hy

theorem Registry.initial (h : Initial s) : Registry s := by
  cases h with
  | empty => exact ⟨fun hy => (nomatch hy), fun hy => (nomatch hy)⟩
  | listener hy _ =>
      have hok : ∀ m, RemoteOk m _ := fun m =>
        ⟨fun _ => hy.isListener, fun _ => hy.isListener, fun _ => ⟨hy.client, Or.inl hy.state⟩,
          fun _ => ⟨hy.id, hy.host⟩, fun htcp => by
            cases hy.isUnix.symm.trans (isTcpListener_iff.mp htcp).1⟩
      refine ⟨fun {r z} hz => ?_, fun {r r' z z'} hz hz' htcp _ _ => ?_⟩
      · rcases Core.remotes_addRemote_cases hz with ⟨_, rfl⟩ | hz
        · exact hok _
        · cases hz
      · rcases Core.remotes_addRemote_cases hz with ⟨_, rfl⟩ | hz
        · cases hy.isUnix.symm.trans (isTcpListener_iff.mp htcp).1
        · cases hz

end Preservation

/-- The registry is sound in every reachable state. -/
theorem reachable_registry {plat : Platform} {s : Daemon} (h : Reachable plat s) :
    WF s.toCore ∧ Registry s.toCore :=
  reachable_inv (A := .all) Registry.initial (fun _ _ _ => allows_all) Registry.move h

/-! ## Listeners over whole runs -/

/-- The smallest id in 1..255 whose bit is clear. -/
def IsLeastFreeId (m : IdMap) (k : UInt8) : Prop :=
  1 ≤ k.toNat ∧ k.toNat ≤ 255 ∧ idUsed m k = false ∧
    ∀ j : UInt8, 1 ≤ j.toNat → j < k → idUsed m j = true

theorem one_le_toNat {k : UInt8} (h : k ≠ 0) : 1 ≤ k.toNat ∧ k.toNat ≤ 255 := by
  have hlt := k.toNat_lt
  have hne : k.toNat ≠ 0 := fun h0 => h (UInt8.toNat_inj.mp h0)
  omega

theorem isLeastFreeId_getNewRemoteId {m : IdMap} (h : getNewRemoteId m ≠ 0) :
    IsLeastFreeId m (getNewRemoteId m) := by
  obtain ⟨hfree, hbelow⟩ := getNewRemoteId_spec h
  obtain ⟨hlo, hhi⟩ := one_le_toNat h
  refine ⟨hlo, hhi, hfree, fun j hj hlt => hbelow j (fun h0 => ?_) hlt⟩
  rw [h0] at hj
  cases hj

/-- One listener was added to the list: with the given name and endpoint, the
least free id and its bit. -/
structure ListenerAdded (s s' : Core) (serviceName hostName : String) (port : UInt16)
    (r : RemotePtr) (y : RemoteMux) : Prop where
  new : r ∉ s.remoteList.elems
  remote : s'.remotes r = some y
  listener : y.isTcpListener = true
  name : y.serviceName = some serviceName
  host : y.host = some hostName
  port : y.port = port
  id : IsLeastFreeId s.remoteIdMap y.id
  list : s'.remoteList.elems.Perm (r :: s.remoteList.elems)
  others : ∀ r', r' ≠ r → s'.remotes r' = s.remotes r'
  idMap : s'.remoteIdMap = setRemoteIdUsed s.remoteIdMap y.id true
  devices : s'.remoteDeviceList = s.remoteDeviceList

theorem ListenerAdded.of_newListener {s : Core} {serviceName hostName : String}
    {port : UInt16} {y : RemoteMux} {acts : List Act} (hwf : WF s) (hnew : NewListener s y)
    (hname : y.serviceName = some serviceName) (hhost : y.host = some hostName)
    (hport : y.port = port) :
    ListenerAdded s ({ s.addRemote y with
      remoteIdMap := setRemoteIdUsed s.remoteIdMap y.id true }.emit acts)
      serviceName hostName port ⟨s.nextRemote⟩ y where
  new hmem := by
    rw [hwf.remotes, hwf.nextRemote_free] at hmem
    cases hmem
  remote := Core.remotes_addRemote.trans (if_pos rfl)
  listener := isTcpListener_iff.mpr ⟨hnew.isUnix, hnew.isListener⟩
  name := hname
  host := hhost
  port := hport
  id := by
    have hid := hnew.id_ne
    rw [hnew.id] at hid ⊢
    exact isLeastFreeId_getNewRemoteId hid
  list := Collection.elems_add_perm s.remoteList
  others _ hne := Core.remotes_addRemote.trans (if_neg hne)
  idMap := rfl
  devices := rfl

/-- In every reachable state the TCP listeners are distinct in all respects
and own their bits, only listeners listen, and adding one adds exactly one or
changes nothing. -/
theorem reachable_listeners {plat : Platform} {s : Daemon} (h : Reachable plat s) :
    (∀ r ∈ s.remoteList.elems, ∀ r' ∈ s.remoteList.elems, ∀ y y', s.remotes r = some y →
      s.remotes r' = some y' → y.isTcpListener = true → y'.isTcpListener = true → r ≠ r' →
      y.id ≠ y'.id ∧ y.serviceName ≠ y'.serviceName ∧
        ¬ (y.host = y'.host ∧ y.port = y'.port)) ∧
    (∀ r ∈ s.remoteList.elems, ∃ y, s.remotes r = some y ∧
      (y.isTcpListener = true →
        1 ≤ y.id.toNat ∧ y.id.toNat ≤ 255 ∧ idUsed s.remoteIdMap y.id = true) ∧
      (y.state = .listen → y.isListener = true)) ∧
    ∀ sys serviceName hostName port res s',
      remoteMuxServiceAdd plat sys s serviceName hostName port = .ok (res, s') →
      (res ≠ 0 → s'.remoteList = s.remoteList ∧ s'.remotes = s.remotes ∧
        s'.remoteIdMap = s.remoteIdMap ∧ s'.remoteDeviceList = s.remoteDeviceList) ∧
      (res = 0 → ∃ r y,
        ListenerAdded s.toCore s'.toCore serviceName hostName port r y) := by
  obtain ⟨hwf, hreg⟩ := reachable_registry h
  refine ⟨fun r _ r' _ y y' hy hy' htcp htcp' hne => hreg.unlike hy hy' htcp htcp' hne,
    fun r hr => ?_, fun sys serviceName hostName port res s' hadd => ?_⟩
  · obtain ⟨y, hy⟩ := Option.isSome_iff_exists.mp ((hwf.remotes r).mp hr)
    have hok := hreg.remote hy
    refine ⟨y, hy, fun htcp => ?_, hok.listening⟩
    obtain ⟨hid, hused, _⟩ := hok.tcp htcp
    exact ⟨(one_le_toNat hid).1, (one_le_toNat hid).2, hused⟩
  · have hrun : Runs Allow.all s.toCore _
        (remoteMuxServiceAdd plat sys s serviceName hostName port) := remoteMuxServiceAdd_runs
    rcases hrun.of_ok hadd with ⟨hne, heq⟩ | ⟨h0, y, acts, hnew, ⟨hname, hhost, hport, _⟩, _, heq⟩
    · refine ⟨fun _ => ?_, fun h0 => absurd h0 hne⟩
      rw [show s'.toCore = _ from heq]
      exact ⟨rfl, rfl, rfl, rfl⟩
    · refine ⟨fun hne => absurd h0 hne, fun _ => ⟨⟨s.nextRemote⟩, y, ?_⟩⟩
      rw [show s'.toCore = _ from heq]
      exact .of_newListener hwf hnew hname hhost hport

/-- One listener from the command line and one the mDNS thread found. -/
def twoListeners : List Event :=
  [.addRemote "hosta" 5000 { connect := some 10 },
   .mdnsAdd "flux" "hostb" 5000 { connect := some 11 }]

theorem reachable_listeners_two :
    ∃ s y y', Reachable (platformWith []) s ∧ s.remoteList.elems = [⟨0⟩, ⟨1⟩] ∧
      s.remotes ⟨0⟩ = some y ∧ s.remotes ⟨1⟩ = some y' ∧ y.isTcpListener = true ∧
      y'.isTcpListener = true ∧ y.id ≠ y'.id ∧ y.serviceName ≠ y'.serviceName := by
  let test : Daemon → Bool := fun s => decide (s.remoteList.elems = [⟨0⟩, ⟨1⟩]) &&
    (s.remotes ⟨0⟩).any RemoteMux.isTcpListener && (s.remotes ⟨1⟩).any RemoteMux.isTcpListener
  obtain ⟨s, hrun, htest⟩ : ∃ s, runFrom (platformWith []) {} (fun _ _ => true) twoListeners =
      some s ∧ test s = true := exists_of_runFrom (by decide +kernel)
  simp only [test, Bool.and_eq_true, decide_eq_true_eq, Option.any_eq_true] at htest
  obtain ⟨⟨hlist, y, hy, htcp⟩, y', hy', htcp'⟩ := htest
  have hmem : ∀ r ∈ [(⟨0⟩ : RemotePtr), ⟨1⟩], r ∈ s.remoteList.elems := by
    rw [hlist]
    exact fun _ hr => hr
  have hreach := reachable_of_runFrom hrun
  obtain ⟨hid, hname, _⟩ := (reachable_listeners hreach).1 ⟨0⟩ (hmem _ (by decide)) ⟨1⟩
    (hmem _ (by decide)) y y' hy hy' htcp htcp' (by decide)
  exact ⟨s, y, y', hreach, hlist, hy, hy', htcp, htcp', hid, hname⟩

end Usbfluxd
