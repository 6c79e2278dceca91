import Usbfluxd.Proofs.Answers

/-!
# Duplicate listeners

`remote_mux_service_add` refuses a listener when one in the list has its
service name or its host and port. A listener added by hand gets its host as
its service name, so the two tests come down to one: the host. Neither the
port nor whether the listener is dead already makes a difference.
-/

namespace Usbfluxd

open Lib

/-- The mDNS thread adds no listener. -/
def Event.manual : Event → Prop
  | .mdnsAdd .. => False
  | _ => True

/-- Listeners are added under the name of their host only. -/
def Allow.manual : Allow := { Allow.all with namedOk := False }

theorem allows_manual {plat : Platform} {s : Daemon} {e : Event} (h : e.manual) :
    Allows Allow.manual plat s e := by
  refine allows_of .of_all
    (fun _ => trivial) ?_ (fun _ _ _ _ _ _ _ _ _ _ _ _ _ _ => trivial)
    fun _ _ _ _ => ⟨fun _ _ _ => trivial, fun _ _ _ => trivial, fun _ _ _ _ _ => trivial,
      fun _ _ => trivial⟩
  rintro serviceName hostName port sys rfl
  exact h.elim

/-- The service name of every TCP listener is its host. -/
def NamedByHost (s : Core) : Prop :=
  ∀ r y, s.remotes r = some y → y.isTcpListener = true → y.serviceName = y.host

section Named

variable {A : Allow} {s s' : Core}

theorem NamedByHost.leaves (h : NamedByHost s) (hm : Leaves s s') : NamedByHost s' :=
  fun r y hy => h r y (hm.remote hy)

theorem NamedByHost.addRemote {y : RemoteMux} (h : NamedByHost s)
    (hremotes : s'.remotes = (s.addRemote y).remotes)
    (hnew : y.isTcpListener = true → y.serviceName = y.host) : NamedByHost s' := by
  intro r z hz htcp
  rw [hremotes] at hz
  rcases Core.remotes_addRemote_cases hz with ⟨_, rfl⟩ | hz
  · exact hnew htcp
  · exact h r z hz htcp

theorem NamedByHost.move (hnamed : ¬ A.namedOk) (hm : Move A s s') (h : NamedByHost s) :
    NamedByHost s' := by
  cases hm.shape with
  | inPlace hp =>
      intro r y' hy' htcp
      obtain ⟨y, hy, he⟩ := hp.remote_before hy'
      rw [he.serviceName, he.host]
      exact h r y hy (he.isTcpListener ▸ htcp)
  | accept _ heq =>
      rw [heq]
      exact h
  | opens ho =>
      rw [ho.result]
      refine h.addRemote rfl fun htcp => ?_
      cases ho.new.isListener.symm.trans (isTcpListener_iff.mp htcp).2
  | addListener _ heq _ hname =>
      rw [heq]
      exact h.addRemote rfl fun _ => hname.resolve_right hnamed
  | closeClient _ heq =>
      rw [heq]
      exact h.leaves .closeClient
  | closeRemote _ _ _ heq =>
      rw [heq]
      exact h.leaves .dropRemote
  | dispose _ _ heq =>
      rw [heq]
      exact h.leaves .dispose

theorem NamedByHost.initial (h : Initial s) : NamedByHost s := by
  intro r y hy htcp
  cases h with
  | empty => cases hy
  | listener hlocal _ =>
      rcases Core.remotes_addRemote_cases hy with ⟨_, rfl⟩ | hy
      · cases hlocal.isUnix.symm.trans (isTcpListener_iff.mp htcp).1
      · cases hy

end Named

theorem reachable_namedByHost {plat : Platform} {s : Daemon}
    (h : ReachableBy plat (fun _ e => e.manual) s) : NamedByHost s.toCore :=
  (reachable_inv (A := .manual) NamedByHost.initial (fun _ _ he => allows_manual he)
    (fun _ hm hn => hn.move id hm) h).2

/-! ## Refusing a listener -/

/-- A listener with the host is in the list. -/
def HostListed (s : Core) (hostName : String) : Prop :=
  ∃ r ∈ s.remoteList.elems, ∃ y, s.remotes r = some y ∧ y.isListener = true ∧
    y.host = some hostName

/-- A listener with the host and the port is in the list and not dead. -/
def LiveListener (s : Core) (hostName : String) (port : UInt16) : Prop :=
  ∃ r ∈ s.remoteList.elems, ∃ y, s.remotes r = some y ∧ y.isListener = true ∧
    y.state ≠ .dead ∧ y.host = some hostName ∧ y.port = port

/-- `AddInstance` reports that the listener is present already. -/
def Refused (plat : Platform) (sys : Sys) (s : Daemon) (hostName : String) (port : UInt16) :
    Prop :=
  ∃ s', usbmuxRemoteAddRemote plat sys s hostName port = .ok (-2, s')

section Refused

variable {plat : Platform} {sys : Sys} {s : Daemon} {hostName serviceName : String}
  {port : UInt16}

/-- What the search of `remote_mux_service_add` finds decides whether the
listener is refused. -/
theorem remoteMuxServiceAdd_refused_iff (hwf : WF s.toCore)
    (hlock : s.remoteListLocked = false ∧ s.clientListLocked = false) :
    (∃ s', remoteMuxServiceAdd plat sys s serviceName hostName port = .ok (-2, s')) ↔
      ∃ r ∈ s.remoteList.elems, ∃ y, s.remotes r = some y ∧
        sameService serviceName hostName port y = true := by
  let s₁ : Daemon := { s with remoteListLocked := true }
  have hlocked : s.lockRemoteList = .ok s₁ := by
    simp [Daemon.lockRemoteList, hlock, s₁]
  obtain ⟨o, ho⟩ := findRemote_total (s := s₁) (p := sameService serviceName hostName port)
    fun r hr => (hwf.remotes r).mp hr
  have hfound := findRemote_runs.returns.of_ok ho
  constructor
  · intro hrefused
    obtain ⟨s', hrun⟩ := hrefused
    obtain ⟨t, ht, hrun⟩ := bind_eq_ok.mp hrun
    cases hlocked.symm.trans ht
    obtain ⟨o', ho', hrun⟩ := bind_eq_ok.mp hrun
    cases ho.symm.trans ho'
    rcases hfound with ⟨rfl, _⟩ | ⟨r, y, _, hr, hy, hp⟩
    · -- without a match the result is 0 or -1
      dsimp only at hrun
      split at hrun
      · cases hrun
      · split at hrun
        · cases hrun
        · obtain ⟨_, _, hdone⟩ := bind_eq_ok.mp hrun
          cases hdone
    · exact ⟨r, hr, y, hy, hp⟩
  · intro hlisted
    obtain ⟨r, hr, y, hy, hp⟩ := hlisted
    rcases hfound with ⟨_, hnone⟩ | ⟨r', y', rfl, _⟩
    · cases (hnone r y hr hy).symm.trans hp
    · refine ⟨s₁.unlockRemoteList, ?_⟩
      rw [remoteMuxServiceAdd, hlocked]
      change (findRemote s₁ _ _ >>= _) = _
      rw [ho]
      rfl

theorem refused_iff (h : ReachableBy plat (fun _ e => e.manual) s) :
    Refused plat sys s hostName port ↔ HostListed s.toCore hostName := by
  have hreach := h.reachable
  obtain ⟨hwf, hreg⟩ := reachable_registry hreach
  have hnamed := reachable_namedByHost h
  refine (remoteMuxServiceAdd_refused_iff hwf (reachable_unlocked hreach)).trans ?_
  constructor
  · intro hsame
    obtain ⟨r, hr, y, hy, hp⟩ := hsame
    rw [sameService, Bool.and_eq_true, Bool.or_eq_true, Bool.and_eq_true, decide_eq_true_eq,
      decide_eq_true_eq] at hp
    refine ⟨r, hr, y, hy, (isTcpListener_iff.mp hp.1).2, ?_⟩
    rcases hp.2 with hname | hend
    · exact (hnamed r y hy hp.1).symm.trans hname
    · exact hend.1
  · intro hlisted
    obtain ⟨r, hr, y, hy, hlis, hhost⟩ := hlisted
    have hunix : y.isUnix = false := by
      rw [← Bool.not_eq_true]
      intro hunix
      cases ((hreg.remote hy).unix hunix).2.symm.trans hhost
    have htcp : y.isTcpListener = true := isTcpListener_iff.mpr ⟨hunix, hlis⟩
    refine ⟨r, hr, y, hy, ?_⟩
    rw [sameService, htcp, hnamed r y hy htcp, hhost]
    simp

/-- `AddInstance` refuses exactly the listeners that are present and alive, if
and only if no listener of the host is in the list unless one with the port
is alive there. -/
theorem addInstance_refused_iff (h : ReachableBy plat (fun _ e => e.manual) s) :
    (Refused plat sys s hostName port ↔ LiveListener s.toCore hostName port) ↔
      (HostListed s.toCore hostName → LiveListener s.toCore hostName port) := by
  rw [refused_iff h]
  have hlisted : LiveListener s.toCore hostName port → HostListed s.toCore hostName := by
    intro hlive
    obtain ⟨r, hr, y, hy, hlis, _, hhost, _⟩ := hlive
    exact ⟨r, hr, y, hy, hlis, hhost⟩
  exact ⟨Iff.mp, fun hlive => ⟨hlive, hlisted⟩⟩

end Refused

/-- One listener, added by hand. -/
def oneListenerRun : List Event := [.addRemote "hosta" 5000 { connect := some 10 }]

/-- The same listener once more is a duplicate, and refused. -/
theorem addInstance_refused_iff_again :
    ∃ s, ReachableBy (platformWith []) (fun _ e => e.manual) s ∧
      LiveListener s.toCore "hosta" 5000 ∧ Refused (platformWith []) {} s "hosta" 5000 := by
  let test : Daemon → Bool := fun s => s.remoteList.elems.any fun r => (s.remotes r).any fun y =>
    y.isListener && decide (y.state ≠ .dead) && decide (y.host = some "hosta") &&
      decide (y.port = 5000)
  obtain ⟨s, hrun, htest⟩ : ∃ s, runFrom (platformWith []) {} (fun _ _ => true) oneListenerRun =
      some s ∧ test s = true := exists_of_runFrom (by decide +kernel)
  simp only [test, List.any_eq_true, Option.any_eq_true, Bool.and_eq_true,
    decide_eq_true_eq] at htest
  obtain ⟨r, hr, y, hy, ⟨⟨hlis, hstate⟩, hhost⟩, hport⟩ := htest
  have hreach : ReachableBy (platformWith []) (fun _ e => e.manual) s := by
    refine reachableBy_of_runFrom (fun s e he _ _ => ?_) hrun
    rw [List.mem_singleton.mp he]
    trivial
  have hlive : LiveListener s.toCore "hosta" 5000 :=
    ⟨r, hr, y, hy, hlis, hstate, hhost, hport⟩
  exact ⟨s, hreach, hlive, ((addInstance_refused_iff hreach).mpr fun _ => hlive).mpr hlive⟩

/-- Another port of the same host is refused as well. -/
theorem second_port_refused :
    ∃ s, ReachableBy (platformWith []) (fun _ e => e.manual) s ∧
      Refused (platformWith []) {} s "hosta" 5001 ∧ ¬ LiveListener s.toCore "hosta" 5001 := by
  let test : Daemon → Bool := fun s =>
    (match usbmuxRemoteAddRemote (platformWith []) {} s "hosta" 5001 with
      | .ok (res, _) => decide (res = -2)
      | .error _ => false) &&
    s.remoteList.elems.all fun r => (s.remotes r).all fun y => decide (y.port ≠ 5001)
  obtain ⟨s, hrun, htest⟩ : ∃ s, runFrom (platformWith []) {} (fun _ _ => true) oneListenerRun =
      some s ∧ test s = true := exists_of_runFrom (by decide +kernel)
  simp only [test, Bool.and_eq_true, List.all_eq_true, Option.all_eq_true_iff_get,
    decide_eq_true_eq] at htest
  obtain ⟨hres, hports⟩ := htest
  refine ⟨s, ?_, ?_, ?_⟩
  · refine reachableBy_of_runFrom (fun s e he _ _ => ?_) hrun
    rw [List.mem_singleton.mp he]
    trivial
  · split at hres
    · next res s' hs' =>
        obtain rfl : res = -2 := of_decide_eq_true hres
        exact ⟨s', hs'⟩
    · cases hres
  · intro hlive
    obtain ⟨r, hr, y, hy, _, _, _, hport⟩ := hlive
    have hne := hports r hr (by rw [hy]; rfl)
    simp only [hy, Option.get_some] at hne
    exact hne hport

end Usbfluxd
