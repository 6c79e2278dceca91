import Usbfluxd.Model.Checks
import Usbfluxd.Moves.Shape
import Usbfluxd.Proofs.Runs

/-!
# What the check threads close

A thread whose test connection fails closes the descriptor that it has read
from its remote, seconds ago and without a lock. It is still the remote's as
long as the remote is in the list and nobody else was given the number. Both
can end while the thread runs: the main loop or the mDNS thread disposes of
the remote, or an earlier check of the same remote closes its descriptor. The
number is then the next one that the kernel hands out, and it is a client or
another remote that loses its connection.

`Undisturbed` says of a step that it is none of these. In a run of such steps
the threads close what is theirs.
-/

namespace Usbfluxd

open Lib

/-- The thread has not ended, and it is the remote's descriptor that it is
going to close. -/
def CheckThread.Failing (t : CheckThread) : Prop := t.fails = true ∧ t.state ≠ .finished

/-- A thread about to close the descriptor of its remote finds the remote in
the list, with that descriptor, and what is open under the number is the
remote's connection. A thread about to close its test connection finds that
under its number. -/
def ClosesOwn (W : Checked) : Prop :=
  ∀ i t openfd, W.threads[i]? = some t →
    (t.state = .tested openfd none → t.remote ∈ W.daemon.remoteList.elems ∧
      ∃ y, W.daemon.remotes t.remote = some y ∧ y.fd = openfd ∧
        ∀ u, W.fds openfd = some u → u = .remote t.remote) ∧
    ∀ checkfd, t.state = .tested openfd (some checkfd) → W.fds checkfd = some (.check i)

/-- What a step does not do to the threads that run. -/
structure Undisturbed (plat : Platform) (W : Checked) (ev : CheckEvent) : Prop where
  /-- No remote leaves the list while a check of it runs that is going to
  fail. -/
  listed : ∀ e created s', ev = .daemon e created → step plat W.daemon e = .ok s' →
    ∀ t ∈ W.threads, t.Failing → t.remote ∈ s'.remoteList.elems
  /-- No connection is given the descriptor of a remote while a check of it
  runs that is going to fail. -/
  numbers : ∀ fd, W.opens ev = some fd → ∀ t ∈ W.threads, t.Failing →
    ∀ y, W.daemon.remotes t.remote = some y → y.fd ≠ fd
  /-- No check that is going to fail is started of a remote whose descriptor
  was closed and is somebody else's. -/
  started : ∀ t ∈ W.starts ev, t.Failing → ∀ y, W.daemon.remotes t.remote = some y →
    ∀ u, W.fds y.fd = some u → u = .remote t.remote
  /-- No client and no remote leaves its list whose descriptor was closed and
  is now that of a test connection. -/
  tests : ∀ e created s', ev = .daemon e created → step plat W.daemon e = .ok s' →
    ∀ n ∈ closedFds W.daemon.toCore s'.toCore, ∀ i, W.fds n ≠ some (.check i)

/-! ## Descriptors over an event -/

/-- New objects have the descriptor that was asked for. -/
def Allow.opening (opens : Option Nat) : Allow :=
  { Allow.all with
    acceptOk := fun _ fd => opens = some fd
    remoteFdOk := fun _ fd => opens = some fd }

theorem allows_opening {plat : Platform} {s : Daemon} {e : Event} :
    Allows (.opening e.opens) plat s e := by
  have hconnect : ∀ {sys : Sys}, MayConnect (.opening sys.connect) sys s.toCore :=
    fun _ _ hfd _ => hfd
  cases e with
  | accept cfd => exact fun _ hfd => hfd
  | getFds => exact trivial
  | addRemote => exact ⟨trivial, hconnect⟩
  | mdnsAdd => exact ⟨⟨trivial, hconnect⟩, Or.inr trivial⟩
  | mdnsRemove => exact ⟨fun _ => trivial, trivial, trivial⟩
  | client fd revents sys =>
      exact ⟨fun _ => trivial, ⟨⟨trivial, trivial⟩, trivial, hconnect,
        fun _ _ _ _ _ _ _ _ _ => trivial⟩, fun _ _ _ _ _ _ _ _ _ _ _ _ _ _ _ => trivial⟩
  | remote fd revents sys =>
      exact ⟨fun _ => trivial, ⟨⟨trivial, trivial⟩, trivial, fun _ _ _ => trivial⟩,
        fun _ _ _ _ _ => ⟨fun _ _ _ => trivial, fun _ _ _ => trivial,
          fun _ _ _ _ _ => trivial, fun _ _ => trivial⟩⟩

/-- Objects that stay keep their descriptor, and new ones have the one that
was asked for. -/
structure FdsFrom (opens : Option Nat) (s t : Core) : Prop where
  client : ∀ {c x}, t.clients c = some x → s.clients c = none → opens = some x.fd
  remote : ∀ {r y}, t.remotes r = some y → s.remotes r = none → opens = some y.fd
  kept : ∀ {r y y'}, s.remotes r = some y → t.remotes r = some y' → y'.fd = y.fd
  nextRemote : s.nextRemote ≤ t.nextRemote

section Events

variable {opens : Option Nat} {s t t' : Core} {y : RemoteMux}

theorem FdsFrom.refl : FdsFrom opens s s where
  client hx hnone := by cases hx.symm.trans hnone
  remote hy hnone := by cases hy.symm.trans hnone
  kept hy hy' := by
    cases hy.symm.trans hy'
    rfl
  nextRemote := Nat.le_refl _

theorem FdsFrom.leaves (h : FdsFrom opens s t) (hl : Leaves t t') : FdsFrom opens s t' where
  client hx hnone := h.client (hl.client hx) hnone
  remote hy hnone := h.remote (hl.remote hy) hnone
  kept hy hy' := h.kept hy (hl.remote hy')
  nextRemote := hl.nextRemote ▸ h.nextRemote

theorem FdsFrom.addRemote (hwf : WF s) (h : FdsFrom opens s t) (hfd : opens = some y.fd)
    (hclients : ∀ c x', t'.clients c = some x' → ∃ x, t.clients c = some x ∧ x'.fd = x.fd)
    (hremotes : t'.remotes = (t.addRemote y).remotes) (hnext : t'.nextRemote = t.nextRemote + 1) :
    FdsFrom opens s t' where
  client hx hnone := by
    obtain ⟨x, hx, he⟩ := hclients _ _ hx
    rw [he]
    exact h.client hx hnone
  remote hz hnone := by
    rw [hremotes] at hz
    rcases Core.remotes_addRemote_cases hz with ⟨_, rfl⟩ | hz
    · exact hfd
    · exact h.remote hz hnone
  kept hy hz := by
    rw [hremotes] at hz
    rcases Core.remotes_addRemote_cases hz with ⟨rfl, _⟩ | hz
    · -- the pointer is one that `s` had not handed out
      have hlt : t.nextRemote < s.nextRemote := hwf.remoteFresh _ (by rw [hy]; rfl)
      exact absurd hlt (Nat.not_lt.mpr h.nextRemote)
    · exact h.kept hy hz
  nextRemote := hnext ▸ Nat.le_succ_of_le h.nextRemote

theorem FdsFrom.move (hwf : WF s) (h : FdsFrom opens s t) (hm : Move (.opening opens) t t') :
    FdsFrom opens s t' := by
  cases hm.shape with
  | inPlace hp =>
      refine ⟨fun hx hnone => ?_, fun hy hnone => ?_, fun hy hy' => ?_,
        hp.nextRemote ▸ h.nextRemote⟩
      · obtain ⟨x₀, hx₀, he⟩ := hp.client_before hx
        rw [he.fd]
        exact h.client hx₀ hnone
      · obtain ⟨y₀, hy₀, he⟩ := hp.remote_before hy
        rw [he.fd]
        exact h.remote hy₀ hnone
      · obtain ⟨y₀, hy₀, he⟩ := hp.remote_before hy'
        rw [he.fd]
        exact h.kept hy hy₀
  | accept hfd heq =>
      rw [heq]
      refine ⟨fun hx hnone => ?_, h.remote, h.kept, h.nextRemote⟩
      rcases Core.clients_addClient_cases hx with ⟨_, rfl⟩ | hx
      · exact hfd
      · exact h.client hx hnone
  | opens ho =>
      refine h.addRemote hwf ho.descriptor.2 (fun c x' hx' => ?_) ?_ ?_
      · rcases ho.clients_cases hx' with ⟨rfl, rfl⟩ | hx
        · exact ⟨_, ho.client, ho.descriptor.1⟩
        · exact ⟨x', hx, rfl⟩
      · rw [ho.result]
        rfl
      · rw [ho.result]
        rfl
  | addListener hnew heq _ _ _ hfd =>
      rw [heq]
      exact h.addRemote hwf hfd (fun c x' hx' => ⟨x', hx', rfl⟩) rfl rfl
  | closeClient _ heq => exact heq ▸ h.leaves .closeClient
  | closeRemote _ _ _ heq => exact heq ▸ h.leaves .dropRemote
  | dispose _ _ heq => exact heq ▸ h.leaves .dispose

theorem step_fdsFrom {plat : Platform} {s s' : Daemon} {e : Event} (hwf : WF s.toCore)
    (hs : step plat s e = .ok s') : FdsFrom e.opens s.toCore s'.toCore :=
  invariant_of_step (R := Move (.opening e.opens)) (P := FdsFrom e.opens s.toCore)
    (fun hm h => h.move hwf hm) (step_moves hwf allows_opening hs) .refl

end Events

/-! ## The table of descriptors over an event -/

section Table

variable {s s' : Core} {fds : Nat → Option FdUser} {n : Nat} {u : FdUser}

theorem daemonFds_eq_some (h : daemonFds s s' fds n = some u) :
    n ∉ closedFds s s' ∧ ((n, u) ∈ openedFds s s' ∨ fds n = some u) := by
  rw [daemonFds] at h
  split at h
  · cases h
  · next hclosed =>
      refine ⟨hclosed, ?_⟩
      rcases Option.or_eq_some_iff.mp h with hopened | ⟨_, hfds⟩
      · obtain ⟨l₁, l₂, heq, _⟩ := List.lookup_eq_some_iff.mp hopened
        rw [heq]
        exact Or.inl (List.mem_append_right _ List.mem_cons_self)
      · exact Or.inr hfds

theorem openedFds_opens {opens : Option Nat} (h : FdsFrom opens s s')
    (hmem : (n, u) ∈ openedFds s s') : opens = some n := by
  rcases List.mem_append.mp hmem with hmem | hmem
  · obtain ⟨c, _, hc⟩ := List.mem_filterMap.mp hmem
    split at hc
    · next hnone =>
        obtain ⟨x, hx, heq⟩ := Option.map_eq_some_iff.mp hc
        cases heq
        exact h.client hx (Option.isNone_iff_eq_none.mp hnone)
    · cases hc
  · obtain ⟨r, _, hr⟩ := List.mem_filterMap.mp hmem
    split at hr
    · next hnone =>
        obtain ⟨y, hy, heq⟩ := Option.map_eq_some_iff.mp hr
        cases heq
        exact h.remote hy (Option.isNone_iff_eq_none.mp hnone)
    · cases hr

/-- What has a descriptor after the event had it before, unless the
descriptor is the one that was asked for. -/
theorem daemonFds_before {opens : Option Nat} (h : FdsFrom opens s s')
    (hfd : daemonFds s s' fds n = some u) (hne : opens ≠ some n) : fds n = some u :=
  (daemonFds_eq_some hfd).2.resolve_left fun hmem => hne (openedFds_opens h hmem)

/-- A descriptor that the event neither opens nor closes stays what it is. -/
theorem daemonFds_kept {opens : Option Nat} (h : FdsFrom opens s s') (hfd : fds n = some u)
    (hne : opens ≠ some n) (hopen : n ∉ closedFds s s') : daemonFds s s' fds n = some u := by
  rw [daemonFds, if_neg hopen, Option.or_eq_some_iff]
  refine Or.inr ⟨?_, hfd⟩
  cases hl : (openedFds s s').lookup n with
  | none => rfl
  | some u' =>
      obtain ⟨l₁, l₂, heq, _⟩ := List.lookup_eq_some_iff.mp hl
      refine absurd (openedFds_opens (u := u') h ?_) hne
      rw [heq]
      exact List.mem_append_right _ List.mem_cons_self

end Table

/-! ## Runs -/

/-- What a thread has read from its remote. -/
def CheckThread.openfd (t : CheckThread) : Option Nat :=
  match t.state with
  | .testing openfd | .tested openfd _ => some openfd
  | .started | .finished => none

/-- The invariant: what is read of a remote under a check that is going to
fail is its descriptor, which nobody else has, and a test connection that is
made stays open. -/
structure ChecksOwn (W : Checked) : Prop where
  failing : ∀ {i : Nat} {t : CheckThread}, W.threads[i]? = some t → t.Failing →
    ∃ y, W.daemon.remotes t.remote = some y ∧ (∀ fd, t.openfd = some fd → fd = y.fd) ∧
      ∀ u, W.fds y.fd = some u → u = .remote t.remote
  made : ∀ {i : Nat} {t : CheckThread} {openfd checkfd : Nat}, W.threads[i]? = some t →
    t.state = .tested openfd (some checkfd) → W.fds checkfd = some (.check i)
  failed : ∀ {i : Nat} {t : CheckThread} {openfd : Nat}, W.threads[i]? = some t →
    t.state = .tested openfd none → t.fails = true

section Runs

variable {plat : Platform} {W W' : Checked} {ev : CheckEvent}

theorem getElem?_modify_cases {l : List CheckThread} {f : CheckThread → CheckThread} {i j : Nat}
    {t' : CheckThread} (h : (l.modify i f)[j]? = some t') :
    (j = i ∧ ∃ t, l[i]? = some t ∧ t' = f t) ∨ (j ≠ i ∧ l[j]? = some t') := by
  by_cases hij : i = j
  · subst hij
    rw [List.getElem?_modify_eq] at h
    obtain ⟨t, ht, rfl⟩ := Option.map_eq_some_iff.mp h
    exact Or.inl ⟨rfl, t, ht, rfl⟩
  · rw [List.getElem?_modify_ne _ _ hij] at h
    exact Or.inr ⟨Ne.symm hij, h⟩

theorem mem_startChecks {s : Core} {now : Nat} {created : RemotePtr → Option Bool}
    {t : CheckThread} (h : t ∈ startChecks s now created) :
    t.state = .started ∧ ∃ y, s.remotes t.remote = some y := by
  obtain ⟨r, _, ht⟩ := List.mem_filterMap.mp h
  obtain ⟨y, hy, ht⟩ := Option.bind_eq_some_iff.mp ht
  split at ht
  · obtain ⟨fails, _, rfl⟩ := Option.map_eq_some_iff.mp ht
    exact ⟨rfl, y, hy⟩
  · cases ht

/-- Building the poll set removes nothing. -/
theorem getFds_remote {s s' : Daemon} {now : Nat} {r : RemotePtr} {y : RemoteMux}
    (hs : step plat s (.getFds now) = .ok s') (hy : s.remotes r = some y) :
    ∃ y', s'.remotes r = some y' := by
  let A : Allow := { Allow.all with
    openOk := fun _ _ _ _ => False
    closeOk := fun _ _ _ => False
    disposeOk := fun _ _ _ => False
    reapOk := False
    growOk := False
    leaveOk := fun _ _ _ => False }
  have hruns : Runs A s.toCore _ (usbmuxRemoteGetFds s now) := usbmuxRemoteGetFds_moves
  refine invariant_of_step (R := Move A) (P := fun t => ∃ y', t.remotes r = some y') ?_
    (hruns.of_ok hs) ⟨y, hy⟩
  rintro t t' hm ⟨z, hz⟩
  cases hm.shape with
  | inPlace hp =>
      obtain ⟨z', hz', _⟩ := hp.remote hz
      exact ⟨z', hz'⟩
  | accept _ heq =>
      rw [heq]
      exact ⟨z, hz⟩
  | opens ho => exact ho.allowed.elim
  | addListener _ _ hok => exact hok.elim
  | closeClient _ _ hok => exact hok.elim
  | closeRemote _ _ hok => exact hok.elim
  | dispose _ hwhy => exact (hwhy.elim And.right id).elim

theorem ChecksOwn.daemon {e : Event} {created : RemotePtr → Option Bool} (h : ChecksOwn W)
    (hwf : WF W.daemon.toCore) (hk : CheckKernel W (.daemon e created))
    (hC : Undisturbed plat W (.daemon e created))
    (hs : checkStep plat W (.daemon e created) = .ok W') : ChecksOwn W' := by
  obtain ⟨s, hstep, hW⟩ := bind_eq_ok.mp hs
  cases hW
  have hfds := step_fdsFrom hwf hstep
  have hthread : ∀ {i : Nat} {t : CheckThread},
      (W.threads ++ W.starts (.daemon e created))[i]? = some t →
      W.threads[i]? = some t ∨ t ∈ W.starts (.daemon e created) := by
    intro i t ht
    rw [List.getElem?_append] at ht
    split at ht
    · exact Or.inl ht
    · exact Or.inr (List.mem_of_getElem? ht)
  -- a thread that has just started has read nothing
  have hnew : ∀ {t}, t ∈ W.starts (.daemon e created) → t.state = .started ∧
      ∃ y y', W.daemon.remotes t.remote = some y ∧ s.remotes t.remote = some y' ∧
        e.opens = none := by
    intro t ht
    cases e with
    | getFds now =>
        obtain ⟨hstate, y, hy⟩ := mem_startChecks ht
        obtain ⟨y', hy'⟩ := getFds_remote hstep hy
        exact ⟨hstate, y, y', hy, hy', rfl⟩
    | accept | client | remote | addRemote | mdnsAdd | mdnsRemove => cases ht
  constructor
  · intro i t ht hfails
    rcases hthread ht with hold | ht
    · obtain ⟨y, hy, hread, howner⟩ := h.failing hold hfails
      have hmem := hC.listed e created s rfl hstep t (List.mem_of_getElem? hold) hfails
      obtain ⟨y', hy'⟩ := Option.isSome_iff_exists.mp
        (((WF.moves hwf (step_moves hwf allows_all hstep)).remotes _).mp hmem)
      refine ⟨y', hy', ?_, ?_⟩
      · rw [hfds.kept hy hy']
        exact hread
      · intro u hu
        rw [hfds.kept hy hy'] at hu
        refine howner u (daemonFds_before hfds hu fun hopens => ?_)
        exact hC.numbers _ hopens t (List.mem_of_getElem? hold) hfails y hy rfl
    · obtain ⟨hstate, y, y', hy, hy', hopens⟩ := hnew ht
      refine ⟨y', hy', fun fd hfd => ?_, fun u hu => ?_⟩
      · rw [CheckThread.openfd, hstate] at hfd
        cases hfd
      · rw [hfds.kept hy hy'] at hu
        refine hC.started t ht hfails y hy u (daemonFds_before hfds hu ?_)
        rw [hopens]
        exact fun hnone => nomatch hnone
  · intro i t openfd checkfd ht hstate
    rcases hthread ht with hold | ht
    · have hmade := h.made hold hstate
      refine daemonFds_kept hfds hmade (fun hopens => ?_) fun hclosed => ?_
      · obtain ⟨_, ⟨_, hfree⟩, _⟩ := hk _ hopens
        cases hfree.symm.trans hmade
      · exact hC.tests e created s rfl hstep _ hclosed i hmade
    · cases (hnew ht).1.symm.trans hstate
  · intro i t openfd ht hstate
    rcases hthread ht with hold | ht
    · exact h.failed hold hstate
    · cases (hnew ht).1.symm.trans hstate

/-- A thread goes on and the table stays, or loses one descriptor. -/
theorem ChecksOwn.modify {i : Nat} {f : CheckThread → CheckThread} {t : CheckThread}
    {fds : Nat → Option FdUser} (h : ChecksOwn W) (ht : W.threads[i]? = some t)
    (hremote : (f t).remote = t.remote) (hfails : (f t).Failing → t.Failing)
    (hread : ∀ y fd, W.daemon.remotes t.remote = some y → (f t).openfd = some fd →
      (∀ fd, t.openfd = some fd → fd = y.fd) → (f t).Failing → fd = y.fd)
    (hmade : ∀ openfd checkfd, (f t).state = .tested openfd (some checkfd) →
      fds checkfd = some (.check i))
    (hfailed : ∀ openfd, (f t).state = .tested openfd none → (f t).fails = true)
    (howner : ∀ {j : Nat} {t' : CheckThread} {y : RemoteMux}, W.threads[j]? = some t' → t'.Failing →
      W.daemon.remotes t'.remote = some y → fds y.fd = W.fds y.fd ∨ fds y.fd = none)
    (hkeep : ∀ {j n : Nat}, j ≠ i → W.fds n = some (.check j) → fds n = some (.check j)) :
    ChecksOwn { W with threads := W.threads.modify i f, fds := fds } := by
  have hown : ∀ {j : Nat} {t' : CheckThread} {y : RemoteMux}, W.threads[j]? = some t' → t'.Failing →
      W.daemon.remotes t'.remote = some y → (∀ u, W.fds y.fd = some u → u = .remote t'.remote) →
      ∀ u, fds y.fd = some u → u = .remote t'.remote := by
    intro j t' y ht' hfailing hy hu u hfd
    rcases howner ht' hfailing hy with heq | hnone
    · exact hu u (heq ▸ hfd)
    · cases hnone.symm.trans hfd
  constructor
  · intro j t' ht' hfailing
    rcases getElem?_modify_cases ht' with ⟨rfl, t₀, ht₀, rfl⟩ | ⟨_, ht'⟩
    · cases ht.symm.trans ht₀
      obtain ⟨y, hy, hfd, hu⟩ := h.failing ht (hfails hfailing)
      rw [hremote]
      exact ⟨y, hy, fun fd hfd' => hread y fd hy hfd' hfd hfailing,
        hown ht (hfails hfailing) hy hu⟩
    · obtain ⟨y, hy, hfd, hu⟩ := h.failing ht' hfailing
      exact ⟨y, hy, hfd, hown ht' hfailing hy hu⟩
  · intro j t' openfd checkfd ht' hstate
    rcases getElem?_modify_cases ht' with ⟨rfl, t₀, ht₀, rfl⟩ | ⟨hne, ht'⟩
    · cases ht.symm.trans ht₀
      exact hmade openfd checkfd hstate
    · exact hkeep hne (h.made ht' hstate)
  · intro j t' openfd ht' hstate
    rcases getElem?_modify_cases ht' with ⟨rfl, t₀, ht₀, rfl⟩ | ⟨_, ht'⟩
    · cases ht.symm.trans ht₀
      exact hfailed openfd hstate
    · exact h.failed ht' hstate

theorem ChecksOwn.read {i freed : Nat} (h : ChecksOwn W)
    (hen : W.enabled (.read i freed) = true) (hs : checkStep plat W (.read i freed) = .ok W') :
    ChecksOwn W' := by
  cases hs
  obtain ⟨t, ht, hstate⟩ := (Option.any_eq_true _ _).mp hen
  have hstarted : t.state = .started := of_decide_eq_true hstate
  refine h.modify ht rfl (fun hf => ⟨hf.1, ?_⟩) ?_ (fun _ _ hmade => nomatch hmade)
    (fun _ hfail => nomatch hfail) (fun _ _ _ => Or.inl rfl) fun _ hfd => hfd
  · rw [hstarted]
    exact fun hfinished => nomatch hfinished
  · intro y fd hy hfd _ _
    have hread : (t.read W.daemon.toCore freed).openfd = some y.fd := by
      rw [CheckThread.read, hy]
      rfl
    exact (Option.some.inj (hread.symm.trans hfd)).symm

theorem ChecksOwn.finish {i checkfd : Nat} (h : ChecksOwn W)
    (hen : W.enabled (.finish i checkfd) = true) (hk : CheckKernel W (.finish i checkfd))
    (hC : Undisturbed plat W (.finish i checkfd))
    (hs : checkStep plat W (.finish i checkfd) = .ok W') : ChecksOwn W' := by
  cases hs
  obtain ⟨t, ht, hstate⟩ := (Option.any_eq_true _ _).mp hen
  obtain ⟨openfd, htesting⟩ : ∃ openfd, t.state = .testing openfd := by
    split at hstate
    · next fd hfd => exact ⟨fd, hfd⟩
    · cases hstate
  have hf : t.finish checkfd =
      { t with state := .tested openfd (if t.fails then none else some checkfd) } := by
    rw [CheckThread.finish, htesting]
  have hopens : W.opens (.finish i checkfd) = if t.fails then none else some checkfd := by
    rw [Checked.opens, ht, Option.bind_some]
  refine h.modify ht ?_ (fun hfailing => ?_) (fun y fd _ hfd hread _ => ?_)
    (fun fd fd' hmade => ?_) (fun fd hfail => ?_) (fun ht' hfailing hy => ?_)
    fun {j n} _ hfd => ?_
  · rw [hf]
  · refine ⟨?_, by rw [htesting]; exact fun hfinished => nomatch hfinished⟩
    rw [hf] at hfailing
    exact hfailing.1
  · refine hread fd ?_
    rw [hf] at hfd
    rw [CheckThread.openfd, htesting]
    exact hfd
  · rw [hf] at hmade
    obtain ⟨_, hcheckfd⟩ := CheckState.tested.inj hmade
    rw [hopens, if_pos hcheckfd]
  · rw [hf] at hfail ⊢
    obtain ⟨_, hnone⟩ := CheckState.tested.inj hfail
    split at hnone
    · next hfails => exact hfails
    · cases hnone
  · exact Or.inl (if_neg fun hgiven =>
      hC.numbers _ hgiven _ (List.mem_of_getElem? ht') hfailing _ hy rfl)
  · rw [if_neg, hfd]
    intro hgiven
    obtain ⟨_, ⟨_, hfree⟩, _⟩ := hk _ hgiven
    cases hfree.symm.trans hfd

theorem ChecksOwn.close {i : Nat} (h : ChecksOwn W) (hen : W.enabled (.close i) = true)
    (hs : checkStep plat W (.close i) = .ok W') : ChecksOwn W' := by
  cases hs
  obtain ⟨t, ht, hcloses⟩ := (Option.any_eq_true _ _).mp hen
  obtain ⟨n, hn⟩ := Option.isSome_iff_exists.mp hcloses
  have hclosed : W.threads[i]?.bind CheckThread.closes = some n := by
    rw [ht, Option.bind_some, hn]
  refine h.modify ht rfl (fun hf => (hf.2 rfl).elim) (fun _ _ _ hfd => nomatch hfd)
    (fun _ _ hmade => nomatch hmade) (fun _ hfail => nomatch hfail) (fun _ _ _ => ?_)
    fun {j m} hne hfd => ?_
  · split
    · exact Or.inr rfl
    · exact Or.inl rfl
  · rw [if_neg, hfd]
    rw [hclosed]
    rintro ⟨rfl⟩
    -- what the thread closes is no other thread's connection
    rw [CheckThread.closes] at hn
    split at hn
    · next hstate =>
        cases hn
        have hfailing : t.Failing := by
          refine ⟨h.failed ht hstate, ?_⟩
          rw [hstate]
          exact fun hfinished => nomatch hfinished
        obtain ⟨y, hy, hread, howner⟩ := h.failing ht hfailing
        have hy' := hread n (by rw [CheckThread.openfd, hstate])
        rw [hy'] at hfd
        cases howner _ hfd
    · next hstate =>
        cases hn
        cases hfd.symm.trans (h.made ht hstate)
        exact hne rfl
    · cases hn

theorem checkedBy_checksOwn (h : CheckedBy plat (Undisturbed plat) W) : ChecksOwn W := by
  refine checkedBy_induct (P := ChecksOwn) ?_ ?_ h
  · rintro W ⟨_, _, hthreads, _⟩
    have hnone : ∀ {i : Nat} {t : CheckThread}, ¬ W.threads[i]? = some t := by
      intro i t ht
      rw [hthreads] at ht
      cases ht
    exact ⟨fun ht => (hnone ht).elim, fun ht => (hnone ht).elim, fun ht => (hnone ht).elim⟩
  · intro W W' ev hr hi hen hk hC hs
    cases ev with
    | daemon e created => exact hi.daemon (reachable_wf hr) hk hC hs
    | read i freed => exact hi.read hen hs
    | finish i checkfd => exact hi.finish hen hk hC hs
    | close i => exact hi.close hen hs

/-- In a run in which nothing takes the descriptor of a remote away from under
a check that is going to fail, and nothing that of a test connection, the
threads only close what is theirs. -/
theorem checks_closeOwn (h : CheckedBy plat (Undisturbed plat) W) : ClosesOwn W := by
  have hown := checkedBy_checksOwn h
  intro i t openfd ht
  refine ⟨fun hstate => ?_, fun checkfd hstate => hown.made ht hstate⟩
  have hfailing : t.Failing := by
    refine ⟨hown.failed ht hstate, ?_⟩
    rw [hstate]
    exact fun hfinished => nomatch hfinished
  obtain ⟨y, hy, hread, howner⟩ := hown.failing ht hfailing
  have hfd := hread openfd (by rw [CheckThread.openfd, hstate])
  refine ⟨((reachable_wf h.daemon).remotes _).mpr (by rw [hy]; rfl), y, hy, hfd.symm, ?_⟩
  rw [hfd]
  exact howner

/-! ## Evaluating a run -/

/-- Take steps one after the other, each of which has to pass a test. -/
def runChecks (plat : Platform) (others : List Nat) (ok : Checked → CheckEvent → Bool) :
    List CheckEvent → Checked → Option Checked
  | [], W => some W
  | ev :: evs, W =>
      if W.enabled ev ∧ CheckKernelBeside others W ev ∧ ok W ev then
        match checkStep plat W ev with
        | .ok W => runChecks plat others ok evs W
        | .error _ => none
      else none

/-- The daemon that found no renamed socket. -/
def noChecks : Checked := ⟨emptyDaemon, [], fun _ => none⟩

theorem checkedBy_of_runChecks {C : Checked → CheckEvent → Prop} {others : List Nat}
    {ok : Checked → CheckEvent → Bool} {evs : List CheckEvent}
    (hC : ∀ W, ∀ ev ∈ evs, CheckKernelBeside others W ev → ok W ev = true → C W ev)
    (hW : CheckedBy plat C W) (h : runChecks plat others ok evs W = some W') :
    CheckedBy plat C W' := by
  induction evs generalizing W with
  | nil =>
      cases h
      exact hW
  | cons ev evs ih =>
      rw [runChecks] at h
      split at h
      · next htest =>
          obtain ⟨hen, hk, hok⟩ := htest
          split at h
          · next W₁ hs =>
              exact ih (fun W ev' hev' => hC W ev' (List.mem_cons_of_mem _ hev'))
                (hW.step hen hk.kernel (hC W ev List.mem_cons_self hk hok) hs) h
          · cases h
      · cases h

theorem checkedBy_noChecks {C : Checked → CheckEvent → Prop} : CheckedBy plat C noChecks := by
  have hinit : usbmuxRemoteInit plat {} = .ok emptyDaemon := rfl
  exact ⟨noChecks, ⟨{}, hinit, rfl, rfl⟩, .refl⟩

/-- A listener is silent for more than ten seconds, and the thread that checks
it reads its descriptor. The host does not answer. -/
def silentListener : List CheckEvent :=
  [.daemon (.mdnsAdd "service" "hosta" 5000 { connect := some 4 }) fun _ => none,
   .daemon (.getFds 10001) fun _ => some true, .read 0 0]

/-- A test for steps that disturb nothing because no thread is there yet, or
because they are a thread's own and ask for no descriptor. -/
def quietStep (plat : Platform) (W : Checked) (ev : CheckEvent) : Bool :=
  match ev with
  | .daemon e created => W.threads.isEmpty &&
      ((W.starts (.daemon e created)).all fun t =>
        (W.daemon.remotes t.remote).all fun y => W.fds y.fd = some (.remote t.remote)) &&
      match step plat W.daemon e with
      | .ok s => (closedFds W.daemon.toCore s.toCore).isEmpty
      | .error _ => true
  | .read .. | .finish .. | .close _ => (W.opens ev).isNone

theorem undisturbed_of_quietStep (h : quietStep plat W ev = true) : Undisturbed plat W ev := by
  cases ev with
  | daemon e created =>
      rw [quietStep, Bool.and_eq_true, Bool.and_eq_true] at h
      obtain ⟨⟨hempty, hstarts⟩, hclosed⟩ := h
      have hnone : ∀ t, t ∉ W.threads := by
        rw [List.isEmpty_iff.mp hempty]
        exact fun _ => List.not_mem_nil
      refine ⟨fun _ _ _ _ _ t ht => absurd ht (hnone t), fun _ _ t ht => absurd ht (hnone t),
        fun t ht _ y hy u hu => ?_, fun e' _ s hev hs n hn => ?_⟩
      · have hy' := (Option.all_eq_true _ _).mp (List.all_eq_true.mp hstarts t ht) y hy
        exact Option.some.inj (hu.symm.trans (of_decide_eq_true hy'))
      · cases hev
        rw [hs] at hclosed
        have hclosed : (closedFds W.daemon.toCore s.toCore).isEmpty = true := hclosed
        rw [List.isEmpty_iff.mp hclosed] at hn
        cases hn
  | read | finish | close =>
      rw [quietStep] at h
      have hopens := Option.isNone_iff_eq_none.mp h
      refine ⟨fun _ _ _ hev => (nomatch hev), fun fd hfd => ?_, fun t ht => (nomatch ht),
        fun _ _ _ hev => (nomatch hev)⟩
      cases hopens.symm.trans hfd

/-- The listener is still there when the test connection has failed. -/
theorem checks_closeOwn_silentListener :
    ∃ W t, CheckedBy (platformWith []) (Undisturbed (platformWith [])) W ∧
      W.threads[0]? = some t ∧ t.state = .tested 4 none ∧ ClosesOwn W := by
  let test : Checked → Bool := fun W => W.threads[0]?.any fun t => t.state = .tested 4 none
  obtain ⟨W, hrun, htest⟩ : ∃ W, runChecks (platformWith []) [0, 1, 2, 3]
      (quietStep (platformWith [])) (silentListener ++ [.finish 0 0]) noChecks = some W ∧
      test W = true := (Option.any_eq_true _ _).mp (by decide +kernel)
  obtain ⟨t, ht, hstate⟩ := (Option.any_eq_true _ _).mp htest
  have hreach : CheckedBy (platformWith []) (Undisturbed (platformWith [])) W :=
    checkedBy_of_runChecks (fun _ _ _ _ hok => undisturbed_of_quietStep hok)
      checkedBy_noChecks hrun
  exact ⟨W, t, hreach, ht, of_decide_eq_true hstate, checks_closeOwn hreach⟩

/-- The service is withdrawn while the test connection is being made. The
listener's descriptor is closed and given to a client, and the thread closes
it. -/
theorem check_closes_client :
    ∃ W W' t x, CheckedBy (platformWith []) (CheckKernelBeside [0, 1, 2, 3]) W ∧
      W.threads[0]? = some t ∧ t.closes = some 4 ∧ t.remote ∉ W.daemon.remoteList.elems ∧
      W.fds 4 = some (.client ⟨0⟩) ∧ ¬ ClosesOwn W ∧
      checkStep (platformWith []) W (.close 0) = .ok W' ∧
      W'.daemon.clients ⟨0⟩ = some x ∧ x.fd = 4 ∧ W'.fds 4 = none := by
  let run : List CheckEvent := silentListener ++
    [.daemon (.mdnsRemove "service" {}) fun _ => none, .daemon (.accept (some 4)) fun _ => none,
     .finish 0 0]
  let after : Checked → Bool := fun W =>
    match checkStep (platformWith []) W (.close 0) with
    | .ok W' => (W'.daemon.clients ⟨0⟩).any (fun x => x.fd = 4) && W'.fds 4 = none
    | .error _ => false
  let test : Checked → Bool := fun W =>
    W.threads[0]?.any (fun t => t.state = .tested 4 none && t.remote ∉ W.daemon.remoteList.elems) &&
      (W.fds 4 = some (.client ⟨0⟩)) && after W
  obtain ⟨W, hrun, htest⟩ : ∃ W, runChecks (platformWith []) [0, 1, 2, 3] (fun _ _ => true) run
      noChecks = some W ∧ test W = true := (Option.any_eq_true _ _).mp (by decide +kernel)
  simp only [test, Bool.and_eq_true, decide_eq_true_eq, Option.any_eq_true] at htest
  obtain ⟨⟨⟨t, ht, hstate, hgone⟩, howner⟩, hafter⟩ := htest
  have hnot : ¬ ClosesOwn W := fun hown => hgone ((hown 0 t 4 ht).1 hstate).1
  dsimp only [after] at hafter
  split at hafter
  · next W' hs =>
      simp only [Bool.and_eq_true, Option.any_eq_true, decide_eq_true_eq] at hafter
      obtain ⟨⟨x, hx, hfd⟩, hfree⟩ := hafter
      refine ⟨W, W', t, x, checkedBy_of_runChecks (fun _ _ _ hk _ => hk) checkedBy_noChecks hrun,
        ht, ?_, hgone, howner, hnot, hs, hx, hfd, hfree⟩
      rw [CheckThread.closes, hstate]
  · cases hafter

end Runs

end Usbfluxd
