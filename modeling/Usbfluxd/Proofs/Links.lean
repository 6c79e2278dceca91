import Usbfluxd.Moves.Shape
import Usbfluxd.Proofs.Runs

/-!
# Links between clients and remotes

A forwarded request opens a remote for its client and links the two:
`client->remote` and `remote->client`. When one of them goes the other goes
with it, found by following one link only. Whether that is enough differs
between the two directions.

From the client's side it is: a client has one link, overwritten by the next
request, and every way for the linked remote to leave the list takes the
client along. From the remote's side it is not: a remote that was linked
first still points to the client after the second request, and closing the
client does not find it. What holds there needs a client to open a connection
only while no remote points to it.
-/

namespace Usbfluxd

open Lib

/-- The states in which `client->remote` is dereferenced. -/
def MuxClient.needsRemote (x : MuxClient) : Prop :=
  x.state = .connecting1 ∨ x.state = .connecting2 ∨ x.state = .connected

/-! ## From clients to remotes -/

/-- The remote of every client is there and points back, and a client that
waits for a connection or has one has a remote. -/
structure ClientLinks (s : Core) : Prop where
  remote : ∀ {c x r}, s.clients c = some x → x.remote = some r →
    ∃ y, s.remotes r = some y ∧ y.client = some c
  needed : ∀ {c x}, s.clients c = some x → x.needsRemote → x.remote ≠ none

section ClientSide

variable {s s' : Core}

theorem MuxClient.Evolves.needsRemote {x x' : MuxClient} (h : x.Evolves x')
    (hx' : x'.needsRemote) : x.needsRemote := by
  rcases h.state with heq | ⟨_, hlisten⟩ | ⟨hstate, _⟩ | ⟨hstate, _⟩
  · rw [MuxClient.needsRemote, ← heq]
    exact hx'
  · rw [MuxClient.needsRemote, hlisten] at hx'
    rcases hx' with hx' | hx' | hx' <;> cases hx'
  · exact Or.inl hstate
  · exact Or.inr (Or.inl hstate)

theorem ClientLinks.inPlace (h : ClientLinks s) (hm : InPlace s s') : ClientLinks s' where
  remote hx' hr := by
    obtain ⟨x, hx, he⟩ := hm.client_before hx'
    obtain ⟨y, hy, hc⟩ := h.remote hx (he.remote.symm.trans hr)
    obtain ⟨y', hy', he'⟩ := hm.remote hy
    exact ⟨y', hy', he'.client.trans hc⟩
  needed hx' hneed := by
    obtain ⟨x, hx, he⟩ := hm.client_before hx'
    rw [he.remote]
    exact h.needed hx (he.needsRemote hneed)

/-- Clients may leave, and remotes whose client is not one of those left. -/
theorem ClientLinks.sub (h : ClientLinks s)
    (hclient : ∀ {c x}, s'.clients c = some x → s.clients c = some x)
    (hremote : ∀ {c x r y}, s'.clients c = some x → s.remotes r = some y →
      y.client = some c → x.remote = some r → s'.remotes r = some y) : ClientLinks s' where
  remote hx hr := by
    obtain ⟨y, hy, hc⟩ := h.remote (hclient hx) hr
    exact ⟨y, hremote hx hy hc hr, hc⟩
  needed hx hneed := h.needed (hclient hx) hneed

/-- A new remote does not overwrite one that a client has. -/
theorem ClientLinks.addRemote (h : ClientLinks s) (hwf : WF s) {y : RemoteMux}
    (hclients : s'.clients = s.clients)
    (hremotes : s'.remotes = (s.addRemote y).remotes) : ClientLinks s' where
  remote {c x r} hx hr := by
    rw [hclients] at hx
    obtain ⟨z, hz, hc⟩ := h.remote hx hr
    refine ⟨z, ?_, hc⟩
    rw [hremotes, Core.remotes_addRemote, if_neg]
    · exact hz
    · rintro rfl
      cases hwf.nextRemote_free.symm.trans hz
  needed hx hneed := by
    rw [hclients] at hx
    exact h.needed hx hneed

theorem ClientLinks.opens {c : ClientPtr} {x x' : MuxClient} {k : UInt8} {y : RemoteMux}
    {acts : List Act} (h : ClientLinks s) (hwf : WF s)
    (ho : Opens .lossless s s' c x x' k y acts) : ClientLinks s' := by
  have hadd : ClientLinks (s.addRemote y) := h.addRemote hwf rfl rfl
  have hclient : y.client = some c := by
    rcases ho.kind with ⟨⟨_, _, hc, _⟩, _⟩ | ⟨⟨_, _, ⟨hc, _⟩ | ⟨hloss, _⟩⟩, _⟩
    · exact hc
    · exact hc
    · exact absurd hloss id
  rw [ho.result]
  refine ⟨fun {c' z r} hz hr => ?_, fun {c' z} hz hneed => ?_⟩
  · rw [Core.clients_emit, Core.clients_addRemote, Core.clients_setClient] at hz
    split at hz
    · next heq =>
        cases hz
        cases ho.link.symm.trans hr
        rw [heq]
        exact ⟨y, remotes_linkNewRemote, hclient⟩
    · exact hadd.remote hz hr
  · rw [Core.clients_emit, Core.clients_addRemote, Core.clients_setClient] at hz
    split at hz
    · cases hz
      rw [ho.link]
      exact Option.some_ne_none _
    · exact hadd.needed hz hneed

theorem ClientLinks.closeClient {c : ClientPtr} {x : MuxClient} (h : ClientLinks s)
    (hx : s.clients c = some x) : ClientLinks (s.closeClient c x) := by
  have hleft : ∀ {c' z}, (s.closeClient c x).clients c' = some z →
      c' ≠ c ∧ s.clients c' = some z := by
    intro c' z hz
    rw [Core.clients_closeClient] at hz
    split at hz
    · cases hz
    · next hne => exact ⟨hne, hz⟩
  refine h.sub (fun hz => (hleft hz).2) fun {c' z r y} hz hy hc hr => ?_
  rw [Core.remotes_closeClient, if_neg]
  · exact hy
  · intro hown
    -- the closed client's remote points to it, so it is nobody else's
    obtain ⟨y', hy', hc'⟩ := h.remote hx hown
    cases hy.symm.trans hy'
    exact (hleft hz).1 (Option.some.inj (hc.symm.trans hc'))

theorem ClientLinks.dispose {r : RemotePtr} {y : RemoteMux} (h : ClientLinks s)
    (hy : s.remotes r = some y) : ClientLinks (s.dispose r y) := by
  have hleft : ∀ {c z}, (s.dispose r y).clients c = some z →
      y.client ≠ some c ∧ s.clients c = some z := by
    intro c z hz
    rw [Core.clients_dispose] at hz
    split at hz
    · cases hz
    · next hne => exact ⟨hne, hz⟩
  refine h.sub (fun hz => (hleft hz).2) fun {c z r' y'} hz hy' hc _ => ?_
  rw [Core.remotes_dispose, if_neg]
  · exact hy'
  · rintro rfl
    cases hy.symm.trans hy'
    exact (hleft hz).1 hc

/-- Every move that loses no packet keeps the links of the clients. -/
theorem ClientLinks.move (hwf : WF s) (hm : Move .lossless s s') (h : ClientLinks s) :
    ClientLinks s' := by
  cases hm.shape with
  | inPlace hp => exact h.inPlace hp
  | accept _ heq =>
      rw [heq]
      refine ⟨fun {c x r} hx hr => ?_, fun {c x} hx hneed => ?_⟩
      · rcases Core.clients_addClient_cases hx with ⟨_, rfl⟩ | hx
        · cases hr
        · exact h.remote hx hr
      · rcases Core.clients_addClient_cases hx with ⟨_, rfl⟩ | hx
        · rcases hneed with hneed | hneed | hneed <;> cases hneed
        · exact h.needed hx hneed
  | opens ho => exact h.opens hwf ho
  | addListener hnew heq =>
      rw [heq]
      exact h.addRemote hwf rfl rfl
  | closeClient hx heq =>
      rw [heq]
      exact h.closeClient hx
  | closeRemote hy hclient _ heq =>
      rw [heq]
      refine h.sub (fun hx => hx) fun {c x r' y'} hx hy' hc _ => ?_
      rw [Core.remotes_dropRemote, if_neg]
      · exact hy'
      · rintro rfl
        cases hy.symm.trans hy'
        cases hclient.symm.trans hc
  | dispose hy _ heq =>
      rw [heq]
      exact h.dispose hy

theorem ClientLinks.initial (h : Initial s) : ClientLinks s := by
  cases h with
  | empty | listener => exact ⟨fun hx => (nomatch hx), fun hx => (nomatch hx)⟩

/-- With the links sound, `client->remote` is never followed to nowhere. -/
theorem ClientLinks.no_fault {c : ClientPtr} (h : ClientLinks s) :
    ¬ FaultAt s (.clientRemote c) := by
  rintro ⟨x, hx, ⟨r, hr, hnone⟩ | ⟨hr, hstate⟩⟩
  · obtain ⟨y, hy, _⟩ := h.remote hx hr
    cases hnone.symm.trans hy
  · exact h.needed hx (Or.inr hstate) hr

end ClientSide

/-- In a run of the event loop that loses no packet, `client->remote` is sound
between steps, and no step follows it to a freed remote or to `NULL`. -/
theorem reachable_clientLinks {plat : Platform} {s : Daemon}
    (h : ReachableBy plat (fun _ e => e.singleThreaded ∧ e.lossless plat) s) :
    (∀ c ∈ s.clientList.elems, ∃ x, s.clients c = some x ∧
      (∀ r, x.remote = some r → r ∈ s.remoteList.elems ∧
        ∃ y, s.remotes r = some y ∧ y.client = some c) ∧
      (x.state = .connecting1 ∨ x.state = .connecting2 ∨ x.state = .connected →
        x.remote ≠ none)) ∧
    ∀ e c, e.singleThreaded → e.lossless plat →
      step plat s e ≠ .error (.clientRemote c) := by
  obtain ⟨hwf, hlinks⟩ := reachable_inv (A := .lossless) ClientLinks.initial
    (fun _ _ he => allows_lossless he.2) ClientLinks.move h
  refine ⟨fun c hc => ?_, fun e c _ he hstep => ?_⟩
  · obtain ⟨x, hx⟩ := Option.isSome_iff_exists.mp ((hwf.clients c).mp hc)
    refine ⟨x, hx, fun r hr => ?_, hlinks.needed hx⟩
    obtain ⟨y, hy, hback⟩ := hlinks.remote hx hr
    exact ⟨(hwf.remotes r).mpr (by rw [hy]; rfl), y, hy, hback⟩
  · obtain ⟨t, hm, hfault⟩ := (step_runs hwf (allows_lossless he)).of_error hstep
    obtain ⟨_, hlinks'⟩ := invariant_of_step (R := Move .lossless)
      (P := fun s => WF s ∧ ClientLinks s)
      (fun hm hs => ⟨WF.move hm hs.1, ClientLinks.move hs.1 hm hs.2⟩) hm ⟨hwf, hlinks⟩
    exact hlinks'.no_fault hfault

/-- A client that waits for its connect request to be answered. -/
def connectRun : List Event :=
  .accept (some 5) :: clientSends 5 { connect := some 10 } (connectFrame 7 3 80)

theorem reachable_clientLinks_connecting :
    ∃ s x r, ReachableBy (platformWith [])
        (fun _ e => e.singleThreaded ∧ e.lossless (platformWith [])) s ∧
      s.clients ⟨0⟩ = some x ∧ x.state = .connecting1 ∧ x.remote = some r ∧
      r ∈ s.remoteList.elems ∧
      ∀ fd sys, ¬ Loss (platformWith []) sys →
        step (platformWith []) s (.client fd { pollin := true } sys) ≠
          .error (.clientRemote ⟨0⟩) := by
  let test : Daemon → Bool := fun s => decide (s.clientList.elems = [⟨0⟩]) &&
    (s.clients ⟨0⟩).any fun x => decide (x.state = .connecting1)
  obtain ⟨s, hrun, htest⟩ : ∃ s, runFrom (platformWith []) {} (fun _ _ => true) connectRun =
      some s ∧ test s = true := exists_of_runFrom (by decide +kernel)
  simp only [test, Bool.and_eq_true, decide_eq_true_eq, Option.any_eq_true] at htest
  obtain ⟨hlist, x, hx, hstate⟩ := htest
  have hreach : ReachableBy (platformWith [])
      (fun _ e => e.singleThreaded ∧ e.lossless (platformWith [])) s := by
    refine reachableBy_of_runFrom (fun t e he _ _ => ?_) hrun
    rcases List.mem_cons.mp he with rfl | he
    · exact ⟨trivial, trivial⟩
    · exact clientSends_lossless (fun _ => rfl) e he
  obtain ⟨hlinks, hfault⟩ := reachable_clientLinks hreach
  obtain ⟨x', hx', hr, hneed⟩ := hlinks ⟨0⟩ (by rw [hlist]; exact List.mem_singleton_self _)
  cases hx.symm.trans hx'
  obtain ⟨r, hremote⟩ := Option.ne_none_iff_exists'.mp (hneed (Or.inl hstate))
  exact ⟨s, x, r, hreach, hx, hstate, hremote, (hr r hremote).1,
    fun fd sys hloss => hfault (.client fd { pollin := true } sys) ⟨0⟩ trivial hloss⟩

/-! ## From remotes to clients -/

/-- The client of every remote is there and points back. -/
structure RemoteLinks (s : Core) : Prop where
  client : ∀ {r y c}, s.remotes r = some y → y.client = some c →
    ∃ x, s.clients c = some x ∧ x.remote = some r

/-- No remote points to the client. -/
def Unserved (s : Core) (c : ClientPtr) : Prop :=
  ∀ r y, s.remotes r = some y → y.client ≠ some c

/-- A connection is opened only for a client to which no remote points. -/
def Allow.oneRequest : Allow := { Allow.all with openOk := fun s c _ _ => Unserved s c }

section RemoteSide

variable {s s' : Core}

/-- Objects may leave as long as no client goes without the remote it points
to. -/
theorem RemoteLinks.sub (h : RemoteLinks s)
    (hremote : ∀ {r y}, s'.remotes r = some y → s.remotes r = some y)
    (hclient : ∀ {r y c x}, s'.remotes r = some y → y.client = some c →
      s.clients c = some x → x.remote = some r → s'.clients c = some x) : RemoteLinks s' where
  client hy hc := by
    obtain ⟨x, hx, hr⟩ := h.client (hremote hy) hc
    exact ⟨x, hclient hy hc hx hr, hr⟩

theorem RemoteLinks.opens {c : ClientPtr} {x x' : MuxClient} {k : UInt8} {y : RemoteMux}
    {acts : List Act} (h : RemoteLinks s)
    (ho : Opens .oneRequest s s' c x x' k y acts) : RemoteLinks s' := by
  refine ⟨fun {r z c'} hz hc' => ?_⟩
  rw [ho.result, Core.remotes_emit] at hz
  rw [ho.result, Core.clients_emit, Core.clients_addRemote, Core.clients_setClient]
  rcases Core.remotes_addRemote_cases hz with ⟨hr, rfl⟩ | hz
  · have hclient : z.client = some c ∨ z.client = none := by
      rcases ho.kind with ⟨⟨_, _, hc, _⟩, _⟩ | ⟨⟨_, _, ⟨hc, _⟩ | ⟨_, hc, _⟩⟩, _⟩
      · exact Or.inl hc
      · exact Or.inl hc
      · exact Or.inr hc
    rcases hclient with hc | hc <;> cases hc.symm.trans hc'
    refine ⟨x', if_pos rfl, ?_⟩
    rw [hr]
    exact ho.link
  · obtain ⟨z', hz', hr⟩ := h.client hz hc'
    refine ⟨z', ?_, hr⟩
    rw [if_neg]
    · exact hz'
    · rintro rfl
      exact ho.allowed r z hz hc'

theorem RemoteLinks.move (hwf : WF s) (hm : Move .oneRequest s s') (h : RemoteLinks s) :
    RemoteLinks s' := by
  cases hm.shape with
  | inPlace hp =>
      refine ⟨fun {r y' c} hy' hc => ?_⟩
      obtain ⟨y, hy, he⟩ := hp.remote_before hy'
      obtain ⟨x, hx, hr⟩ := h.client hy (he.client.symm.trans hc)
      obtain ⟨x', hx', he'⟩ := hp.client hx
      exact ⟨x', hx', he'.remote.trans hr⟩
  | accept _ heq =>
      rw [heq]
      refine h.sub (fun hy => hy) fun {r y c x} _ _ hx _ => ?_
      show (s.addClient _).clients c = some x
      rw [Core.clients_addClient, if_neg]
      · exact hx
      · rintro rfl
        cases hwf.nextClient_free.symm.trans hx
  | opens ho => exact h.opens ho
  | addListener hnew heq =>
      refine ⟨fun {r y c} hy hc => ?_⟩
      rw [heq, Core.remotes_emit] at hy
      rw [heq]
      rcases Core.remotes_addRemote_cases hy with ⟨_, rfl⟩ | hy
      · cases hnew.client.symm.trans hc
      · exact h.client hy hc
  | @closeClient c x hx heq =>
      rw [heq]
      refine h.sub (fun {r y} hy => ?_) fun {r y c' x'} hy hc' hx' hr => ?_
      · rw [Core.remotes_closeClient] at hy
        split at hy
        · cases hy
        · exact hy
      · rw [Core.clients_closeClient, if_neg]
        · exact hx'
        · rintro rfl
          cases hx.symm.trans hx'
          rw [Core.remotes_closeClient, if_pos hr] at hy
          cases hy
  | closeRemote hy _ _ heq =>
      rw [heq]
      refine h.sub (fun {r' y'} hy' => ?_) fun _ _ hx _ => hx
      rw [Core.remotes_dropRemote] at hy'
      split at hy'
      · cases hy'
      · exact hy'
  | @dispose r y hy _ heq =>
      rw [heq]
      have hleft : ∀ {r' y'}, (s.dispose r y).remotes r' = some y' →
          r' ≠ r ∧ s.remotes r' = some y' := by
        intro r' y' hy'
        rw [Core.remotes_dispose] at hy'
        split at hy'
        · cases hy'
        · next hne => exact ⟨hne, hy'⟩
      refine h.sub (fun hy' => (hleft hy').2) fun {r' y' c x} hy' _ hx hr => ?_
      rw [Core.clients_dispose, if_neg]
      · exact hx
      · intro hown
        -- the disposed remote's client points to it and to nothing else
        obtain ⟨x', hx', hr'⟩ := h.client hy hown
        cases hx.symm.trans hx'
        exact (hleft hy').1 (Option.some.inj (hr.symm.trans hr'))

theorem RemoteLinks.initial (h : Initial s) : RemoteLinks s := by
  refine ⟨fun {r y c} hy hc => ?_⟩
  cases h with
  | empty => cases hy
  | listener hlocal _ =>
      rcases Core.remotes_addRemote_cases hy with ⟨_, rfl⟩ | hy
      · cases hlocal.client.symm.trans hc
      · cases hy

end RemoteSide

/-- When an event lets a client open a connection, no remote in the list
points to the client. -/
def OneRequest (plat : Platform) (s : Daemon) : Event → Prop
  | .client fd revents sys => ∀ c x k state y, s.clients c = some x → x.fd = fd →
      revents.pollin = true → Opening plat sys s x k state y →
      ∀ r ∈ s.remoteList.elems, ∀ z, s.remotes r = some z → z.client ≠ some c
  | _ => True

theorem allows_oneRequest {plat : Platform} {s : Daemon} {e : Event} (hwf : WF s.toCore)
    (h : OneRequest plat s e) : Allows Allow.oneRequest plat s e := by
  refine allows_of .of_all
    (fun _ => trivial) (fun _ => Or.inr trivial) ?_ fun _ _ _ _ =>
      ⟨fun _ _ _ => trivial, fun _ _ _ => trivial, fun _ _ _ _ _ => trivial,
        fun _ _ => trivial⟩
  rintro fd revents sys c x rfl hx hfd hin k state y y' t ho hr _ _ _ r z hz
  rw [hr] at hz
  exact h c x k state y hx hfd hin ho r ((hwf.remotes r).mpr (by rw [hz]; rfl)) z hz

/-- In a run in which every connection is opened for a client to which no
remote points, `remote->client` is sound. -/
theorem reachable_remoteLinks {plat : Platform} {s : Daemon}
    (h : ReachableBy plat (OneRequest plat) s) :
    ∀ r ∈ s.remoteList.elems, ∃ y, s.remotes r = some y ∧
      ∀ c, y.client = some c → c ∈ s.clientList.elems ∧
        ∃ x, s.clients c = some x ∧ x.remote = some r := by
  obtain ⟨hwf, hlinks⟩ := reachable_inv (A := .oneRequest) RemoteLinks.initial
    (fun hwf _ he => allows_oneRequest hwf he) RemoteLinks.move h
  intro r hr
  obtain ⟨y, hy⟩ := Option.isSome_iff_exists.mp ((hwf.remotes r).mp hr)
  refine ⟨y, hy, fun c hc => ?_⟩
  obtain ⟨x, hx, hback⟩ := hlinks.client hy hc
  exact ⟨(hwf.clients c).mpr (by rw [hx]; rfl), x, hx, hback⟩

theorem oneRequest_of_unlinked {plat : Platform} {s : Daemon} {e : Event}
    (h : (s.remoteList.elems.all fun r => (s.remotes r).all fun y => y.client.isNone) = true) :
    OneRequest plat s e := by
  cases e with
  | client fd revents sys =>
      intro c x k state y _ _ _ _ r hr z hz hc
      have hz' := List.all_eq_true.mp h r hr
      rw [hz, Option.all_some, hc] at hz'
      cases hz'
  | accept | remote | getFds | addRemote | mdnsAdd | mdnsRemove => exact trivial

theorem reachable_remoteLinks_connecting :
    ∃ s y c, ReachableBy (platformWith []) (OneRequest (platformWith [])) s ∧
      s.remotes ⟨0⟩ = some y ∧ y.client = some c ∧ c ∈ s.clientList.elems := by
  let test : Daemon → Bool := fun s => decide (s.remoteList.elems = [⟨0⟩]) &&
    (s.remotes ⟨0⟩).any fun y => decide (y.client = some ⟨0⟩)
  obtain ⟨s, hrun, htest⟩ : ∃ s, runFrom (platformWith []) {}
      (fun s _ => s.remoteList.elems.all fun r => (s.remotes r).all fun y => y.client.isNone)
      connectRun = some s ∧ test s = true := exists_of_runFrom (by decide +kernel)
  simp only [test, Bool.and_eq_true, decide_eq_true_eq, Option.any_eq_true] at htest
  obtain ⟨hlist, y, hy, hclient⟩ := htest
  have hreach : ReachableBy (platformWith []) (OneRequest (platformWith [])) s :=
    reachableBy_of_runFrom (fun _ _ _ _ hok => oneRequest_of_unlinked hok) hrun
  obtain ⟨y', hy', hlinks⟩ := reachable_remoteLinks hreach ⟨0⟩
    (by rw [hlist]; exact List.mem_singleton_self _)
  cases hy.symm.trans hy'
  exact ⟨s, y, ⟨0⟩, hreach, hy, hclient, (hlinks _ hclient).1⟩

/-- A client sends two requests and leaves. -/
def twoRequests : List Event :=
  .accept (some 5) ::
    (clientSends 5 { connect := some 10 } (plistFrame 1 1 readBuidRequest) ++
      clientSends 5 { connect := some 11 } (plistFrame 1 2 readBuidRequest) ++
      [.client 5 { pollin := true } { recv := some [] }])

/-- The remote of the first request is left with a client that was freed. -/
theorem remote_of_freed_client :
    ∃ s r y c, Reachable (platformWith [readBuidRequest]) s ∧ r ∈ s.remoteList.elems ∧
      s.remotes r = some y ∧ y.client = some c ∧ c ∉ s.clientList.elems ∧
      s.clients c = none := by
  let test : Daemon → Bool := fun s => decide (⟨0⟩ ∈ s.remoteList.elems) &&
    ((s.remotes ⟨0⟩).any fun y => decide (y.client = some ⟨0⟩)) &&
    decide (⟨0⟩ ∉ s.clientList.elems) && (s.clients ⟨0⟩).isNone
  obtain ⟨s, hrun, htest⟩ : ∃ s, runFrom (platformWith [readBuidRequest]) {} (fun _ _ => true)
      twoRequests = some s ∧ test s = true := exists_of_runFrom (by decide +kernel)
  simp only [test, Bool.and_eq_true, decide_eq_true_eq, Option.any_eq_true,
    Option.isNone_iff_eq_none] at htest
  obtain ⟨⟨⟨hlist, y, hy, hclient⟩, hgone⟩, hfreed⟩ := htest
  exact ⟨s, ⟨0⟩, y, ⟨0⟩, reachable_of_runFrom hrun, hlist, hy, hclient, hgone, hfreed⟩

end Usbfluxd
