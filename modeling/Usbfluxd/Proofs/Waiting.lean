import Usbfluxd.Proofs.Links
import Usbfluxd.Proofs.Trace

/-!
# Who waits, and for what

Two things hold in every reachable state whatever fails on the way. Clients
and remotes poll for what their state and their output buffer call for. And a
client that waits for a connection, or has one, has the remote that was opened
for it, and that remote points back: a lost packet leaves a link without its
other half only while the client goes on sending commands.

The first is kept by every change in place, so nothing remains to be shown but
the new objects. The second needs to know that a remote was opened once, for
one client: then what closes some other client does not take the remote along.
-/

namespace Usbfluxd

open Lib

/-! ## Polling -/

/-- Everybody polls for what they wait for. -/
structure Polling (s : Core) : Prop where
  client : ∀ {c x}, s.clients c = some x → x.Polls
  remote : ∀ {r y}, s.remotes r = some y → y.Polls

section Polling

variable {A : Allow} {s s' : Core}

theorem MuxClient.Polls.newClient {fd : Nat} {number : UInt32} :
    (newClient fd number).Polls where
  buffer _ := rfl
  output _ hne := absurd rfl hne
  input _ := rfl
  handover h := nomatch h

theorem Polling.addRemote {y : RemoteMux} (h : Polling s) (hy : y.Polls)
    (hclients : ∀ {c x}, s'.clients c = some x → x.Polls)
    (hremotes : s'.remotes = (s.addRemote y).remotes) : Polling s' where
  client := hclients
  remote {r z} hz := by
    rw [hremotes] at hz
    rcases Core.remotes_addRemote_cases hz with ⟨_, rfl⟩ | hz
    · exact hy
    · exact h.remote hz

theorem Polling.leaves (h : Polling s) (hl : Leaves s s') : Polling s' :=
  ⟨fun hx => h.client (hl.client hx), fun hy => h.remote (hl.remote hy)⟩

theorem Polling.move (hm : Move A s s') (h : Polling s) : Polling s' := by
  cases hm.shape with
  | inPlace hp =>
      constructor
      · intro c x' hx'
        obtain ⟨x, hx, he⟩ := hp.client_before hx'
        exact he.polls (h.client hx)
      · intro r y' hy'
        obtain ⟨y, hy, he⟩ := hp.remote_before hy'
        exact he.polls (h.remote hy)
  | accept _ heq =>
      rw [heq]
      refine ⟨fun {c x} hx => ?_, h.remote⟩
      rcases Core.clients_addClient_cases hx with ⟨_, rfl⟩ | hx
      · exact .newClient
      · exact h.client hx
  | opens ho =>
      rw [ho.result]
      refine h.addRemote ho.polls_new (fun {c z} hz => ?_) rfl
      rw [Core.clients_emit, Core.clients_addRemote, Core.clients_setClient] at hz
      split at hz
      · cases hz
        exact ho.polls (h.client ho.client)
      · exact h.client hz
  | addListener _ heq _ _ hpolls =>
      rw [heq]
      exact h.addRemote hpolls h.client rfl
  | closeClient _ heq =>
      rw [heq]
      exact h.leaves .closeClient
  | closeRemote _ _ _ heq =>
      rw [heq]
      exact h.leaves .dropRemote
  | dispose _ _ heq =>
      rw [heq]
      exact h.leaves .dispose

theorem Polling.initial (h : Initial s) : Polling s := by
  have hempty : Polling emptyDaemon.toCore := ⟨fun hx => (nomatch hx), fun hy => (nomatch hy)⟩
  cases h with
  | empty => exact hempty
  | listener hy hacts =>
      refine hempty.addRemote (hacts.polls ?_) (fun hx => (nomatch hx)) rfl
      rw [hy.state]
      exact fun h => nomatch h

end Polling

/-! ## Handing over -/

/-- A client that waits for a connection or has one shares it with the remote
opened for it. -/
def Paired (s : Core) : Prop :=
  ∀ c x, s.clients c = some x → x.needsRemote →
    ∃ r y, x.remote = some r ∧ s.remotes r = some y ∧ y.client = some c

section Paired

variable {A : Allow} {s s' : Core}

/-- Remotes may come, and those may go whose client goes or has another. -/
theorem Paired.sub (h : Paired s)
    (hclient : ∀ {c x}, s'.clients c = some x → x.needsRemote → s.clients c = some x)
    (hremote : ∀ {c x r y}, s'.clients c = some x → x.remote = some r →
      s.remotes r = some y → y.client = some c → s'.remotes r = some y) : Paired s' := by
  intro c x hx hneed
  obtain ⟨r, y, hr, hy, hc⟩ := h c x (hclient hx hneed) hneed
  exact ⟨r, y, hr, hremote hx hr hy hc, hc⟩

theorem Paired.opens {c : ClientPtr} {x x' : MuxClient} {k : UInt8} {y : RemoteMux}
    {acts : List Act} (h : Paired s) (hwf : WF s) (ho : Opens A s s' c x x' k y acts) :
    Paired s' := by
  intro c' z hz hneed
  have hremotes : s'.remotes = (s.addRemote y).remotes := by
    rw [ho.result]
    rfl
  rw [ho.result, Core.clients_emit, Core.clients_addRemote, Core.clients_setClient] at hz
  split at hz
  · next heq =>
      cases hz
      rcases ho.kind with ⟨⟨_, _, hclient, _⟩, _⟩ | ⟨_, hstate⟩
      · refine ⟨_, y, ho.link, ?_, ?_⟩
        · rw [hremotes, Core.remotes_addRemote, if_pos rfl]
        · rw [heq]
          exact hclient
      · rw [MuxClient.needsRemote, hstate] at hneed
        simp at hneed
  · obtain ⟨r, y', hr, hy', hc⟩ := h c' z hz hneed
    refine ⟨r, y', hr, ?_, hc⟩
    rw [hremotes, Core.remotes_addRemote, if_neg]
    · exact hy'
    · rintro rfl
      cases hwf.nextRemote_free.symm.trans hy'

theorem Paired.closeClient {c : ClientPtr} {x : MuxClient} (h : Paired s) (hlog : LogOk s)
    (hx : s.clients c = some x) : Paired (s.closeClient c x) := by
  refine h.sub (fun {c' z} hz _ => Leaves.closeClient.client hz) ?_
  intro c' z r y hz hr hy hc
  rw [Core.clients_closeClient] at hz
  split at hz
  · cases hz
  · next hne =>
      rw [Core.remotes_closeClient, if_neg]
      · exact hy
      · intro hown
        -- a remote is opened once, so it has one client
        obtain ⟨state, hopen⟩ := hlog.link hx hown
        obtain ⟨state', hopen'⟩ := hlog.back hy hc
        exact hne (hlog.unique hopen' hopen).1

theorem Paired.move (hwf : WF s) (hlog : LogOk s) (hm : Move A s s') (h : Paired s) :
    Paired s' := by
  cases hm.shape with
  | inPlace hp =>
      intro c x' hx' hneed
      obtain ⟨x, hx, he⟩ := hp.client_before hx'
      obtain ⟨r, y, hr, hy, hc⟩ := h c x hx (he.needsRemote hneed)
      obtain ⟨y', hy', he'⟩ := hp.remote hy
      exact ⟨r, y', he.remote.trans hr, hy', he'.client.trans hc⟩
  | accept _ heq =>
      rw [heq]
      refine h.sub (fun {c x} hx hneed => ?_) fun _ _ hy _ => hy
      rcases Core.clients_addClient_cases hx with ⟨_, rfl⟩ | hx
      · rcases hneed with hneed | hneed | hneed <;> cases hneed
      · exact hx
  | opens ho => exact h.opens hwf ho
  | addListener _ heq =>
      rw [heq]
      refine h.sub (fun hx _ => hx) fun {c x r y} _ _ hy _ => ?_
      rw [Core.remotes_emit]
      refine (Core.remotes_addRemote.trans (if_neg ?_)).trans hy
      rintro rfl
      cases hwf.nextRemote_free.symm.trans hy
  | closeClient hx heq =>
      rw [heq]
      exact h.closeClient hlog hx
  | closeRemote hy hclient _ heq =>
      rw [heq]
      refine h.sub (fun hx _ => hx) fun {c x r' y'} _ _ hy' hc => ?_
      rw [Core.remotes_dropRemote, if_neg]
      · exact hy'
      · rintro rfl
        cases hy.symm.trans hy'
        cases hclient.symm.trans hc
  | dispose hy _ heq =>
      rw [heq]
      refine h.sub (fun hx _ => Leaves.dispose.client hx) fun {c x r' y'} hx _ hy' hc => ?_
      rw [Core.remotes_dispose, if_neg]
      · exact hy'
      · rintro rfl
        cases hy.symm.trans hy'
        rw [Core.clients_dispose, if_pos hc] at hx
        cases hx

theorem Paired.initial (h : Initial s) : Paired s := by
  intro c x hx
  cases h with
  | empty | listener => cases hx

end Paired

/-- Both hold in every reachable state. -/
theorem reachable_waiting {plat : Platform} {s : Daemon} (h : Reachable plat s) :
    LogOk s.toCore ∧ Polling s.toCore ∧ Paired s.toCore := by
  refine (reachable_inv (A := .all) (P := fun s => LogOk s ∧ Polling s ∧ Paired s)
    (fun h => ⟨.initial h, .initial h, .initial h⟩) (fun _ _ _ => allows_all) ?_ h).2
  intro s s' hwf hm hs
  exact ⟨hs.1.move hwf hm, hs.2.1.move hm, hs.2.2.move hwf hs.1 hm⟩

end Usbfluxd
