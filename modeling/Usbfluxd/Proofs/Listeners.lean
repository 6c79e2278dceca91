import Usbfluxd.Lib.Text
import Usbfluxd.Moves.Shape
import Usbfluxd.Proofs.Locks
import Usbfluxd.Proofs.Runs

/-!
# The list of listeners

`send_listener_list` makes one entry for each client in `CLIENT_LISTEN` and
gives it an `ID String`: a number, a dash and the program name of the client.
The text always fits the buffer it is allocated (`idString_fits`). The number
is the wrong one. The loop runs over the clients as `lc` and formats
`client->number`, so every entry carries the number of the client that asks,
and two listeners with one program name are told apart by nothing.

Numbers are handed out by `client_accept` and count up, so as long as fewer
than 2^32 clients were accepted they are all different. An entry therefore
names its own client only if that client is the one that asks, which is the
condition of `listenerList_identifies_iff`.
-/

namespace Usbfluxd

open Lib

/-! ## What an entry should say -/

/-- The name under which a client is listed. -/
def progName (lc : MuxClient) : String :=
  ((lc.info.bind fun i => plistDictGetItem i "ProgName").bind plistGetStringVal).getD "unknown"

/-- A number, a dash and a name. -/
def idString (number : UInt32) (progname : String) : String :=
  toString number.toNat ++ "-" ++ progname

/-- What `snprintf` makes of it in the buffer that is allocated for it, which
has twelve bytes more than the name. -/
def formattedId (number : UInt32) (progname : String) : List UInt8 :=
  snprintf (progname.utf8ByteSize + 12) (idString number progname).toUTF8.data.toList

/-- The clients in `CLIENT_LISTEN`, in slot order. -/
def listeningClients (s : Core) : List MuxClient :=
  (s.clientList.elems.filterMap s.clients).filter fun lc => lc.state = .listen

/-- The `ID String` of each entry. -/
def listedIds (listeners : List Plist) : List (Option String) :=
  listeners.map fun l => plistDictCopyStringVal l "ID String"

/-- One entry per listening client, in slot order, each with the number and the
name of its own client, no two alike and none truncated. -/
structure Identifies (s : Core) (listeners : List Plist) : Prop where
  ids : listedIds listeners =
    (listeningClients s).map fun lc => some (idString lc.number (progName lc))
  distinct : (listedIds listeners).Nodup
  fits : ∀ lc ∈ listeningClients s,
    formattedId lc.number (progName lc) = (idString lc.number (progName lc)).toUTF8.data.toList

/-- The number can be told from the text: it ends at the first dash, whatever
the name is. -/
theorem idString_injective {m n : UInt32} {progname progname' : String}
    (h : idString m progname = idString n progname') : m = n := by
  have hdigits : ∀ (k : UInt32) (name : String),
      (idString k name).toList.takeWhile Char.isDigit = Nat.toDigits 10 k.toNat := by
    intro k name
    have hall : ∀ c ∈ Nat.toDigits 10 k.toNat, c.isDigit :=
      fun c hc => Nat.isDigit_of_mem_toDigits (by omega) (by omega) hc
    have htext : (idString k name).toList = Nat.toDigits 10 k.toNat ++ '-' :: name.toList := by
      simp [idString]
    rw [htext, List.takeWhile_append_of_pos hall, List.takeWhile_cons_of_neg (by decide),
      List.append_nil]
  have heq : Nat.toDigits 10 m.toNat = Nat.toDigits 10 n.toNat := by
    rw [← hdigits m progname, ← hdigits n progname', h]
  have hval := congrArg (fun cs => Nat.ofDigitChars 10 cs 0) heq
  exact UInt32.toNat_inj.mp (by simpa using hval)

/-- The allocated length is enough for the largest number. -/
theorem idString_fits (number : UInt32) (progname : String) :
    formattedId number progname = (idString number progname).toUTF8.data.toList := by
  rw [formattedId, snprintf_eq_self_iff]
  have hlen : (idString number progname).toUTF8.data.toList.length =
      (Nat.toDigits 10 number.toNat).length + 1 + progname.utf8ByteSize := by
    calc (idString number progname).toUTF8.data.toList.length
        = (idString number progname).utf8ByteSize := rfl
      _ = _ := by
          rw [idString, String.utf8ByteSize_append, String.utf8ByteSize_append,
            utf8ByteSize_toString]
          rfl
  have hdigits := length_toDigits_uint32 number
  omega

/-! ## Numbers -/

/-- Every client has the number of its turn. -/
structure Numbered (s : Core) : Prop where
  number : ∀ {c x}, s.clients c = some x → x.number = UInt32.ofNat c.block
  next : s.clientNumber = UInt32.ofNat s.nextClient

section Preservation

variable {A : Allow} {s s' : Core} {c : ClientPtr} {x x' : MuxClient} {acts : List Act}

/-- Clients leave or change without getting another number. -/
theorem Numbered.sub (h : Numbered s)
    (hsub : ∀ {c x'}, s'.clients c = some x' → ∃ x, s.clients c = some x ∧ x'.number = x.number)
    (hnumber : s'.clientNumber = s.clientNumber) (hnext : s'.nextClient = s.nextClient) :
    Numbered s' where
  number hx' := by
    obtain ⟨x, hx, heq⟩ := hsub hx'
    rw [heq]
    exact h.number hx
  next := by
    rw [hnumber, hnext]
    exact h.next

/-- One client changes, and keeps its number. -/
theorem Numbered.update (h : Numbered s) (hx : s.clients c = some x)
    (hclients : s'.clients = (s.setClient c x').clients) (hkept : x'.number = x.number)
    (hnumber : s'.clientNumber = s.clientNumber) (hnext : s'.nextClient = s.nextClient) :
    Numbered s' := by
  refine h.sub (fun {c' z} hz => ?_) hnumber hnext
  rw [hclients, Core.clients_setClient] at hz
  split at hz
  · next heq =>
      subst heq
      cases hz
      exact ⟨x, hx, hkept⟩
  · exact ⟨z, hz, rfl⟩

/-- Whatever does not touch the clients. -/
theorem Numbered.congr (h : Numbered s) (hclients : s'.clients = s.clients)
    (hnumber : s'.clientNumber = s.clientNumber) (hnext : s'.nextClient = s.nextClient) :
    Numbered s' :=
  h.sub (fun {_ x'} hx' => ⟨x', hclients ▸ hx', rfl⟩) hnumber hnext

theorem Numbered.announces (hn : Announces s s') (h : Numbered s) : Numbered s' := by
  refine invariant_of_step (R := Announce) (P := Numbered) ?_ hn h
  intro t t' ha ht
  obtain ⟨c, x, hdr, payload, _, hx, _, ob, _, rfl⟩ := ha
  exact ht.update hx rfl rfl rfl rfl

theorem ClientStep.number (h : ClientStep c x acts x') : x'.number = x.number := by
  cases h <;> rfl

theorem Numbered.dropClient (h : Numbered s) (hx : ∀ {c x}, s'.clients c = some x →
    s.clients c = some x) (hnumber : s'.clientNumber = s.clientNumber)
    (hnext : s'.nextClient = s.nextClient) : Numbered s' :=
  h.sub (fun {_ x'} hx' => ⟨x', hx hx', rfl⟩) hnumber hnext

theorem Numbered.accept {fd : Nat} (h : Numbered s) :
    Numbered { s.addClient (newClient fd s.clientNumber) with
      clientNumber := s.clientNumber + 1 } where
  number hx := by
    rcases Core.clients_addClient_cases hx with ⟨rfl, rfl⟩ | hx
    · exact h.next
    · exact h.number hx
  next := by
    show s.clientNumber + 1 = UInt32.ofNat (s.nextClient + 1)
    rw [h.next, UInt32.ofNat_add]
    rfl

theorem Numbered.move (hm : Move A s s') (h : Numbered s) : Numbered s' := by
  cases hm with
  | client hx hstep => exact h.update hx rfl hstep.number rfl rfl
  | remote | addListener | closeRemote | killId => exact h.congr rfl rfl rfl
  | forward _ _ _ _ _ hx | relayRead hx | relayWrite hx | notifyOk _ _ _ hx =>
      exact h.update hx rfl rfl rfl rfl
  | accept => exact h.accept
  | connect hx | request hx => exact h.update hx rfl rfl rfl rfl
  | @closeClient c x =>
      refine h.dropClient Leaves.closeClient.client ?_ ?_ <;>
        (rw [Core.closeClient]; cases x.remote <;> rfl)
  | @dispose r y =>
      refine h.dropClient Leaves.dispose.client ?_ ?_ <;>
        (rw [Core.dispose, Core.releaseId]; cases y.client <;> split <;> rfl)
  | deviceSet _ hn | deviceErase _ hn => exact (h.announces hn.announces).congr rfl rfl rfl
  | listen hx _ hn => exact Numbered.announces hn.announces (h.update hx rfl rfl rfl rfl)

theorem Numbered.initial (h : Initial s) : Numbered s := by
  cases h with
  | empty | listener => exact ⟨fun hx => (nomatch hx), rfl⟩

end Preservation

theorem reachable_numbered {plat : Platform} {s : Daemon} (h : Reachable plat s) :
    Numbered s.toCore :=
  (reachable_inv (A := .all) Numbered.initial (fun _ _ _ => allows_all)
    (fun _ hm hn => hn.move hm) h).2

/-! ## The list -/

section List

variable {s : Core} {c : ClientPtr} {x : MuxClient}

theorem mem_listeningClients (hwf : WF s) {lc : MuxClient} :
    lc ∈ listeningClients s ↔ (∃ c, s.clients c = some lc) ∧ lc.state = .listen := by
  simp only [listeningClients, List.mem_filter, List.mem_filterMap, decide_eq_true_eq]
  constructor
  · rintro ⟨⟨c, _, hc⟩, hstate⟩
    exact ⟨⟨c, hc⟩, hstate⟩
  · rintro ⟨⟨c, hc⟩, hstate⟩
    exact ⟨⟨c, (hwf.clients c).mpr (by rw [hc]; rfl), hc⟩, hstate⟩

/-- Fewer than 2^32 clients: a number is one client's. -/
theorem Numbered.client_eq (h : Numbered s) (hwf : WF s) (hcount : s.nextClient < 2 ^ 32)
    {c' : ClientPtr} {x' : MuxClient} (hx : s.clients c = some x) (hx' : s.clients c' = some x')
    (heq : x.number = x'.number) : c = c' := by
  have hlt : ∀ {c x}, s.clients c = some x → c.block < s.nextClient := by
    intro c x hx
    exact hwf.clientFresh c (by rw [hx]; rfl)
  have hc := hlt hx
  have hc' := hlt hx'
  rw [h.number hx, h.number hx', ← UInt32.toNat_inj,
    UInt32.toNat_ofNat_of_lt' (Nat.lt_trans hc hcount),
    UInt32.toNat_ofNat_of_lt' (Nat.lt_trans hc' hcount)] at heq
  cases c
  cases c'
  exact congrArg ClientPtr.mk heq

theorem nodup_listening_numbers (h : Numbered s) (hwf : WF s)
    (hcount : s.nextClient < 2 ^ 32) :
    ((listeningClients s).map MuxClient.number).Nodup := by
  rw [listeningClients, List.filter_filterMap, List.map_filterMap]
  refine hwf.clientsNodup.filterMap fun c c' n hn hn' => ?_
  simp only [Option.mem_def, Option.map_eq_some_iff, Option.filter_eq_some_iff] at hn hn'
  obtain ⟨x, ⟨hx, _⟩, hnumber⟩ := hn
  obtain ⟨x', ⟨hx', _⟩, hnumber'⟩ := hn'
  exact h.client_eq hwf hcount hx hx' (hnumber.trans hnumber'.symm)

/-- Under their own numbers the listening clients have different texts, the
same name or not. -/
theorem nodup_ownIds (h : Numbered s) (hwf : WF s) (hcount : s.nextClient < 2 ^ 32) :
    ((listeningClients s).map fun lc => some (idString lc.number (progName lc))).Nodup := by
  have hnumbers := nodup_listening_numbers h hwf hcount
  rw [List.Nodup, List.pairwise_map] at hnumbers ⊢
  exact hnumbers.imp fun hne heq => hne (idString_injective (Option.some.inj heq))

theorem listenerEntries_eq {s : Daemon} (number : UInt32) {cs : List ClientPtr}
    (hlive : ∀ c ∈ cs, (s.clients c).isSome) :
    listenerEntries s number cs =
      .ok (((cs.filterMap s.clients).filter fun lc => lc.state = .listen).map
        (listenerEntry number)) := by
  induction cs with
  | nil => rfl
  | cons c rest ih =>
      obtain ⟨lc, hlc⟩ := Option.isSome_iff_exists.mp (hlive c List.mem_cons_self)
      have hread : s.client c = .ok lc := by
        rw [Daemon.client, hlc]
      rw [listenerEntries, hread, ih fun c' hc' => hlive c' (List.mem_cons_of_mem c hc'),
        List.filterMap_cons_some hlc]
      dsimp only [bind, Except.bind]
      by_cases hstate : lc.state = .listen
      · rw [if_pos hstate, List.filter_cons_of_pos (by simpa using hstate)]
        rfl
      · rw [if_neg hstate, List.filter_cons_of_neg (by simpa using hstate)]
        rfl

theorem listedIds_listenerEntry (number : UInt32) (lcs : List MuxClient) :
    listedIds (lcs.map (listenerEntry number)) =
      lcs.map fun lc => some (idString number (progName lc)) := by
  rw [listedIds, List.map_map]
  refine List.map_congr_left fun lc _ => ?_
  have hid : plistDictGetItem (listenerEntry number lc) "ID String" =
      some (.string (idString number (progName lc))) := by
    rw [listenerEntry]
    dsimp only
    generalize (lc.info.bind fun i => plistDictGetItem i "BundleID") = bundle
    cases bundle <;> rfl
  show plistDictCopyStringVal (listenerEntry number lc) "ID String" = _
  rw [plistDictCopyStringVal, hid]
  rfl

/-- Entries under one number identify their clients exactly when it is the
number of each of them. -/
theorem identifies_iff (h : Numbered s) (hwf : WF s) (hcount : s.nextClient < 2 ^ 32)
    {number : UInt32} :
    Identifies s ((listeningClients s).map (listenerEntry number)) ↔
      ∀ lc ∈ listeningClients s, lc.number = number := by
  constructor
  · intro hident lc hlc
    have hids := hident.ids
    rw [listedIds_listenerEntry] at hids
    have heq := List.map_inj_left.mp hids lc hlc
    exact (idString_injective (Option.some.inj heq)).symm
  · intro hnumber
    have hids : listedIds ((listeningClients s).map (listenerEntry number)) =
        (listeningClients s).map fun lc => some (idString lc.number (progName lc)) := by
      rw [listedIds_listenerEntry]
      refine List.map_congr_left fun lc hlc => ?_
      rw [hnumber lc hlc]
    refine ⟨hids, ?_, fun lc _ => idString_fits _ _⟩
    rw [hids]
    exact nodup_ownIds h hwf hcount

end List

/-- The list that is sent to a client identifies the listening clients exactly
when no other client than the one that asks is listening. -/
theorem listenerList_identifies_iff {plat₀ plat : Platform} {sys : Sys} {s : Daemon}
    {c : ClientPtr} {x : MuxClient} {tag : UInt32} (h : Reachable plat₀ s)
    (hcount : s.nextClient < 2 ^ 32) (hx : s.clients c = some x) :
    ∃ listeners, listenerEntries s x.number s.clientList.elems = .ok listeners ∧
      sendListenerList plat sys s c tag =
        sendPlistPkt plat sys s c tag (.dict [("ListenerList", .array listeners)]) ∧
      (Identifies s.toCore listeners ↔
        ∀ c' lc, s.clients c' = some lc → lc.state = .listen → c' = c) := by
  have hwf := reachable_wf h
  have hnumbered := reachable_numbered h
  have hunlocked := reachable_unlocked h
  have hlive : ∀ c ∈ s.clientList.elems, (s.clients c).isSome := fun c hc => (hwf.clients c).mp hc
  refine ⟨(listeningClients s.toCore).map (listenerEntry x.number), listenerEntries_eq _ hlive,
    ?_, ?_⟩
  · have hread : Daemon.client { s with clientListLocked := true } c = .ok x := by
      rw [Daemon.client, hx]
    have hentries : listenerEntries { s with clientListLocked := true } x.number
        s.clientList.elems = .ok ((listeningClients s.toCore).map (listenerEntry x.number)) :=
      listenerEntries_eq (s := { s with clientListLocked := true }) _ hlive
    have hsame : Daemon.unlockClientList { s with clientListLocked := true } = s := by
      rw [Daemon.unlockClientList]
      exact congrArg (fun b => { s with clientListLocked := b }) hunlocked.2.symm
    rw [sendListenerList, lockClientList_of_free hunlocked.2]
    dsimp only [bind, Except.bind]
    rw [hread]
    dsimp only
    rw [hentries]
    dsimp only
    rw [hsame]
  · rw [identifies_iff hnumbered hwf hcount]
    constructor
    · intro hnumber c' lc hlc hstate
      have hmem := (mem_listeningClients hwf).mpr ⟨⟨c', hlc⟩, hstate⟩
      exact hnumbered.client_eq hwf hcount hlc hx (hnumber lc hmem)
    · intro honly lc hlc
      obtain ⟨⟨c', hc'⟩, hstate⟩ := (mem_listeningClients hwf).mp hlc
      obtain rfl := honly c' lc hc' hstate
      cases hc'.symm.trans hx
      rfl

/-! ## Two listeners and a third client -/

/-- Two clients come and listen, and a third one comes. -/
def twoListenRun : List Event :=
  [.accept (some 5), .accept (some 6), .accept (some 7),
   .client 5 { pollin := true } { recv := some listenFrame },
   .client 6 { pollin := true } { recv := some listenFrame }]

/-- With one of them alone, a listener that asks for the list finds itself. -/
theorem listenerList_identifies_iff_alone :
    ∃ s listeners, Reachable (platformWith []) s ∧ Identifies s.toCore listeners ∧
      listeners.length = 1 := by
  let run : List Event :=
    [.accept (some 5), .client 5 { pollin := true } { recv := some listenFrame }]
  let test : Daemon → Bool := fun s =>
    (s.clients ⟨0⟩).isSome && decide (s.nextClient = 1) &&
    decide ((listeningClients s.toCore).length = 1)
  obtain ⟨s, hrun, htest⟩ : ∃ s, runFrom (platformWith []) {} (fun _ _ => true) run =
      some s ∧ test s = true := exists_of_runFrom (by decide +kernel)
  simp only [test, Bool.and_eq_true, decide_eq_true_eq, Option.isSome_iff_exists] at htest
  obtain ⟨⟨⟨x, hx⟩, hnext⟩, hone⟩ := htest
  have hreach := reachable_of_runFrom hrun
  have hwf := reachable_wf hreach
  obtain ⟨listeners, hentries, _, hiff⟩ :=
    @listenerList_identifies_iff (platformWith []) (platformWith []) {} s ⟨0⟩ x 0 hreach
      (by omega) hx
  have honly : ∀ c' lc, s.clients c' = some lc → lc.state = .listen → c' = ⟨0⟩ := by
    intro c' lc hlc _
    obtain ⟨block⟩ := c'
    have hlt : block < s.nextClient := hwf.clientFresh ⟨block⟩ (by rw [hlc]; rfl)
    exact congrArg ClientPtr.mk (by omega)
  have hlength : listeners.length = 1 := by
    rw [listenerEntries_eq x.number fun c hc => (hwf.clients c).mp hc] at hentries
    cases hentries
    rw [List.length_map]
    exact hone
  exact ⟨s, listeners, hreach, hiff.mpr honly, hlength⟩

/-- Both listeners are listed under the number of the client that asks. -/
theorem listeners_share_number :
    ∃ s x listeners, Reachable (platformWith []) s ∧ s.nextClient < 2 ^ 32 ∧
      s.clients ⟨2⟩ = some x ∧ x.state = .command ∧
      listenerEntries s x.number s.clientList.elems = .ok listeners ∧
      (listeningClients s.toCore).map MuxClient.number = [0, 1] ∧
      listedIds listeners = [some "2-unknown", some "2-unknown"] ∧
      ¬ Identifies s.toCore listeners := by
  let test : Daemon → Bool := fun s =>
    decide (s.nextClient = 3) &&
    decide ((listeningClients s.toCore).map MuxClient.number = [0, 1]) &&
    (s.clients ⟨2⟩).any fun x => decide (x.state = .command) &&
      match listenerEntries s x.number s.clientList.elems with
      | .ok listeners => decide (listedIds listeners = [some "2-unknown", some "2-unknown"])
      | .error _ => false
  obtain ⟨s, hrun, htest⟩ : ∃ s, runFrom (platformWith []) {} (fun _ _ => true) twoListenRun =
      some s ∧ test s = true := exists_of_runFrom (by decide +kernel)
  simp only [test, Bool.and_eq_true, decide_eq_true_eq, Option.any_eq_true] at htest
  obtain ⟨⟨hnext, hnumbers⟩, x, hx, hstate, htest⟩ := htest
  split at htest
  · next listeners hentries =>
      have hids := of_decide_eq_true htest
      refine ⟨s, x, listeners, reachable_of_runFrom hrun, by omega, hx, hstate, hentries,
        hnumbers, hids, fun hident => ?_⟩
      have hdistinct := hident.distinct
      rw [hids] at hdistinct
      exact absurd hdistinct (by decide)
  · cases htest

end Usbfluxd
