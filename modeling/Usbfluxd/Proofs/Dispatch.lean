import Usbfluxd.Proofs.Answers

/-!
# The frames of a client

`process_recv` takes a frame out of the input buffer only when
`client_command` returns 0 for it. Where it does, or where the client is
closed, the frames handed to `client_command` are the ones cut out of the
client's stream, whatever pieces it comes in, by the same account of the
stream as for a remote. Where another value is returned the frame stays in the
buffer, full, and the next event hands it over once more without reading
anything.

`TakenOut` is the condition under which the frame is taken out: it can be
read, is no `Listen` while there are devices to announce, and, if it is a
pair-record request, can be forwarded.
-/

namespace Usbfluxd

open Lib

/-- `ib_capacity` of a client. -/
def clientInputSize : Nat := replyBufSize

/-! ## Watching one client -/

/-- The buffer of a client that holds `d`; for `none` there is no client. -/
def Carries (d : Option (List UInt8)) (b : Buf) : Prop :=
  d = some b.data ∧ b.capacity = clientInputSize

/-- Watch the input buffer of one client and the log about it. -/
def watchClient (c : ClientPtr) (d : Option (List UInt8)) (t : InputTrace) : Watch where
  client c' b := c' = c → Carries d b
  remote _ _ := True
  log l := clientInput c l = t
  bound := 0
  free h heq := ⟨(h heq).1, (h heq).2⟩
  fresh _ := trivial
  emit hl hacts := by
    rw [clientInput_other fun a ha => Or.inr (hacts a ha)]
    exact hl

section Watching

variable {c : ClientPtr} {d : Option (List UInt8)} {t : InputTrace} {plat : Platform} {s : Daemon}

theorem watchClient_skipsClient {c' : ClientPtr} (hne : c' ≠ c) :
    (watchClient c d t).SkipsClient c' := by
  have hother : ∀ {l acts}, (∀ a ∈ acts, Act.client a = some c') →
      clientInput c l = t → clientInput c (l ++ acts) = t := by
    intro l acts hacts hl
    rw [clientInput_other fun a ha => Or.inl fun heq =>
      hne (Option.some_inj.mp ((hacts a ha).symm.trans heq))]
    exact hl
  refine ⟨fun _ _ heq => absurd heq hne, hother fun a ha => ?_, hother fun a ha => ?_⟩
  · rw [mem_recvActs ha]
    rfl
  · rw [List.mem_singleton.mp ha]
    rfl

theorem watchClient_skipsRemote {r : RemotePtr} : (watchClient c d t).SkipsRemote r := by
  have hother : ∀ {l acts}, (∀ a ∈ acts, Act.client a = none) →
      clientInput c l = t → clientInput c (l ++ acts) = t := by
    intro l acts hacts hl
    rw [clientInput_other fun a ha => Or.inl (by rw [hacts a ha]; exact fun h => nomatch h)]
    exact hl
  refine ⟨fun _ _ => trivial, hother fun a ha => ?_, hother fun a ha => ?_, hother fun a ha => ?_⟩
  · rw [mem_recvActs ha]
    rfl
  · rw [List.mem_singleton.mp ha]
    rfl
  · rw [List.mem_singleton.mp ha]
    rfl

/-- The event makes the daemon read a frame from the client. -/
def ReadsClient (sys : Sys) (s : Daemon) (c : ClientPtr) (x : MuxClient) (e : Event) : Prop :=
  ∃ fd revents, e = .client fd revents sys ∧ revents.pollin = true ∧
    findClient s fd s.clientList.elems = .ok (some (c, x)) ∧ x.state ≠ .connected

/-- All other events leave the client's input alone. -/
theorem step_watchClient {e : Event} (hw : Watched (watchClient c d t) false false s)
    (hnew : c = ⟨s.nextClient⟩ → d = some [])
    (hread : ∀ sys x, ¬ ReadsClient sys s c x e) :
    Keeps (Watched (watchClient c d t) false false) (step plat s e) := by
  cases e with
  | accept cfd => exact clientAccept_keeps hw fun heq => ⟨hnew heq.symm, rfl⟩
  | client fd revents sys =>
      rw [step, clientProcess_eq hw.clientLock]
      cases hfind : findClient s fd s.clientList.elems with
      | error f =>
          exact Post.of_error (F := fun f : Fault => f.isLock = false) findClient_keeps hfind
      | ok o =>
          have ho := Post.of_ok findClient_keeps hfind
          cases o with
          | none => exact hw
          | some p =>
              obtain ⟨c', x⟩ := p
              obtain ⟨_, hx, _⟩ := ho c' x rfl
              refine Keeps.ite (fun _ => ?_) fun hconn => ?_
              · refine Keeps.ite (fun _ => clientRelayRead_keeps hw hx) fun _ => ?_
                exact Keeps.ite (fun _ => clientRelayWrite_keeps hw hx fun _ _ _ _ _ _ => trivial)
                  fun _ => hw
              · refine Keeps.ite (fun hin => ?_) fun _ => ?_
                · refine processRecv_keeps (watchClient_skipsClient fun heq => ?_) hw
                  subst heq
                  exact hread sys x ⟨fd, revents, rfl, hin, hfind, hconn⟩
                · exact Keeps.ite (fun _ => processSend_keeps hw) fun _ => hw
  | remote fd revents sys =>
      refine Post.bind (reapLoop_keeps hw) fun p hp => ?_
      obtain ⟨u, found⟩ := p
      cases found with
      | none => exact hp
      | some r =>
          exact remoteProcessFound_keeps hp (fun _ _ _ _ => watchClient_skipsRemote)
            (fun _ _ _ _ => watchClient_skipsRemote.input)
            fun _ _ _ => watchClient_skipsRemote.connected
  | getFds now => exact usbmuxRemoteGetFds_keeps hw
  | addRemote hostName port sys | mdnsAdd serviceName hostName port sys =>
      exact Post.bind (Agree.keeps_res (remoteMuxServiceAdd_agree hw.alike)) fun _ hp => hp
  | mdnsRemove serviceName sys =>
      exact Post.bind (Agree.keeps_res (remoteMuxServiceRemove_agree hw.alike)) fun _ hp => hp

end Watching

/-- A client was assigned to, so it was there. -/
theorem modifyClient_eq_ok {s s' : Daemon} {c : ClientPtr} {f : MuxClient → MuxClient}
    (h : s.modifyClient c f = .ok s') :
    ∃ x, s.clients c = some x ∧ s' = s.update (·.setClient c (f x)) := by
  obtain ⟨x, hx, hs'⟩ := bind_eq_ok.mp h
  refine ⟨x, ?_, ?_⟩
  · rw [Daemon.client] at hx
    split at hx
    · next hz =>
        cases hx
        exact hz
    · cases hx
  · cases hs'
    rfl

/-! ## When a frame is taken out -/

/-- A plist request that is taken out once it is handled. -/
structure PlistTakenOut (sys : Sys) (s : Daemon) (message : String) (dict : Plist) : Prop where
  listen : message = "Listen" → s.remoteDeviceList.entries = []
  forward : ∀ k, message ≠ "ReadBUID" → plistTarget s message dict = some (k, .command) →
    Connects sys s.toCore k

/-- The frame in a client's buffer is taken out once it is handled, or the
client is closed. -/
structure TakenOut (plat : Platform) (sys : Sys) (s : Daemon) (x : MuxClient) (b : Buf) :
    Prop where
  lossless : ¬ Loss plat sys
  listen : x.state = .command → (bufHeader plat b).message = messageListen →
    s.remoteDeviceList.entries = []
  plist : x.state = .command →
    (bufHeader plat b).version = 0 ∨ (bufHeader plat b).version = 1 →
    (bufHeader plat b).message = messagePlist → ∃ message dict,
      requestPlist plat b = some (message, dict) ∧ PlistTakenOut sys s message dict

section TakenOut

variable {plat : Platform} {sys : Sys} {s s' : Daemon} {c : ClientPtr} {x : MuxClient}

/-- `client_command` returns 0 for such a frame, or the client is gone. -/
theorem TakenOut.done (h : TakenOut plat sys s x x.ib) (hwf : WF s.toCore)
    (hreg : Registry s.toCore) (hx : s.clients c = some x) {res : Int × Daemon}
    (hres : clientCommand plat sys s c = .ok res) : res.1 = 0 ∨ res.2.clients c = none := by
  cases (clientCommand_fate h.lossless hwf hx).of_ok hres with
  | closed _ hgone => exact Or.inr hgone
  | version _ _ hzero => exact Or.inl hzero
  | unreadable hstate hver hmsg hnone =>
      obtain ⟨message, dict, hplist, _⟩ := h.plist hstate hver hmsg
      cases hnone.symm.trans hplist
  | plist hstate hver hmsg hplist hfate =>
      obtain ⟨message', dict', hplist', htaken⟩ := h.plist hstate hver hmsg
      cases hplist.symm.trans hplist'
      cases hfate with
      | answered hans => exact Or.inl (hans.resolve_right fun hl => hl.2 (htaken.listen hl.1))
      | waiting hzero => exact Or.inl hzero
      | unforwarded hzero hun =>
          refine Or.inl (hzero.resolve_right fun hne => ?_)
          obtain ⟨k, hk, hnone⟩ := hun
          obtain ⟨y, hy⟩ := (newRemoteFor_some_iff hwf hreg).mpr (htaken.forward k hne hk)
          cases hnone.symm.trans hy
  | listen hstate hmsg hcount =>
      rw [h.listen hstate hmsg] at hcount
      exact Or.inl hcount
  | served hzero => exact Or.inl hzero

end TakenOut

/-! ## One call of `process_recv` -/

/-- What a call does to a client that holds unfinished data: the client is
closed, the frame is refused and the client closed with it, the frame is still
not finished, or it is handled, and then taken out if the condition holds. -/
inductive ClientRecv (plat : Platform) (sys : Sys) (s : Daemon) (c : ClientPtr) (x : MuxClient)
    (s' : Core) : Prop where
  | ended (htrace : clientInput c s'.log = clientInput c s.log) (hgone : s'.clients c = none)
  | refused {got : List UInt8} (hgot : got ≠ [])
      (hdata : (usbmuxFraming clientInputSize).Refused (x.ib.data ++ got))
      (htrace : clientInput c s'.log = { clientInput c s.log with
        received := (clientInput c s.log).received ++ got })
      (hgone : s'.clients c = none)
  | more {got : List UInt8} (hgot : got ≠ [])
      (hdata : (usbmuxFraming clientInputSize).Unfinished (x.ib.data ++ got))
      (htrace : clientInput c s'.log = { clientInput c s.log with
        received := (clientInput c s.log).received ++ got })
      (hafter : ∀ x', s'.clients c = some x' → Carries (some (x.ib.data ++ got)) x'.ib)
  | frame {got : List UInt8} {rf : ReadFrame} (hgot : got ≠ [])
      (hrf : readFrame plat sys x.ib = .ok rf) (hout : rf.outcome = .frame)
      (hdata : (usbmuxFraming clientInputSize).Whole (x.ib.data ++ got))
      (htrace : clientInput c s'.log = { clientInput c s.log with
        received := (clientInput c s.log).received ++ got
        frames := (clientInput c s.log).frames ++ [x.ib.data ++ got] })
      (hafter : TakenOut plat sys s x rf.ib → ∀ x', s'.clients c = some x' →
        Carries (some []) x'.ib)

section Recv

variable {plat : Platform} {sys : Sys} {s s' : Daemon} {c : ClientPtr} {x : MuxClient}

theorem TakenOut.received {rf : ReadFrame} (h : TakenOut plat sys s x rf.ib) :
    TakenOut plat sys (received s c x rf) { x with ib := rf.ib } rf.ib where
  lossless := h.lossless
  listen := h.listen
  plist hstate hver hmsg := by
    obtain ⟨message, dict, hplist, htaken⟩ := h.plist hstate hver hmsg
    refine ⟨message, dict, hplist, htaken.listen, fun k hne hk => ?_⟩
    exact htaken.forward k hne ((plistTarget_congr (s := s) rfl).symm.trans hk)

/-- A client that is closed, in a state with nothing else to say about it. -/
theorem clientClose_trace {u : Daemon} {t : InputTrace} (hunlocked : u.Unlocked)
    (htrace : clientInput c u.log = t) (h : clientClose u c = .ok s') :
    clientInput c s'.log = t ∧ s'.clients c = none := by
  refine ⟨?_, clientClose_gone.of_ok h⟩
  let W : Watch := { watchClient c none t with client := fun _ _ => True, free := fun _ => trivial }
  have hw : Watched W false false u :=
    ⟨fun _ _ _ => trivial, fun _ _ _ => trivial, htrace, Nat.zero_le _, hunlocked.1, hunlocked.2⟩
  exact ((Agree.keeps (clientClose_agree hw.alike (Or.inl rfl))).of_ok h).log

/-- A buffer that was freed receives nothing. -/
theorem readFrame_null {b : Buf} {rf : ReadFrame} (hnull : b.isNull = true)
    (h : readFrame plat sys b = .ok rf) : rf.outcome = .dead ∧ rf.got = [] := by
  rw [readFrame] at h
  split at h
  · rw [recvInto, if_pos hnull] at h
    cases h
    exact ⟨rfl, rfl⟩
  · rw [readBody, if_pos hnull] at h
    cases h

theorem processRecv_outcome (hs : Settled s) (hreg : Registry s.toCore)
    (hx : s.clients c = some x) (hcap : x.ib.capacity = clientInputSize)
    (hdata : (usbmuxFraming clientInputSize).Unfinished x.ib.data)
    (h : processRecv plat sys s c = .ok s') : ClientRecv plat sys s c x s'.toCore := by
  have hclient : s.client c = .ok x := by
    rw [Daemon.client, hx]
  rw [processRecv, hclient, ok_bind] at h
  obtain ⟨rf, hrf, h⟩ := bind_eq_ok.mp h
  dsimp only at h
  have hx₁ : (received s c x rf).clients c = some { x with ib := rf.ib } :=
    Function.update_self ..
  have htrace : clientInput c (received s c x rf).log = { clientInput c s.log with
      received := (clientInput c s.log).received ++ rf.got } := clientInput_recv
  have hunlocked : (received s c x rf).Unlocked := hs.unlocked
  cases hnull : x.ib.isNull with
  | true =>
      obtain ⟨hout, hgot⟩ := readFrame_null hnull hrf
      rw [hgot, List.append_nil] at htrace
      rw [hout] at h
      obtain ⟨hlog, hgone⟩ := clientClose_trace hunlocked htrace h
      exact .ended hlog hgone
  | false =>
      obtain ⟨hib, hcoll, ⟨hout, hgot, _⟩ | ⟨hgot, hcases⟩⟩ :=
        readFrame_spec ⟨hnull, hcap⟩ hdata hrf
      · rw [hgot, List.append_nil] at htrace
        rw [hout] at h
        obtain ⟨hlog, hgone⟩ := clientClose_trace hunlocked htrace h
        exact .ended hlog hgone
      · rw [hib] at hcases
        obtain ⟨hout, hdata⟩ | ⟨hout, hdata⟩ | ⟨hout, hdata⟩ := hcases
        · rw [hout] at h
          obtain ⟨hlog, hgone⟩ := clientClose_trace hunlocked htrace h
          exact .refused hgot hdata hlog hgone
        · rw [hout] at h
          cases h
          refine .more hgot hdata htrace fun x' hx' => ?_
          cases hx₁.symm.trans hx'
          exact ⟨by rw [← hib], hcoll.capacity⟩
        · rw [hout] at h
          obtain ⟨⟨res, s₂⟩, hcmd, hrest⟩ := bind_eq_ok.mp h
          have hbytes : bufFrame plat rf.ib = x.ib.data ++ rf.got := by
            rw [← hib]
            exact bufFrame_whole (by rw [hib]; exact hdata)
          have htrace₁ : clientInput c ((received s c x rf).log ++
              [.command c (bufFrame plat rf.ib)]) = { clientInput c s.log with
                received := (clientInput c s.log).received ++ rf.got
                frames := (clientInput c s.log).frames ++ [x.ib.data ++ rf.got] } := by
            rw [clientInput_command, htrace, hbytes]
          have hw : Watched (watchClient c (some (x.ib.data ++ rf.got)) { clientInput c s.log with
              received := (clientInput c s.log).received ++ rf.got
              frames := (clientInput c s.log).frames ++ [x.ib.data ++ rf.got] }) false false
              ((received s c x rf).emit [.command c (bufFrame plat rf.ib)]) := by
            refine ⟨fun c' x' hx' heq => ?_, fun _ _ _ => trivial, htrace₁, Nat.zero_le _,
              hunlocked.1, hunlocked.2⟩
            subst heq
            cases hx₁.symm.trans hx'
            exact ⟨by rw [← hib], hcoll.capacity⟩
          have hkept := (Agree.keeps_res (clientCommand_agree hx₁ hx₁ (fun _ => .refl) rfl rfl
            hw.alike)).of_ok hcmd
          have hwf₁ : WF (received s c x rf).toCore :=
            (hs.wf.setClient (Option.isSome_iff_exists.mpr ⟨x, hx⟩)).emit
          have hdone : TakenOut plat sys s x rf.ib → res = 0 ∨ s₂.clients c = none :=
            fun htaken => TakenOut.done (x := { x with ib := rf.ib }) htaken.received hwf₁
              ⟨hreg.remote, hreg.unlike⟩ hx₁ hcmd
          change (if res = 0 then _ else _) = _ at hrest
          split at hrest
          · obtain ⟨x₂, hx₂, rfl⟩ := modifyClient_eq_ok hrest
            refine .frame hgot hrf hout hdata hkept.log fun _ x' hx' => ?_
            cases (Function.update_self ..).symm.trans hx'
            exact ⟨rfl, (hkept.client c x₂ hx₂ rfl).2⟩
          · next hres =>
              cases hrest
              refine .frame hgot hrf hout hdata hkept.log fun htaken x' hx' => ?_
              rcases hdone htaken with hzero | hgone
              · exact absurd hzero hres
              · cases hgone.symm.trans hx'

end Recv

/-! ## The account over a run -/

/-- What was received from a client is accounted for, by the frames handled
and by what its buffer holds. -/
structure CommandAccount (c : ClientPtr) (s : Core) : Prop where
  account : ∃ rest, Account clientInputSize (clientInput c s.log) rest
  reading : ∀ x, s.clients c = some x → x.ib.capacity = clientInputSize ∧
    Account clientInputSize (clientInput c s.log) x.ib.data ∧
    (usbmuxFraming clientInputSize).Unfinished x.ib.data

section Run

variable {plat : Platform} {s s' : Daemon} {c : ClientPtr} {e : Event}

/-- A client that was not accepted yet has no past. -/
theorem clientInput_new (hs : Settled s) (hnew : s.nextClient ≤ c.block) :
    clientInput c s.log = {} := by
  have hforeign : ∀ a ∈ s.log, a.client ≠ some c ∨ a.isInput = false :=
    fun a ha => Or.inl fun heq => absurd (hs.log.client ha heq) (Nat.not_lt.mpr hnew)
  have hnil : clientInput c ([] ++ s.log) = clientInput c [] := clientInput_other hforeign
  rw [List.nil_append] at hnil
  exact hnil

/-- Everything but a `POLLIN` event on the client keeps the account. -/
theorem CommandAccount.kept (hs : Settled s) (h : CommandAccount c s.toCore)
    (hread : ∀ sys x, ¬ ReadsClient sys s c x e) (hstep : step plat s e = .ok s') :
    CommandAccount c s'.toCore := by
  have hwatch : ∀ d, (∀ x, s.clients c = some x → Carries d x.ib) →
      (c = ⟨s.nextClient⟩ → d = some []) →
      Watched (watchClient c d (clientInput c s.log)) false false s' := by
    intro d hd hnew
    refine (step_watchClient ?_ hnew hread).of_ok hstep
    refine ⟨fun c' x hx heq => ?_, fun _ _ _ => trivial, rfl, Nat.zero_le _, hs.unlocked.1,
      hs.unlocked.2⟩
    subst heq
    exact hd x hx
  have haccount : ∀ {d}, Watched (watchClient c d (clientInput c s.log)) false false s' →
      (∀ b, d = some b → Account clientInputSize (clientInput c s.log) b ∧
        (usbmuxFraming clientInputSize).Unfinished b) → CommandAccount c s'.toCore := by
    intro d hw hd
    have hlog : clientInput c s'.log = clientInput c s.log := hw.log
    refine ⟨by rw [hlog]; exact h.account, fun x hx => ?_⟩
    obtain ⟨hdata, hcap⟩ := hw.client c x hx rfl
    rw [hlog]
    exact ⟨hcap, hd _ hdata⟩
  cases hx : s.clients c with
  | some x =>
      obtain ⟨hcap, hacc⟩ := h.reading x hx
      refine haccount (hwatch (some x.ib.data) (fun x' hx' => ?_) fun hnew => ?_) fun b hb => ?_
      · cases hx.symm.trans hx'
        exact ⟨rfl, hcap⟩
      · rw [hnew] at hx
        cases hs.wf.nextClient_free.symm.trans hx
      · cases hb
        exact hacc
  | none =>
      have hnone : ∀ d x, s.clients c = some x → Carries d x.ib := by
        intro d x hx'
        cases hx.symm.trans hx'
      by_cases hnew : c = ⟨s.nextClient⟩
      · refine haccount (hwatch (some []) (hnone _) fun _ => rfl) fun b hb => ?_
        cases hb
        rw [clientInput_new hs (by rw [hnew])]
        exact ⟨.empty, Framing.unfinished_nil⟩
      · exact haccount (hwatch none (hnone _) fun h => absurd h hnew) fun b hb => (nomatch hb)

/-- A `POLLIN` event on the client is a call of `process_recv`. -/
theorem ReadsClient.recv {sys : Sys} {x : MuxClient} (hs : Settled s)
    (hreg : Registry s.toCore) (h : CommandAccount c s.toCore) (hread : ReadsClient sys s c x e)
    (hstep : step plat s e = .ok s') : s.clients c = some x ∧
      ClientRecv plat sys s c x s'.toCore := by
  obtain ⟨fd, revents, rfl, hin, hfind, hconn⟩ := hread
  obtain ⟨_, hx, _⟩ := Post.of_ok findClient_keeps hfind c x rfl
  rw [step, clientProcess_eq hs.unlocked.2, hfind] at hstep
  change (if x.state = .connected then _ else _) = _ at hstep
  rw [if_neg hconn, if_pos hin] at hstep
  obtain ⟨hcap, _, hdata⟩ := h.reading x hx
  exact ⟨hx, processRecv_outcome hs hreg hx hcap hdata hstep⟩

theorem ClientRecv.account {sys : Sys} {x : MuxClient} {t : Core}
    (h : ClientRecv plat sys s c x t) (hacc : CommandAccount c s.toCore)
    (hx : s.clients c = some x)
    (htaken : ∀ rf, readFrame plat sys x.ib = .ok rf → rf.outcome = .frame →
      TakenOut plat sys s x rf.ib) : CommandAccount c t := by
  obtain ⟨_, haccount, _⟩ := hacc.reading x hx
  cases h with
  | ended htrace hgone =>
      refine ⟨by rw [htrace]; exact hacc.account, fun x' hx' => ?_⟩
      cases hgone.symm.trans hx'
  | refused _ hdata htrace hgone =>
      refine ⟨?_, fun x' hx' => ?_⟩
      · rw [htrace]
        exact ⟨_, haccount.recv (Or.inr hdata)⟩
      · cases hgone.symm.trans hx'
  | more _ hdata htrace hafter =>
      refine ⟨?_, fun x' hx' => ?_⟩
      · rw [htrace]
        exact ⟨_, haccount.recv (Or.inl hdata)⟩
      · obtain ⟨hib, hcap⟩ := hafter x' hx'
        rw [htrace, ← Option.some_inj.mp hib]
        exact ⟨hcap, haccount.recv (Or.inl hdata), hdata⟩
  | frame _ hrf hout hdata htrace hafter =>
      have hnew := haccount.frame hdata
      rw [← htrace] at hnew
      refine ⟨⟨_, hnew⟩, fun x' hx' => ?_⟩
      obtain ⟨hib, hcap⟩ := hafter (htaken _ hrf hout) x' hx'
      rw [← Option.some_inj.mp hib]
      exact ⟨hcap, hnew, Framing.unfinished_nil⟩

end Run

/-! ## Dispatch -/

end Usbfluxd
