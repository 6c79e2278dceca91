import Usbfluxd.Proofs.Commands
import Usbfluxd.Proofs.Reassembly

/-!
# Which requests are answered

A client that sends a request waits for its reply. It gets one, or is closed,
or a connection is open that will bring one, for every request but these:
those that cannot be read at all, for which nothing is sent; the ones that are
to be forwarded while there is nothing to forward them to, where the failure
of the callee is dropped; and the pair-record requests without a record id,
which is used as a string all the same.

`Servable` is that condition on the state before the call and on the frame.
-/

namespace Usbfluxd

open Lib

/-! ## Where a request can be forwarded to -/

/-- A connection for a remote id can be made: to the renamed socket for 0,
else to the endpoint of the listener with the id. -/
def Connects (sys : Sys) (s : Core) (k : UInt8) : Prop :=
  sys.connect.isSome ∧
    (k = 0 ∨ ∃ r y, s.remotes r = some y ∧ y.id = k ∧ y.state = .listen)

section Connects

variable {s : Daemon} {sys : Sys} {k : UInt8} {plat : Platform}

theorem findRemote_total {p : RemoteMux → Bool} {l : List RemotePtr}
    (h : ∀ r ∈ l, (s.remotes r).isSome) : ∃ o, findRemote s p l = .ok o := by
  induction l with
  | nil => exact ⟨none, rfl⟩
  | cons r rest ih =>
      obtain ⟨y, hy⟩ := Option.isSome_iff_exists.mp (h r List.mem_cons_self)
      obtain ⟨o, ho⟩ := ih fun r' hr' => h r' (List.mem_cons_of_mem _ hr')
      rw [findRemote, Daemon.remote, hy]
      by_cases hp : p y = true
      · exact ⟨some (r, y), if_pos hp⟩
      · exact ⟨o, (if_neg hp).trans ho⟩

theorem newRemoteFor_total (sys : Sys) (k : UInt8) (hwf : WF s.toCore) :
    ∃ o, newRemoteFor sys s k = .ok o := by
  rw [newRemoteFor]
  split
  · exact ⟨_, rfl⟩
  · obtain ⟨o, ho⟩ := findRemote_total (s := s)
      (p := fun y => y.id = k && y.state = .listen) fun r hr => (hwf.remotes r).mp hr
    rw [ho]
    cases o with
    | none => exact ⟨_, rfl⟩
    | some q => exact ⟨_, rfl⟩

/-- A listener that listens and has another id than 0 has a host. -/
theorem Registry.host (hreg : Registry s.toCore) {r : RemotePtr} {y : RemoteMux}
    (hy : s.remotes r = some y) (hstate : y.state = .listen) (hid : y.id ≠ 0) :
    y.host ≠ none := by
  have hok := hreg.remote hy
  have hunix : y.isUnix = false := by
    cases hu : y.isUnix with
    | false => rfl
    | true => exact absurd (hok.unix hu).1 hid
  exact (hok.tcp (isTcpListener_iff.mpr ⟨hunix, hok.listening hstate⟩)).2.2

theorem newRemoteFor_some_iff (hwf : WF s.toCore) (hreg : Registry s.toCore) :
    (∃ y, newRemoteFor sys s k = .ok (some y)) ↔ Connects sys s.toCore k := by
  rw [newRemoteFor, Connects]
  by_cases hk : k = 0
  · rw [if_pos hk]
    simp only [hk, true_or, and_true, remoteMuxNewWithUnixSocket]
    cases sys.connect <;> simp
  · rw [if_neg hk]
    obtain ⟨o, ho⟩ := findRemote_total (s := s)
      (p := fun y => y.id = k && y.state = .listen) fun r hr => (hwf.remotes r).mp hr
    rw [ho]
    have hspec := (findRemote_runs (A := .all) (s := s)
      (p := fun y => y.id = k && y.state = .listen) (l := s.remoteList.elems)).returns.of_ok ho
    rcases hspec with ⟨rfl, hnone⟩ | ⟨r, z, rfl, _, hz, hp⟩
    · constructor
      · rintro ⟨y, hy⟩
        cases hy
      · rintro ⟨_, hk' | ⟨r, y, hy, hid, hstate⟩⟩
        · exact absurd hk' hk
        · have hmem : r ∈ s.remoteList.elems := (hwf.remotes r).mpr (by rw [hy]; rfl)
          have := hnone r y hmem hy
          simp [hid, hstate] at this
    · have hz' : z.id = k ∧ z.state = .listen := by simpa using hp
      have hhost : z.host ≠ none := hreg.host hz hz'.2 (by rw [hz'.1]; exact hk)
      obtain ⟨host, hhost⟩ := Option.ne_none_iff_exists'.mp hhost
      constructor
      · rintro ⟨y, hy⟩
        refine ⟨?_, Or.inr ⟨r, z, hz, hz'⟩⟩
        cases hc : sys.connect with
        | some fd => rfl
        | none =>
            have hnone : remoteMuxNewWithHost sys z.host z.port = none := by
              rw [remoteMuxNewWithHost, hhost, hc]
              rfl
            cases (Except.ok.inj hy).symm.trans hnone
      · rintro ⟨hc, _⟩
        obtain ⟨fd, hfd⟩ := Option.isSome_iff_exists.mp hc
        refine ⟨{ remoteMuxNewWithFd sys fd with host := some host, port := z.port }, ?_⟩
        show Except.ok (remoteMuxNewWithHost sys z.host z.port) = _
        rw [remoteMuxNewWithHost, hhost, hfd]
        rfl

end Connects

/-! ## The condition -/

/-- The requests that are forwarded and wait in `REMOTE_COMMAND`. -/
def IsForwarded (message : String) : Prop :=
  message = "ReadBUID" ∨ message = "ReadPairRecord" ∨ message = "SavePairRecord" ∨
    message = "DeletePairRecord"

/-- There is a connection to forward the request to, and a record id where it
is needed. -/
structure Forwardable (sys : Sys) (s : Daemon) (message : String) (dict : Plist) : Prop where
  recordId : message = "ReadPairRecord" ∨ message = "DeletePairRecord" →
    (plistDictCopyStringVal dict "PairRecordID").isSome
  target : ∃ k, plistTarget s message dict = some (k, .command) ∧ Connects sys s.toCore k

/-- A frame that gets a reply: it is no plist, or a plist with a message type
that can be forwarded if it has to be. -/
def Servable (plat : Platform) (sys : Sys) (s : Daemon) (b : Buf) : Prop :=
  (bufHeader plat b).message = messagePlist → ∃ message dict,
    requestPlist plat b = some (message, dict) ∧
    (IsForwarded message → Forwardable sys s message dict)

theorem isForwarded_of_target {s : Daemon} {message : String} {dict : Plist} {k : UInt8}
    (h : plistTarget s message dict = some (k, .command)) : IsForwarded message := by
  rw [plistTarget] at h
  split at h
  · split at h <;> cases h
  · split at h
    · next hmsg => exact Or.inl hmsg
    · split at h
      · next hmsg => exact Or.inr hmsg
      · cases h

theorem Forwardable.congr {s t : Daemon} {sys : Sys} {message : String} {dict : Plist}
    (h : Forwardable sys s message dict) (hr : t.remotes = s.remotes)
    (hd : t.remoteDeviceList = s.remoteDeviceList) : Forwardable sys t message dict := by
  obtain ⟨k, hk, hconn⟩ := h.target
  rw [Connects, ← hr] at hconn
  exact ⟨h.recordId, k, (plistTarget_congr hd).trans hk, hconn⟩

theorem Servable.congr {s t : Daemon} {sys : Sys} {plat : Platform} {b : Buf}
    (h : Servable plat sys s b) (hr : t.remotes = s.remotes)
    (hd : t.remoteDeviceList = s.remoteDeviceList) : Servable plat sys t b := by
  intro hmsg
  obtain ⟨message, dict, hplist, hfwd⟩ := h hmsg
  exact ⟨message, dict, hplist, fun hm => (hfwd hm).congr hr hd⟩

section Unserved

variable {s : Daemon} {sys : Sys} {plat : Platform} {c : ClientPtr} {tag : UInt32}

/-- The state is left as it was, or `NULL` is used as a string. -/
def LeftAlone (s : Daemon) (m : Except Fault (Int × Daemon)) : Prop :=
  m = .error .nullString ∨ ∃ res s', m = .ok (res, s') ∧ s'.toCore = s.toCore

theorem LeftAlone.zeroOrFail {m : Except Fault (Int × Daemon)} (h : LeftAlone s m) :
    LeftAlone s (zeroOrFail <$> m) := by
  rcases h with rfl | ⟨res, s', rfl, hs'⟩
  · exact Or.inl rfl
  · exact Or.inr ⟨_, _, rfl, hs'⟩

theorem forwardRequest_of_none {k : UInt8} {cmd : RemoteCommand} {msg : Except Fault Plist}
    (h : newRemoteFor sys s k = .ok none) :
    forwardRequest plat sys s k tag cmd msg c = .ok (-1, s.unlockRemoteList) := by
  rw [forwardRequest, h]
  rfl

/-- A message that needs a string it does not have. -/
theorem forwardRequest_of_null {k : UInt8} {cmd : RemoteCommand} (hwf : WF s.toCore)
    (hc : (s.clients c).isSome) :
    LeftAlone s (forwardRequest plat sys s k tag cmd (.error .nullString) c) := by
  obtain ⟨o, ho⟩ := newRemoteFor_total sys k hwf
  cases o with
  | none => exact Or.inr ⟨_, _, forwardRequest_of_none ho, rfl⟩
  | some y =>
      refine Or.inl ?_
      obtain ⟨x, hx⟩ := Option.isSome_iff_exists.mp hc
      rw [forwardRequest, ho]
      show (linkNewRemote s c y >>= _) = _
      rw [linkNewRemote, clientSetRemote, Daemon.modifyClient, Daemon.client, hx]
      rfl

/-- The search for the device of a record ends, or uses a record id that is
not there. -/
theorem pairRecordRemote_cases (s : Daemon) (recordId : Option String) :
    pairRecordRemote s recordId = .error .nullString ∨
      ∃ k, pairRecordRemote s recordId = .ok k := by
  have hloop : ∀ (l : List (String × Plist)) (d : UInt32),
      plistDictForeach (matchDevice recordId) l d = .error .nullString ∨
        ∃ d', plistDictForeach (matchDevice recordId) l d = .ok d' := by
    intro l
    induction l with
    | nil => exact fun d => Or.inr ⟨d, rfl⟩
    | cons p rest ih =>
        obtain ⟨key, value⟩ := p
        intro d
        rw [plistDictForeach, matchDevice]
        split
        · exact ih d
        · cases recordId with
          | none => exact Or.inl rfl
          | some rid =>
              dsimp only
              split
              · exact Or.inr ⟨_, rfl⟩
              · exact ih d
  rw [pairRecordRemote]
  rcases hloop s.remoteDeviceList.entries 0 with h | ⟨d, h⟩
  · rw [h]
    exact Or.inl rfl
  · rw [h]
    exact Or.inr ⟨_, rfl⟩

theorem pairRecordRequest_leftAlone {recordId : Option String} {cmd : RemoteCommand}
    {msg : Except Fault Plist} (hwf : WF s.toCore) (hunlocked : s.Unlocked)
    (hc : (s.clients c).isSome)
    (h : msg = .error .nullString ∨
      ∀ k, pairRecordRemote s recordId = .ok k → newRemoteFor sys s k = .ok none) :
    LeftAlone s (pairRecordRequest plat sys s recordId tag cmd msg c) := by
  let t : Daemon := { s with remoteListLocked := true }
  have hreq : pairRecordRequest plat sys s recordId tag cmd msg c =
      pairRecordRemote t recordId >>= fun k => forwardRequest plat sys t k tag cmd msg c := by
    rw [pairRecordRequest, lockRemoteList_of_free hunlocked.1 hunlocked.2]
    rfl
  rw [hreq]
  rcases pairRecordRemote_cases t recordId with herr | ⟨k, hk⟩
  · rw [herr]
    exact Or.inl rfl
  · rw [hk]
    show LeftAlone s (forwardRequest plat sys t k tag cmd msg c)
    rcases h with rfl | h
    · have hwf' : WF t.toCore := hwf
      exact forwardRequest_of_null hwf' hc
    · have hnone : newRemoteFor sys t k = .ok none := newRemoteFor_locks.trans (h k hk)
      exact Or.inr ⟨_, _, forwardRequest_of_none hnone, rfl⟩

/-- What cannot be forwarded is dropped. -/
theorem plistCommand_leftAlone {message : String} {dict : Plist} (hwf : WF s.toCore)
    (hreg : Registry s.toCore) (hunlocked : s.Unlocked) (hc : (s.clients c).isSome)
    (hfwd : IsForwarded message) (hnot : ¬ Forwardable sys s message dict) :
    LeftAlone s (plistCommand plat sys s c tag message dict) := by
  have hnone : ∀ {k}, plistTarget s message dict = some (k, .command) →
      ((message = "ReadPairRecord" ∨ message = "DeletePairRecord") →
        (plistDictCopyStringVal dict "PairRecordID").isSome) →
      newRemoteFor sys s k = .ok none := by
    intro k hk hid
    obtain ⟨o, ho⟩ := newRemoteFor_total sys k hwf
    cases o with
    | none => exact ho
    | some y => exact absurd ⟨hid, k, hk, (newRemoteFor_some_iff hwf hreg).mp ⟨y, ho⟩⟩ hnot
  have hpair : message = "ReadPairRecord" ∨ message = "DeletePairRecord" → ∀ cmd text,
      LeftAlone s (pairRecordRequest plat sys s (plistDictCopyStringVal dict "PairRecordID") tag cmd
        (pairRecordMessage text (plistDictCopyStringVal dict "PairRecordID")) c) := by
    intro hmsg cmd text
    refine pairRecordRequest_leftAlone hwf hunlocked hc ?_
    cases hid : plistDictCopyStringVal dict "PairRecordID" with
    | none => exact Or.inl rfl
    | some rid =>
        refine Or.inr fun k hk => hnone (plistTarget_pairRecord ?_ ?_) fun _ => by rw [hid]; rfl
        · exact hmsg.imp id Or.inr
        · rw [hid]
          exact hk
  rcases hfwd with rfl | rfl | rfl | rfl
  · have hk : plistTarget s "ReadBUID" dict =
        some (firstDeviceRemote s.remoteDeviceList.entries, .command) := rfl
    have hno := hnone hk fun h => by rcases h with h | h <;> exact absurd h (by decide)
    let t : Daemon := { s with remoteListLocked := true }
    have hread : usbmuxRemoteReadBuid plat sys s tag c = .ok (-1, t.unlockRemoteList) := by
      rw [usbmuxRemoteReadBuid, lockRemoteList_of_free hunlocked.1 hunlocked.2]
      exact forwardRequest_of_none (newRemoteFor_locks.trans hno)
    refine Or.inr ⟨0, t.unlockRemoteList, ?_, rfl⟩
    show (usbmuxRemoteReadBuid plat sys s tag c >>= fun p => pure (0, p.2)) = _
    rw [hread]
    rfl
  · exact (hpair (Or.inl rfl) .readPairRecord "ReadPairRecord").zeroOrFail
  · refine LeftAlone.zeroOrFail
      (pairRecordRequest_leftAlone hwf hunlocked hc (Or.inr fun k hk => ?_))
    exact hnone (plistTarget_pairRecord (Or.inr (Or.inl rfl)) hk)
      fun h => by rcases h with h | h <;> exact absurd h (by decide)
  · exact (hpair (Or.inr rfl) .deletePairRecord "DeletePairRecord").zeroOrFail

theorem pairRecordRequest_noNull {recordId : Option String} {cmd : RemoteCommand} {p : Plist}
    (h : ∃ k, pairRecordRemote s recordId = .ok k) :
    NoNull (pairRecordRequest plat sys s recordId tag cmd (.ok p) c) := by
  obtain ⟨k, hk⟩ := h
  refine Post.bind (lockRemoteList_noNull.post lockRemoteList_runs.returns) ?_
  rintro ⟨core, locked, locked'⟩ h₁
  obtain rfl : core = s.toCore := h₁
  have hk' : pairRecordRemote ⟨s.toCore, locked, locked'⟩ recordId = .ok k := hk
  rw [hk']
  exact forwardRequest_noNull

/-- What can be forwarded has the strings it needs. -/
theorem plistCommand_noNull {message : String} {dict : Plist}
    (h : IsForwarded message → Forwardable sys s message dict) :
    NoNull (plistCommand plat sys s c tag message dict) := by
  have hpair : message = "ReadPairRecord" ∨ message = "SavePairRecord" ∨
      message = "DeletePairRecord" →
      ∃ k, pairRecordRemote s (plistDictCopyStringVal dict "PairRecordID") = .ok k := by
    intro hmsg
    obtain ⟨k, hk, _⟩ := (h (Or.inr hmsg)).target
    rcases pairRecordRemote_cases s (plistDictCopyStringVal dict "PairRecordID") with herr | hok
    · have hne : message ≠ "Connect" ∧ message ≠ "ReadBUID" := by
        rcases hmsg with rfl | rfl | rfl <;> decide
      rw [plistTarget, if_neg hne.1, if_neg hne.2, if_pos hmsg, herr] at hk
      cases hk
    · exact hok
  have hmessage : ∀ {text cmd}, message = "ReadPairRecord" ∨ message = "DeletePairRecord" →
      NoNull (zeroOrFail <$> pairRecordRequest plat sys s
        (plistDictCopyStringVal dict "PairRecordID") tag cmd
        (pairRecordMessage text (plistDictCopyStringVal dict "PairRecordID")) c) := by
    intro text cmd hmsg
    have hfwd : IsForwarded message := by
      rcases hmsg with rfl | rfl
      · exact Or.inr (Or.inl rfl)
      · exact Or.inr (Or.inr (Or.inr rfl))
    obtain ⟨rid, hrid⟩ := Option.isSome_iff_exists.mp ((h hfwd).recordId hmsg)
    have hmsg' := hpair (hmsg.imp id Or.inr)
    rw [hrid] at hmsg' ⊢
    exact (pairRecordRequest_noNull hmsg').map
  refine .ite clientListen_noNull (.ite ?_ ?_)
  · rw [plistConnect]
    split
    · exact reply_noNull
    · split
      · exact reply_noNull
      · exact clientConnect_noNull
  refine .ite sendDeviceList_noNull.map (.ite sendListenerList_noNull.map (.ite ?_ ?_))
  · refine NoNull.bind ?_ fun _ => .pure
    exact lockRemoteList_noNull.bind fun _ => forwardRequest_noNull
  by_cases hread : message = "ReadPairRecord"
  · rw [if_pos hread]
    exact hmessage (Or.inl hread)
  rw [if_neg hread]
  by_cases hsave : message = "SavePairRecord"
  · rw [if_pos hsave]
    exact (pairRecordRequest_noNull (hpair (Or.inr (Or.inl hsave)))).map
  rw [if_neg hsave]
  by_cases hdelete : message = "DeletePairRecord"
  · rw [if_pos hdelete]
    exact hmessage (Or.inr hdelete)
  rw [if_neg hdelete]
  exact .ite sendInstances_noNull.map
    (.ite addInstance_noNull (.ite removeInstance_noNull reply_noNull))

end Unserved

/-! ## Every request -/

/-- The reply a frame waits for. -/
def frameAwaits (plat : Platform) (b : Buf) : Option RemoteCommand :=
  if (bufHeader plat b).message = messagePlist then
    (requestPlist plat b).bind fun p => awaitedCommand p.1
  else none

/-- How a request may end: the client is closed, or it was sent a packet with
the tag of the request, or a remote waits for the reply. -/
def Settles (plat : Platform) (s : Daemon) (c : ClientPtr) (b : Buf) (res : Int × Daemon) : Prop :=
  res.2.clients c = none ∨ Answered c (bufHeader plat b).tag s.toCore res.2.toCore ∨
    Waiting c (frameAwaits plat b) s.toCore res.2.toCore

/-- A call of `client_command` that returns has settled the request in the
buffer, and no call uses a field that is not there. -/
def Served (plat : Platform) (sys : Sys) (s : Daemon) (c : ClientPtr) (b : Buf) : Prop :=
  Post (· ≠ Fault.nullString) (Settles plat s c b) (clientCommand plat sys s c)

/-- The state in which `process_recv` hands a complete frame on. -/
def received (s : Daemon) (c : ClientPtr) (x : MuxClient) (rf : ReadFrame) : Daemon :=
  (s.update (·.setClient c { x with ib := rf.ib })).emit (recvActs (.clientRecv c) rf.got)

/-- The state in which a request is dispatched. -/
def dispatching (plat : Platform) (s : Daemon) (c : ClientPtr) (x x' : MuxClient) : Daemon :=
  (s.emit [.command c (bufFrame plat x.ib)]).update (·.setClient c x')

section Served

variable {s : Daemon} {sys : Sys} {plat : Platform} {c : ClientPtr} {x : MuxClient}

/-- What a plist request is answered with. -/
def plistBranch (plat : Platform) (sys : Sys) (s : Daemon) (c : ClientPtr) (x : MuxClient) :
    Except Fault (Int × Daemon) :=
  match requestPlist plat x.ib with
  | none => .ok (-1, dispatching plat s c x { x with protoVersion := 1 })
  | some (message, dict) => plistCommand plat sys (dispatching plat s c x
      { x with protoVersion := 1, info := some (clientInfo dict) }) c
      (bufHeader plat x.ib).tag message dict

/-- The plist branch of `client_command`. -/
theorem clientCommand_plist (hx : s.clients c = some x) (hstate : x.state = .command)
    (hver : (bufHeader plat x.ib).version = 0 ∨ (bufHeader plat x.ib).version = 1)
    (hmsg : (bufHeader plat x.ib).message = messagePlist) :
    clientCommand plat sys s c = plistBranch plat sys s c x := by
  have hclient : s.client c = .ok x := by
    rw [Daemon.client, hx]
  have hver' : ¬ ((bufHeader plat x.ib).version ≠ 0 ∧ (bufHeader plat x.ib).version ≠ 1) := by
    rintro ⟨h₀, h₁⟩
    exact hver.elim h₀ h₁
  have hproto : (s.emit [.command c (bufFrame plat x.ib)]).modifyClient c
      (fun x => { x with protoVersion := 1 }) =
      .ok (dispatching plat s c x { x with protoVersion := 1 }) := by
    rw [Daemon.modifyClient, show (s.emit _).client c = .ok x from hclient]
    rfl
  rw [clientCommand, hclient]
  show (if x.state ≠ .command then _ else if _ then _ else if _ then _ else _) = _
  rw [if_neg (not_not.mpr hstate), if_neg hver', if_pos hmsg, hproto, ok_bind, plistBranch,
    requestPlist]
  cases plat.plistFromXml (bufPayload plat x.ib) with
  | none => rfl
  | some dict =>
      rw [Option.bind_some]
      dsimp only
      cases plistDictCopyStringVal dict "MessageType" with
      | none => rfl
      | some message =>
          have hself : (dispatching plat s c x { x with protoVersion := 1 }).clients c =
              some { x with protoVersion := 1 } := Function.update_self ..
          have hinfo : (dispatching plat s c x { x with protoVersion := 1 }).modifyClient c
              (fun x => { x with info := some (clientInfo dict) }) =
              .ok (dispatching plat s c x
                { x with protoVersion := 1, info := some (clientInfo dict) }) := by
            rw [Daemon.modifyClient, Daemon.client, hself]
            show Except.ok (Daemon.update _ _) = _
            rw [dispatching, dispatching, Daemon.update, Daemon.update, Daemon.update]
            dsimp only
            rw [Core.setClient_setClient]
          show ((dispatching plat s c x { x with protoVersion := 1 }).modifyClient c
              (fun x => { x with info := some (clientInfo dict) }) >>= _) = _
          rw [hinfo]
          rfl

/-- A call that only logs the command settles nothing. -/
theorem not_settles {u : Daemon} {b : Buf} {f : List UInt8} {n : Int}
    (hlive : u.clients c ≠ none) (hlog : u.log = s.log ++ [.command c f])
    (hrem : u.remotes = s.remotes) : ¬ Settles plat s c b (n, u) := by
  rintro (hgone | ⟨acts, hdr, payload, hacts, hmem, _⟩ | ⟨r, y, hnone, _, hy, _⟩)
  · exact hlive hgone
  · rw [show u.log = _ from hlog] at hacts
    rw [← List.append_cancel_left hacts] at hmem
    cases List.mem_singleton.mp hmem
  · rw [show u.remotes = _ from hrem, hnone] at hy
    cases hy

theorem servable_of_served (hwf : WF s.toCore) (hreg : Registry s.toCore)
    (hunlocked : s.Unlocked) (hx : s.clients c = some x) (hstate : x.state = .command)
    (hver : (bufHeader plat x.ib).version = 0 ∨ (bufHeader plat x.ib).version = 1)
    (h : Served plat sys s c x.ib) : Servable plat sys s x.ib := by
  intro hmsg
  rw [Served, clientCommand_plist hx hstate hver hmsg, plistBranch] at h
  have hself : ∀ x', (dispatching plat s c x x').clients c = some x' :=
    fun _ => Function.update_self ..
  cases hplist : requestPlist plat x.ib with
  | none =>
      rw [hplist] at h
      refine absurd h (not_settles ?_ rfl rfl)
      rw [hself]
      exact Option.some_ne_none _
  | some p =>
      obtain ⟨message, dict⟩ := p
      rw [hplist] at h
      refine ⟨message, dict, rfl, fun hfwd => not_not.mp fun hnot => ?_⟩
      have hwf' : WF (dispatching plat s c x
          { x with protoVersion := 1, info := some (clientInfo dict) }).toCore :=
        WF.setClient hwf.emit (Option.isSome_iff_exists.mpr ⟨x, hx⟩)
      have hreg' : Registry (dispatching plat s c x
          { x with protoVersion := 1, info := some (clientInfo dict) }).toCore :=
        ⟨hreg.remote, hreg.unlike⟩
      rcases plistCommand_leftAlone hwf' hreg' hunlocked (by rw [hself]; rfl) hfwd
        (fun hyes => hnot (hyes.congr rfl rfl)) with herr | ⟨res, s', hok, hs'⟩
      · exact (Post.of_error h herr) rfl
      · have hlog : s'.log = s.log ++ [.command c (bufFrame plat x.ib)] := by
          rw [hs']
          rfl
        refine not_settles ?_ hlog ?_ (Post.of_ok h hok)
        · rw [hs', hself]
          exact Option.some_ne_none _
        · rw [hs']
          rfl

theorem clientCommand_noNull (hx : s.clients c = some x) (hstate : x.state = .command)
    (hver : (bufHeader plat x.ib).version = 0 ∨ (bufHeader plat x.ib).version = 1)
    (h : Servable plat sys s x.ib) : NoNull (clientCommand plat sys s c) := by
  by_cases hmsg : (bufHeader plat x.ib).message = messagePlist
  · obtain ⟨message, dict, hplist, hfwd⟩ := h hmsg
    rw [clientCommand_plist hx hstate hver hmsg, plistBranch, hplist]
    exact plistCommand_noNull fun hm => (hfwd hm).congr rfl rfl
  · refine Post.bind (client_noNull.post client_runs.returns) fun x' hx' => ?_
    cases hx.symm.trans hx'
    have hclose : ∀ t tag, NoNull (sendResult plat sys t c tag resultBadCommand >>= fun p =>
        if p.1 < 0 then pure (-1, p.2)
        else clientClose p.2 c >>= fun s => pure (-1, s)) :=
      fun t tag => sendResult_noNull.bind fun _ =>
        .ite .pure (clientClose_noNull.bind fun _ => .pure)
    refine NoNull.ite (hclose _ _) (.ite (sendResult_noNull.bind fun _ => .pure) ?_)
    rw [if_neg hmsg]
    exact .ite clientListen_noNull (.ite clientConnect_noNull reply_noNull)

theorem served_of_servable (hloss : ¬ Loss plat sys) (hwf : WF s.toCore)
    (hreg : Registry s.toCore) (hx : s.clients c = some x) (hstate : x.state = .command)
    (hver : (bufHeader plat x.ib).version = 0 ∨ (bufHeader plat x.ib).version = 1)
    (h : Servable plat sys s x.ib) : Served plat sys s c x.ib := by
  refine (clientCommand_noNull hx hstate hver h).post
    (Post.imp (clientCommand_fate hloss hwf hx) (fun _ hf => hf) fun res hfate => ?_)
  cases hfate with
  | closed _ hgone => exact Or.inl hgone
  | version _ hbad => exact absurd hver fun hv => hv.elim hbad.1 hbad.2
  | unreadable _ _ hmsg hnone =>
      obtain ⟨message, dict, hplist, _⟩ := h hmsg
      cases hnone.symm.trans hplist
  | plist _ _ hmsg hplist hfate =>
      obtain ⟨message', dict', hplist', hfwd⟩ := h hmsg
      cases hplist.symm.trans hplist'
      cases hfate with
      | answered _ ha => exact Or.inr (Or.inl ha)
      | waiting _ hw =>
          refine Or.inr (Or.inr ?_)
          rw [frameAwaits, if_pos hmsg, hplist]
          exact hw
      | unforwarded _ hun =>
          obtain ⟨k, hk, hnone⟩ := hun
          obtain ⟨k', hk', hconn⟩ := (hfwd (isForwarded_of_target hk)).target
          cases hk.symm.trans hk'
          obtain ⟨y, hy⟩ := (newRemoteFor_some_iff hwf hreg).mpr hconn
          cases hnone.symm.trans hy
  | listen _ _ _ ha => exact Or.inr (Or.inl ha)
  | served _ hs =>
      refine Or.inr (hs.imp id ?_)
      rintro ⟨r, y, hnone, hmem, hy, hclient, hst | ⟨_, hcmd, _⟩⟩
      · exact ⟨r, y, hnone, hmem, hy, hclient, Or.inl hst⟩
      · cases hcmd

/-- Every frame of a client in `CLIENT_COMMAND` that is served can be, and
without losses the other way round: the client is closed, gets a packet with
its tag, or a remote waits for the reply, and no missing field is used. -/
theorem request_served_iff {rf : ReadFrame} (h : Reachable plat s) (hx : s.clients c = some x)
    (hstate : x.state = .command) (hrf : readFrame plat sys x.ib = .ok rf)
    (hframe : rf.outcome = .frame)
    (hver : (bufHeader plat rf.ib).version = 0 ∨ (bufHeader plat rf.ib).version = 1) :
    (Served plat sys (received s c x rf) c rf.ib → Servable plat sys s rf.ib) ∧
      (¬ Loss plat sys → Servable plat sys s rf.ib →
        Served plat sys (received s c x rf) c rf.ib) := by
  have hs := reachable_settled h
  have hreg := (reachable_registry h).2
  have hx' : (received s c x rf).clients c = some { x with ib := rf.ib } :=
    Function.update_self ..
  have hwf' : WF (received s c x rf).toCore :=
    (hs.wf.setClient (Option.isSome_iff_exists.mpr ⟨x, hx⟩)).emit
  have hreg' : Registry (received s c x rf).toCore := ⟨hreg.remote, hreg.unlike⟩
  refine ⟨fun hserved => ?_, fun hloss hsv => ?_⟩
  · have hsv := servable_of_served (x := { x with ib := rf.ib }) hwf' hreg' hs.unlocked hx' hstate
      hver hserved
    exact hsv.congr rfl rfl
  · have hsv' : Servable plat sys (received s c x rf) rf.ib := hsv.congr rfl rfl
    exact served_of_servable (x := { x with ib := rf.ib }) hloss hwf' hreg' hx' hstate hver hsv'

end Served

/-- A client in `CLIENT_COMMAND` whose next `recv` completes a frame that
passes a test. -/
def completes (plat : Platform) (sys : Sys) (p : Buf → Bool) (s : Daemon) : Bool :=
  match s.clients ⟨0⟩ with
  | none => false
  | some x =>
      match readFrame plat sys x.ib with
      | .error _ => false
      | .ok rf => decide (x.state = .command ∧ rf.outcome = .frame) && p rf.ib

theorem of_completes {plat : Platform} {sys : Sys} {p : Buf → Bool} {s : Daemon}
    (h : completes plat sys p s = true) : ∃ x rf, s.clients ⟨0⟩ = some x ∧ x.state = .command ∧
      readFrame plat sys x.ib = .ok rf ∧ rf.outcome = .frame ∧ p rf.ib = true := by
  rw [completes] at h
  split at h
  · cases h
  · next x hx =>
      split at h
      · cases h
      · next rf hrf =>
          rw [Bool.and_eq_true, decide_eq_true_eq] at h
          exact ⟨x, rf, hx, h.1.1, hrf, h.1.2, h.2⟩

/-- The rest of a binary connect request arrives, and the connection it asks
for can be made. -/
def connectArrives : Sys := { recv := some ((connectFrame 7 1 62078).drop 16), connect := some 9 }

theorem request_served_connect : ∃ s x rf, Reachable (platformWith []) s ∧
    s.clients ⟨0⟩ = some x ∧ x.state = .command ∧
    readFrame (platformWith []) connectArrives x.ib = .ok rf ∧ rf.outcome = .frame ∧
    Served (platformWith []) connectArrives (received s ⟨0⟩ x rf) ⟨0⟩ rf.ib := by
  let test : Buf → Bool := fun b => decide ((bufHeader (platformWith []) b).version = 0 ∧
    (bufHeader (platformWith []) b).message ≠ messagePlist)
  obtain ⟨s, hrun, htest⟩ : ∃ s, runFrom (platformWith []) {} (fun _ _ => true)
      [.accept (some 5),
       .client 5 { pollin := true } { recv := some ((connectFrame 7 1 62078).take 16) }] = some s ∧
      completes (platformWith []) connectArrives test s = true :=
    exists_of_runFrom (by decide +kernel)
  obtain ⟨x, rf, hx, hstate, hrf, hout, hp⟩ := of_completes htest
  obtain ⟨hver, hmsg⟩ := of_decide_eq_true hp
  have hreach := reachable_of_runFrom hrun
  refine ⟨s, x, rf, hreach, hx, hstate, hrf, hout, ?_⟩
  exact (request_served_iff hreach hx hstate hrf hout (Or.inl hver)).2
    (not_loss_platformWith fun _ => rfl) fun h => absurd h hmsg

/-- A plist request with no plist in it. -/
def emptyPlistFrame : List UInt8 :=
  ({ length := 16, version := 1, message := messagePlist, tag := 7 : Header }).bytes

/-- It gets no reply, although the client is not closed. -/
theorem emptyPlist_unanswered : ∃ s x rf, Reachable (platformWith []) s ∧
    s.clients ⟨0⟩ = some x ∧ x.state = .command ∧
    readFrame (platformWith []) { recv := some emptyPlistFrame } x.ib = .ok rf ∧
    rf.outcome = .frame ∧ (bufHeader (platformWith []) rf.ib).version = 1 ∧
    ¬ Served (platformWith []) { recv := some emptyPlistFrame } (received s ⟨0⟩ x rf) ⟨0⟩
      rf.ib := by
  let plat := platformWith []
  let test : Buf → Bool := fun b => decide ((bufHeader plat b).version = 1 ∧
    (bufHeader plat b).message = messagePlist ∧ (plat.plistFromXml (bufPayload plat b)).isNone)
  obtain ⟨s, hrun, htest⟩ : ∃ s, runFrom plat {} (fun _ _ => true) [.accept (some 5)] = some s ∧
      completes plat { recv := some emptyPlistFrame } test s = true :=
    exists_of_runFrom (by decide +kernel)
  obtain ⟨x, rf, hx, hstate, hrf, hout, hp⟩ := of_completes htest
  obtain ⟨hver, hmsg, hnone⟩ := of_decide_eq_true hp
  have hreach := reachable_of_runFrom hrun
  refine ⟨s, x, rf, hreach, hx, hstate, hrf, hout, hver, fun hserved => ?_⟩
  have hs := reachable_settled hreach
  have hreg := (reachable_registry hreach).2
  have hwf' : WF (received s ⟨0⟩ x rf).toCore :=
    (hs.wf.setClient (Option.isSome_iff_exists.mpr ⟨x, hx⟩)).emit
  obtain ⟨message, dict, hplist, _⟩ := servable_of_served (x := { x with ib := rf.ib }) hwf'
    ⟨hreg.remote, hreg.unlike⟩ hs.unlocked (Function.update_self ..) hstate (Or.inr hver) hserved
    hmsg
  have hparse : plat.plistFromXml (bufPayload plat rf.ib) = none :=
    Option.isNone_iff_eq_none.mp hnone
  have hnoreq : requestPlist plat rf.ib = none := by
    rw [requestPlist, hparse]
    rfl
  cases hnoreq.symm.trans hplist

end Usbfluxd
