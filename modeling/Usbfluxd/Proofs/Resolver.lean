import Usbfluxd.Model.Socket

/-!
# The resolver lock

`socket_connect_timeout` leaves the part that holds `gethostbyname_mutex` by
two early returns, for a host that is not known and for one without an
address. So the mutex is free between the attempts exactly as long as every
host name was resolved: each attempt that resolves releases it on all paths,
and the first that does not keeps it for good, because its thread (like every
other) has to take the mutex again before it could give it back.
-/

namespace Usbfluxd

open Lib

/-- The outcomes after which the mutex is given back. -/
def Resolves : (c : Syscall) → c.Result → Prop
  | .gethostbyname _, hp => ∃ sAddr : UInt32, hp = some ⟨some sAddr⟩
  | _, _ => True

/-- What follows on `connect`. -/
def connectEnd (sfd : Int) (timeout : Option Timeval) : ConnectResult → SocketProg
  | .connected => .ret sfd
  | .inProgress => awaitConnection sfd timeout
  | .failed => closeAndFail sfd

abbrev ResolverLabel := Label Thread Syscall Syscall.Result Int

/-- The threads run nothing but `socket_connect_timeout`. -/
def IsAttempt (hasNoSigpipe : Bool) : ResolverLabel → Prop
  | .enter _ p => ∃ addr port timeout, p = socketConnectTimeout hasNoSigpipe addr port timeout
  | _ => True

/-- The host names in a step are resolved. -/
def ResolvesLabel : ResolverLabel → Prop
  | .call _ c r => Resolves c r
  | _ => True

section Programs

variable {hasNoSigpipe : Bool} {sfd : Int} {addr : Option String} {port : UInt16}
  {timeout : Option Timeval} {held : Bool}

theorem closeAndFail_releases : (closeAndFail sfd).Releases Resolves false := fun _ _ => rfl

theorem awaitConnection_releases : (awaitConnection sfd timeout).Releases Resolves false := by
  intro (rc : Int) _
  dsimp only
  split
  · intro (soError : Int) _
    dsimp only
    split
    · exact rfl
    · exact closeAndFail_releases
  · exact closeAndFail_releases

theorem requireOption_releases {option : SocketOption} {next : SocketProg}
    (h : next.Releases Resolves false) :
    (requireOption sfd option next).Releases Resolves false := by
  intro (ok : Bool) _
  dsimp only
  split
  · exact h
  · exact closeAndFail_releases

theorem connectTo_releases {sAddr : UInt32} :
    (connectTo hasNoSigpipe sAddr port timeout).Releases Resolves false := by
  intro (sfd : Int) _
  dsimp only
  split
  · exact rfl
  · have hrest : ∀ res, (connectEnd sfd timeout res).Releases Resolves false := by
      intro res
      cases res with
      | connected => exact rfl
      | inProgress => exact awaitConnection_releases
      | failed => exact closeAndFail_releases
    refine requireOption_releases ?_
    split
    · exact requireOption_releases fun _ _ _ _ _ _ _ _ res _ => hrest res
    · exact fun _ _ _ _ _ _ _ _ res _ => hrest res

/-- Every path on which the host name is resolved gives the mutex back. -/
theorem socketConnectTimeout_releases :
    (socketConnectTimeout hasNoSigpipe addr port timeout).Releases Resolves false := by
  cases addr with
  | none => exact rfl
  | some addr =>
      refine ⟨rfl, ?_⟩
      rintro _ ⟨sAddr, rfl⟩
      exact ⟨rfl, connectTo_releases⟩

/-- No path from here on fails to resolve a name. -/
theorem connectTo_leaks {sAddr : UInt32} :
    (connectTo hasNoSigpipe sAddr port timeout).Leaks Resolves false := by
  have hclose : ∀ sfd, (closeAndFail sfd).Leaks Resolves false :=
    fun sfd _ => ⟨fun h => absurd trivial h, trivial⟩
  have hrequire : ∀ {sfd option} {next : SocketProg}, next.Leaks Resolves false →
      (requireOption sfd option next).Leaks Resolves false := by
    intro sfd option next h (ok : Bool)
    refine ⟨fun h => absurd trivial h, ?_⟩
    dsimp only
    split
    · exact h
    · exact hclose sfd
  have htry : ∀ {sfd option} {next : SocketProg}, next.Leaks Resolves false →
      (tryOption sfd option next).Leaks Resolves false :=
    fun h _ => ⟨fun h => absurd trivial h, h⟩
  have hawait : ∀ sfd, (awaitConnection sfd timeout).Leaks Resolves false := by
    intro sfd (rc : Int)
    refine ⟨fun h => absurd trivial h, ?_⟩
    dsimp only
    split
    · intro (soError : Int)
      refine ⟨fun h => absurd trivial h, ?_⟩
      dsimp only
      split
      · trivial
      · exact hclose sfd
    · exact hclose sfd
  intro (sfd : Int)
  refine ⟨fun h => absurd trivial h, ?_⟩
  dsimp only
  split
  · trivial
  · have hrest : Prog.Leaks Resolves false
        (tryOption sfd .tcpNodelay <| tryOption sfd .sndBuf <| tryOption sfd .rcvBuf <|
          .call (.fcntl sfd) fun _ =>
          .call (.connect sfd sAddr port) (connectEnd sfd timeout) : SocketProg) := by
      refine htry (htry (htry fun _ => ⟨fun h => absurd trivial h, ?_⟩))
      intro (res : ConnectResult)
      refine ⟨fun h => absurd trivial h, ?_⟩
      cases res with
      | connected => trivial
      | inProgress => exact hawait sfd
      | failed => exact hclose sfd
    refine hrequire ?_
    split
    · exact hrequire hrest
    · exact hrest

/-- A name that is not resolved ends the attempt with the mutex held. -/
theorem socketConnectTimeout_leaks :
    (socketConnectTimeout hasNoSigpipe addr port timeout).Leaks Resolves held := by
  cases addr with
  | none => trivial
  | some addr =>
      intro (hp : Option Hostent)
      obtain _ | ⟨_ | sAddr⟩ := hp
      · exact ⟨fun _ => ⟨rfl, trivial⟩, trivial⟩
      · exact ⟨fun _ => ⟨rfl, trivial⟩, trivial⟩
      · exact ⟨fun h => absurd ⟨sAddr, rfl⟩ h, rfl, connectTo_leaks⟩

theorem socketConnectTimeout_keeps :
    (socketConnectTimeout hasNoSigpipe addr port timeout).Keeps := by
  cases addr <;> trivial

end Programs

/-! ## Runs of attempts -/

section Attempts

variable {hasNoSigpipe : Bool} {s : Resolver} {labels : List ResolverLabel}

theorem IsAttempt.releases {l : ResolverLabel} (h : IsAttempt hasNoSigpipe l)
    (hr : ResolvesLabel l) : Threads.ReleasesLabel Resolves l := by
  cases l with
  | enter t p =>
      obtain ⟨addr, port, timeout, rfl⟩ := h
      exact socketConnectTimeout_releases
  | call t c r => exact hr
  | lock | unlock | leave => trivial

theorem IsAttempt.leaks {l : ResolverLabel} (h : IsAttempt hasNoSigpipe l) :
    Threads.LeaksLabel Resolves l := by
  cases l with
  | enter t p =>
      obtain ⟨addr, port, timeout, rfl⟩ := h
      exact ⟨socketConnectTimeout_keeps, fun _ => socketConnectTimeout_leaks⟩
  | lock | unlock | call | leave => trivial

theorem ResolvesLabel.of_not_fails {l : ResolverLabel} (h : ¬ Threads.FailsLabel Resolves l) :
    ResolvesLabel l := by
  cases l with
  | call t c r => exact not_not.mp h
  | enter | lock | unlock | leave => trivial

theorem init_released : Threads.Released Resolves Resolver.init := fun _ => rfl

theorem init_leaking : Threads.Leaking Resolves Resolver.init := fun _ _ h => nomatch h

/-- The mutex is free between attempts as long as all names were resolved,
and only as long. -/
theorem owner_eq_none_iff (hrun : Threads.Run Resolver.init labels s)
    (hattempts : ∀ l ∈ labels, IsAttempt hasNoSigpipe l) (hidle : s.Idle) :
    s.owner = none ↔ ∀ l ∈ labels, ResolvesLabel l := by
  constructor
  · intro hfree l hl
    refine ResolvesLabel.of_not_fails fun hfails => ?_
    exact hrun.owner_ne_none init_leaking (fun l hl => (hattempts l hl).leaks) hl hfails hfree
  · intro hresolves
    have hreleased : Threads.Released Resolves s := hrun.induct Threads.Step.released
      (fun l hl => (hattempts l hl).releases (hresolves l hl)) init_released
    exact hreleased.owner_eq_none hidle

/-- A thread can begin an attempt and take the mutex. -/
def CanEnter (hasNoSigpipe : Bool) (s : Resolver) (t : Thread) : Prop :=
  ∀ (addr : String) (port : UInt16) (timeout : Option Timeval), ∃ s', Threads.Run s
    [.enter t (socketConnectTimeout hasNoSigpipe (some addr) port timeout), .lock t] s'

theorem canEnter_iff {t : Thread} (ht : s.prog t = none) :
    CanEnter hasNoSigpipe s t ↔ s.owner = none := by
  constructor
  · intro h
    obtain ⟨s', hs'⟩ := h "" 0 none
    obtain _ | ⟨h₁, hs'⟩ := hs'
    obtain _ | ⟨h₂, _⟩ := hs'
    cases h₁
    cases h₂ with
    | lock _ hfree => exact hfree
  · intro hfree addr port timeout
    exact ⟨_, .cons (.enter ht) (.cons (.lock Threads.advance_self hfree) .nil)⟩

/-- In a run of attempts by any threads, with any outcomes: whenever no thread
is inside `socket_connect_timeout`, the mutex is free and every thread can
take it, if and only if every host name so far was resolved. -/
theorem resolverLock_free_iff (hrun : Threads.Run Resolver.init labels s)
    (hattempts : ∀ l ∈ labels, IsAttempt hasNoSigpipe l) (hidle : s.Idle) :
    (s.owner = none ∧ ∀ t, CanEnter hasNoSigpipe s t) ↔ ∀ l ∈ labels, ResolvesLabel l := by
  rw [← owner_eq_none_iff hrun hattempts hidle]
  exact ⟨And.left, fun hfree => ⟨hfree, fun t => (canEnter_iff (hidle t)).mpr hfree⟩⟩

/-- The main thread tries a host that is known, and gets no socket. -/
def knownHostRun : List ResolverLabel :=
  [.enter .main (socketConnectTimeout false (some "localhost") 5000 (some ⟨5, 0⟩)),
   .lock .main, .call .main (.gethostbyname "localhost") (some ⟨some 0x0100007F⟩),
   .unlock .main, .call .main .socket (-1 : Int), .leave .main (-1)]

/-- The main thread tries a host that is not known. -/
def unknownHostRun : List ResolverLabel :=
  [.enter .main (socketConnectTimeout false (some "nowhere") 5000 (some ⟨5, 0⟩)),
   .lock .main, .call .main (.gethostbyname "nowhere") (none : Option Hostent),
   .leave .main (-1)]

/-- After one thread entered and left, all are outside. -/
theorem idle_of_outside (h : ∀ t, t ≠ Thread.main → s.prog t = none) (hmain : s.prog .main = none) :
    s.Idle := by
  intro t
  by_cases ht : t = .main
  · rw [ht, hmain]
  · exact h t ht

theorem resolverLock_free_knownHost : ∃ s : Resolver,
    Threads.Run Resolver.init knownHostRun s ∧ s.Idle ∧
      s.owner = none ∧ ∀ t, CanEnter false s t := by
  have hrun : ∃ s : Resolver, Threads.Run Resolver.init knownHostRun s ∧ s.Idle := by
    refine ⟨_, .cons (.enter rfl) (.cons (.lock Threads.advance_self rfl)
      (.cons (.call Threads.advance_self _) (.cons (.unlock Threads.advance_self)
      (.cons (.call Threads.advance_self _) (.cons (.leave Threads.advance_self) .nil))))), ?_⟩
    refine idle_of_outside (fun t ht => ?_) Threads.advance_self
    simp only [Threads.advance_other ht]
    rfl
  obtain ⟨s, hrun, hidle⟩ := hrun
  have hattempts : ∀ l ∈ knownHostRun, IsAttempt false l := by simp [knownHostRun, IsAttempt]
  have hresolves : ∀ l ∈ knownHostRun, ResolvesLabel l := by
    simp only [knownHostRun, List.forall_mem_cons, ResolvesLabel, Resolves, true_and]
    exact ⟨⟨0x0100007F, rfl⟩, fun _ h => nomatch h⟩
  exact ⟨s, hrun, hidle, (resolverLock_free_iff hrun hattempts hidle).mpr hresolves⟩

/-- One unknown host and no thread can enter any more. -/
theorem unknownHost_keepsLock : ∃ s : Resolver,
    Threads.Run Resolver.init unknownHostRun s ∧
      (∀ l ∈ unknownHostRun, IsAttempt false l) ∧ s.Idle ∧ s.owner ≠ none ∧
      ∀ t, ¬ CanEnter false s t := by
  have hrun : ∃ s : Resolver, Threads.Run Resolver.init unknownHostRun s ∧ s.Idle ∧
      s.owner = some .main := by
    refine ⟨_, .cons (.enter rfl) (.cons (.lock Threads.advance_self rfl)
      (.cons (.call Threads.advance_self _) (.cons (.leave Threads.advance_self) .nil))), ?_, rfl⟩
    refine idle_of_outside (fun t ht => ?_) Threads.advance_self
    simp only [Threads.advance_other ht]
    rfl
  obtain ⟨s, hrun, hidle, howner⟩ := hrun
  have hheld : s.owner ≠ none := by
    rw [howner]
    exact Option.some_ne_none _
  refine ⟨s, hrun, ?_, hidle, hheld, fun t ht => hheld ((canEnter_iff (hidle t)).mp ht)⟩
  simp [unknownHostRun, IsAttempt]

end Attempts

end Usbfluxd
