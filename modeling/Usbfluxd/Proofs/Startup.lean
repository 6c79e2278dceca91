import Usbfluxd.Model.Startup

/-!
# The socket of usbmuxd is never lost

However many processes run `main`, with whatever options, however their calls
fail and whenever they are killed, the socket of usbmuxd is at one of the two
paths. The two conditions are that no process starts while another has
started and does not listen yet, and that a connection to a socket that is
listened to succeeds. Neither can be left out.

A process changes the directory in two situations only. In its start it is
`Alone`: it has found out that nobody serves, and nobody else can begin to.
From its `listen` on it is `Serving`: its own socket is in the place of the
one it renamed, and a process that starts in the meantime finds it there and
gives up. What one process guarantees the others (`Guar`) is just that.
-/

namespace Usbfluxd

open Lib

/-! ## What processes guarantee -/

/-- The process listens at the socket file, and usbmuxd at the other path. -/
def Serving (t : Nat) (w : Sockets) : Prop :=
  w.node .socketFile = some (.usbfluxd t) ∧ w.node .renamedSocket = some .usbmuxd ∧
    w.listening t = true

/-- The socket of usbmuxd is at one of the paths, and no other that could be
listened to is ever renamed. -/
structure SocketKept (w : Sockets) : Prop where
  place : (w.node .socketFile = some .usbmuxd ∧ w.node .renamedSocket ≠ some .usbmuxd) ∨
    (w.node .renamedSocket = some .usbmuxd ∧ w.node .socketFile ≠ some .usbmuxd)
  renamed : ∀ pid, w.node .renamedSocket ≠ some (.usbfluxd pid)
  fresh : ∀ {pid}, w.nextPid ≤ pid → w.listening pid = false

/-- How process `t` may change what others see. -/
structure Guar (t : Nat) (w w' : Sockets) : Prop where
  kept : SocketKept w → SocketKept w'
  node : w'.node = w.node ∨
    (w.starter = some t ∨ Serving t w) ∧ ∀ u, u ≠ t → ¬ Serving u w
  listening : ∀ u, u ≠ t → w'.listening u = w.listening u
  listen : w'.listening t = true → w.listening t = true ∨ w.starter = some t
  starter : w'.starter = w.starter ∨ (w.starter = some t ∧ w'.starter = none) ∨
    w.starter = none ∧ w'.starter = some t
  nextPid : w.nextPid ≤ w'.nextPid

/-- What must hold when a process is about to make certain calls. -/
def mainPre (t : Nat) : SysCall → Sockets → Prop
  | .mainLoop, w => Serving t w
  | .rename .socketFile .renamedSocket, w => w.node .socketFile = some .usbmuxd
  | .rename .renamedSocket .socketFile, w => w.node .renamedSocket = some .usbmuxd
  | _, _ => True

def mainContract : Contract Nat SysCall SysCall.Outcome Sockets where
  sem := SysCall.Does False
  pre := mainPre
  guar := Guar

section Guarantee

variable {t u : Nat} {w w' : Sockets}

theorem Guar.refl : Guar t w w :=
  ⟨fun h => h, Or.inl rfl, fun _ _ => rfl, Or.inl, Or.inl rfl, Nat.le_refl _⟩

theorem Serving.unique (h : Serving t w) (h' : Serving u w) : t = u := by
  have heq := h.1.symm.trans h'.1
  simpa using heq

/-- A process that changes the directory only. -/
theorem Guar.setNode (node : SocketPath → Option Node)
    (hstart : w.starter = some t ∨ Serving t w) (halone : ∀ u, u ≠ t → ¬ Serving u w)
    (hkept : SocketKept w → SocketKept { w with node := node }) :
    Guar t w { w with node := node } :=
  ⟨hkept, Or.inr ⟨hstart, halone⟩, fun _ _ => rfl, Or.inl, Or.inl rfl, Nat.le_refl _⟩

end Guarantee

/-! ## Assertions -/

/-- The process has started and does not listen yet. -/
structure Begun (t : Nat) (w : Sockets) : Prop where
  kept : SocketKept w
  starter : w.starter = some t
  silent : w.listening t = false
  born : t < w.nextPid

/-- And nobody serves. -/
structure Alone (t : Nat) (w : Sockets) : Prop extends Begun t w where
  unserved : ∀ u, ¬ Serving u w

/-- The process serves. -/
structure InService (t : Nat) (w : Sockets) : Prop where
  kept : SocketKept w
  serving : Serving t w

section Stability

variable {t : Nat} {w : Sockets}

theorem begun_stable : Stable mainContract t (Begun t) := by
  intro u w w' hu h hg
  have hg : Guar u w w' := hg
  refine ⟨hg.kept h.kept, ?_, ?_, Nat.lt_of_lt_of_le h.born hg.nextPid⟩
  · rcases hg.starter with heq | ⟨heq, _⟩ | ⟨heq, _⟩
    · rw [heq, h.starter]
    · rw [h.starter] at heq
      exact absurd (Option.some.inj heq).symm hu
    · cases h.starter.symm.trans heq
  · rw [hg.listening t hu.symm, h.silent]

/-- While a process is alone the directory is what it left. -/
theorem Alone.node_eq {u : Nat} {w' : Sockets} (h : Alone t w) (hu : u ≠ t) (hg : Guar u w w') :
    w'.node = w.node := by
  rcases hg.node with heq | ⟨hstart | hserving, _⟩
  · exact heq
  · rw [h.starter] at hstart
    exact absurd (Option.some.inj hstart).symm hu
  · exact absurd hserving (h.unserved u)

theorem alone_stable (K : (SocketPath → Option Node) → Prop) :
    Stable mainContract t fun w => Alone t w ∧ K w.node := by
  rintro u w w' hu ⟨h, hK⟩ hg
  have hg : Guar u w w' := hg
  have hnode := h.node_eq hu hg
  refine ⟨⟨begun_stable u w w' hu h.toBegun hg, ?_⟩, by rw [hnode]; exact hK⟩
  rintro v ⟨hfile, hrenamed, hlisten⟩
  rw [hnode] at hfile hrenamed
  by_cases hv : v = u
  · subst hv
    rcases hg.listen hlisten with hlisten | hstart
    · exact h.unserved v ⟨hfile, hrenamed, hlisten⟩
    · rw [h.starter] at hstart
      exact hu (Option.some.inj hstart).symm
  · rw [hg.listening v hv] at hlisten
    exact h.unserved v ⟨hfile, hrenamed, hlisten⟩

theorem inService_stable : Stable mainContract t (InService t) := by
  intro u w w' hu h hg
  have hg : Guar u w w' := hg
  have hnode : w'.node = w.node := by
    rcases hg.node with heq | ⟨_, hnone⟩
    · exact heq
    · exact absurd h.serving (hnone t hu.symm)
  refine ⟨hg.kept h.kept, ?_⟩
  rw [Serving, hnode, hg.listening t hu.symm]
  exact h.serving

theorem true_stable : Stable mainContract t fun _ => True := fun _ _ _ _ _ _ => trivial

end Stability

/-- The process is alone, and the socket of usbmuxd is at this path. -/
def Holding (t : Nat) (path : SocketPath) (w : Sockets) : Prop :=
  Alone t w ∧ w.node path = some .usbmuxd

section Knowledge

variable {t : Nat} {w : Sockets}

theorem holding_stable {path : SocketPath} : Stable mainContract t (Holding t path) :=
  alone_stable fun node => node path = some .usbmuxd

/-- Nobody serves while the socket of usbmuxd is where it belongs. -/
theorem Begun.holds_file (h : Begun t w) (hne : w.node .renamedSocket ≠ some .usbmuxd) :
    Holding t .socketFile w := by
  refine ⟨⟨h, fun u hu => hne hu.2.1⟩, ?_⟩
  rcases h.kept.place with ⟨heq, _⟩ | ⟨heq, _⟩
  · exact heq
  · exact absurd heq hne

/-- Nobody serves while nobody listens at the socket file. -/
theorem Begun.holds_renamed (h : Begun t w) (hnot : w.connectable .socketFile = false) :
    Holding t .renamedSocket w := by
  refine ⟨⟨h, ?_⟩, ?_⟩
  · rintro u ⟨hfile, _, hlisten⟩
    rw [Sockets.connectable, hfile] at hnot
    cases hlisten.symm.trans hnot
  · rcases h.kept.place with ⟨heq, _⟩ | ⟨heq, _⟩
    · rw [Sockets.connectable, heq] at hnot
      cases hnot
    · exact heq

theorem Sockets.connectable_of_none {path : SocketPath} (h : w.node path = none) :
    w.connectable path = false := by
  rw [connectable, h]

theorem Sockets.connectable_of_usbmuxd {path : SocketPath} (h : w.node path = some .usbmuxd) :
    w.connectable path = true := by
  rw [connectable, h]

end Knowledge

/-! ## The calls -/

section Calls

variable {t : Nat} {w : Sockets} {P : Sockets → Prop}

/-- A call that leaves the world as it is. -/
theorem quiet_safe {c : SysCall} (hP : Stable mainContract t P) (h : P w)
    (hpre : ∀ w, P w → mainPre t c w)
    (hsem : ∀ w r w', SysCall.Does False t c w r w' → w' = w) :
    Safe mainContract t (fun _ => P) (syscall c) w := by
  refine .ask hP h (fun _ => hP) hpre ?_
  intro w r w' hPw hdo
  obtain rfl := hsem w r w' hdo
  exact ⟨Guar.refl, hPw⟩

theorem plainCall_safe {c : PlainCall} (hP : Stable mainContract t P) (h : P w) :
    Safe mainContract t (fun _ => P) (plainCall c) w :=
  quiet_safe hP h (fun _ _ => trivial) fun _ _ _ hdo => hdo

theorem notifyParent_safe {status : Int} (hP : Stable mainContract t P) (h : P w) :
    Safe mainContract t (fun _ => P) (notifyParent status) w := by
  refine (quiet_safe (c := .write status) hP h (fun _ _ => trivial)
    fun _ _ _ hdo => hdo).bind fun {res w} h => ?_
  refine .ite (fun _ => .ret hP h) fun _ => ?_
  refine (plainCall_safe hP h).bind fun {ok w} h => ?_
  exact .ite (fun _ => .ret hP h) fun _ => .ret hP h

theorem daemonize_safe (hP : Stable mainContract t P) (h : P w) :
    Safe mainContract t (fun _ => P) daemonize w := by
  refine (plainCall_safe hP h).bind fun h => .ite (fun _ => .ret hP h) fun _ => ?_
  refine (plainCall_safe hP h).bind fun h => .ite (fun _ => .ret hP h) fun _ => ?_
  refine (plainCall_safe hP h).bind fun h => .ite (fun _ => .ret hP h) fun _ => ?_
  refine (plainCall_safe hP h).bind fun h => .ite (fun _ => .ret hP h) fun _ => ?_
  refine (plainCall_safe hP h).bind fun h => .ite (fun _ => .ret hP h) fun _ => ?_
  refine (plainCall_safe hP h).bind fun h => .ite (fun _ => .ret hP h) fun _ => ?_
  refine (plainCall_safe hP h).bind fun h => .ite (fun _ => .ret hP h) fun _ => ?_
  refine (plainCall_safe hP h).bind fun h => .ite (fun _ => .ret hP h) fun _ => ?_
  exact .ret hP h

/-- A change of the directory by a process that is alone. -/
theorem Alone.setNode (h : Alone t w) (node : SocketPath → Option Node)
    (hplace : (node .socketFile = some .usbmuxd ∧ node .renamedSocket ≠ some .usbmuxd) ∨
      (node .renamedSocket = some .usbmuxd ∧ node .socketFile ≠ some .usbmuxd))
    (hrenamed : ∀ pid, node .renamedSocket ≠ some (.usbfluxd pid))
    (hfile : ∀ u, node .socketFile = some (.usbfluxd u) → u = t) :
    Guar t w { w with node := node } ∧ Alone t { w with node := node } := by
  have hkept : SocketKept { w with node := node } := ⟨hplace, hrenamed, h.kept.fresh⟩
  refine ⟨.setNode node (Or.inl h.starter) (fun u _ => h.unserved u) fun _ => hkept,
    ⟨hkept, h.starter, h.silent, h.born⟩, ?_⟩
  rintro u ⟨hnode, _, hlisten⟩
  obtain rfl := hfile u hnode
  cases h.silent.symm.trans hlisten

/-- Deleting a renamed socket that nobody listens on. -/
theorem unlinkRenamed_safe (h : Holding t .socketFile w) :
    Safe mainContract t (fun _ => Holding t .socketFile) (syscall (.unlink .renamedSocket)) w := by
  refine .ask holding_stable h (fun _ => holding_stable) (fun _ _ => trivial) ?_
  rintro w r w' hw (⟨_, _, rfl⟩ | ⟨_, _, rfl⟩ | ⟨_, rfl⟩)
  · have hset := hw.1.setNode (Function.update w.node .renamedSocket none)
      (Or.inl (by simp [hw.2])) (by simp) (by simp [hw.2])
    exact ⟨hset.1, hset.2, by simp [Sockets.setNode, hw.2]⟩
  · exact ⟨Guar.refl, hw⟩
  · exact ⟨Guar.refl, hw⟩

/-- Renaming the socket of usbmuxd. -/
theorem renameFile_safe (h : Holding t .socketFile w) :
    Safe mainContract t (fun ok w => if ok = true then Holding t .renamedSocket w else Begun t w)
      (syscall (.rename .socketFile .renamedSocket)) w := by
  refine .ask holding_stable h (fun _ => .ite holding_stable begun_stable)
    (fun _ hw => hw.2) ?_
  rintro w ok w' hw (⟨rfl, _, rfl⟩ | ⟨rfl, rfl⟩)
  · have hset := hw.1.setNode (w.rename .socketFile .renamedSocket).node
      (Or.inr (by simp [Sockets.rename, Sockets.setNode, hw.2]))
      (by simp [Sockets.rename, Sockets.setNode, hw.2])
      (by simp [Sockets.rename, Sockets.setNode])
    exact ⟨hset.1, hset.2, by simp [Sockets.rename, Sockets.setNode, hw.2]⟩
  · exact ⟨Guar.refl, hw.1.toBegun⟩

/-- The socket of usbmuxd is at the other path, and this is at the socket
file. -/
def FileIs (t : Nat) (n : Option Node) (w : Sockets) : Prop :=
  Alone t w ∧ w.node .renamedSocket = some .usbmuxd ∧ w.node .socketFile = n

theorem fileIs_stable {n : Option Node} : Stable mainContract t (FileIs t n) :=
  alone_stable fun node => node .renamedSocket = some .usbmuxd ∧ node .socketFile = n

/-- A process begins or ceases to listen, and leaves its start. -/
theorem leaveStart_guar {listening : Bool}
    (hlisten : listening = true → t < w.nextPid ∧ w.starter = some t) :
    Guar t w { w with
      listening := Function.update w.listening t listening, starter := w.leaveStart t } where
  kept h :=
    { place := h.place
      renamed := h.renamed
      fresh := fun {pid} hpid => by
        show Function.update w.listening t listening pid = false
        by_cases heq : pid = t
        · subst heq
          rw [Function.update_self, Bool.eq_false_iff]
          intro htrue
          exact absurd hpid (Nat.not_le.mpr (hlisten htrue).1)
        · rw [Function.update_of_ne heq]
          exact h.fresh hpid }
  node := Or.inl rfl
  listening u hu := Function.update_of_ne hu _ _
  listen h := Or.inr (hlisten (by simpa using h)).2
  starter := by
    by_cases hstart : w.starter = some t
    · exact Or.inr (Or.inl ⟨hstart, if_pos hstart⟩)
    · exact Or.inl (if_neg hstart)
  nextPid := Nat.le_refl _

/-- `socket_create_unix` ends with the process serving, or as it began. -/
theorem socketCreateUnix_safe (h : Holding t .renamedSocket w) :
    Safe mainContract t
      (fun ok w => if ok = true then InService t w else Holding t .renamedSocket w)
      (socketCreateUnix .socketFile) w := by
  have hpost : ∀ ok : Bool, Stable mainContract t fun w =>
      if ok = true then InService t w else Holding t .renamedSocket w :=
    fun _ => .ite inService_stable holding_stable
  refine Safe.bind (R := fun r w => if r = UnlinkResult.failed then Holding t .renamedSocket w
    else FileIs t none w) ?_ fun {r w} h => ?_
  · refine .ask holding_stable h (fun _ => .ite holding_stable fileIs_stable)
      (fun _ _ => trivial) ?_
    rintro w r w' hw (⟨rfl, _, rfl⟩ | ⟨rfl, hnone, rfl⟩ | ⟨rfl, rfl⟩)
    · have hset := hw.1.setNode (Function.update w.node .socketFile none)
        (Or.inr (by simp [hw.2])) (by simp [hw.2]) (by simp)
      exact ⟨hset.1, hset.2, by simp [Sockets.setNode, hw.2]⟩
    · exact ⟨Guar.refl, hw.1, hw.2, hnone⟩
    · exact ⟨Guar.refl, hw⟩
  refine .ite (fun hr => ?_) fun hr => ?_
  · rw [if_pos hr] at h
    exact .ret (hpost false) h
  rw [if_neg hr] at h
  refine (plainCall_safe fileIs_stable h).bind fun {ok w} h => ?_
  refine .ite (fun _ => .ret (hpost false) ⟨h.1, h.2.1⟩) fun _ => ?_
  refine Safe.bind (R := fun ok w => if ok = true then FileIs t (some (.usbfluxd t)) w
    else Holding t .renamedSocket w) ?_ fun {ok w} h => ?_
  · refine .ask fileIs_stable h (fun _ => .ite fileIs_stable holding_stable)
      (fun _ _ => trivial) ?_
    rintro w ok w' ⟨halone, hrenamed, hnone⟩ (⟨rfl, _, rfl⟩ | ⟨rfl, rfl⟩)
    · have hset := halone.setNode
        (Function.update w.node .socketFile (some (.usbfluxd t)))
        (Or.inr (by simp [hrenamed])) (by simp [hrenamed]) (by simp)
      exact ⟨hset.1, hset.2, by simp [Sockets.setNode, hrenamed]⟩
    · exact ⟨Guar.refl, halone, hrenamed⟩
  refine .ite (fun hok => ?_) fun hok => ?_
  · rw [if_neg (by simpa using hok)] at h
    exact .ret (hpost false) h
  rw [if_pos (by simpa using hok)] at h
  refine .ask fileIs_stable h hpost (fun _ _ => trivial) ?_
  rintro w ok w' ⟨halone, hrenamed, hfile⟩ (⟨rfl, rfl⟩ | ⟨rfl, rfl⟩)
  · have hg : Guar t w (w.listen t) := leaveStart_guar fun _ => ⟨halone.born, halone.starter⟩
    exact ⟨hg, hg.kept halone.kept, hfile, hrenamed, Function.update_self _ _ _⟩
  · exact ⟨Guar.refl, halone, hrenamed⟩

end Calls

/-! ## The scripts -/

section Scripts

variable {t : Nat} {w : Sockets}

/-- `terminate` puts the socket back that the process has renamed. -/
theorem terminate_safe {renamed report : Bool} {res : Int}
    (hholds : renamed = true → Holding t .renamedSocket w ∨ InService t w) :
    Safe mainContract t (fun _ _ => True) (terminate renamed report res) w := by
  refine Safe.bind (R := fun _ _ => True) ?_ fun {_ w} _ => ?_
  · rw [restore]
    refine .ite (fun hren => ?_) fun _ => .ret true_stable trivial
    have hput : Safe mainContract t (fun _ _ => True)
        (syscall (.rename .renamedSocket .socketFile)) w := by
      rcases hholds hren with h | h
      · refine .ask holding_stable h (fun _ => true_stable) (fun _ hw => hw.2) ?_
        rintro w ok w' hw (⟨rfl, _, rfl⟩ | ⟨rfl, rfl⟩)
        · have hset := hw.1.setNode (w.rename .renamedSocket .socketFile).node
            (Or.inl (by simp [Sockets.rename, Sockets.setNode, hw.2]))
            (by simp [Sockets.rename, Sockets.setNode])
            (by simp [Sockets.rename, Sockets.setNode, hw.2])
          exact ⟨hset.1, trivial⟩
        · exact ⟨Guar.refl, trivial⟩
      · refine .ask inService_stable h (fun _ => true_stable) (fun _ hw => hw.serving.2.1) ?_
        rintro w ok w' hw (⟨rfl, _, rfl⟩ | ⟨rfl, rfl⟩)
        · refine ⟨Guar.setNode (w.rename .renamedSocket .socketFile).node
            (Or.inr hw.serving) (fun u hu hserving => hu (hserving.unique hw.serving)) ?_, trivial⟩
          intro hkept
          refine ⟨Or.inl ?_, ?_, hkept.fresh⟩ <;>
            simp [Sockets.rename, Sockets.setNode, hw.serving.2.1]
        · exact ⟨Guar.refl, trivial⟩
    exact hput.bind fun _ => .ret true_stable trivial
  · refine .ite (fun _ => ?_) fun _ => .ret true_stable trivial
    exact (notifyParent_safe true_stable trivial).bind fun _ => .ret true_stable trivial

theorem serve_safe {foreground : Bool} (h : Holding t .renamedSocket w) :
    Safe mainContract t (fun _ _ => True) (serve foreground true) w := by
  refine Safe.bind (R := fun _ => Holding t .renamedSocket) ?_ fun {detached w} h => ?_
  · exact .ite (fun _ => .ret holding_stable h) fun _ => daemonize_safe holding_stable h
  refine .ite (fun _ => terminate_safe fun _ => Or.inl h) fun _ => ?_
  refine (socketCreateUnix_safe h).bind fun {ok w} h => ?_
  refine .ite (fun hok => ?_) fun hok => ?_
  · rw [if_neg (by simpa using hok)] at h
    exact terminate_safe fun _ => Or.inl h
  rw [if_pos (by simpa using hok)] at h
  refine (quiet_safe (c := .connect .renamedSocket) inService_stable h (fun _ _ => trivial)
    fun _ _ _ hdo => hdo.2).bind
    fun {_ w} h => ?_
  refine Safe.bind (R := fun _ => InService t) ?_ fun {res w} h => ?_
  · exact .ite (fun _ => notifyParent_safe inService_stable h)
      fun _ => .ret inService_stable h
  refine .ite (fun _ => terminate_safe fun _ => Or.inr h) fun _ => ?_
  refine (quiet_safe (c := .mainLoop) inService_stable h (fun _ hw => hw.serving)
    fun _ _ _ hdo => hdo).bind fun {_ w} h => ?_
  exact terminate_safe fun _ => Or.inr h

/-- What is known of each result of `checkSockets`. -/
def SocketsChecked (t : Nat) : Option (Bool × Bool) → Sockets → Prop
  | none, _ => True
  | some (true, _), w => Holding t .renamedSocket w
  | some (false, noUsbmuxd), w => noUsbmuxd = false ∧ Holding t .socketFile w

theorem checkRenamed_safe (h : Begun t w) :
    Safe mainContract t (fun renamed w => Begun t w ∧ (renamed = false → Holding t .socketFile w))
      checkRenamed w := by
  have hpost : ∀ renamed : Bool, Stable mainContract t fun w =>
      Begun t w ∧ (renamed = false → Holding t .socketFile w) :=
    fun _ => begun_stable.and (.imp fun _ => holding_stable)
  refine Safe.bind (R := fun ok w => Begun t w ∧ (ok = false → Holding t .socketFile w)) ?_
    fun {ok w} h => ?_
  · refine .ask begun_stable h hpost (fun _ _ => trivial) ?_
    rintro w ok w' hw ⟨rfl | ⟨_, ⟨⟩⟩, rfl⟩
    refine ⟨Guar.refl, hw, fun hnot => hw.holds_file fun heq => ?_⟩
    rw [Sockets.connectable_of_usbmuxd heq] at hnot
    cases hnot
  refine .ite (fun _ => .ret (hpost true) ⟨h.1, by simp⟩) fun hok => ?_
  have hholds := h.2 (by simpa using hok)
  refine (unlinkRenamed_safe hholds).bind fun {_ w} h => ?_
  exact .ret (hpost false) ⟨h.1.toBegun, fun _ => h⟩

theorem socketsChecked_stable {o : Option (Bool × Bool)} :
    Stable mainContract t (SocketsChecked t o) := by
  cases o with
  | none => exact true_stable
  | some found =>
      obtain ⟨renamed, noUsbmuxd⟩ := found
      cases renamed with
      | true => exact holding_stable
      | false => exact Stable.and (fun _ _ _ _ h _ => h) holding_stable

/-- Nobody can connect to the socket file, and so the socket of usbmuxd is
the renamed one, which was usable. -/
theorem SocketsChecked.renamed {renamed : Bool} (h : Begun t w)
    (hrenamed : renamed = false → Holding t .socketFile w)
    (hnot : w.connectable .socketFile = false) (noUsbmuxd : Bool) :
    SocketsChecked t (some (renamed, noUsbmuxd)) w := by
  cases renamed with
  | true => exact h.holds_renamed hnot
  | false =>
      rw [Sockets.connectable_of_usbmuxd (hrenamed rfl).2] at hnot
      cases hnot

theorem checkSockets_safe {noUsbmuxd : Bool} (h : Begun t w) :
    Safe mainContract t (SocketsChecked t) (checkSockets noUsbmuxd) w := by
  refine Safe.bind (R := fun ok w => if ok = true then Begun t w else Holding t .socketFile w) ?_
    fun {ok w} h => ?_
  · refine .ask begun_stable h (fun _ => .ite begun_stable holding_stable) (fun _ _ => trivial) ?_
    rintro w ok w' hw ⟨rfl, rfl⟩
    refine ⟨Guar.refl, ?_⟩
    split
    · exact hw
    · next hnone => exact hw.holds_file fun heq => hnone (by rw [heq]; rfl)
  refine .ite (fun hok => ?_) fun hok => ?_
  · -- there is a renamed socket
    rw [if_pos hok] at h
    refine (checkRenamed_safe h).bind fun {renamed w} h => ?_
    have hstable : Stable mainContract t fun w =>
        Begun t w ∧ (renamed = false → Holding t .socketFile w) :=
      begun_stable.and (.imp fun _ => holding_stable)
    refine Safe.bind (R := fun ok w => if ok = true
      then Begun t w ∧ (renamed = false → Holding t .socketFile w)
      else SocketsChecked t (some (renamed, noUsbmuxd)) w) ?_ fun {ok w} h => ?_
    · refine .ask hstable h (fun _ => .ite hstable socketsChecked_stable) (fun _ _ => trivial) ?_
      rintro w ok w' hw ⟨rfl, rfl⟩
      refine ⟨Guar.refl, ?_⟩
      split
      · exact hw
      · next hnone =>
          exact .renamed hw.1 hw.2 (Sockets.connectable_of_none (by simpa using hnone)) _
    refine .ite (fun hok => ?_) fun hok => ?_
    · rw [if_pos hok] at h
      refine Safe.bind (R := fun ok w => if ok = true then True
        else SocketsChecked t (some (renamed, false)) w) ?_ fun {ok w} h => ?_
      · refine .ask hstable h (fun _ => .ite true_stable socketsChecked_stable)
          (fun _ _ => trivial) ?_
        rintro w ok w' hw ⟨rfl | ⟨_, ⟨⟩⟩, rfl⟩
        refine ⟨Guar.refl, ?_⟩
        split
        · trivial
        · next hnot => exact .renamed hw.1 hw.2 (by simpa using hnot) _
      refine .ite (fun _ => .ret socketsChecked_stable trivial) fun hok => ?_
      rw [if_neg hok] at h
      exact .ret socketsChecked_stable h
    · rw [if_neg hok] at h
      exact .ret socketsChecked_stable h
  · -- there is none, and usbmuxd is where it belongs
    rw [if_neg hok] at h
    refine Safe.bind (R := fun ok w => ok = true ∧ Holding t .socketFile w) ?_ fun {ok w} h => ?_
    · refine .ask holding_stable h (fun _ => .and (fun _ _ _ _ h _ => h) holding_stable)
        (fun _ _ => trivial) ?_
      rintro w ok w' hw ⟨rfl, rfl⟩
      exact ⟨Guar.refl, by rw [hw.2]; rfl, hw⟩
    refine .ite (fun _ => ?_) fun hok => absurd h.1 hok
    refine Safe.bind (R := fun ok w => ok = true ∧ Holding t .socketFile w) ?_ fun {ok w} h => ?_
    · refine .ask holding_stable h.2 (fun _ => .and (fun _ _ _ _ h _ => h) holding_stable)
        (fun _ _ => trivial) ?_
      rintro w ok w' hw ⟨rfl | ⟨_, ⟨⟩⟩, rfl⟩
      exact ⟨Guar.refl, Sockets.connectable_of_usbmuxd hw.2, hw⟩
    refine .ite (fun _ => ?_) fun hok => absurd h.1 hok
    exact .ret socketsChecked_stable ⟨rfl, h.2⟩

theorem takeOver_safe {foreground : Bool} {o : Option (Bool × Bool)} (h : SocketsChecked t o w) :
    Safe mainContract t (fun _ _ => True) (takeOver foreground o) w := by
  cases o with
  | none => exact terminate_safe (by simp)
  | some found =>
      obtain ⟨renamed, noUsbmuxd⟩ := found
      cases renamed with
      | true => exact serve_safe h
      | false =>
          obtain ⟨rfl, h⟩ := h
          refine (renameFile_safe h).bind fun {ok w} h => ?_
          refine .ite (fun hok => ?_) fun _ => terminate_safe (by simp)
          rw [if_pos hok] at h
          exact serve_safe h

theorem main_safe {opts : Options} (h : Begun t w) :
    Safe mainContract t (fun _ _ => True) (main opts) w := by
  refine (plainCall_safe begun_stable h).bind fun {ok w} h => ?_
  refine .ite (fun _ => terminate_safe (by simp)) fun _ => ?_
  exact (checkSockets_safe h).bind fun h => takeOver_safe h

end Scripts

/-! ## All processes together -/

section Whole

variable {s : Processes}

theorem SocketKept.initial {w : Sockets} (h : w.Initial) : SocketKept w := by
  obtain ⟨path, hnode, hother⟩ := h.node
  cases path with
  | socketFile =>
      have hren := hother .renamedSocket (by simp)
      refine ⟨Or.inl ⟨hnode, ?_⟩, ?_, fun _ => h.listening _⟩
      · rcases hren with heq | ⟨n, heq⟩ <;> simp [heq]
      · rcases hren with heq | ⟨n, heq⟩ <;> simp [heq]
  | renamedSocket =>
      have hfile := hother .socketFile (by simp)
      refine ⟨Or.inr ⟨hnode, ?_⟩, by simp [hnode], fun _ => h.listening _⟩
      rcases hfile with heq | ⟨n, heq⟩ <;> simp [heq]

/-- At every moment every process is safe. -/
theorem reachable_allSafe (h : s.Reachable False False) :
    Interleaving.AllSafe mainContract SocketKept (fun _ _ => True) s := by
  refine Interleaving.reachable_safe (C := mainContract) (fun w hw => .initial hw)
    (fun hw hg => hg.kept hw) ?_ (fun {t w} _ => leaveStart_guar (by simp)) h
  rintro t p w w' hw ⟨rfl, hidle, ⟨opts, rfl⟩, rfl⟩
  have hnone : w.starter = none := hidle.resolve_right fun h => h
  have hkept : SocketKept { w with starter := some w.nextPid, nextPid := w.nextPid + 1 } :=
    ⟨hw.place, hw.renamed, fun hpid => hw.fresh (Nat.le_of_succ_le hpid)⟩
  refine ⟨⟨fun _ => hkept, Or.inl rfl, fun _ _ => rfl, Or.inl, Or.inr (Or.inr ⟨hnone, rfl⟩),
    Nat.le_succ _⟩, main_safe ⟨hkept, rfl, hw.fresh (Nat.le_refl _), Nat.lt_succ_self _⟩⟩

/-- The socket of usbmuxd is at one of the two paths and at no other. A
process in its main loop listens at the socket file and finds usbmuxd at the
renamed socket, so there is one at most. And the last `rename` of a process
puts the socket of usbmuxd where it belongs. -/
theorem usbmuxd_socket_kept (h : s.Reachable False False) :
    (∃! path, s.world.node path = some .usbmuxd) ∧
      (∀ t next, s.procs t = some (.call .mainLoop next) → Serving t s.world ∧
        ∀ u next', s.procs u = some (.call .mainLoop next') → u = t) ∧
      ∀ t next, s.procs t = some (.call (.rename .renamedSocket .socketFile) next) →
        (s.world.rename .renamedSocket .socketFile).node .socketFile = some .usbmuxd := by
  have hsafe := reachable_allSafe h
  refine ⟨?_, ?_, ?_⟩
  · rcases hsafe.inv.place with ⟨heq, hne⟩ | ⟨heq, hne⟩
    · refine ⟨.socketFile, heq, fun path hpath => ?_⟩
      cases path with
      | socketFile => rfl
      | renamedSocket => exact absurd hpath hne
    · refine ⟨.renamedSocket, heq, fun path hpath => ?_⟩
      cases path with
      | socketFile => exact absurd hpath hne
      | renamedSocket => rfl
  · intro t next hp
    have hserving : Serving t s.world := hsafe.pre hp
    refine ⟨hserving, fun u next' hp' => ?_⟩
    have hserving' : Serving u s.world := hsafe.pre hp'
    exact hserving'.unique hserving
  · intro t next hp
    have hrenamed : s.world.node .renamedSocket = some .usbmuxd := hsafe.pre hp
    simp [Sockets.rename, Sockets.setNode, hrenamed]

end Whole

/-! ## When nothing fails -/

/-- What a call returns and does when it does not fail. -/
def SysCall.succeed (t : Nat) : (c : SysCall) → Sockets → c.Outcome × Sockets
  | .plain c, w => (c ≠ .getppid, w)
  | .mainLoop, w => (true, w)
  | .write _, w => (4, w)
  | .access path, w => ((w.node path).isSome, w)
  | .connect path, w => (w.connectable path, w)
  | .unlink path, w =>
      if (w.node path).isSome then (.done, w.setNode path none) else (.noEntry, w)
  | .rename src dst, w => if (w.node src).isSome then (true, w.rename src dst) else (false, w)
  | .bind path, w =>
      if (w.node path).isNone then (true, w.setNode path (some (.usbfluxd t))) else (false, w)
  | .listen, w => (true, w.listen t)

def SysCall.isMainLoop : SysCall → Bool
  | .mainLoop => true
  | _ => false

/-- A process that nobody gets in the way of, up to its main loop or to its
end. -/
def runAlone {α : Type} (t : Nat) : MainScript α → Sockets → MainScript α × Sockets
  | .ret a, w => (.ret a, w)
  | .call c next, w =>
      if c.isMainLoop then (.call c next, w)
      else runAlone t (next (c.succeed t w).1) (c.succeed t w).2

def inMainLoop : MainScript Int → Bool
  | .ret _ => false
  | .call c _ => c.isMainLoop

/-- A new process. -/
def Sockets.begin (w : Sockets) : Sockets :=
  { w with starter := some w.nextPid, nextPid := w.nextPid + 1 }

/-- Run `main` in a new process. -/
def attempt (opts : Options) (w : Sockets) : MainScript Int × Sockets :=
  runAlone w.nextPid (main opts) w.begin

section Recovery

variable {t : Nat} {w : Sockets} {flaky concurrent : Prop} {s : Processes}

theorem does_succeed (c : SysCall) :
    c.Does flaky t w (c.succeed t w).1 (c.succeed t w).2 := by
  cases c with
  | plain | write | mainLoop => rfl
  | access path => exact ⟨rfl, rfl⟩
  | connect path => exact ⟨Or.inl rfl, rfl⟩
  | unlink path =>
      by_cases h : (w.node path).isSome
      · simp [SysCall.Does, SysCall.succeed, h]
      · simp [SysCall.Does, SysCall.succeed, h]
        simpa using h
  | rename src dst =>
      by_cases h : (w.node src).isSome <;> simp [SysCall.Does, SysCall.succeed, h]
  | bind path =>
      by_cases h : (w.node path).isNone
      · simp [SysCall.Does, SysCall.succeed, h]
        simpa using h
      · simp [SysCall.Does, SysCall.succeed, h]
  | listen => exact Or.inl ⟨rfl, rfl⟩

/-- A step of the processes. -/
abbrev ProcessStep (flaky concurrent : Prop) : Processes → Processes → Prop :=
  Interleaving.Step (SysCall.Does flaky) (Starts concurrent) fun t w => w.stop t

theorem Processes.Reachable.steps {s' : Processes} (h : s.Reachable flaky concurrent)
    (hrun : Relation.ReflTransGen (ProcessStep flaky concurrent) s s') :
    s'.Reachable flaky concurrent := by
  obtain ⟨w, hw, hs⟩ := h
  exact ⟨w, hw, hs.trans hrun⟩

/-- Running alone is one of the runs. -/
theorem runAlone_steps {p : MainScript Int} (hp : s.procs t = some p) :
    Relation.ReflTransGen (ProcessStep flaky concurrent) s
      { procs := Function.update s.procs t (some (runAlone t p s.world).1)
        world := (runAlone t p s.world).2 } := by
  have hsame : ∀ q, s.procs t = some q → s = ⟨Function.update s.procs t (some q), s.world⟩ := by
    intro q hq
    rw [← hq, Function.update_eq_self]
  induction p generalizing s with
  | ret a =>
      rw [runAlone, ← hsame _ hp]
  | call c next ih =>
      rw [runAlone]
      split
      · rw [← hsame _ hp]
      · refine .head (.call hp (does_succeed c)) ?_
        have hnext := ih (c.succeed t s.world).1
          (s := ⟨Function.update s.procs t (some (next (c.succeed t s.world).1)),
            (c.succeed t s.world).2⟩) (Function.update_self _ _ _) ?_
        · simpa using hnext
        · intro q hq
          rw [← hq, Function.update_eq_self]

/-- Where nobody but usbmuxd listens. -/
theorem connectable_eq (hsilent : ∀ t, w.listening t = false) (path : SocketPath) :
    w.connectable path = decide (w.node path = some .usbmuxd) := by
  rw [Sockets.connectable]
  split <;> simp_all

theorem runAlone_bind {α β : Type} {p : MainScript α} {f : α → MainScript β} {a : α}
    {w' : Sockets} (h : runAlone t p w = (.ret a, w')) :
    runAlone t (p >>= f) w = runAlone t (f a) w' := by
  induction p generalizing w with
  | ret b =>
      cases h
      rfl
  | call c next ih =>
      rw [runAlone] at h
      split at h
      · cases h
      · next hc =>
          rw [Script.call_bind, runAlone, if_neg hc]
          exact ih _ h

theorem runAlone_socketCreateUnix :
    ∃ w', runAlone t (socketCreateUnix .socketFile) w = (.ret true, w') := by
  cases h : w.node .socketFile <;>
    simp [socketCreateUnix, plainCall, runAlone, SysCall.isMainLoop, SysCall.succeed, h,
      Sockets.setNode, Script.ask, pure]

/-- With usbmuxd out of the way, `main` gets into its main loop. -/
theorem runAlone_serve (foreground : Bool) :
    inMainLoop (runAlone t (serve foreground true) w).1 = true := by
  have hdetach : ∃ report, runAlone t (if foreground then pure (0, false) else daemonize) w =
      (.ret (0, report), w) := by
    cases foreground with
    | true => exact ⟨false, rfl⟩
    | false => exact ⟨true, rfl⟩
  obtain ⟨report, hdetach⟩ := hdetach
  obtain ⟨w', hcreate⟩ := runAlone_socketCreateUnix (t := t) (w := w)
  rw [serve, runAlone_bind hdetach, if_neg (Int.lt_irrefl 0), runAlone_bind hcreate]
  cases report <;> rfl

/-- A start that finds nothing in its way. -/
theorem attempt_serves (hsilent : ∀ t, w.listening t = false) (opts : Options)
    (hnode : w.node .socketFile = some .usbmuxd ∧ w.node .renamedSocket = none ∨
      w.node .renamedSocket = some .usbmuxd ∧ w.node .socketFile ≠ some .usbmuxd) :
    inMainLoop (attempt opts w).1 = true := by
  have hconn : ∀ path, w.begin.connectable path = decide (w.node path = some .usbmuxd) :=
    connectable_eq hsilent
  have hbegin : w.begin.node = w.node := rfl
  have hmain : attempt opts w = runAlone w.nextPid
      (checkSockets opts.noUsbmuxd >>= takeOver opts.foreground) w.begin := rfl
  rcases hnode with ⟨hfile, hrenamed⟩ | ⟨hrenamed, hfile⟩
  · have hcheck : runAlone w.nextPid (checkSockets opts.noUsbmuxd) w.begin =
        (.ret (some (false, false)), w.begin) := by
      simp [checkSockets, runAlone, SysCall.isMainLoop, SysCall.succeed, hbegin, hfile, hrenamed,
        hconn, pure]
    have hrename : runAlone w.nextPid (syscall (.rename .socketFile .renamedSocket)) w.begin =
        (.ret true, w.begin.rename .socketFile .renamedSocket) := by
      simp [runAlone, SysCall.isMainLoop, SysCall.succeed, hbegin, hfile, Script.ask]
    rw [hmain, runAlone_bind hcheck, takeOver, if_pos (show (!false && !false) = true from rfl),
      runAlone_bind hrename]
    exact runAlone_serve opts.foreground
  · have hcheck : ∃ noUsbmuxd, runAlone w.nextPid (checkSockets opts.noUsbmuxd) w.begin =
        (.ret (some (true, noUsbmuxd)), w.begin) := by
      by_cases hsome : (w.node .socketFile).isSome <;>
        simp [checkSockets, checkRenamed, runAlone, SysCall.isMainLoop, SysCall.succeed, hbegin,
          hfile, hrenamed, hconn, pure, hsome]
    obtain ⟨noUsbmuxd, hcheck⟩ := hcheck
    rw [hmain, runAlone_bind hcheck]
    exact runAlone_serve opts.foreground

/-- A start, and what it comes to, is one of the runs. -/
theorem attempt_steps (opts : Options) (hidle : s.procs s.world.nextPid = none)
    (hstart : s.world.starter = none) :
    Relation.ReflTransGen (ProcessStep flaky concurrent) s
      { procs := Function.update s.procs s.world.nextPid (some (attempt opts s.world).1)
        world := (attempt opts s.world).2 } := by
  refine .head (.start hidle ⟨rfl, Or.inl hstart, ⟨opts, rfl⟩, rfl⟩) ?_
  have hrun : Relation.ReflTransGen (ProcessStep flaky concurrent) _ _ :=
    runAlone_steps (s := ⟨Function.update s.procs s.world.nextPid (some (main opts)),
      s.world.begin⟩) (Function.update_self _ _ _)
  rw [Function.update_idem] at hrun
  exact hrun

theorem exists_of_inMainLoop {p : MainScript Int} (h : inMainLoop p = true) :
    ∃ next, p = .call .mainLoop next := by
  cases p with
  | ret => cases h
  | call c next =>
      cases c with
      | mainLoop => exact ⟨next, rfl⟩
      | plain | access | connect | unlink | rename | bind | listen | write => cases h

end Recovery

/-- usbmuxd runs, and nothing else has. -/
def freshSockets : Sockets where
  node path := if path = .socketFile then some .usbmuxd else none
  listening _ := false
  starter := none
  nextPid := 0

theorem freshSockets_initial : freshSockets.Initial where
  node := ⟨.socketFile, rfl, fun _ hpath => Or.inl (if_neg hpath)⟩
  listening _ := rfl
  starter := rfl

/-- A daemon is started, and runs. -/
theorem exists_serving : ∃ (s : Processes) (next : Bool → MainScript Int),
    s.Reachable False False ∧ s.procs = Function.update (fun _ => none) 0
      (some (.call .mainLoop next)) := by
  obtain ⟨next, hnext⟩ := exists_of_inMainLoop
    (attempt_serves (w := freshSockets) (fun _ => rfl) ⟨false, false⟩ (Or.inl ⟨rfl, rfl⟩))
  have hstart : Processes.Reachable False False ⟨fun _ => none, freshSockets⟩ :=
    ⟨freshSockets, freshSockets_initial, .refl⟩
  refine ⟨_, next, hstart.steps (attempt_steps ⟨false, false⟩ rfl rfl), ?_⟩
  rw [← hnext]
  rfl

theorem usbmuxd_socket_kept_serving : ∃ (s : Processes) (next : Bool → MainScript Int),
    s.Reachable False False ∧ s.procs 0 = some (.call .mainLoop next) ∧ Serving 0 s.world ∧
      ∃! path, s.world.node path = some .usbmuxd := by
  obtain ⟨s, next, hs, hprocs⟩ := exists_serving
  have hp : s.procs 0 = some (.call .mainLoop next) := by
    rw [hprocs, Function.update_self]
  obtain ⟨hplace, hserving, _⟩ := usbmuxd_socket_kept hs
  exact ⟨s, next, hs, hp, (hserving 0 next hp).1, hplace⟩

section Losses

variable {flaky concurrent : Prop}

/-- Process `t` makes its next call, which does not fail. -/
def Processes.proceed (s : Processes) (t : Nat) : Processes :=
  match s.procs t with
  | some (.call c next) =>
      { procs := Function.update s.procs t (some (next (c.succeed t s.world).1))
        world := (c.succeed t s.world).2 }
  | some (.ret _) | none => s

theorem Processes.Reachable.proceed {s : Processes} (h : s.Reachable flaky concurrent) (t : Nat) :
    (s.proceed t).Reachable flaky concurrent := by
  rw [Processes.proceed]
  split
  · next c next hp => exact h.steps (.single (.call hp (does_succeed c)))
  · exact h
  · exact h

theorem Processes.Reachable.schedule {s : Processes} (h : s.Reachable flaky concurrent)
    (ts : List Nat) : (ts.foldl Processes.proceed s).Reachable flaky concurrent := by
  induction ts generalizing s with
  | nil => exact h
  | cons t ts ih => exact ih (h.proceed t)

/-- Two processes that are started. -/
def twoStarted (opts : Options) : Processes where
  procs := Function.update (Function.update (fun _ => none) 0 (some (main opts))) 1
    (some (main opts))
  world := { freshSockets with starter := some 1, nextPid := 2 }

theorem twoStarted_reachable (opts : Options) :
    (twoStarted opts).Reachable False True := by
  refine ⟨freshSockets, freshSockets_initial, ?_⟩
  refine .head (.start (t := 0) rfl ⟨rfl, Or.inl rfl, ⟨opts, rfl⟩, rfl⟩) ?_
  exact .single (.start (t := 1) rfl ⟨rfl, Or.inr trivial, ⟨opts, rfl⟩, rfl⟩)

/-- Both find usbmuxd where it belongs. The first renames its socket and makes
its own, and the second renames that one, over the one of usbmuxd. -/
theorem concurrent_starts_lose_socket : ∃ s : Processes, s.Reachable False True ∧
    ∀ path, s.world.node path ≠ some .usbmuxd := by
  refine ⟨_, (twoStarted_reachable ⟨true, false⟩).schedule
    [0, 1, 0, 1, 0, 1, 0, 1, 0, 0, 0, 0, 0, 1], ?_⟩
  intro path
  cases path <;> decide

/-- The renamed socket is there and usbmuxd listens, but the connection
fails: it is deleted. -/
theorem flaky_connection_loses_socket : ∃ s : Processes, s.Reachable True False ∧
    ∀ path, s.world.node path ≠ some .usbmuxd := by
  let taken : Sockets :=
    { node := fun path => if path = .renamedSocket then some .usbmuxd else none
      listening := fun _ => false
      starter := none
      nextPid := 0 }
  have hinit : taken.Initial :=
    ⟨⟨.renamedSocket, rfl, fun _ hpath => Or.inl (if_neg hpath)⟩, fun _ => rfl, rfl⟩
  let started : Processes :=
    { procs := Function.update (fun _ => none) 0 (some (main ⟨true, false⟩))
      world := taken.begin }
  have hstart : started.Reachable True False :=
    ⟨taken, hinit, .single (.start rfl ⟨rfl, Or.inl rfl, ⟨_, rfl⟩, rfl⟩)⟩
  -- up to the connection
  have hchecked := hstart.schedule [0, 0]
  have hfails := hchecked.steps
    (.single (.call (t := 0) (r := false) rfl ⟨Or.inr ⟨rfl, trivial⟩, rfl⟩))
  refine ⟨_, hfails.proceed 0, ?_⟩
  intro path
  cases path <;> decide

end Losses

end Usbfluxd
