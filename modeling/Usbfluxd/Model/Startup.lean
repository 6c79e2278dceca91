import Usbfluxd.Lib.Interleave

/-!
# Taking over the socket of usbmuxd

`main`, with `daemonize`, `notify_parent` and `socket_create_unix`, as far as
they deal with the two paths in the file system: usbmuxd's own socket file is
renamed, a new one is made in its place, and at the end the old one is put
back. What happens inside `main_loop` is one call here.

`main` is a script, and any number of processes may run it. What the calls do
is said of the two directory entries and of which sockets are listened to:
usbmuxd listens on the socket it made as long as it runs, and a process that
runs `main` on its own. A process that runs as root can access whatever is
there.
-/

namespace Usbfluxd

open Lib

/-- `USBMUXD_SOCKET_FILE` and `USBMUXD_RENAMED_SOCKET`. -/
inductive SocketPath where
  | socketFile | renamedSocket
deriving DecidableEq

/-- Calls that change nothing about the sockets. They succeed or fail; for
`geteuid` success is 0, for `getppid` it is 1. -/
inductive PlainCall where
  | geteuid | getppid | pipe | fork | setsid | chdir | freopen | socket
deriving DecidableEq

/-- The calls of `main`. -/
inductive SysCall where
  | plain (c : PlainCall)
  | access (path : SocketPath)
  /-- `socket_connect_unix`, and `socket_close` when it succeeds. -/
  | connect (path : SocketPath)
  | unlink (path : SocketPath)
  | rename (src dst : SocketPath)
  | bind (path : SocketPath)
  | listen
  /-- `write` of an `int` to the parent's pipe. -/
  | write (status : Int)
  | mainLoop

inductive UnlinkResult where
  | done | noEntry | failed
deriving DecidableEq

abbrev SysCall.Outcome : SysCall → Type
  | .unlink _ => UnlinkResult
  | .write _ => Int
  | _ => Bool

/-! ## The scripts -/

abbrev MainScript (α : Type) := Script SysCall SysCall.Outcome α

abbrev syscall (c : SysCall) : MainScript c.Outcome := .ask c

def plainCall (c : PlainCall) : MainScript Bool := syscall (.plain c)

/-- `daemonize`, with `report_to_parent`. It is the child of each `fork` that
goes on. -/
def daemonize : MainScript (Int × Bool) := do
  if ← plainCall .getppid then pure (0, false)
  else if !(← plainCall .pipe) then pure (-1, false)
  else if !(← plainCall .fork) then pure (-1, false)
  else if !(← plainCall .setsid) then pure (-1, true)
  else if !(← plainCall .fork) then pure (-1, true)
  else if !(← plainCall .chdir) then pure (-2, true)
  else if !(← plainCall .freopen) then pure (-3, true)
  else if !(← plainCall .freopen) then pure (-3, true)
  else pure (0, true)

def notifyParent (status : Int) : MainScript Int := do
  let res ← syscall (.write status)
  if res ≠ 4 then pure (if 0 ≤ res then -2 else res)
  else if ← plainCall .freopen then pure 0
  else pure (-1)

def socketCreateUnix (path : SocketPath) : MainScript Bool := do
  if (← syscall (.unlink path)) = UnlinkResult.failed then pure false
  else if !(← plainCall .socket) then pure false
  else if !(← syscall (.bind path)) then pure false
  else syscall .listen

/-- The options `main` looks at. -/
structure Options where
  foreground : Bool
  noUsbmuxd : Bool

/-- The renamed socket is there: whether it is usable. If not, it is
deleted. -/
def checkRenamed : MainScript Bool := do
  if ← syscall (.connect .renamedSocket) then pure true
  else
    let _ ← syscall (.unlink .renamedSocket)
    pure false

/-- What `main` finds out about the two sockets before it renames anything:
`renamed` and `opt_no_usbmuxd`, or `none` where it refuses to go on. -/
def checkSockets (noUsbmuxd : Bool) : MainScript (Option (Bool × Bool)) := do
  if ← syscall (.access .renamedSocket) then
    let renamed ← checkRenamed
    if ← syscall (.access .socketFile) then
      if ← syscall (.connect .socketFile) then pure none
      else pure (some (renamed, false))
    else pure (some (renamed, noUsbmuxd))
  else if ← syscall (.access .socketFile) then
    if ← syscall (.connect .socketFile) then pure (some (false, false))
    else pure (if noUsbmuxd then some (false, true) else none)
  else pure (if noUsbmuxd then some (false, true) else none)

/-- The last `rename`, which puts the socket of usbmuxd back. -/
def restore (renamed : Bool) : MainScript Unit :=
  if renamed then do
    let _ ← syscall (.rename .renamedSocket .socketFile)
    pure ()
  else pure ()

/-- What `main` does from the label `terminate` on. -/
def terminate (renamed reportToParent : Bool) (res : Int) : MainScript Int := do
  restore renamed
  let status := if res < 0 then -res else 0
  if reportToParent then do
    let _ ← notifyParent status
    pure status
  else pure status

/-- `main` once the socket of usbmuxd is out of the way. -/
def serve (foreground renamed : Bool) : MainScript Int := do
  let detached ← (if foreground then pure (0, false) else daemonize)
  if detached.1 < 0 then terminate renamed detached.2 detached.1
  else if !(← socketCreateUnix .socketFile) then terminate renamed detached.2 (-1)
  else
    -- `usbmux_remote_init` connects to usbmuxd where it is now
    let _ ← syscall (.connect .renamedSocket)
    let res ← (if detached.2 then notifyParent 0 else pure 0)
    if res < 0 then terminate renamed false res
    else
      let ok ← syscall .mainLoop
      terminate renamed false (if ok then 0 else -1)

/-- `main` after it has looked at the sockets. -/
def takeOver (foreground : Bool) : Option (Bool × Bool) → MainScript Int
  | none => terminate false false 0
  | some (renamed, noUsbmuxd) =>
      if !renamed && !noUsbmuxd then do
        if ← syscall (.rename .socketFile .renamedSocket) then serve foreground true
        else terminate false false 0
      else serve foreground renamed

def main (opts : Options) : MainScript Int := do
  if !(← plainCall .geteuid) then terminate false false 0
  else takeOver opts.foreground (← checkSockets opts.noUsbmuxd)

/-! ## The file system -/

/-- A socket in the file system, by who made it. -/
inductive Node where
  | usbmuxd
  | usbfluxd (pid : Nat)
  /-- One that nobody listens on any more. -/
  | stale (n : Nat)
deriving DecidableEq

structure Sockets where
  node : SocketPath → Option Node
  /-- The processes that listen on the socket they made. -/
  listening : Nat → Bool
  /-- The process that has been started and does not listen yet. -/
  starter : Option Nat
  nextPid : Nat

namespace Sockets

variable (w : Sockets)

def setNode (path : SocketPath) (n : Option Node) : Sockets :=
  { w with node := Function.update w.node path n }

/-- Somebody listens on the socket at a path. -/
def connectable (path : SocketPath) : Bool :=
  match w.node path with
  | some .usbmuxd => true
  | some (.usbfluxd pid) => w.listening pid
  | some (.stale _) | none => false

/-- The process leaves the section from its start to its `listen`. -/
def leaveStart (t : Nat) : Option Nat := if w.starter = some t then none else w.starter

/-- `rename`: the entry moves, and replaces what was there. -/
def rename (src dst : SocketPath) : Sockets :=
  (w.setNode dst (w.node src)).setNode src none

def listen (t : Nat) : Sockets :=
  { w with listening := Function.update w.listening t true, starter := w.leaveStart t }

/-- The end of a process closes its socket. -/
def stop (t : Nat) : Sockets :=
  { w with listening := Function.update w.listening t false, starter := w.leaveStart t }

end Sockets

/-- What a call may return and do. A connection to a socket that is listened
to fails only where connections are `flaky`; all other calls may fail at any
time. -/
def SysCall.Does (flaky : Prop) (t : Nat) :
    (c : SysCall) → Sockets → c.Outcome → Sockets → Prop
  | .plain _, w, _, w' | .write _, w, _, w' | .mainLoop, w, _, w' => w' = w
  | .access path, w, ok, w' => ok = (w.node path).isSome ∧ w' = w
  | .connect path, w, ok, w' =>
      (ok = w.connectable path ∨ ok = false ∧ flaky) ∧ w' = w
  | .unlink path, w, r, w' =>
      (r = .done ∧ (w.node path).isSome ∧ w' = w.setNode path none) ∨
        (r = .noEntry ∧ w.node path = none ∧ w' = w) ∨ r = .failed ∧ w' = w
  | .rename src dst, w, ok, w' =>
      (ok = true ∧ (w.node src).isSome ∧ w' = w.rename src dst) ∨ ok = false ∧ w' = w
  | .bind path, w, ok, w' =>
      (ok = true ∧ w.node path = none ∧ w' = w.setNode path (some (.usbfluxd t))) ∨
        ok = false ∧ w' = w
  | .listen, w, ok, w' => (ok = true ∧ w' = w.listen t) ∨ ok = false ∧ w' = w

/-- A process starts to run `main`, with any options: when no other is between
its own start and its `listen`, unless starts may be `concurrent`. Process ids
are not used twice. -/
def Starts (concurrent : Prop) (t : Nat) (p : MainScript Int) (w w' : Sockets) : Prop :=
  t = w.nextPid ∧ (w.starter = none ∨ concurrent) ∧ (∃ opts, p = main opts) ∧
    w' = { w with starter := some t, nextPid := t + 1 }

/-- At first usbmuxd listens at one of the two paths, whatever an earlier
usbfluxd may have left behind at the other. -/
structure Sockets.Initial (w : Sockets) : Prop where
  node : ∃ path, w.node path = some .usbmuxd ∧
    ∀ path', path' ≠ path → w.node path' = none ∨ ∃ n, w.node path' = some (.stale n)
  listening : ∀ t, w.listening t = false
  starter : w.starter = none

/-- Processes that run `main`, as many as there are, in any order. -/
abbrev Processes := Interleaving Nat SysCall SysCall.Outcome Int Sockets

/-- What can come of them. -/
def Processes.Reachable (flaky concurrent : Prop) (s : Processes) : Prop :=
  Interleaving.Reachable (SysCall.Does flaky) (Starts concurrent) (fun t w => w.stop t)
    Sockets.Initial s

end Usbfluxd
