import Usbfluxd.Lib.Threads

/-!
# Opening a TCP connection

`socket_connect_timeout` of `socket.c`, as a program that several threads run
at the same time: the main thread and the mDNS thread through
`remote_mux_new_with_host`, and the threads that check whether a silent
remote is still there. The one thing they share is `gethostbyname_mutex`.

Every system call is a step whose outcome is open. In the daemon's own model
all of this is one connection attempt that succeeds or fails.
-/

namespace Usbfluxd

open Lib

/-- What `gethostbyname` returns: the first address of the list, which may be
`NULL`. -/
structure Hostent where
  hAddr : Option UInt32
deriving DecidableEq

/-- The options set on a new socket. -/
inductive SocketOption where
  | reuseAddr | noSigpipe | tcpNodelay | sndBuf | rcvBuf

/-- The ways `connect` returns on a socket that does not block. -/
inductive ConnectResult where
  | connected | inProgress | failed
deriving DecidableEq

/-- `struct timeval`. -/
structure Timeval where
  sec : Nat
  usec : Nat

/-- The system calls of `socket_connect_timeout`. -/
inductive Syscall where
  | gethostbyname (addr : String)
  | socket
  | setsockopt (sfd : Int) (option : SocketOption)
  | fcntl (sfd : Int)
  | connect (sfd : Int) (addr : UInt32) (port : UInt16)
  | select (sfd : Int) (timeout : Timeval)
  | getsockopt (sfd : Int)
  | close (sfd : Int)

/-- Their results. -/
def Syscall.Result : Syscall → Type
  | gethostbyname _ => Option Hostent
  | setsockopt _ _ => Bool
  | connect _ _ _ => ConnectResult
  | fcntl _ | close _ => Unit
  | socket | select _ _ | getsockopt _ => Int

/-- A function that makes system calls and returns an `int`. -/
abbrev SocketProg := Prog Syscall Syscall.Result Int

/-- `socket_close(sfd)`, and return -1. -/
def closeAndFail (sfd : Int) : SocketProg := .call (.close sfd) fun () => .ret (-1)

/-- A `setsockopt` that must succeed. -/
def requireOption (sfd : Int) (option : SocketOption) (next : SocketProg) : SocketProg :=
  .call (.setsockopt sfd option) fun (ok : Bool) => if ok then next else closeAndFail sfd

/-- A `setsockopt` whose failure is only logged. -/
def tryOption (sfd : Int) (option : SocketOption) (next : SocketProg) : SocketProg :=
  .call (.setsockopt sfd option) fun _ => next

/-- Wait until the connection is there or the time is over. -/
def awaitConnection (sfd : Int) (timeout : Option Timeval) : SocketProg :=
  .call (.select sfd (timeout.getD ⟨10, 0⟩)) fun (rc : Int) =>
    if rc = 1 then
      .call (.getsockopt sfd) fun (soError : Int) =>
        if soError = 0 then .ret sfd else closeAndFail sfd
    else closeAndFail sfd

/-- `socket_connect_timeout` after the host name is resolved. Not every
platform has `SO_NOSIGPIPE`. -/
def connectTo (hasNoSigpipe : Bool) (addr : UInt32) (port : UInt16) (timeout : Option Timeval) :
    SocketProg :=
  .call .socket fun (sfd : Int) =>
    if sfd < 0 then .ret (-1)
    else
      let rest :=
        tryOption sfd .tcpNodelay <| tryOption sfd .sndBuf <| tryOption sfd .rcvBuf <|
        .call (.fcntl sfd) fun _ =>
        .call (.connect sfd addr port) fun (res : ConnectResult) =>
          match res with
          | .connected => .ret sfd
          | .inProgress => awaitConnection sfd timeout
          | .failed => closeAndFail sfd
      requireOption sfd .reuseAddr
        (if hasNoSigpipe then requireOption sfd .noSigpipe rest else rest)

/-- `socket_connect_timeout`. -/
def socketConnectTimeout (hasNoSigpipe : Bool) (addr : Option String) (port : UInt16)
    (timeout : Option Timeval) : SocketProg :=
  match addr with
  | none => .ret (-1)
  | some addr =>
      .lock <| .call (.gethostbyname addr) fun (hp : Option Hostent) =>
        match hp with
        -- unknown host: the mutex is still held
        | none => .ret (-1)
        | some hp =>
            match hp.hAddr with
            | none => .ret (-1)
            | some sAddr => .unlock (connectTo hasNoSigpipe sAddr port timeout)

/-- The threads that open connections. -/
inductive Thread where
  | main
  | mdns
  | check (n : Nat)
deriving DecidableEq

/-- The threads and `gethostbyname_mutex`. -/
abbrev Resolver := Threads Thread Syscall Syscall.Result Int

/-- After `pthread_mutex_init`. -/
def Resolver.init : Resolver := { prog := fun _ => none, owner := none }

end Usbfluxd
