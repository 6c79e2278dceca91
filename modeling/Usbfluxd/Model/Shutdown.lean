import Usbfluxd.Model.Loop

/-!
# Leaving the main loop

What `main` does with the daemon's objects when the main loop has ended:
`client_shutdown` closes the clients, destroys `client_list_mutex` and frees
the client list, and `usbmux_remote_shutdown` disposes of the remotes that
are left. Disposing of a remote that still has a device tells the clients
about the device, and so takes a mutex that is there no longer. POSIX does not
define what locking a destroyed mutex does, and the model counts it as a
fault: it treats a destroyed mutex like one that is held.
-/

namespace Usbfluxd

open Lib

/-- `pthread_mutex_destroy(&client_list_mutex)` and `collection_free`. -/
def Daemon.destroyClientList (s : Daemon) : Daemon :=
  { s with clientList := ⟨[]⟩, clientListLocked := true }

/-- `pthread_mutex_destroy(&remote_list_mutex)`, `collection_free` and
`plist_free`. -/
def Daemon.destroyRemoteList (s : Daemon) : Daemon :=
  { s with remoteList := ⟨[]⟩, remoteDeviceList := OMap.empty, remoteListLocked := true }

/-- `client_shutdown` and `usbmux_remote_shutdown`, the mDNS thread being
gone. `remote_list_mutex` is taken before `client_list_mutex` goes: nothing
happens between the two, and taking it after the other one is no violation
of the lock order here. -/
def shutdown (plat : Platform) (sys : Sys) (s : Daemon) : Except Fault Daemon := do
  let s ← clientShutdown s
  let s ← s.lockRemoteList
  let s ← forRemotes (usbmuxRemoteDispose plat sys) s.destroyClientList
  pure s.destroyRemoteList

end Usbfluxd
