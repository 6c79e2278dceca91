import Usbfluxd.Lib.Exec
import Usbfluxd.Lib.Buf
import Usbfluxd.Lib.OMap
import Usbfluxd.Model.Plist
import Usbfluxd.Model.Remote
import Usbfluxd.Model.Client
import Usbfluxd.Model.Registry
import Usbfluxd.Model.Request
import Usbfluxd.Model.Command
import Usbfluxd.Model.Handle
import Usbfluxd.Model.Loop
import Usbfluxd.Proofs.Tables
import Usbfluxd.Moves.Defs
import Usbfluxd.Moves.WF
import Usbfluxd.Moves.Runs
import Usbfluxd.Moves.Client
import Usbfluxd.Moves.Remote
import Usbfluxd.Moves.Request
import Usbfluxd.Moves.Command
import Usbfluxd.Moves.Handle
import Usbfluxd.Moves.Step
import Usbfluxd.Moves.Shape
import Usbfluxd.Proofs.Registry
import Usbfluxd.Proofs.Runs
import Usbfluxd.Proofs.Links
import Usbfluxd.Proofs.Trace
import Usbfluxd.Proofs.Relay
import Usbfluxd.Proofs.Purity
import Usbfluxd.Alike.Defs
import Usbfluxd.Alike.Ops
import Usbfluxd.Alike.Command
import Usbfluxd.Alike.Handle
import Usbfluxd.Alike.Watch
import Usbfluxd.Proofs.Locks
import Usbfluxd.Proofs.Leftovers
import Usbfluxd.Proofs.ShortFrames
import Usbfluxd.Lib.Threads
import Usbfluxd.Model.Socket
import Usbfluxd.Proofs.Resolver
import Usbfluxd.Lib.Frames
import Usbfluxd.Proofs.Frames
import Usbfluxd.Proofs.Reassembly
import Usbfluxd.Proofs.Commands
import Usbfluxd.Proofs.Answers
import Usbfluxd.Proofs.Dispatch
import Usbfluxd.Proofs.Sound
import Usbfluxd.Proofs.Freed
import Usbfluxd.Proofs.Isolation
import Usbfluxd.Proofs.Departure
import Usbfluxd.Proofs.AttachCodec
import Usbfluxd.Proofs.Duplicates
import Usbfluxd.Proofs.Waiting
import Usbfluxd.Proofs.OutputQueue
import Usbfluxd.Proofs.Reaping
import Usbfluxd.Proofs.Reads
import Usbfluxd.Model.MainLoop
import Usbfluxd.Proofs.MainLoop
import Usbfluxd.Proofs.InputLife
import Usbfluxd.Proofs.StaleEvents
import Usbfluxd.Proofs.WakeUps
import Usbfluxd.Model.Checks
import Usbfluxd.Proofs.Checks
import Usbfluxd.Lib.Foreach
import Usbfluxd.Proofs.Collections
import Usbfluxd.Proofs.Instances
import Usbfluxd.Proofs.Listeners
import Usbfluxd.Lib.Iterate
import Usbfluxd.Proofs.Detaching
import Usbfluxd.Proofs.Routing
import Usbfluxd.Model.Control
import Usbfluxd.Proofs.InstanceRequests
import Usbfluxd.Proofs.ControlReplies
import Usbfluxd.Proofs.Replies
import Usbfluxd.Lib.Replica
import Usbfluxd.Proofs.DeviceView
import Usbfluxd.Model.Shutdown
import Usbfluxd.Proofs.Shutdown
import Usbfluxd.Lib.Interleave
import Usbfluxd.Model.Startup
import Usbfluxd.Proofs.Startup
import Usbfluxd.Proofs.ConnectRoute
import Usbfluxd.Lib.Within
import Usbfluxd.Proofs.RelayWaits
import Usbfluxd.Lib.Refine
import Usbfluxd.Model.FdList
import Usbfluxd.Proofs.FdList
