import Usbfluxd.Lib.Text
import Usbfluxd.Model.Command

/-!
# The control tools

The half of the control protocol that is outside the daemon: `usbfluxctl`,
which prints its requests into a buffer of fixed size, and the query function
it shares with the menu bar application, which reads one reply.

A command line argument is a list of characters of one byte each. The socket
is the rest of the stream the daemon sends, and how much of it there is when
`recv` is called is a parameter.
-/

namespace Usbfluxd

open Lib

/-! ## Requests -/

def xmlOpening : List Char := "<plist version=".toList ++ "\"1.0\">".toList

def xmlClosing : List Char := "</plist>".toList

/-! The format string of both requests is cut where the arguments go, and into
short pieces besides, because a long literal takes the kernel quadratic time
to unfold. -/

def beforeMessageType : List Char :=
  xmlOpening ++ "<dict><key>".toList ++ "MessageType</key>".toList ++ "<string>".toList

def beforeHostAddress : List Char :=
  "</string><key>".toList ++ "HostAddress</key>".toList ++ "<string>".toList

def beforePortNumber : List Char :=
  "</string><key>".toList ++ "PortNumber</key>".toList ++ "<integer>".toList

def afterPortNumber : List Char := "</integer></dict>".toList ++ xmlClosing

/-- The format of both requests, filled in. -/
def instanceFormat (messageType : String) (remoteHost : List Char) (remotePort : UInt64) :
    List Char :=
  beforeMessageType ++ messageType.toList ++ beforeHostAddress ++ remoteHost ++
    beforePortNumber ++ Nat.toDigits 10 remotePort.toNat ++ afterPortNumber

/-- The host and port of an argument: what is before and after the first
colon, and port 5000 without one. -/
def remoteOfArg (arg : List Char) : List Char × UInt64 :=
  match arg.dropWhile (· ≠ ':') with
  | [] => (arg, 5000)
  | _ :: port => (arg.takeWhile (· ≠ ':'), strtoul port)

/-- `req_xml` of `handle_add` and `handle_del`. -/
def instanceRequestXml (messageType : String) (arg : List Char) : List Char :=
  snprintf 256 (instanceFormat messageType (remoteOfArg arg).1 (remoteOfArg arg).2)

/-- The request of `handle_add`. -/
def handleAdd (arg : List Char) : List Char := instanceRequestXml "AddInstance" arg

/-- The request of `handle_del`. -/
def handleDel (arg : List Char) : List Char := instanceRequestXml "RemoveInstance" arg

/-- A text of characters of one byte, as it goes over the wire. -/
def textBytes (text : List Char) : List UInt8 := text.map fun c => UInt8.ofNat c.toNat

/-! ## Replies -/

/-- The receive loop, with what is left of the stream and what it has
received. At the `i`-th `recv` up to `chunk i` bytes are there, and none only
when the stream is over. A `recv` into memory that `malloc` did not give
fails. `none` when the loop has not ended after the given number of turns. -/
def receivePayload (chunk : Nat → Nat) (mapped : Bool) (total : Nat) :
    Nat → Nat → List UInt8 → List UInt8 → Option (List UInt8)
  | 0, _, _, _ => none
  | fuel + 1, i, stream, got =>
      if got.length < total then
        let r := min (chunk i) (min (total - got.length) stream.length)
        if 0 < r ∧ mapped = false then some got
        else receivePayload chunk mapped total fuel (i + 1) (stream.drop r) (got ++ stream.take r)
      else some got

/-- The header a stream begins with. -/
def streamHeader (stream : List UInt8) : Header := headerAt fun i => stream.getD i 0

/-- `usbfluxd_query` once the request is sent, with the size of its buffer:
what it hands to the parser, if anything. The header comes in one `recv`. -/
def queryReply (bufSize : Nat) (malloc : Nat → Bool) (chunk : Nat → Nat) (fuel : Nat)
    (stream : List UInt8) : Option (Option (List UInt8)) :=
  if stream.length < headerSize then some none
  else
    let muxhdr := streamHeader stream
    if muxhdr.version = 1 ∧ muxhdr.message = messagePlist ∧ muxhdr.tag = 0 then
      let total := (muxhdr.length - 16).toNat
      let mapped := decide (total ≤ bufSize) || malloc total
      (receivePayload chunk mapped total fuel 0 (stream.drop headerSize) []).map fun got =>
        if got.length = total then some got else none
    else some none

/-- `usbfluxd_query` of `usbfluxctl`. -/
def usbfluxdQuery (malloc : Nat → Bool) (chunk : Nat → Nat) (fuel : Nat)
    (stream : List UInt8) : Option (Option (List UInt8)) :=
  queryReply 4096 malloc chunk fuel stream

/-- `usbfluxdQuery` of the menu bar application. -/
def usbfluxdQueryGui (malloc : Nat → Bool) (chunk : Nat → Nat) (fuel : Nat)
    (stream : List UInt8) : Option (Option (List UInt8)) :=
  queryReply 65536 malloc chunk fuel stream

end Usbfluxd
