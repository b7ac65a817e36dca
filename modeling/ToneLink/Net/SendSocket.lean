import ToneLink.Bytes
import ToneLink.Log
import ToneLink.Net.Address

/-!
# Sending datagrams

Sending is best effort: a datagram that cannot be sent, or not in full, is logged and counted and
never sent again. What the network answers is an argument, so the socket itself is a count.

- `Net.Reply`: the network's answer to one datagram; `Net.Network` gives the answers;
- `Net.isolated`: a host whose network reaches nothing, not even itself;
- `SendSocket.send`: one datagram and its outcome.
-/

namespace ToneLink.Net

/-- Why the system refuses a datagram. -/
inductive SendError
  | invalidArgument
  | addressNotAvailable
  | networkUnreachable
  /-- Any other reason, as the system words it. -/
  | other (report : String)
  deriving DecidableEq, Repr

/-- What the system reports. -/
def SendError.message : SendError → String
  | .invalidArgument => "Invalid argument (os error 22)"
  | .addressNotAvailable => "Cannot assign requested address (os error 99)"
  | .networkUnreachable => "Network is unreachable (os error 101)"
  | .other report => report

/-- The answer to one datagram. -/
inductive Reply
  /-- So many bytes were taken. -/
  | took (count : Nat)
  | refused (reason : SendError)
  deriving DecidableEq, Repr

/-- A network answers every datagram sent to an endpoint. -/
abbrev Network := Endpoint → Bytes → Reply

/-- Whether datagrams to an address travel by version six. An address of version six may stand for
one of version four. -/
def IpAddress.travelsByV6 : IpAddress → Bool
  | .v4 .. => false
  | .v6 groups => groups.take 6 ≠ [0, 0, 0, 0, 0, 0xFFFF]

/-- A host without a working network. Port zero is refused first; the host has no address of version
six to send from, and by version four it reaches nothing. -/
def isolated : Network := fun e _ =>
  if e.port = 0 then .refused .invalidArgument
  else if e.address.travelsByV6 then .refused .addressNotAvailable
  else .refused .networkUnreachable

/-- What became of a datagram. -/
inductive Outcome
  | sent (count : Nat)
  | short (count expected : Nat)
  | failed
  deriving DecidableEq, Repr

/-- A socket for sending, with its totals. -/
structure SendSocket where
  destination : Endpoint
  packets : Nat := 0
  bytes : Nat := 0
  shortSends : Nat := 0
  deriving DecidableEq, Repr

namespace SendSocket

/-- How often progress is logged, in packets. -/
def progressEvery : Nat := 500

/-- What is logged when a socket has been opened at an address of its own. -/
def openedEntry (ownAddress : String) : Log.Entry :=
  ⟨.debug, .sendSocket, "UDP socket bound to " ++ ownAddress⟩

/-- Sends a datagram, to which the network gives an answer. -/
def send (s : SendSocket) (datagram : Bytes) (reply : Reply) :
    Outcome × SendSocket × List Log.Entry :=
  match reply with
  | .refused reason =>
    (.failed, s,
      [⟨.error, .sendSocket, s!"Failed to send to {s.destination.text}: {reason.message}"⟩])
  | .took count =>
    if count = datagram.length then
      let s := { s with packets := s.packets + 1, bytes := s.bytes + count }
      let progress : List Log.Entry :=
        if s.packets % progressEvery = 0 then
          [⟨.debug, .sendSocket,
            s!"Sent {s.packets} packets ({s.bytes} bytes) to {s.destination.text}"⟩]
        else []
      (.sent count, s, progress)
    else
      (.short count datagram.length,
        { s with shortSends := s.shortSends + 1, bytes := s.bytes + count },
        [⟨.warn, .sendSocket, s!"Short send: {count} of {datagram.length} bytes"⟩])

/-- Sends datagrams one after another. -/
def sendAll (network : Network) (s : SendSocket) :
    List Bytes → List Outcome × SendSocket × List Log.Entry
  | [] => ([], s, [])
  | d :: ds =>
    let (outcome, s, log) := s.send d (network s.destination d)
    let (outcomes, s, later) := sendAll network s ds
    (outcome :: outcomes, s, log ++ later)

end SendSocket

end ToneLink.Net
