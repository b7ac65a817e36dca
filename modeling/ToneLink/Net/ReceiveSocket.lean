import ToneLink.Log
import ToneLink.Net.Address
import ToneLink.Packet

/-!
# Receiving datagrams

Each wait for a datagram ends after a while at the latest. A datagram that is too short to be a
packet is logged and counted and otherwise ignored; one that is longer than the buffer is cut.

- `Net.Incoming`: what a wait ends with;
- `ReceiveSocket.take`: what is made of it.
-/

namespace ToneLink.Net

/-- What a wait for a datagram ends with. -/
inductive Incoming
  | datagram (bytes : Bytes) (source : Endpoint)
  | nothing
  /-- The socket fails, for a cause as the system words it. -/
  | failed (cause : String)
  deriving DecidableEq, Repr

/-- What a wait comes to for the receiver. -/
inductive Event
  | packet (p : Packet)
  | undersized (length : Nat)
  | timedOut
  | failed (message : String)
  deriving DecidableEq, Repr

/-- A socket for receiving, with its totals. -/
structure ReceiveSocket where
  /-- Bytes of a datagram that fit into the buffer. -/
  bufferSize : Nat
  packets : Nat := 0
  bytes : Nat := 0
  dropped : Nat := 0
  deriving DecidableEq, Repr

namespace ReceiveSocket

/-- How often progress is logged, in packets. -/
def progressEvery : Nat := 500

/-- A socket that listens. The buffer takes the shortest packet at least. -/
def listening (maxDatagram : Nat) : ReceiveSocket where
  bufferSize := max maxDatagram (Header.size + 1)

/-- What is logged when a socket listens at an address. -/
def listeningEntry (address : String) : Log.Entry :=
  ⟨.info, .receiveSocket, "Listening on UDP " ++ address⟩

/-- Takes in what a wait ended with. -/
def take (s : ReceiveSocket) : Incoming → Event × ReceiveSocket × List Log.Entry
  | .nothing => (.timedOut, s, [])
  | .failed cause => (.failed ("failed to receive UDP packet: " ++ cause), s, [])
  | .datagram bytes source =>
    let seen := bytes.take s.bufferSize
    let s := { s with bytes := s.bytes + seen.length }
    match Packet.decode seen with
    | .error u =>
      (.undersized u.length, { s with dropped := s.dropped + 1 },
        [⟨.warn, .receiveSocket,
          s!"Received undersized packet ({u.length} bytes) from {source.text}"⟩])
    | .ok p =>
      let s := { s with packets := s.packets + 1 }
      let progress : List Log.Entry :=
        if s.packets % progressEvery = 0 then
          [⟨.debug, .receiveSocket,
            s!"Received {s.packets} packets ({s.bytes} bytes, {s.dropped} dropped) from "
              ++ s!"{source.text} - seq={p.header.sequence}"⟩]
        else []
      (.packet p, s, progress)

end ReceiveSocket

end ToneLink.Net
