import ToneLink.Metrics
import ToneLink.Net.SendSocket
import ToneLink.Numbering
import ToneLink.Tone

/-!
# Streaming a tone

The sending side at work: the tone table is made once, and every packet carries it under a fresh
header. What cannot be sent is counted and skipped.

- `Streaming`: the state of a running sender;
- `Streaming.datagram`: what is sent next;
- `Streaming.sendNext`, `Streaming.sendAll`: one datagram sent, and many;
- `Streaming.startEntry`, `Streaming.stopEntry`: what is logged at the start and at the end.
-/

namespace ToneLink

open Number Net

/-- What was sent in a run. -/
structure SendTotals where
  packets : Nat := 0
  bytes : Nat := 0
  shortSends : Nat := 0
  failedSends : Nat := 0
  deriving DecidableEq, Repr

namespace SendTotals

/-- Enters what became of a packet. -/
def enter (t : SendTotals) : Outcome → SendTotals
  | .sent count => { t with packets := t.packets + 1, bytes := t.bytes + count }
  | .short count _ => { t with shortSends := t.shortSends + 1, bytes := t.bytes + count }
  | .failed => { t with failedSends := t.failedSends + 1 }

end SendTotals

/-- The state of a running sender. -/
structure Streaming where
  plan : SendPlan
  payload : Bytes
  numbering : Numbering
  socket : SendSocket
  totals : SendTotals := {}
  metrics : Metrics := {}

namespace Streaming

/-- A sender that has not sent anything yet. -/
def start (plan : SendPlan) (destination : Endpoint) : Streaming where
  plan := plan
  payload := plan.payload
  numbering := .start plan.framesPerPacket
  socket := { destination }

/-- What is logged before the first packet. -/
def startEntry (s : Streaming) : Log.Entry :=
  ⟨.info, .sender,
    "Streaming " ++ fixedText 1 s.plan.frequency ++ " Hz tone: "
      ++ s!"{s.plan.framesPerPacket} samples/packet, {s.payload.length} byte payload every "
      ++ fixedText 1 s.plan.packetMillis ++ " ms"⟩

/-- Enters what became of a packet into the metrics. -/
def countOutcome (m : Metrics) : Outcome → Metrics
  | .sent count => (m.add .packetsSent 1).add .bytesSent count
  | .short count _ => (m.add .shortSends 1).add .bytesSent count
  | .failed => m

/-- The next datagram, with the sending time in microseconds that its header shows. -/
def datagram (s : Streaming) (timestamp : UInt32) : Bytes :=
  Packet.encode ⟨(s.numbering.next timestamp).1, s.payload⟩

/-- Sends the next datagram. -/
def sendNext (network : Network) (s : Streaming) (timestamp : UInt32) :
    Streaming × List Log.Entry :=
  let datagram := s.datagram timestamp
  let (outcome, socket, log) := s.socket.send datagram (network s.socket.destination datagram)
  ({ s with
      socket
      numbering := (s.numbering.next timestamp).2
      totals := s.totals.enter outcome
      metrics := countOutcome s.metrics outcome }, log)

/-- Sends one datagram per sending time. -/
def sendAll (network : Network) (s : Streaming) : List UInt32 → Streaming × List Log.Entry
  | [] => (s, [])
  | t :: ts =>
    let (s, log) := s.sendNext network t
    let (s, later) := sendAll network s ts
    (s, log ++ later)

/-- What is logged after the last packet. -/
def stopEntry (s : Streaming) : Log.Entry :=
  let t := s.totals
  ⟨.info, .sender,
    s!"Stopped tone stream after {t.packets} packets ({t.bytes} bytes, {t.shortSends} short, "
      ++ s!"{t.failedSends} failed)"⟩

end Streaming

end ToneLink
