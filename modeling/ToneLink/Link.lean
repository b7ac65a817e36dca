import ToneLink.Numbering
import ToneLink.Station
import ToneLink.Tone

/-!
# A whole link

Sender and receiver without a network between them: packets are made in order and delivered in any
order, any number of times, whole or cut.

- `Link.send`: makes packets;
- `Link.deliver`, `Link.deliverAll`: hand over one of them, and many.
-/

namespace ToneLink

/-- A sender, the datagrams it has sent, and the station they are for. -/
structure Link (lib : Wave.Library) where
  payload : Bytes
  numbering : Numbering
  /-- Everything sent so far, in order. -/
  sent : Array Bytes := #[]
  station : Station lib

namespace Link

variable {lib : Wave.Library}

/-- A link over which nothing has been sent yet. -/
def opened (plan : SendPlan) (sequence sampleCounter : UInt32) (station : Station lib) :
    Link lib where
  payload := plan.payload
  numbering := .startingAt sequence sampleCounter plan.framesPerPacket
  station := station

/-- Sends one packet per time stamp; the headers sent. -/
def send (l : Link lib) (timestamps : List UInt32) : List Header × Link lib :=
  let (headers, numbering) := l.numbering.headers timestamps
  let datagrams := headers.map fun h => Packet.encode ⟨h, l.payload⟩
  (headers, { l with numbering, sent := l.sent ++ datagrams.toArray })

/-- What became of a delivered datagram. -/
structure Delivered (lib : Wave.Library) where
  link : Link lib
  log : List Log.Entry
  /-- The datagram was too short to be a packet. -/
  undersized : Option Undersized

/-- Delivers a datagram as far as it is not cut off. One that is not a packet never reaches the
station. -/
def deliver (l : Link lib) (host : JitterQueue.Host) (datagram : Bytes) (cut : Option Nat) :
    Delivered lib :=
  let seen := match cut with
    | none => datagram
    | some length => datagram.take length
  match Packet.decode seen with
  | .error u => ⟨l, [], some u⟩
  | .ok p =>
    let r := l.station.receive host p
    ⟨{ l with station := r.station }, r.log, none⟩

/-- What became of delivered datagrams. -/
structure DeliveredAll (lib : Wave.Library) where
  link : Link lib
  log : List Log.Entry := []
  undersized : List Undersized := []

/-- Delivers the datagrams at positions of the list of those sent; a position at which none stands
delivers an empty one. -/
def deliverAll (l : Link lib) (host : JitterQueue.Host) (cut : Option Nat) :
    List Nat → DeliveredAll lib
  | [] => { link := l }
  | position :: rest =>
    let d := l.deliver host (l.sent.getD position []) cut
    let later := d.link.deliverAll host cut rest
    ⟨later.link, d.log ++ later.log, d.undersized.toList ++ later.undersized⟩

end Link

end ToneLink
