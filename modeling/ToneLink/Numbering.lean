import ToneLink.Packet

/-!
# Numbering packets

Headers count packets and frames, both modulo 2³².

- `Numbering.next`: the header of the next packet;
- `Numbering.headers`: the headers of a run of packets, one per time stamp.
-/

namespace ToneLink

/-- What the next packet's header will say. -/
structure Numbering where
  sequence : UInt32
  sampleCounter : UInt32
  framesPerPacket : UInt32
  deriving DecidableEq, Repr

namespace Numbering

/-- Numbering that starts with given counts. Of the frames per packet only the last 32 bits matter,
since the count wraps around. -/
def startingAt (sequence sampleCounter : UInt32) (framesPerPacket : Nat) : Numbering :=
  ⟨sequence, sampleCounter, UInt32.ofNat framesPerPacket⟩

/-- Numbering of a new stream. -/
def start (framesPerPacket : Nat) : Numbering := startingAt 0 0 framesPerPacket

/-- The header of the next packet, and the numbering after it. -/
def next (n : Numbering) (timestamp : UInt32) : Header × Numbering :=
  (⟨n.sequence, n.sampleCounter, timestamp⟩,
    { n with sequence := n.sequence + 1, sampleCounter := n.sampleCounter + n.framesPerPacket })

/-- The headers of a run of packets sent at given times, and the numbering after them. -/
def headers (n : Numbering) : List UInt32 → List Header × Numbering
  | [] => ([], n)
  | t :: ts =>
    let (h, n) := n.next t
    let (hs, n) := headers n ts
    (h :: hs, n)

end Numbering

end ToneLink
