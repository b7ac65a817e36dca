import ToneLink.Numbering

/-!
# The packets of a stream

One numbering heads all packets of a stream, and both of its counts wrap around. The header of each
packet follows from its position alone:

- `Numbering.headers_getElem?`: the closed form of the `k`-th header;
- `Numbering.packets`, `Numbering.datagrams`: the packets of a stream and how they are sent;
- `Numbering.decode_datagram`: what a receiver makes of the `k`-th datagram.
-/

namespace ToneLink

namespace Numbering

/-- The header of the packet at a position of the stream. -/
def headerAt (n : Numbering) (position : Nat) (timestamp : UInt32) : Header where
  sequence := n.sequence + UInt32.ofNat position
  sampleCounter := n.sampleCounter + UInt32.ofNat position * n.framesPerPacket
  timestamp := timestamp

theorem headerAt_zero (n : Numbering) (timestamp : UInt32) :
    n.headerAt 0 timestamp = (n.next timestamp).1 := by
  simp [headerAt, next]

/-- A position counts from the first packet on or from the second. -/
theorem headerAt_next (n : Numbering) (first timestamp : UInt32) (position : Nat) :
    (n.next first).2.headerAt position timestamp = n.headerAt (position + 1) timestamp := by
  have hone : (1 : UInt32) + UInt32.ofNat position = UInt32.ofNat (position + 1) := by
    rw [Nat.add_comm, UInt32.ofNat_add]
    rfl
  simp only [headerAt, next, UInt32.add_assoc, hone, Header.mk.injEq, true_and, and_true]
  rw [← hone, UInt32.add_mul, UInt32.one_mul]

/-- **Each header follows from its position.** -/
theorem headers_getElem? (n : Numbering) (timestamps : List UInt32) (position : Nat) :
    (n.headers timestamps).1[position]?
      = timestamps[position]?.map (n.headerAt position) := by
  induction timestamps generalizing n position with
  | nil => rfl
  | cons t rest ih =>
    cases position with
    | zero =>
      show some (n.next t).1 = some (n.headerAt 0 t)
      rw [headerAt_zero]
    | succ position =>
      show ((n.next t).2.headers rest).1[position]? = rest[position]?.map _
      rw [ih]
      exact congrArg (rest[position]?.map ·) (funext fun s => headerAt_next n t s position)

/-- The packets of a stream, each with its time stamp and its audio. -/
def packets (n : Numbering) (loads : List (UInt32 × Bytes)) : List Packet :=
  List.zipWith (fun header load => ⟨header, load.2⟩) (n.headers (loads.map Prod.fst)).1 loads

/-- The packets as they are sent. -/
def datagrams (n : Numbering) (loads : List (UInt32 × Bytes)) : List Bytes :=
  (n.packets loads).map Packet.encode

theorem packets_getElem? (n : Numbering) (loads : List (UInt32 × Bytes)) (position : Nat) :
    (n.packets loads)[position]?
      = loads[position]?.map fun load => ⟨n.headerAt position load.1, load.2⟩ := by
  rw [packets, List.getElem?_zipWith, headers_getElem?, List.getElem?_map]
  cases loads[position]? <;> rfl

/-- The packet at every position of a stream arrives with its header and its audio. -/
theorem decode_datagram (n : Numbering) (loads : List (UInt32 × Bytes)) {position : Nat}
    (h : position < loads.length) (haudio : (loads[position]).2 ≠ []) :
    Packet.decode ((n.datagrams loads).getD position [])
      = .ok ⟨n.headerAt position (loads[position]).1, (loads[position]).2⟩ := by
  have hsent : (n.datagrams loads)[position]?
      = some (Packet.encode ⟨n.headerAt position (loads[position]).1, (loads[position]).2⟩) := by
    rw [datagrams, List.getElem?_map, packets_getElem?, List.getElem?_eq_getElem h]
    rfl
  rw [List.getD_eq_getElem?_getD, hsent]
  exact Packet.decode_encode _ haudio

end Numbering

end ToneLink
