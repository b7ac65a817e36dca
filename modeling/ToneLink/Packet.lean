import ToneLink.Bytes

/-!
# Packets on the wire

A datagram is a header of twelve bytes and then audio. The header is three 32-bit words, most
significant byte first, that wrap around:

| bytes | field |
|---|---|
| 0 to 3 | sequence number |
| 4 to 7 | frames sent before this packet |
| 8 to 11 | sending time in microseconds |

- `Packet.encode`, `Packet.decode`: a packet and its datagram;
- `Packet.encodeInto`: the datagram in a buffer that was used before;
- `decode_encode`, `encode_of_decode`: the two are inverse to each other, an empty payload apart:
  a datagram that holds a header alone is refused.
-/

namespace ToneLink

/-- What a sender says about a packet. -/
structure Header where
  /-- One more for every packet. -/
  sequence : UInt32 := 0
  /-- Frames sent before this packet. -/
  sampleCounter : UInt32 := 0
  /-- Sending time in microseconds. -/
  timestamp : UInt32 := 0
  deriving DecidableEq, Repr

/-- A header and the audio that follows it. -/
structure Packet where
  header : Header
  payload : Bytes
  deriving DecidableEq, Repr

/-- A datagram that is not longer than a header. -/
structure Undersized where
  length : Nat
  deriving DecidableEq, Repr

namespace Header

/-- Bytes of a header. -/
def size : Nat := 12

/-- The three words of a header. -/
def encode (h : Header) : Bytes :=
  word32BE h.sequence ++ word32BE h.sampleCounter ++ word32BE h.timestamp

@[simp] theorem length_encode (h : Header) : h.encode.length = size := rfl

end Header

/-- What is reported about an undersized datagram. -/
def Undersized.message (u : Undersized) : String :=
  s!"undersized packet: {u.length} bytes (header alone is {Header.size})"

namespace Packet

/-- Longest datagram that UDP carries over IPv4. -/
def maxDatagram : Nat := 65507

/-- The datagram of a packet. -/
def encode (p : Packet) : Bytes := p.header.encode ++ p.payload

/-- Writes a packet's datagram into a reused buffer. The buffer is cleared, and then one field after
another is appended to it. -/
def encodeInto (p : Packet) (buffer : Bytes) : Bytes :=
  let buffer := cleared buffer
  let buffer := buffer ++ word32BE p.header.sequence
  let buffer := buffer ++ word32BE p.header.sampleCounter
  let buffer := buffer ++ word32BE p.header.timestamp
  buffer ++ p.payload

/-- Splits a datagram into header and audio. At least one byte of audio has to follow. -/
def decode : Bytes → Except Undersized Packet
  | s₀ :: s₁ :: s₂ :: s₃ :: c₀ :: c₁ :: c₂ :: c₃ :: t₀ :: t₁ :: t₂ :: t₃ :: first :: rest =>
    .ok ⟨⟨ofWord32BE s₀ s₁ s₂ s₃, ofWord32BE c₀ c₁ c₂ c₃, ofWord32BE t₀ t₁ t₂ t₃⟩, first :: rest⟩
  | datagram => .error ⟨datagram.length⟩

@[simp] theorem length_encode (p : Packet) : p.encode.length = Header.size + p.payload.length := by
  simp [encode]

/-! ### Encoding and decoding are inverse -/

/-- A packet with audio comes back from its datagram. -/
theorem decode_encode (p : Packet) (h : p.payload ≠ []) : decode p.encode = .ok p := by
  obtain ⟨⟨s, c, t⟩, payload⟩ := p
  cases payload with
  | nil => exact absurd rfl h
  | cons first rest =>
    simp only [encode, Header.encode, word32BE, List.cons_append, List.nil_append, decode,
      ofWord32BE_bytes]

/-- A datagram that decodes is the datagram of the packet it decodes to. -/
theorem encode_of_decode {datagram : Bytes} {p : Packet} (h : decode datagram = .ok p) :
    p.encode = datagram := by
  unfold decode at h
  split at h
  · cases h
    simp [encode, Header.encode, word32BE_ofWord32BE]
  · cases h

end Packet

end ToneLink
