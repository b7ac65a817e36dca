import ToneLink.Packet

/-!
# Packets and datagrams correspond one to one

Every packet with audio has exactly one datagram, and every datagram that is longer than a header
comes from exactly one packet. What is not longer than a header is refused, so a packet without
audio has a datagram, but the datagram no packet.

- `bigEndian`: the number that bytes stand for, the most significant of them first;
- `Packet.encodeInto_eq`: a reused buffer leaves no trace;
- `Packet.decode_of_length_le`, `Packet.exists_decode_of_lt_length`: what is refused and what is
  not;
- `Packet.codec_bijective`: the correspondence.
-/

namespace ToneLink

/-! ## Words as numbers -/

/-- The number that bytes stand for, the most significant of them first. -/
def bigEndian (bytes : Bytes) : Nat := bytes.foldl (fun n byte => n * 256 + byte.toNat) 0

/-- A word is written with its most significant byte first. -/
@[simp] theorem bigEndian_word32BE (w : UInt32) : bigEndian (word32BE w) = w.toNat := by
  have hword := w.toNat_lt
  simp only [bigEndian, word32BE, List.foldl_cons, List.foldl_nil, UInt8.toNat_ofNat']
  omega

namespace Packet

/-! ## Encoding -/

/-- Whatever a buffer held, it holds the datagram afterwards and nothing else. -/
theorem encodeInto_eq (p : Packet) (buffer : Bytes) : p.encodeInto buffer = p.encode := by
  simp only [encodeInto, cleared_eq_nil, List.nil_append, encode, Header.encode]

/-- The parts of a datagram: three words of four bytes each, then the audio. -/
theorem encode_parts (p : Packet) :
    p.encode.take 4 = word32BE p.header.sequence ∧
      (p.encode.drop 4).take 4 = word32BE p.header.sampleCounter ∧
      (p.encode.drop 8).take 4 = word32BE p.header.timestamp ∧ p.encode.drop 12 = p.payload :=
  ⟨rfl, rfl, rfl, rfl⟩

/-- A datagram that is cut behind its header is the datagram of a packet with less audio. -/
theorem encode_take (p : Packet) (count : Nat) :
    p.encode.take (Header.size + count) = encode ⟨p.header, p.payload.take count⟩ := by
  rw [encode, ← p.header.length_encode, List.take_length_add_append]
  rfl

/-! ## Decoding -/

/-- What is not longer than a header is refused, with its length. -/
theorem decode_of_length_le {datagram : Bytes} (h : datagram.length ≤ 12) :
    decode datagram = .error ⟨datagram.length⟩ := by
  unfold decode
  split
  · -- the thirteen bytes of a packet are too many
    simp only [List.length_cons] at h
    omega
  · rfl

/-- What is longer than a header is a packet with audio. -/
theorem exists_decode_of_lt_length {datagram : Bytes} (h : 12 < datagram.length) :
    ∃ p, decode datagram = .ok p ∧ p.payload ≠ [] := by
  match datagram, h with
  | _ :: _ :: _ :: _ :: _ :: _ :: _ :: _ :: _ :: _ :: _ :: _ :: first :: rest, _ =>
    exact ⟨_, rfl, List.cons_ne_nil first rest⟩

/-- A packet comes back from its datagram, unless it has no audio. -/
theorem decode_encode_eq (p : Packet) :
    decode p.encode = if p.payload = [] then .error ⟨12⟩ else .ok p := by
  by_cases haudio : p.payload = []
  · have hlength : p.encode.length = 12 := by rw [length_encode, haudio]; rfl
    rw [if_pos haudio, decode_of_length_le (Nat.le_of_eq hlength), hlength]
  · rw [if_neg haudio]
    exact decode_encode p haudio

/-! ## The correspondence -/

/-- **Packets with audio and datagrams longer than a header correspond one to one.** A packet has
the same datagram in a buffer of its own and in any reused one: the three numbers of its header,
four bytes each and the most significant first, and then its audio. Decoding gives the packet back,
unless it has no audio; then the twelve bytes are refused. Conversely exactly the datagrams of at
most twelve bytes are refused, with their length, and every other one is the datagram of the packet
that it decodes to, which has audio. Hence no two packets with audio share a datagram. -/
theorem codec_bijective :
    (∀ (p : Packet) (buffer : Bytes),
      p.encodeInto buffer = p.encode ∧
      p.encode.length = 12 + p.payload.length ∧
      bigEndian (p.encode.take 4) = p.header.sequence.toNat ∧
      bigEndian ((p.encode.drop 4).take 4) = p.header.sampleCounter.toNat ∧
      bigEndian ((p.encode.drop 8).take 4) = p.header.timestamp.toNat ∧
      p.encode.drop 12 = p.payload ∧
      decode p.encode = if p.payload = [] then .error ⟨12⟩ else .ok p) ∧
    (∀ datagram : Bytes,
      (datagram.length ≤ 12 ↔ ∃ u, decode datagram = .error u) ∧
      (∀ u, decode datagram = .error u → u = ⟨datagram.length⟩) ∧
      (12 < datagram.length →
        ∃ p, decode datagram = .ok p ∧ p.payload ≠ [] ∧ p.encode = datagram)) ∧
    ∀ p q : Packet, p.payload ≠ [] → q.payload ≠ [] → p.encode = q.encode → p = q := by
  refine ⟨?_, ?_, ?_⟩
  · intro p buffer
    obtain ⟨hsequence, hcounter, htimestamp, hpayload⟩ := p.encode_parts
    rw [hsequence, hcounter, htimestamp, bigEndian_word32BE, bigEndian_word32BE,
      bigEndian_word32BE]
    exact ⟨p.encodeInto_eq buffer, p.length_encode, rfl, rfl, rfl, hpayload, p.decode_encode_eq⟩
  · intro datagram
    rcases Nat.lt_or_ge 12 datagram.length with hlong | hshort
    · obtain ⟨p, hdecode, haudio⟩ := exists_decode_of_lt_length hlong
      have hnever : ∀ u, decode datagram ≠ .error u := by
        intro u herror
        rw [hdecode] at herror
        cases herror
      refine ⟨?_, ?_, ?_⟩
      · constructor
        · intro hle
          omega
        · rintro ⟨u, herror⟩
          exact absurd herror (hnever u)
      · intro u herror
        exact absurd herror (hnever u)
      · intro _
        exact ⟨p, hdecode, haudio, encode_of_decode hdecode⟩
    · have herror := decode_of_length_le hshort
      refine ⟨?_, ?_, ?_⟩
      · constructor
        · intro _
          exact ⟨_, herror⟩
        · intro _
          exact hshort
      · intro u hu
        rw [herror] at hu
        cases hu
        rfl
      · intro hlt
        omega
  · -- two packets with one datagram are both what it decodes to
    intro p q hp hq hencode
    have hboth : Except.ok (ε := Undersized) p = .ok q := by
      rw [← decode_encode p hp, hencode, decode_encode q hq]
    cases hboth
    rfl

/-- A packet with one byte of audio, written over a longer one. Its thirteen bytes decode to it and
to no other packet, and twelve of them do not decode. -/
theorem codec_bijective_at_boundary :
    let p : Packet := ⟨⟨0x01020304, 882, 0xAABBCCDD⟩, [9]⟩
    let datagram : Bytes := [1, 2, 3, 4, 0, 0, 3, 0x72, 0xAA, 0xBB, 0xCC, 0xDD, 9]
    p.encodeInto (List.replicate 64 7) = datagram ∧
      12 < datagram.length ∧ p.payload ≠ [] ∧
      (∃ q, decode datagram = .ok q ∧ q.payload ≠ [] ∧ q.encode = datagram ∧ p = q) ∧
      (datagram.take 12).length ≤ 12 ∧ ∃ u, decode (datagram.take 12) = .error u := by
  intro p datagram
  have hlong : 12 < datagram.length := by decide
  have hshort : (datagram.take 12).length ≤ 12 := by decide
  have haudio : p.payload ≠ [] := by decide
  have hdatagram : p.encode = datagram := by decide
  obtain ⟨hencode, hdecode, hinjective⟩ := codec_bijective
  obtain ⟨q, hq, haudio', hback⟩ := (hdecode datagram).2.2 hlong
  exact ⟨(hencode p _).1.trans hdatagram, hlong, haudio,
    ⟨q, hq, haudio', hback, hinjective p q haudio haudio' (hdatagram.trans hback.symm)⟩,
    hshort, (hdecode (datagram.take 12)).1.mp hshort⟩

end Packet

end ToneLink
