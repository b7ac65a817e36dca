/-!
# Bytes, words and samples

What travels in a datagram and waits in the jitter queue is a list of bytes. This module holds
the fixed-width encodings that the wire, the sound device and the wave file share.

- `Bytes`, `silence n`: byte strings, and `n` zero bytes of them;
- `word32BE`, `ofWord32BE`: a 32-bit word with its most significant byte first (packet headers);
- `word16LE`, `word32LE`: words with their least significant byte first (wave headers);
- `sampleBytes`, `samplesOfBytes`: signed 16-bit samples, least significant byte first;
- `cleared`, `resized`, `overwrite`: what becomes of a reused buffer.
-/

namespace ToneLink

/-- A string of bytes. -/
abbrev Bytes := List UInt8

/-- `n` zero bytes: digital silence. -/
def silence (n : Nat) : Bytes := List.replicate n 0

@[simp] theorem length_silence (n : Nat) : (silence n).length = n := by simp [silence]

theorem silence_append (m n : Nat) : silence m ++ silence n = silence (m + n) :=
  List.replicate_append_replicate

/-! ### Words -/

/-- A 32-bit word, most significant byte first. -/
def word32BE (w : UInt32) : Bytes :=
  [UInt8.ofNat (w.toNat / 0x1000000), UInt8.ofNat (w.toNat / 0x10000),
   UInt8.ofNat (w.toNat / 0x100), UInt8.ofNat w.toNat]

/-- The 32-bit word whose bytes, most significant first, are `a b c d`. -/
def ofWord32BE (a b c d : UInt8) : UInt32 :=
  UInt32.ofNat (a.toNat * 0x1000000 + b.toNat * 0x10000 + c.toNat * 0x100 + d.toNat)

/-- A 32-bit word, least significant byte first. -/
def word32LE (w : UInt32) : Bytes := (word32BE w).reverse

/-- A 16-bit word, least significant byte first. -/
def word16LE (w : UInt16) : Bytes :=
  [UInt8.ofNat w.toNat, UInt8.ofNat (w.toNat / 0x100)]

@[simp] theorem length_word32BE (w : UInt32) : (word32BE w).length = 4 := rfl

/-- A word comes back from its bytes. -/
theorem ofWord32BE_bytes (w : UInt32) :
    ofWord32BE (UInt8.ofNat (w.toNat / 0x1000000)) (UInt8.ofNat (w.toNat / 0x10000))
      (UInt8.ofNat (w.toNat / 0x100)) (UInt8.ofNat w.toNat) = w := by
  apply UInt32.toNat_inj.mp
  have h := w.toNat_lt
  simp only [ofWord32BE, UInt8.toNat_ofNat', UInt32.toNat_ofNat']
  omega

/-- Bytes come back from the word they make. -/
theorem word32BE_ofWord32BE (a b c d : UInt8) : word32BE (ofWord32BE a b c d) = [a, b, c, d] := by
  have ha := a.toNat_lt
  have hb := b.toNat_lt
  have hc := c.toNat_lt
  have hd := d.toNat_lt
  simp only [word32BE, ofWord32BE, UInt32.toNat_ofNat', List.cons.injEq, and_true]
  refine ⟨?_, ?_, ?_, ?_⟩ <;>
    (apply UInt8.toNat_inj.mp; simp only [UInt8.toNat_ofNat']; omega)

@[simp] theorem length_word32LE (w : UInt32) : (word32LE w).length = 4 := rfl

@[simp] theorem length_word16LE (w : UInt16) : (word16LE w).length = 2 := rfl

/-! ### Samples -/

/-- A signed 16-bit sample as it travels: least significant byte first. -/
def sampleBytes (s : Int16) : Bytes := word16LE s.toUInt16

/-- The sample whose low byte is `lo` and whose high byte is `hi`. -/
def ofSampleBytes (lo hi : UInt8) : Int16 :=
  (UInt16.ofNat (lo.toNat + hi.toNat * 0x100)).toInt16

/-- Reads whole samples; an odd byte at the end is left over and ignored. -/
def samplesOfBytes : Bytes → List Int16
  | lo :: hi :: rest => ofSampleBytes lo hi :: samplesOfBytes rest
  | _ => []

@[simp] theorem length_sampleBytes (s : Int16) : (sampleBytes s).length = 2 := rfl

/-- A sample comes back from its bytes. -/
theorem ofSampleBytes_bytes (s : Int16) :
    ofSampleBytes (UInt8.ofNat s.toUInt16.toNat) (UInt8.ofNat (s.toUInt16.toNat / 0x100)) = s := by
  have h := s.toUInt16.toNat_lt
  have hv : UInt16.ofNat (s.toUInt16.toNat % 256 + s.toUInt16.toNat / 0x100 % 256 * 0x100)
      = s.toUInt16 := by
    apply UInt16.toNat_inj.mp
    simp only [UInt16.toNat_ofNat']
    omega
  simp only [ofSampleBytes, UInt8.toNat_ofNat']
  exact (congrArg UInt16.toInt16 hv).trans rfl

/-- The bytes come back from the sample they make. -/
theorem sampleBytes_ofSampleBytes (lo hi : UInt8) :
    sampleBytes (ofSampleBytes lo hi) = [lo, hi] := by
  have hlo := lo.toNat_lt
  have hhi := hi.toNat_lt
  have hvalue : (ofSampleBytes lo hi).toUInt16.toNat = lo.toNat + hi.toNat * 0x100 := by
    rw [ofSampleBytes, UInt16.toUInt16_toInt16, UInt16.toNat_ofNat']
    omega
  simp only [sampleBytes, word16LE, hvalue, List.cons.injEq, and_true]
  constructor <;> (apply UInt8.toNat_inj.mp; simp only [UInt8.toNat_ofNat']; omega)

theorem length_samplesOfBytes : ∀ bs : Bytes, (samplesOfBytes bs).length = bs.length / 2
  | [] => by simp [samplesOfBytes]
  | [_] => by simp [samplesOfBytes]
  | _ :: _ :: rest => by
    have h : (rest.length + 1 + 1) / 2 = rest.length / 2 + 1 := by omega
    simp [samplesOfBytes, length_samplesOfBytes rest, h]

/-! ### Reused buffers -/

/-- A buffer that is emptied, to be appended to from the start. -/
def cleared (buffer : Bytes) : Bytes := buffer.take 0

@[simp] theorem cleared_eq_nil (buffer : Bytes) : cleared buffer = [] := List.take_zero

/-- A buffer brought to a length: cut off, or continued with zero bytes. -/
def resized (buffer : Bytes) (length : Nat) : Bytes :=
  buffer.take length ++ silence (length - buffer.length)

/-- A buffer with values written over its start. Values beyond its end are lost, and what the
values do not reach stays. -/
def overwrite {α : Type} (buffer values : List α) : List α :=
  values.take buffer.length ++ buffer.drop values.length

@[simp] theorem length_resized (buffer : Bytes) (length : Nat) :
    (resized buffer length).length = length := by
  simp only [resized, List.length_append, List.length_take, length_silence]
  omega

/-- Nothing is left of a buffer that is written over completely. -/
theorem overwrite_of_length_eq {α : Type} {buffer values : List α}
    (h : values.length = buffer.length) : overwrite buffer values = values := by
  simp [overwrite, ← h]

end ToneLink
