import ToneLink.Proofs.WireCodec
import ToneLink.Wave.Header

/-!
# Wave files as they are read

A wave file consists of chunks: four letters, a length, and as many bytes. The whole file is one
such chunk, which holds a chunk with the format and one with the audio.

- `littleEndian`: the number that bytes stand for, the least significant of them first;
- `Wave.splitChunk?`, `Wave.read?`: a reader, which knows nothing of how files are written;
- `Wave.Names`: what a header has to say of the format;
- `Wave.read?_header`: what a reader finds behind a header with the right lengths;
- `Wave.patch_between`, `Wave.closed_header`: how a header gets these lengths.
-/

namespace ToneLink

/-- The number that bytes stand for, the least significant of them first. -/
def littleEndian (bytes : Bytes) : Nat := bigEndian bytes.reverse

@[simp] theorem littleEndian_word32LE (w : UInt32) : littleEndian (word32LE w) = w.toNat := by
  rw [littleEndian, word32LE, List.reverse_reverse, bigEndian_word32BE]

@[simp] theorem littleEndian_word16LE (w : UInt16) : littleEndian (word16LE w) = w.toNat := by
  have hword := w.toNat_lt
  simp only [littleEndian, bigEndian, word16LE, List.reverse_cons, List.reverse_nil,
    List.nil_append, List.cons_append, List.foldl_cons, List.foldl_nil, UInt8.toNat_ofNat']
  omega

namespace Wave

/-! ## Reading -/

/-- Splits off the body of the first chunk, if it has this name and is there in full. -/
def splitChunk? (name bytes : Bytes) : Option (Bytes × Bytes) :=
  let length := littleEndian ((bytes.drop 4).take 4)
  if bytes.take 4 = name ∧ 8 + length ≤ bytes.length then
    some ((bytes.drop 8).take length, bytes.drop (8 + length))
  else none

/-- What a wave file says. -/
structure Contents where
  channels : Nat
  sampleRate : Nat
  bitsPerSample : Nat
  audio : Bytes
  deriving DecidableEq, Repr

/-- Reads a wave file. It holds a format and then the audio, and nothing comes after either the
audio or the file's own chunk. -/
def read? (file : Bytes) : Option Contents := do
  let (body, beyond) ← splitChunk? (ascii "RIFF") file
  let (format, rest) ← splitChunk? (ascii "fmt ") (body.drop 4)
  let (audio, behind) ← splitChunk? (ascii "data") rest
  if body.take 4 = ascii "WAVE" ∧ beyond = [] ∧ behind = [] then
    some {
      channels := littleEndian ((format.drop 2).take 2)
      sampleRate := littleEndian ((format.drop 4).take 4)
      bitsPerSample := littleEndian ((format.drop 14).take 2)
      audio }
  else none

/-- A chunk that was written is read, whatever follows it. -/
theorem splitChunk?_append (name : Bytes) (hname : name.length = 4) {length : UInt32} {body : Bytes}
    (hlength : length.toNat = body.length) (rest : Bytes) :
    splitChunk? name (name ++ word32LE length ++ body ++ rest) = some (body, rest) := by
  have hprefix : (name ++ word32LE length).length = 8 := by
    rw [List.length_append, hname, length_word32LE]
  have hfield : ((name ++ word32LE length ++ body ++ rest).drop 4).take 4 = word32LE length := by
    rw [List.append_assoc, List.append_assoc, List.drop_left' hname]
    exact List.take_left' (length_word32LE length)
  have hbody : (name ++ word32LE length ++ body ++ rest).drop 8 = body ++ rest := by
    rw [List.append_assoc]
    exact List.drop_left' hprefix
  have henough : 8 + body.length ≤ (name ++ word32LE length ++ body ++ rest).length := by
    rw [List.length_append, List.length_append, hprefix]
    omega
  have htake : (name ++ word32LE length ++ body ++ rest).take 4 = name := by
    rw [List.append_assoc, List.append_assoc]
    exact List.take_left' hname
  unfold splitChunk?
  simp only [hfield, littleEndian_word32LE, hlength]
  rw [if_pos ⟨htake, henough⟩, ← List.drop_drop, hbody, List.take_left, List.drop_left]

/-! ## The header -/

/-- What a header says of a format names channels, rate and sample size where the wave format has
them. -/
structure Names (format : Bytes) (s : Spec) : Prop where
  channels : (format.drop 2).take 2 = word16LE s.channels
  sampleRate : (format.drop 4).take 4 = word32LE s.sampleRate
  bitsPerSample : (format.drop 14).take 2 = word16LE s.bitsPerSample

/-- Both forms of a format name these at the same places. -/
theorem names_formatBody (s : Spec) : Names (formatBody s) s := by
  unfold formatBody
  split <;> exact ⟨rfl, rfl, rfl⟩

theorem length_names : (ascii "RIFF").length = 4 ∧ (ascii "WAVE").length = 4 ∧
    (ascii "fmt ").length = 4 ∧ (ascii "data").length = 4 := by decide

/-- What stands before the length of the audio. -/
def beforeDataLength (format : Bytes) (riffLength : UInt32) : Bytes :=
  ascii "RIFF" ++ word32LE riffLength ++ (ascii "WAVE" ++ ascii "fmt "
    ++ word32LE (UInt32.ofNat format.length) ++ format ++ ascii "data")

theorem header_eq (format : Bytes) (riffLength dataLength : UInt32) :
    header format riffLength dataLength
      = beforeDataLength format riffLength ++ word32LE dataLength := by
  simp only [header, beforeDataLength, List.append_assoc]

theorem length_beforeDataLength (format : Bytes) (riffLength : UInt32) :
    (beforeDataLength format riffLength).length = dataLengthOffset format := by
  obtain ⟨hriff, hwave, hfmt, hdata⟩ := length_names
  simp only [beforeDataLength, List.length_append, length_word32LE, hriff, hwave, hfmt, hdata,
    dataLengthOffset, headerSize]
  omega

theorem length_header (format : Bytes) (riffLength dataLength : UInt32) :
    (header format riffLength dataLength).length = headerSize format := by
  rw [header_eq, List.length_append, length_beforeDataLength, length_word32LE, dataLengthOffset,
    headerSize]
  omega

/-- **Behind a header with the right lengths, a reader finds the format and the audio.** -/
theorem read?_header {format : Bytes} {s : Spec} (hnames : Names format s)
    (hformat : format.length < UInt32.size) {riffLength dataLength : UInt32} {audio : Bytes}
    (hriff : riffLength.toNat = headerSize format - 8 + audio.length)
    (hdata : dataLength.toNat = audio.length) :
    read? (header format riffLength dataLength ++ audio)
      = some ⟨s.channels.toNat, s.sampleRate.toNat, s.bitsPerSample.toNat, audio⟩ := by
  -- the file is one chunk, and its body is the letters and two more
  let body := ascii "WAVE" ++ (ascii "fmt " ++ word32LE (UInt32.ofNat format.length) ++ format
    ++ (ascii "data" ++ word32LE dataLength ++ audio))
  have hfile : header format riffLength dataLength ++ audio
      = ascii "RIFF" ++ word32LE riffLength ++ body ++ [] := by
    simp only [body, header, List.append_assoc, List.append_nil]
  have hlength : riffLength.toNat = body.length := by
    have hall := congrArg List.length hfile
    simp only [List.length_append, length_header, length_names.1, length_word32LE,
      List.length_nil] at hall
    rw [headerSize] at hriff hall
    omega
  have hwave : body.take 4 = ascii "WAVE" := List.take_left' (by decide)
  have hrest : body.drop 4
      = ascii "fmt " ++ word32LE (UInt32.ofNat format.length) ++ format
        ++ (ascii "data" ++ word32LE dataLength ++ audio) := List.drop_left' (by decide)
  have hfits : (UInt32.ofNat format.length).toNat = format.length :=
    UInt32.toNat_ofNat_of_lt hformat
  have houter := splitChunk?_append (ascii "RIFF") (by decide) hlength []
  have hinner := splitChunk?_append (ascii "fmt ") (by decide) hfits
    (ascii "data" ++ word32LE dataLength ++ audio)
  have haudio := splitChunk?_append (ascii "data") (by decide) hdata []
  rw [List.append_nil] at haudio
  rw [hfile]
  simp only [read?, houter, hwave, hrest, hinner, haudio, hnames.channels, hnames.sampleRate,
    hnames.bitsPerSample, littleEndian_word16LE, littleEndian_word32LE, Option.bind_eq_bind,
    Option.bind_some, and_self, if_true]

/-! ## Patching -/

/-- What is written over stands between two parts that stay. -/
theorem patch_between (before after : Bytes) {old new : Bytes} (h : old.length = new.length) :
    patch (before ++ old ++ after) before.length new = before ++ new ++ after := by
  have hbeyond : before.length + new.length = (before ++ old).length := by
    rw [List.length_append, h]
  have hdrop : (before ++ old ++ after).drop (before.length + new.length) = after := by
    rw [hbeyond]
    exact List.drop_left
  have htake : (before ++ old ++ after).take before.length = before := by
    rw [List.append_assoc]
    exact List.take_left
  rw [patch, htake, hdrop]

/-- Patching changes the lengths in a header, and nothing else. -/
theorem patch_header (format : Bytes) (riffLength dataLength riffLength' dataLength' : UInt32)
    (audio : Bytes) :
    patch (patch (header format riffLength dataLength ++ audio) riffLengthOffset
        (word32LE riffLength')) (dataLengthOffset format) (word32LE dataLength')
      = header format riffLength' dataLength' ++ audio := by
  have hfirst : patch (header format riffLength dataLength ++ audio) riffLengthOffset
      (word32LE riffLength') = header format riffLength' dataLength ++ audio := by
    have hlength : (word32LE riffLength).length = (word32LE riffLength').length := rfl
    have hriff := patch_between (ascii "RIFF")
      (ascii "WAVE" ++ ascii "fmt " ++ word32LE (UInt32.ofNat format.length) ++ format
        ++ ascii "data" ++ word32LE dataLength ++ audio) hlength
    have hoffset : (ascii "RIFF").length = riffLengthOffset := by decide
    rw [hoffset] at hriff
    simpa only [header, List.append_assoc] using hriff
  rw [hfirst, header_eq, header_eq, ← length_beforeDataLength format riffLength']
  exact patch_between _ audio rfl

/-- A file that has ended is the header with the lengths of file and audio, as far as they fit in a
word, and then the audio, whatever lengths stood in the header before. -/
theorem closed_header (format : Bytes) (riffLength dataLength : UInt32) (audio : Bytes) :
    closed format (header format riffLength dataLength ++ audio)
      = header format (UInt32.ofNat (headerSize format + audio.length - 8))
          (UInt32.ofNat audio.length) ++ audio := by
  have hlength : (header format riffLength dataLength ++ audio).length
      = headerSize format + audio.length := by
    rw [List.length_append, length_header]
  rw [closed, hlength, Nat.add_sub_cancel_left]
  exact patch_header format riffLength dataLength _ _ audio

end Wave

end ToneLink
