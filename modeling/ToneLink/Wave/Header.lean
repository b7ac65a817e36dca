import ToneLink.Wave.Library

/-!
# Wave headers

A wave file starts with a header that names the format and gives two lengths. One or two channels
are described in the short form; more channels need the extensible form, which also says at which
speakers they belong.

- `Wave.formatFields`, `Wave.formatBody`: what a header says of the format;
- `Wave.header`: the header for given lengths;
- `Wave.closed`: a file whose header has been given its lengths.
-/

namespace ToneLink.Wave

/-- Bytes of ASCII text. -/
def ascii (text : String) : Bytes := text.toList.map fun c => UInt8.ofNat c.toNat

/-! ### Formats -/

/-- Bytes of one sample. -/
def Spec.sampleWidth (s : Spec) : Nat := (s.bitsPerSample.toNat + 7) / 8

/-- Bytes of one frame: a sample on every channel. -/
def Spec.bytesPerFrame (s : Spec) : Nat := s.sampleWidth * s.channels.toNat

/-- Whether the extensible form is needed. -/
def extensible (s : Spec) : Bool := 2 < s.channels.toNat

/-- The speakers of the first channels, one bit each; only eighteen positions have a name. -/
def speakerMask (channels : Nat) : Nat := (1 <<< min channels 18) - 1

/-- Identifies whole-number samples in the extensible form. -/
def integerSamples : Bytes :=
  [0x01, 0, 0, 0, 0, 0, 0x10, 0, 0x80, 0, 0, 0xaa, 0, 0x38, 0x9b, 0x71]

/-- The fields that both forms share. Numbers that do not fit their field wrap around. -/
def formatFields (s : Spec) (tag : UInt16) : Bytes :=
  word16LE tag ++ word16LE s.channels ++ word32LE s.sampleRate
    ++ word32LE (UInt32.ofNat (s.sampleRate.toNat * s.bytesPerFrame))
    ++ word16LE (UInt16.ofNat s.bytesPerFrame) ++ word16LE s.bitsPerSample

/-- What the header says of the format. -/
def formatBody (s : Spec) : Bytes :=
  if extensible s then
    formatFields s 0xFFFE ++ word16LE 22 ++ word16LE s.bitsPerSample
      ++ word32LE (UInt32.ofNat (speakerMask s.channels.toNat)) ++ integerSamples
  else formatFields s 1

/-! ### Headers -/

/-- The header with given lengths, around what it says of the format. -/
def header (format : Bytes) (riffLength dataLength : UInt32) : Bytes :=
  ascii "RIFF" ++ word32LE riffLength ++ ascii "WAVE"
    ++ ascii "fmt " ++ word32LE (UInt32.ofNat format.length) ++ format
    ++ ascii "data" ++ word32LE dataLength

/-- Size of the header. -/
def headerSize (format : Bytes) : Nat := 28 + format.length

/-- Where the length of what follows the first eight bytes stands. -/
def riffLengthOffset : Nat := 4

/-- Where the length of the audio stands: in the header's last four bytes. -/
def dataLengthOffset (format : Bytes) : Nat := headerSize format - 4

/-- Writes `bytes` over those at `offset`. -/
def patch (file : Bytes) (offset : Nat) (bytes : Bytes) : Bytes :=
  file.take offset ++ bytes ++ file.drop (offset + bytes.length)

/-- A file of which everything has been written, with the lengths in its header. -/
def closed (format written : Bytes) : Bytes :=
  let riffLength := UInt32.ofNat (written.length - 8)
  let dataLength := UInt32.ofNat (written.length - headerSize format)
  patch (patch written riffLengthOffset (word32LE riffLength))
    (dataLengthOffset format) (word32LE dataLength)

end ToneLink.Wave
