import ToneLink.Bytes

/-!
# Writing wave files

Wave files are written by a library. A writer is created for a path, takes one sample at a time, and
ends the file when it is finalized or when it is let go. This module says what there is to be
called, and nothing about what comes of it.

- `Wave.Spec`: what a writer is told about the samples;
- `Wave.Error`: why the library refuses;
- `Wave.Library`: the calls.
-/

namespace ToneLink.Wave

/-- The kinds of samples. -/
inductive SampleFormat
  | whole
  | floating
  deriving DecidableEq, Repr

/-- What a writer is told about the samples. -/
structure Spec where
  channels : UInt16
  sampleRate : UInt32
  bitsPerSample : UInt16
  sampleFormat : SampleFormat
  deriving DecidableEq, Repr

/-- Why the library refuses. -/
inductive Error
  /-- The system refuses, as it reports. -/
  | system (report : String)
  /-- The last frame lacks samples. -/
  | unfinishedFrame
  /-- Samples of this form cannot be written. -/
  | unsupported
  deriving DecidableEq, Repr

/-- The wording of an error. -/
def Error.message : Error → String
  | .system report => report
  | .unfinishedFrame => "The number of samples written is not a multiple of the number of channels."
  | .unsupported => "The wave format of the file is not supported."

/-- The library. -/
structure Library where
  /-- A file that is being written. -/
  Writer : Type
  /-- Creates the file at a path, which may have held `previous` before. -/
  create : (path : String) → Spec → (previous : Bytes) → Except Error Writer
  /-- Writes one sample. A writer that fails may be used again. -/
  writeSample : Writer → Int16 → Except Error Unit × Writer
  /-- Ends a file: the answer, and the file as it is left behind. -/
  finalize : Writer → Except Error Unit × Bytes
  /-- The file that is left behind by a writer that is let go. -/
  drop : Writer → Bytes

end ToneLink.Wave
