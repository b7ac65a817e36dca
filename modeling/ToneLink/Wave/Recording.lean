import ToneLink.Log
import ToneLink.PcmFormat
import ToneLink.Wave.Library

/-!
# Recording a stream

A recording writes the audio of a stream to a wave file, exactly as it arrives, and counts the
samples that it has written.

- `Recording.create`: creates the file;
- `Recording.append`: writes the whole samples of a payload;
- `Recording.frames`: what has been written so far, in frames;
- `Recording.finalize`: ends a recording and says whether it is complete;
- `Recording.ended`: what is left behind, for either way of ending.
-/

namespace ToneLink

/-- Why a recording fails. -/
inductive RecordingError
  | create (path : String) (cause : Wave.Error)
  | write (path : String) (cause : Wave.Error)
  | finalize (path : String) (cause : Wave.Error)
  deriving DecidableEq, Repr

namespace RecordingError

/-- What was being done. -/
def context : RecordingError → String
  | .create path _ => "failed to create WAV file: " ++ path
  | .write path _ => "failed to write " ++ path
  | .finalize path _ => "failed to finalize " ++ path

/-- What went wrong. -/
def cause : RecordingError → String
  | .create _ cause | .write _ cause | .finalize _ cause => cause.message

/-- Both in one line. -/
def message (e : RecordingError) : String := e.context ++ ": " ++ e.cause

end RecordingError

/-- A wave file that is being written, and what is counted of it. -/
structure Recording (lib : Wave.Library) where
  path : String
  channels : UInt16
  writer : lib.Writer
  /-- Samples written so far. -/
  samplesWritten : Nat := 0

namespace Recording

variable {lib : Wave.Library}

/-- What the library is told of a format: samples are whole numbers of 16 bits. -/
def spec (format : PcmFormat) : Wave.Spec where
  channels := format.channels
  sampleRate := format.sampleRate
  bitsPerSample := 16
  sampleFormat := .whole

/-- Creates the file of a recording, whatever it held before. -/
def create (lib : Wave.Library) (path : String) (format : PcmFormat) (previous : Bytes) :
    Except RecordingError (Recording lib × List Log.Entry) :=
  match lib.create path (spec format) previous with
  | .error e => .error (.create path e)
  | .ok writer =>
    .ok ({ path, channels := format.channels, writer },
      [⟨.info, .recording, "Capturing stream to " ++ path⟩])

/-- Whole frames written so far; samples of a frame may have come in different payloads. -/
def frames (r : Recording lib) : Nat := r.samplesWritten / max 1 r.channels.toNat

/-- Writes samples in order, up to the first that fails. -/
def appendSamples : Recording lib → List Int16 → Except RecordingError Unit × Recording lib
  | r, [] => (.ok (), r)
  | ⟨path, channels, writer, samplesWritten⟩, s :: rest =>
    match lib.writeSample writer s with
    | (.ok (), writer) => appendSamples ⟨path, channels, writer, samplesWritten + 1⟩ rest
    | (.error e, writer) => (.error (.write path e), ⟨path, channels, writer, samplesWritten⟩)

/-- Writes the whole samples of a payload. An odd byte at the end is not a sample. -/
def append (r : Recording lib) (payload : Bytes) : Except RecordingError Unit × Recording lib :=
  r.appendSamples (samplesOfBytes payload)

/-- Ends a recording: whether it is complete, and its file. -/
def finalize (r : Recording lib) : Except RecordingError (List Log.Entry) × Bytes :=
  match lib.finalize r.writer with
  | (.error e, file) => (.error (.finalize r.path e), file)
  | (.ok (), file) => (.ok [⟨.info, .recording, s!"Wrote {r.frames} frames to " ++ r.path⟩], file)

/-- How a recording ends. -/
inductive Ending
  /-- It is asked whether the recording is complete. -/
  | finalized
  /-- Nobody asks. -/
  | dropped
  deriving DecidableEq, Repr

/-- What a recording leaves behind. -/
structure Ended where
  path : String
  file : Bytes
  /-- The answer, if somebody asked. -/
  answer : Option (Except RecordingError (List Log.Entry))

/-- Ends a recording. -/
def ended (r : Recording lib) : Ending → Ended
  | .finalized => ⟨r.path, r.finalize.2, some r.finalize.1⟩
  | .dropped => ⟨r.path, lib.drop r.writer, none⟩

end Recording

end ToneLink
