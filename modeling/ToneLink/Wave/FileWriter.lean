import ToneLink.Disk
import ToneLink.Wave.Header

/-!
# Wave files on a disk

The library as it behaves on a disk on which a file takes everything and a full device takes
nothing. What is written is held back in memory first, so a full device is noticed late. Only
samples of 16 bits are written.

- `Wave.FileWriter`: a file that is being written;
- `Wave.onDisk`: the library.
-/

namespace ToneLink.Wave

/-- A file that is being written. -/
structure FileWriter where
  spec : Spec
  target : Disk.Target
  /-- Everything written so far, in order. -/
  written : Array UInt8
  deriving DecidableEq

namespace FileWriter

/-- What the system reports of a full device. -/
def noSpace : Error := .system Disk.Error.noSpace.message

/-- Opens a file, empties it and writes the header. -/
def create (openFile : Disk.Opener) (path : String) (spec : Spec) (previous : Bytes) :
    Except Error FileWriter :=
  match openFile path with
  | .error e => .error (.system e.message)
  | .ok target =>
    if spec.bitsPerSample = 16 ∧ spec.sampleFormat = .whole then
      .ok ⟨spec, target, (cleared previous ++ header (formatBody spec) 0 0).toArray⟩
    else .error .unsupported

/-- Whether one more sample can be written. On a full device writes succeed as long as they stay in
memory. -/
def canWrite (w : FileWriter) : Bool :=
  match w.target with
  | .file => true
  | .fullDevice => w.written.size + w.spec.sampleWidth ≤ Disk.writeBuffer

/-- Writes one sample. -/
def writeSample (w : FileWriter) (s : Int16) : Except Error Unit × FileWriter :=
  if w.canWrite then (.ok (), { w with written := w.written ++ sampleBytes s })
  else (.error noSpace, w)

/-- The file once it has ended. A full device keeps nothing. -/
def file (w : FileWriter) : Bytes :=
  match w.target with
  | .file => closed (formatBody w.spec) w.written.toList
  | .fullDevice => []

/-- Samples written so far. -/
def samples (w : FileWriter) : Nat :=
  (w.written.size - headerSize (formatBody w.spec)) / w.spec.sampleWidth

/-- Ends the file. It is complete if the last frame is. -/
def finalize (w : FileWriter) : Except Error Unit × Bytes :=
  match w.target with
  | .fullDevice => (.error noSpace, w.file)
  | .file =>
    (if w.samples % w.spec.channels.toNat = 0 then .ok () else .error .unfinishedFrame, w.file)

end FileWriter

/-- The library on a disk on which paths are opened as given. -/
def onDisk (openFile : Disk.Opener) : Library where
  Writer := FileWriter
  create := FileWriter.create openFile
  writeSample := FileWriter.writeSample
  finalize := FileWriter.finalize
  drop := FileWriter.file

end ToneLink.Wave
