import ToneLink.Proofs.WaveFile
import ToneLink.Wave.FileWriter

/-!
# What is known of the library for wave files

The library is not part of this development, so what is proved of recordings is proved for every
library that does what its documentation says. That is said here call by call: a new file holds a
header whose lengths say nothing yet, a sample adds two bytes, and at the end the lengths are
written into the header. None of it speaks of more than one call.

- `Wave.Library.View`: what can be seen of a writer;
- `Wave.Library.Documented`: the documented behaviour of each call;
- `Wave.Library.Takes`: a writer that never fails;
- `Wave.onDisk_documented`: files on a disk behave so.
-/

namespace ToneLink.Wave

namespace Library

/-- What can be seen of a writer. -/
structure View (lib : Library) where
  /-- What it was told about the samples. -/
  spec : lib.Writer → Spec
  /-- What has been written through it, header included. -/
  written : lib.Writer → Bytes
  /-- Whether the system takes whatever is written through it. -/
  works : lib.Writer → Prop

namespace View

variable {lib : Library} (view : lib.View)

/-- Samples written so far, behind a header with this of the format. -/
def samples (layout : Spec → Bytes) (w : lib.Writer) : Nat :=
  ((view.written w).length - headerSize (layout (view.spec w))) / (view.spec w).sampleWidth

/-- The file of a writer once it has ended. -/
def closed (layout : Spec → Bytes) (w : lib.Writer) : Bytes :=
  Wave.closed (layout (view.spec w)) (view.written w)

end View

/-- The documented behaviour, as far as samples are whole numbers of 16 bits. `layout` is what a
header says of the format. -/
structure Documented (lib : Library) (layout : Spec → Bytes) (view : lib.View) : Prop where
  /-- A header says what the writer was told. -/
  names : ∀ s, Names (layout s) s
  /-- A new file holds a header and nothing of what it held before. -/
  create : ∀ {path : String} {s : Spec} {previous : Bytes} {w : lib.Writer},
    lib.create path s previous = .ok w → view.spec w = s ∧
      ∃ riffLength dataLength, view.written w = header (layout s) riffLength dataLength
  /-- A sample is written as two bytes, the less significant one first. -/
  writeSample : ∀ {w : lib.Writer}, view.works w →
    (view.spec w).bitsPerSample = 16 → (view.spec w).sampleFormat = .whole →
      ∀ s, ∃ later, lib.writeSample w s = (.ok (), later) ∧ view.works later ∧
        view.spec later = view.spec w ∧ view.written later = view.written w ++ sampleBytes s
  /-- Finalizing writes the lengths into the header, whatever it answers. -/
  finalize_file : ∀ {w : lib.Writer}, view.works w → (lib.finalize w).2 = view.closed layout w
  /-- Finalizing complains of samples that do not make up whole frames, and of nothing else. -/
  finalize_answer : ∀ {w : lib.Writer}, view.works w → 0 < (view.spec w).channels.toNat →
    (view.written w).length < UInt32.size →
      (lib.finalize w).1
        = if view.samples layout w % (view.spec w).channels.toNat = 0 then .ok ()
          else .error .unfinishedFrame
  /-- A writer that is let go writes the lengths into the header. -/
  drop : ∀ {w : lib.Writer}, view.works w → lib.drop w = view.closed layout w

/-! ## Writers that never fail -/

variable {lib : Library}

/-- A writer to which samples have been handed, whatever came of them. -/
def writeAll (lib : Library) (w : lib.Writer) (samples : List Int16) : lib.Writer :=
  samples.foldl (fun w s => (lib.writeSample w s).2) w

/-- Every sample can be written, whichever have been written before. -/
def Takes (lib : Library) (w : lib.Writer) : Prop :=
  ∀ (samples : List Int16) (s : Int16), (lib.writeSample (lib.writeAll w samples) s).1 = .ok ()

theorem Takes.next {w : lib.Writer} (h : lib.Takes w) (s : Int16) :
    lib.Takes (lib.writeSample w s).2 :=
  fun samples => h (s :: samples)

/-- A writer to whose file the system takes everything does not fail. -/
theorem Documented.takes {layout : Spec → Bytes} {view : lib.View}
    (hlib : lib.Documented layout view) {w : lib.Writer} (hworks : view.works w)
    (hbits : (view.spec w).bitsPerSample = 16) (hwhole : (view.spec w).sampleFormat = .whole) :
    lib.Takes w := by
  intro samples
  induction samples generalizing w with
  | nil =>
    intro s
    obtain ⟨later, hwrite, -⟩ := hlib.writeSample hworks hbits hwhole s
    exact congrArg Prod.fst hwrite
  | cons first rest ih =>
    obtain ⟨later, hwrite, hlater, hspec, -⟩ := hlib.writeSample hworks hbits hwhole first
    rw [writeAll, List.foldl_cons, hwrite]
    exact ih hlater (hspec ▸ hbits) (hspec ▸ hwhole)

end Library

/-! ## Files on a disk -/

namespace FileWriter

variable {w : FileWriter}

theorem writeSample_of_file (h : w.target = .file) (s : Int16) :
    w.writeSample s = (.ok (), { w with written := w.written ++ sampleBytes s }) := by
  have hcan : w.canWrite = true := by rw [canWrite, h]
  rw [writeSample, if_pos hcan]

theorem file_of_file (h : w.target = .file) :
    w.file = closed (formatBody w.spec) w.written.toList := by
  rw [file, h]

theorem finalize_of_file (h : w.target = .file) :
    w.finalize
      = (if w.samples % w.spec.channels.toNat = 0 then .ok () else .error .unfinishedFrame,
          w.file) := by
  rw [finalize, h]

/-- What can be seen of a file on a disk. It takes whatever is written, unless it is a full
device. -/
def view (openFile : Disk.Opener) : (onDisk openFile).View where
  spec := FileWriter.spec
  written := fun w => w.written.toList
  works := fun w => w.target = .file

end FileWriter

/-- Files on a disk behave as documented. -/
theorem onDisk_documented (openFile : Disk.Opener) :
    (onDisk openFile).Documented formatBody (FileWriter.view openFile) where
  names := names_formatBody
  create := by
    intro path s previous w hcreate
    replace hcreate : FileWriter.create openFile path s previous = .ok w := hcreate
    unfold FileWriter.create at hcreate
    split at hcreate
    · cases hcreate
    · split at hcreate
      · cases hcreate
        exact ⟨rfl, 0, 0, by simp [FileWriter.view]⟩
      · cases hcreate
  writeSample := by
    intro w hfile _ _ s
    exact ⟨_, FileWriter.writeSample_of_file hfile s, hfile, rfl, Array.toList_appendList ..⟩
  finalize_file := by
    intro w hfile
    exact (congrArg Prod.snd (FileWriter.finalize_of_file hfile)).trans
      (FileWriter.file_of_file hfile)
  finalize_answer := by
    intro w hfile _ _
    exact congrArg Prod.fst (FileWriter.finalize_of_file hfile)
  drop := by
    intro w hfile
    exact FileWriter.file_of_file hfile

end ToneLink.Wave
