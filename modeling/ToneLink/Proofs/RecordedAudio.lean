import Mathlib.Algebra.GroupWithZero.Nat
import ToneLink.Proofs.StationAudio
import ToneLink.Proofs.WaveLibrary

/-!
# What a recording leaves behind

A recording is a header and then audio, from the moment it is created to the moment it ends. The
lengths in the header are patched at the end, and the samples are counted one by one as they are
written, so it plays no part how they were cut into payloads.

- `wholeSamples`: a payload without its odd byte;
- `Recording.Holds`: the invariant. Behind the header stand the whole samples of every payload, in
  order, and as many samples have been counted;
- `Recording.Holds.appendSamples`, `append`, `appendAll`: every sample is appended, hence every
  payload, and keeps it;
- `Recording.Holds.file_eq`, `frames_eq`, `complete_iff`: what a recording says and leaves behind in
  such a state;
- `Recording.file_of_payloads`: the law of a recording.
-/

namespace ToneLink

/-! ## Whole samples -/

/-- The whole samples of a payload: all of it but an odd byte at the end. -/
def wholeSamples (payload : Bytes) : Bytes :=
  payload.take (payload.length / sampleWidth * sampleWidth)

theorem length_wholeSamples (payload : Bytes) :
    (wholeSamples payload).length = payload.length / 2 * 2 := by
  rw [wholeSamples, List.length_take, sampleWidth]
  omega

theorem wholeSamples_cons_cons (lo hi : UInt8) (rest : Bytes) :
    wholeSamples (lo :: hi :: rest) = lo :: hi :: wholeSamples rest := by
  have hcount : (lo :: hi :: rest).length / sampleWidth * sampleWidth
      = rest.length / sampleWidth * sampleWidth + 1 + 1 := by
    simp only [List.length_cons, sampleWidth]
    omega
  rw [wholeSamples, hcount, List.take_succ_cons, List.take_succ_cons, wholeSamples]

/-- A payload that ends with a sample has no odd byte. -/
theorem wholeSamples_of_even {payload : Bytes} (h : 2 ∣ payload.length) :
    wholeSamples payload = payload := by
  rw [wholeSamples, sampleWidth, Nat.div_mul_cancel h, List.take_length]

/-- The samples that are read from a payload are its whole samples. -/
theorem bytesOfSamples_samplesOfBytes : ∀ payload : Bytes,
    bytesOfSamples (samplesOfBytes payload) = wholeSamples payload
  | [] => rfl
  | [_] => by simp [samplesOfBytes, wholeSamples, sampleWidth]
  | lo :: hi :: rest => by
    rw [wholeSamples_cons_cons, ← bytesOfSamples_samplesOfBytes rest, samplesOfBytes,
      bytesOfSamples, List.flatMap_cons, sampleBytes_ofSampleBytes]
    rfl

/-- The samples of payloads add up, two bytes each. -/
theorem length_flatten_wholeSamples (payloads : List Bytes) :
    (payloads.map wholeSamples).flatten.length
      = (payloads.map fun payload => payload.length / 2).sum * 2 := by
  induction payloads with
  | nil => rfl
  | cons payload rest ih =>
    rw [List.map_cons, List.flatten_cons, List.length_append, ih, length_wholeSamples,
      List.map_cons, List.sum_cons, Nat.add_mul]

namespace Recording

variable {lib : Wave.Library}

/-- Appends payloads, one after another. -/
def appendAll (r : Recording lib) (payloads : List Bytes) : Recording lib :=
  payloads.foldl (fun r payload => (r.append payload).2) r

/-! ## The invariant -/

/-- A recording in this format, to a file that takes everything, that holds and has counted this
audio. -/
structure Holds (layout : Wave.Spec → Bytes) (view : lib.View) (r : Recording lib)
    (format : PcmFormat) (audio : Bytes) : Prop where
  works : view.works r.writer
  spec_eq : view.spec r.writer = spec format
  written_eq : ∃ riffLength dataLength,
    view.written r.writer = Wave.header (layout (spec format)) riffLength dataLength ++ audio
  channels_eq : r.channels = format.channels
  samplesWritten_eq : r.samplesWritten * sampleWidth = audio.length

variable {layout : Wave.Spec → Bytes} {view : lib.View} {r : Recording lib} {format : PcmFormat}
  {audio : Bytes}

/-- A recording starts without audio, whatever its file held before. -/
theorem holds_of_create (hlib : lib.Documented layout view) {path : String} {previous : Bytes}
    {log : List Log.Entry} (hcreate : create lib path format previous = .ok (r, log))
    (hworks : view.works r.writer) : r.Holds layout view format [] := by
  unfold create at hcreate
  cases hwriter : lib.create path (spec format) previous with
  | error e =>
    rw [hwriter] at hcreate
    cases hcreate
  | ok writer =>
    rw [hwriter] at hcreate
    cases hcreate
    obtain ⟨hspec, riffLength, dataLength, hwritten⟩ := hlib.create hwriter
    exact
      { works := hworks
        spec_eq := hspec
        written_eq := ⟨riffLength, dataLength, by rw [hwritten, List.append_nil]⟩
        channels_eq := rfl
        samplesWritten_eq := rfl }

namespace Holds

/-- Every sample is written and counted. -/
theorem appendSamples (hlib : lib.Documented layout view) (h : r.Holds layout view format audio)
    (samples : List Int16) :
    (r.appendSamples samples).1 = .ok () ∧
      (r.appendSamples samples).2.Holds layout view format (audio ++ bytesOfSamples samples) := by
  induction samples generalizing r audio with
  | nil =>
    rw [bytesOfSamples_nil, List.append_nil]
    exact ⟨rfl, h⟩
  | cons s rest ih =>
    obtain ⟨path, channels, writer, samplesWritten⟩ := r
    have hbits : (view.spec writer).bitsPerSample = 16 :=
      congrArg Wave.Spec.bitsPerSample h.spec_eq
    have hwhole : (view.spec writer).sampleFormat = .whole :=
      congrArg Wave.Spec.sampleFormat h.spec_eq
    obtain ⟨later, hwrite, hworks, hspec, hwritten⟩ := hlib.writeSample h.works hbits hwhole s
    have hnext : (Recording.mk path channels later (samplesWritten + 1) : Recording lib).Holds
        layout view format (audio ++ sampleBytes s) :=
      { works := hworks
        spec_eq := hspec.trans h.spec_eq
        written_eq := by
          obtain ⟨riffLength, dataLength, hbefore⟩ := h.written_eq
          refine ⟨riffLength, dataLength, ?_⟩
          rw [hwritten, show view.written writer = _ from hbefore, List.append_assoc]
        channels_eq := h.channels_eq
        samplesWritten_eq := by
          have hcount : samplesWritten * sampleWidth = audio.length := h.samplesWritten_eq
          rw [List.length_append, length_sampleBytes, Nat.succ_mul, hcount, sampleWidth] }
    have hrest := ih hnext
    rw [List.append_assoc] at hrest
    simp only [Recording.appendSamples, hwrite]
    exact hrest

/-- Every payload is appended, but for its odd byte. -/
theorem append (hlib : lib.Documented layout view) (h : r.Holds layout view format audio)
    (payload : Bytes) :
    (r.append payload).1 = .ok () ∧
      (r.append payload).2.Holds layout view format (audio ++ wholeSamples payload) := by
  rw [← bytesOfSamples_samplesOfBytes]
  exact h.appendSamples hlib _

theorem appendAll (hlib : lib.Documented layout view) (h : r.Holds layout view format audio)
    (payloads : List Bytes) :
    (r.appendAll payloads).Holds layout view format
      (audio ++ (payloads.map wholeSamples).flatten) := by
  induction payloads generalizing r audio with
  | nil =>
    rw [List.map_nil, List.flatten_nil, List.append_nil]
    exact h
  | cons payload rest ih =>
    rw [List.map_cons, List.flatten_cons, ← List.append_assoc]
    exact ih (h.append hlib payload).2

/-- A recording that holds audio does not fail. -/
theorem takes (hlib : lib.Documented layout view) (h : r.Holds layout view format audio) :
    lib.Takes r.writer :=
  hlib.takes h.works (congrArg Wave.Spec.bitsPerSample h.spec_eq)
    (congrArg Wave.Spec.sampleFormat h.spec_eq)

/-! ## What is said and left behind -/

/-- What is left behind, however the recording ends: the header with the lengths of file and audio,
as far as they fit in a word, and then the audio. -/
theorem file_eq (hlib : lib.Documented layout view) (h : r.Holds layout view format audio)
    (ending : Ending) :
    (r.ended ending).file
      = Wave.header (layout (spec format))
          (UInt32.ofNat (Wave.headerSize (layout (spec format)) + audio.length - 8))
          (UInt32.ofNat audio.length) ++ audio := by
  have hclosed : view.closed layout r.writer
      = Wave.header (layout (spec format))
          (UInt32.ofNat (Wave.headerSize (layout (spec format)) + audio.length - 8))
          (UInt32.ofNat audio.length) ++ audio := by
    obtain ⟨riffLength, dataLength, hwritten⟩ := h.written_eq
    rw [Wave.Library.View.closed, h.spec_eq, hwritten]
    exact Wave.closed_header _ riffLength dataLength audio
  cases ending with
  | finalized =>
    have hfile : r.finalize.2 = (lib.finalize r.writer).2 := by
      unfold finalize
      rcases lib.finalize r.writer with ⟨_ | _, file⟩ <;> rfl
    exact hfile.trans ((hlib.finalize_file h.works).trans hclosed)
  | dropped => exact (hlib.drop h.works).trans hclosed

/-- Behind the header stands the audio, however long it is. -/
theorem drop_file (hlib : lib.Documented layout view) (h : r.Holds layout view format audio)
    (ending : Ending) :
    (r.ended ending).file.drop (Wave.headerSize (layout (spec format))) = audio := by
  rw [h.file_eq hlib]
  exact List.drop_left' (Wave.length_header _ _ _)

theorem samplesWritten_eq_div (h : r.Holds layout view format audio) :
    r.samplesWritten = audio.length / 2 := by
  have hcount := h.samplesWritten_eq
  rw [sampleWidth] at hcount
  omega

theorem frames_eq (h : r.Holds layout view format audio) :
    r.frames = audio.length / 2 / max 1 format.channels.toNat := by
  rw [frames, h.channels_eq, h.samplesWritten_eq_div]

/-- A recording is complete if its samples make up whole frames. -/
theorem complete_iff (hlib : lib.Documented layout view) (h : r.Holds layout view format audio)
    (hchannels : 0 < format.channels.toNat)
    (hsize : Wave.headerSize (layout (spec format)) + audio.length < UInt32.size) :
    (∃ log, r.finalize.1 = .ok log) ↔ format.channels.toNat ∣ audio.length / 2 := by
  have hwritten : (view.written r.writer).length
      = Wave.headerSize (layout (spec format)) + audio.length := by
    obtain ⟨riffLength, dataLength, hwritten⟩ := h.written_eq
    rw [hwritten, List.length_append, Wave.length_header]
  have hsamples : view.samples layout r.writer = audio.length / 2 := by
    have hwidth : (spec format).sampleWidth = 2 := by simp [Wave.Spec.sampleWidth, spec]
    rw [Wave.Library.View.samples, hwritten, h.spec_eq, Nat.add_sub_cancel_left, hwidth]
  have hanswer := hlib.finalize_answer h.works (by rw [h.spec_eq]; exact hchannels)
    (hwritten ▸ hsize)
  rw [hsamples, h.spec_eq] at hanswer
  have hfinalize : (∃ log, r.finalize.1 = .ok log) ↔ (lib.finalize r.writer).1 = .ok () := by
    unfold finalize
    rcases lib.finalize r.writer with ⟨_ | _, file⟩ <;> simp
  rw [hfinalize, hanswer, Nat.dvd_iff_mod_eq_zero]
  show (if audio.length / 2 % format.channels.toNat = 0 then _ else _) = _ ↔ _
  by_cases hwhole : audio.length / 2 % format.channels.toNat = 0
  · simp [hwhole]
  · simp [hwhole]

/-- A file that a 32-bit length can measure is read as it was recorded. -/
theorem read?_file (hlib : lib.Documented layout view) (h : r.Holds layout view format audio)
    (hsize : Wave.headerSize (layout (spec format)) + audio.length < UInt32.size)
    (ending : Ending) :
    Wave.read? (r.ended ending).file
      = some ⟨format.channels.toNat, format.sampleRate.toNat, 16, audio⟩ := by
  have hlayout : (layout (spec format)).length < UInt32.size := by
    rw [Wave.headerSize] at hsize
    omega
  rw [h.file_eq hlib]
  refine Wave.read?_header (hlib.names (spec format)) hlayout ?_ ?_
  · have hfits : (UInt32.ofNat (Wave.headerSize (layout (spec format)) + audio.length - 8)).toNat
        = Wave.headerSize (layout (spec format)) + audio.length - 8 :=
      UInt32.toNat_ofNat_of_lt (Nat.lt_of_le_of_lt (Nat.sub_le _ _) hsize)
    rw [hfits, Wave.headerSize]
    omega
  · exact UInt32.toNat_ofNat_of_lt (Nat.lt_of_le_of_lt (Nat.le_add_left _ _) hsize)

end Holds

/-! ## The law -/

/-- **A recording leaves behind exactly what it was given.** The file is written by any library that
does what its documentation says, and whose writes succeed. Whatever the file held before and
however the audio is cut into payloads, as long as the file can be measured by 32-bit lengths: every
payload is taken; the file is a header, with the length of what follows its first eight bytes and
the length of the audio, and then the whole samples of all payloads in order, and a reader finds the
format and these samples in it and nothing else; the file is the same whether the recording is
finalized or dropped; after any number of payloads the frames are the samples so far divided by the
channels; and asked whether it is complete, a recording answers that it is exactly if its samples
make up whole frames. -/
theorem file_of_payloads (hlib : lib.Documented layout view) {path : String} {previous : Bytes}
    {log : List Log.Entry} (hcreate : create lib path format previous = .ok (r, log))
    (hworks : view.works r.writer) {payloads : List Bytes}
    (hsize : Wave.headerSize (layout (spec format)) + (payloads.map wholeSamples).flatten.length
      < UInt32.size) :
    let audio := (payloads.map wholeSamples).flatten
    let samples := fun count => ((payloads.take count).map fun payload => payload.length / 2).sum
    let last := r.appendAll payloads
    (∀ count (hcount : count < payloads.length),
      ((r.appendAll (payloads.take count)).append payloads[count]).1 = .ok ()) ∧
    (∀ ending, let file := (last.ended ending).file
      Wave.read? file = some ⟨format.channels.toNat, format.sampleRate.toNat, 16, audio⟩ ∧
      ∃ riffLength dataLength : UInt32,
        file = Wave.header (layout (spec format)) riffLength dataLength ++ audio ∧
        riffLength.toNat = file.length - 8 ∧ dataLength.toNat = audio.length) ∧
    (last.ended .dropped).file = (last.ended .finalized).file ∧
    (∀ count, 0 < format.channels.toNat →
      (r.appendAll (payloads.take count)).frames = samples count / format.channels.toNat) ∧
    (0 < format.channels.toNat →
      ((∃ log, (last.ended .finalized).answer = some (.ok log)) ↔
        format.channels.toNat ∣ samples payloads.length)) := by
  intro audio samples last
  have hstart := holds_of_create hlib hcreate hworks
  have hholds : ∀ payloads : List Bytes,
      (r.appendAll payloads).Holds layout view format (payloads.map wholeSamples).flatten :=
    fun payloads => hstart.appendAll hlib payloads
  have hlast : last.Holds layout view format audio := hholds payloads
  refine ⟨?_, ?_, ?_, ?_, ?_⟩
  · intro count hcount
    exact ((hholds _).append hlib _).1
  · intro ending file
    -- the lengths in the header are those of the file as it is left behind
    have hlength : file.length = Wave.headerSize (layout (spec format)) + audio.length := by
      show (last.ended ending).file.length = _
      rw [hlast.file_eq hlib, List.length_append, Wave.length_header]
    refine ⟨hlast.read?_file hlib hsize ending, _, _, hlast.file_eq hlib ending, ?_, ?_⟩
    · rw [hlength]
      exact UInt32.toNat_ofNat_of_lt (Nat.lt_of_le_of_lt (Nat.sub_le _ _) hsize)
    · exact UInt32.toNat_ofNat_of_lt (Nat.lt_of_le_of_lt (Nat.le_add_left _ _) hsize)
  · exact (hlast.file_eq hlib .dropped).trans (hlast.file_eq hlib .finalized).symm
  · intro count hchannels
    rw [(hholds _).frames_eq, length_flatten_wholeSamples, Nat.mul_div_cancel _ Nat.two_pos,
      Nat.max_eq_right hchannels]
  · intro hchannels
    have hcomplete := hlast.complete_iff hlib hchannels hsize
    rw [length_flatten_wholeSamples, Nat.mul_div_cancel _ Nat.two_pos] at hcomplete
    show (∃ log, some last.finalize.1 = some (.ok log)) ↔ _ ∣ ((payloads.take _).map _).sum
    rw [List.take_length, ← hcomplete]
    simp only [Option.some.injEq]

/-- A file on a disk that held something else. The frame that the first payload leaves unfinished
ends in the second one, and the odd bytes of both are gone. -/
theorem file_of_payloads_split_frame :
    let lib := Wave.onDisk fun _ => .ok .file
    let layout := Wave.formatBody
    let view := Wave.FileWriter.view fun _ => .ok .file
    ∃ r log, create lib "tone.wav" ⟨8000, 2⟩ [9, 9, 9] = .ok (r, log) ∧
      lib.Documented layout view ∧ view.works r.writer ∧
      let payloads : List Bytes := [[1, 0, 2, 0, 3, 0, 7], [4, 0, 8]]
      Wave.headerSize (layout (spec ⟨8000, 2⟩)) + (payloads.map wholeSamples).flatten.length
        < UInt32.size ∧
      (r.appendAll (payloads.take 1)).frames = 1 ∧
      Wave.read? ((r.appendAll payloads).ended .dropped).file
        = some ⟨2, 8000, 16, [1, 0, 2, 0, 3, 0, 4, 0]⟩ ∧
      ∃ log, ((r.appendAll payloads).ended .finalized).answer = some (.ok log) := by
  intro lib layout view
  have hlib : lib.Documented layout view := Wave.onDisk_documented _
  have hcreate : create lib "tone.wav" ⟨8000, 2⟩ [9, 9, 9] = .ok (_, _) := rfl
  refine ⟨_, _, hcreate, hlib, rfl, ?_⟩
  intro payloads
  have hsize : Wave.headerSize (layout (spec ⟨8000, 2⟩))
      + (payloads.map wholeSamples).flatten.length < UInt32.size := by decide
  obtain ⟨-, hfile, -, hframes, hcomplete⟩ := file_of_payloads hlib hcreate rfl hsize
  exact ⟨hsize, (hframes 1 (by decide)).trans (by decide), (hfile .dropped).1,
    (hcomplete (by decide)).mpr (by decide)⟩

end Recording

end ToneLink
