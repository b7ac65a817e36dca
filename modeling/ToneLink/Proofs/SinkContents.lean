import ToneLink.Playout

/-!
# What a sink holds

Between a producer and the sound device, bytes lie in two places: those of the chunks in the queue,
and before them the pending ones, which a request has taken from the queue but not used. `Sink.held`
forgets where the border is. Seen through it, every operation is one of a plain string of bytes:

- `Playout.gather_held`, `Playout.gather_ranDry`: gathering moves the border and adds silence only
  behind everything that was held;
- `Sink.fillInto_bytes`, `Sink.held_fillInto`: a request takes bytes from the front, and silence
  makes up for what is missing;
- `JitterQueue.offer_eq`, `JitterQueue.push_eq`, `JitterQueue.prefill_snd`: a producer appends the
  chunks that were accepted, and nothing else;
- `Sink.renderInto_samples`: a callback hears the first samples held, whatever its two buffers held
  before.
-/

namespace ToneLink

/-! ## Gathering -/

namespace Playout

variable (needed : Nat)

/-- Gathering keeps every byte in its place and appends silence only behind the last of them. -/
theorem gather_held : ∀ (chunks : List Bytes) (pending : Bytes),
    (gather needed pending chunks).pending ++ (gather needed pending chunks).chunks.flatten
      = pending ++ chunks.flatten
        ++ silence (needed - (pending.length + chunks.flatten.length))
  | [], pending => by
    by_cases h : pending.length < needed
    · simp [gather, h]
    · have hzero : needed - pending.length = 0 := by omega
      simp [gather, h, hzero, silence]
  | chunk :: rest, pending => by
    by_cases h : pending.length < needed
    · simp only [gather, if_pos h]
      rw [gather_held rest (pending ++ chunk)]
      simp only [List.flatten_cons, List.length_append, List.append_assoc, Nat.add_assoc]
    · have hzero : needed - (pending.length + (chunk :: rest).flatten.length) = 0 := by omega
      rw [hzero, silence, List.replicate_zero, List.append_nil]
      simp only [gather, if_neg h]

/-- The chunks run out exactly if all that was held is too short. -/
theorem gather_ranDry : ∀ (chunks : List Bytes) (pending : Bytes),
    (gather needed pending chunks).ranDry
      = decide (pending.length + chunks.flatten.length < needed)
  | [], pending => by
    by_cases h : pending.length < needed <;> simp [gather, h]
  | chunk :: rest, pending => by
    by_cases h : pending.length < needed
    · simp only [gather, if_pos h]
      rw [gather_ranDry rest (pending ++ chunk)]
      simp only [List.flatten_cons, List.length_append, Nat.add_assoc]
    · have henough : ¬ pending.length + (chunk :: rest).flatten.length < needed := by omega
      simp only [gather, if_neg h, decide_eq_false henough]

/-- Enough bytes are pending afterwards. -/
theorem le_length_gather : ∀ (chunks : List Bytes) (pending : Bytes),
    needed ≤ (gather needed pending chunks).pending.length
  | [], pending => by
    by_cases h : pending.length < needed
    · simp only [gather, if_pos h, List.length_append, length_silence]
      omega
    · simp only [gather, if_neg h]
      omega
  | chunk :: rest, pending => by
    by_cases h : pending.length < needed
    · simp only [gather, if_pos h]
      exact le_length_gather rest (pending ++ chunk)
    · simp only [gather, if_neg h]
      omega

/-- Chunks are taken from the front of the queue only. -/
theorem gather_suffix : ∀ (chunks : List Bytes) (pending : Bytes),
    (gather needed pending chunks).chunks <:+ chunks
  | [], pending => by
    by_cases h : pending.length < needed <;> simp [gather, h]
  | chunk :: rest, pending => by
    by_cases h : pending.length < needed
    · simp only [gather, if_pos h]
      exact (gather_suffix rest (pending ++ chunk)).trans (List.suffix_cons chunk rest)
    · simp only [gather, if_neg h]
      exact List.suffix_refl _

end Playout

/-! ## Requests -/

/-- A callback that underflows counts one more, until the counter is full. -/
theorem RenderCounters.underflows_record (c : RenderCounters) (depth : Nat) (underflowed : Bool) :
    (c.record depth underflowed).underflows
      = if underflowed then min ceiling (c.underflows + 1) else c.underflows := rfl

namespace Sink

/-- Everything that waits to be heard, in order. -/
def held (s : Sink) : Bytes := s.playout.pending ++ s.queue.chunks.flatten

/-- Whether a request of this length finds too little and has to be padded. -/
def runsDry (s : Sink) (needed : Nat) : Bool :=
  (Playout.gather needed s.playout.pending s.queue.chunks).ranDry

/-- A request is padded exactly if it asks for more than is held. -/
theorem runsDry_iff (s : Sink) (needed : Nat) :
    s.runsDry needed = true ↔ s.held.length < needed := by
  rw [runsDry, Playout.gather_ranDry, decide_eq_true_iff, held, List.length_append]

/-- What is held and pending once enough has been gathered. -/
theorem gathered_held (s : Sink) (needed : Nat) :
    (Playout.gather needed s.playout.pending s.queue.chunks).pending
        ++ (Playout.gather needed s.playout.pending s.queue.chunks).chunks.flatten
      = s.held ++ silence (needed - s.held.length) := by
  rw [Playout.gather_held, held, List.length_append]

/-- A request is answered in full: with the first bytes held, and silence for the rest. -/
theorem fill_bytes (s : Sink) (needed : Nat) :
    (s.playout.fill s.queue s.counters needed).bytes = resized s.held needed := by
  have henough := Playout.le_length_gather needed s.queue.chunks s.playout.pending
  have hheld := congrArg (List.take needed) (s.gathered_held needed)
  rw [List.take_append_of_le_length henough] at hheld
  show (Playout.gather needed s.playout.pending s.queue.chunks).pending.take needed = _
  rw [hheld, List.take_append, resized]
  congr 1
  exact List.take_of_length_le (Nat.le_of_eq (length_silence _))

/-- The bytes that a buffer is filled with do not depend on what it held before. -/
theorem fillInto_bytes (s : Sink) (out : Bytes) :
    (s.fillInto out).1 = resized s.held out.length := by
  show overwrite out (s.playout.fill s.queue s.counters out.length).bytes = _
  rw [fill_bytes]
  exact overwrite_of_length_eq (length_resized _ _)

/-- To fill a buffer is to answer a request of its length. -/
theorem fillInto_eq_fill (s : Sink) (out : Bytes) : s.fillInto out = s.fill out.length := by
  refine Prod.ext ?_ ?_
  · rw [fill, fillInto_bytes, fillInto_bytes, length_silence]
  · show (s.fillInto out).2 = (s.fillInto (silence out.length)).2
    simp only [fillInto, length_silence]

/-- A request takes bytes from the front of what is held, as far as there are any. -/
theorem held_fillInto (s : Sink) (out : Bytes) :
    (s.fillInto out).2.held = s.held.drop out.length := by
  have henough := Playout.le_length_gather out.length s.queue.chunks s.playout.pending
  have hheld := congrArg (List.drop out.length) (s.gathered_held out.length)
  rw [List.drop_append_of_le_length henough, List.drop_append] at hheld
  show (Playout.gather out.length s.playout.pending s.queue.chunks).pending.drop out.length
      ++ (Playout.gather out.length s.playout.pending s.queue.chunks).chunks.flatten = _
  rw [hheld]
  -- the request itself uses up all the silence, so none of it is held afterwards
  have hsilence : (silence (out.length - s.held.length)).drop (out.length - s.held.length) = [] :=
    List.drop_eq_nil_of_le (Nat.le_of_eq (length_silence _))
  rw [hsilence, List.append_nil]

/-- A request takes chunks from the front of the queue only. -/
theorem fillInto_suffix (s : Sink) (out : Bytes) :
    (s.fillInto out).2.queue.chunks <:+ s.queue.chunks :=
  Playout.gather_suffix out.length s.queue.chunks s.playout.pending

/-- A request enters one callback into the counters, with the depth it found. -/
theorem fillInto_counters (s : Sink) (out : Bytes) :
    (s.fillInto out).2.counters = s.counters.record s.queue.depth (s.runsDry out.length) := rfl

end Sink

/-! ## Producers -/

namespace JitterQueue

/-- An offered chunk goes to the end of the queue if there is room, and comes back otherwise. -/
theorem offer_eq (q : JitterQueue) (chunk : Bytes) :
    q.offer chunk
      = if q.hasRoom then .ok { q with chunks := q.chunks ++ [chunk] } else .error chunk := rfl

/-- A push comes to an offer at the end of its wait. A push into a queue with room does not wait. -/
theorem push_eq (q : JitterQueue) (chunk : Bytes) (taken : Nat) :
    let waited := if q.hasRoom then q else (q.pullMany taken).2
    q.push chunk taken
      = if waited.hasRoom then (.queued, { waited with chunks := waited.chunks ++ [chunk] })
        else (.dropped, waited) := by
  intro waited
  by_cases hroom : q.hasRoom
  · have hwaited : waited = q := if_pos hroom
    rw [hwaited, if_pos hroom]
    simp only [push, offer_eq, if_pos hroom]
  · have hwaited : waited = (q.pullMany taken).2 := if_neg hroom
    rw [hwaited]
    by_cases hlater : (q.pullMany taken).2.hasRoom
    · simp only [push, offer_eq, if_neg hroom, if_pos hlater]
    · simp only [push, offer_eq, if_neg hroom, if_neg hlater]

/-- A prefill appends the chunks that it reports. -/
theorem prefill_snd (q : JitterQueue) (target chunkBytes : Nat) :
    (q.prefill target chunkBytes).2
      = { q with chunks := q.chunks ++ (q.prefill target chunkBytes).1.chunks } := by
  by_cases hzero : chunkBytes = 0
  · simp [prefill, hzero]
  · simp [prefill, hzero]

end JitterQueue

/-! ## Samples -/

/-- The bytes of samples, one after another. -/
def bytesOfSamples (samples : List Int16) : Bytes := samples.flatMap sampleBytes

@[simp] theorem bytesOfSamples_nil : bytesOfSamples [] = [] := rfl

@[simp] theorem bytesOfSamples_append (xs ys : List Int16) :
    bytesOfSamples (xs ++ ys) = bytesOfSamples xs ++ bytesOfSamples ys :=
  List.flatMap_append

@[simp] theorem length_bytesOfSamples (samples : List Int16) :
    (bytesOfSamples samples).length = samples.length * sampleWidth := by
  induction samples with
  | nil => rfl
  | cons x rest ih =>
    show (sampleBytes x ++ bytesOfSamples rest).length = _
    rw [List.length_append, length_sampleBytes, ih, List.length_cons, sampleWidth]
    omega

/-- Samples come back from their bytes. -/
@[simp] theorem samplesOfBytes_bytesOfSamples (samples : List Int16) :
    samplesOfBytes (bytesOfSamples samples) = samples := by
  induction samples with
  | nil => rfl
  | cons x rest ih =>
    show ofSampleBytes _ _ :: samplesOfBytes (bytesOfSamples rest) = x :: rest
    rw [ih, ofSampleBytes_bytes]

/-- Silence is the bytes of zero samples. -/
theorem bytesOfSamples_replicate_zero (count : Nat) :
    bytesOfSamples (List.replicate count 0) = silence (count * sampleWidth) := by
  induction count with
  | zero => rfl
  | succ count ih =>
    have hzero : sampleBytes 0 = silence sampleWidth := by decide
    show sampleBytes 0 ++ bytesOfSamples (List.replicate count 0) = _
    rw [ih, hzero, silence_append, Nat.add_mul, Nat.one_mul, Nat.add_comm (count * sampleWidth)]

/-- To cut bytes between samples is to cut the samples. -/
theorem drop_bytesOfSamples (samples : List Int16) (count : Nat) :
    (bytesOfSamples samples).drop (count * sampleWidth) = bytesOfSamples (samples.drop count) := by
  by_cases h : count ≤ samples.length
  · have hlength : (bytesOfSamples (samples.take count)).length = count * sampleWidth := by
      rw [length_bytesOfSamples, List.length_take, Nat.min_eq_left h]
    have hsplit : bytesOfSamples samples
        = bytesOfSamples (samples.take count) ++ bytesOfSamples (samples.drop count) := by
      rw [← bytesOfSamples_append, List.take_append_drop]
    rw [hsplit, ← hlength]
    exact List.drop_left
  · have hle : samples.length ≤ count := by omega
    rw [List.drop_eq_nil_of_le hle, bytesOfSamples_nil]
    refine List.drop_eq_nil_of_le ?_
    rw [length_bytesOfSamples]
    exact Nat.mul_le_mul_right _ hle

/-- To bring the bytes of samples to a length between samples is to continue the samples with zeros
or to cut them off. -/
theorem resized_bytesOfSamples (samples : List Int16) (count : Nat) :
    resized (bytesOfSamples samples) (count * sampleWidth)
      = bytesOfSamples (samples.take count ++ List.replicate (count - samples.length) 0) := by
  have hcut : (bytesOfSamples samples).take (count * sampleWidth)
      = bytesOfSamples (samples.take count) := by
    have hboth := List.take_append_drop (count * sampleWidth) (bytesOfSamples samples)
    rw [drop_bytesOfSamples] at hboth
    have hsplit : bytesOfSamples (samples.take count) ++ bytesOfSamples (samples.drop count)
        = bytesOfSamples samples := by
      rw [← bytesOfSamples_append, List.take_append_drop]
    exact List.append_cancel_right (hboth.trans hsplit.symm)
  rw [resized, hcut, length_bytesOfSamples, bytesOfSamples_append, bytesOfSamples_replicate_zero,
    Nat.sub_mul]

namespace Sink

/-- A callback hears what a request of its length is answered with, and leaves the sink of that
request. What its buffers held before plays no part. -/
theorem renderInto_eq (s : Sink) (scratch : Bytes) (device : List Int16) :
    s.renderInto scratch device
      = ⟨samplesOfBytes (s.fill (device.length * sampleWidth)).1,
          (s.fill (device.length * sampleWidth)).1, (s.fill (device.length * sampleWidth)).2⟩ := by
  -- of the scratch buffer only its length counts, and that is made to fit first
  have hfill : s.fillInto (resized scratch (device.length * sampleWidth))
      = s.fill (device.length * sampleWidth) := by
    rw [fillInto_eq_fill, length_resized]
  have hlength : (samplesOfBytes (s.fill (device.length * sampleWidth)).1).length
      = device.length := by
    rw [length_samplesOfBytes, fill, fillInto_bytes, length_resized, length_silence, sampleWidth]
    omega
  simp only [renderInto, hfill, overwrite_of_length_eq hlength]

/-- A sink that holds whole samples plays the first of them, then zeros. -/
theorem renderInto_samples {s : Sink} {audio : List Int16} (h : s.held = bytesOfSamples audio)
    (scratch : Bytes) (device : List Int16) :
    (s.renderInto scratch device).samples
      = audio.take device.length ++ List.replicate (device.length - audio.length) 0 := by
  rw [renderInto_eq]
  show samplesOfBytes (s.fill (device.length * sampleWidth)).1 = _
  rw [fill, fillInto_bytes, length_silence, h, resized_bytesOfSamples,
    samplesOfBytes_bytesOfSamples]

/-- A sink that holds whole samples holds the others afterwards. -/
theorem held_renderInto {s : Sink} {audio : List Int16} (h : s.held = bytesOfSamples audio)
    (scratch : Bytes) (device : List Int16) :
    (s.renderInto scratch device).sink.held = bytesOfSamples (audio.drop device.length) := by
  rw [renderInto_eq]
  show (s.fill (device.length * sampleWidth)).2.held = _
  rw [fill, held_fillInto, length_silence, h, drop_bytesOfSamples]

end Sink

end ToneLink
