import ToneLink.Proofs.CheckedPlans

/-!
# Where a sample stands in the tone table

A tone table is written frame by frame, and in each frame channel by channel. Packets, recordings
and the sound device read it by position, so it matters where each sample stands:

- `Tone.spread_getElem?`: the sample of a frame stands on each of its channels;
- `sampleBytes_at`: the bytes of a sample stand where the samples before it end;
- `channelOf`, `channelOf_spread`: one channel of a table is the mono table;
- `Tone.table_shape`: the law of the table, for every tone.
-/

namespace ToneLink

/-! ## Positions -/

/-- The bytes of a sample stand where the samples before it end. -/
theorem sampleBytes_at {samples : List Int16} {k : Nat} {s : Int16} (h : samples[k]? = some s) :
    ((bytesOfSamples samples).drop (k * sampleWidth)).take sampleWidth = sampleBytes s := by
  obtain ⟨hk, rfl⟩ := List.getElem?_eq_some_iff.mp h
  rw [drop_bytesOfSamples, List.drop_eq_getElem_cons hk]
  rfl

/-- To look up one position after another is to read on from the start. -/
theorem filterMap_range_getElem? {α : Type} (entries : List α) (count : Nat) :
    (List.range count).filterMap (fun i => entries[i]?) = entries.take count := by
  induction count with
  | zero => rfl
  | succ count ih =>
    rw [List.range_succ, List.filterMap_append, ih, List.take_add_one]
    cases hnext : entries[count]? <;> simp [hnext]

/-- The samples of one channel: every `channels`-th one, from the `c`-th on. -/
def channelOf (channels c : Nat) (samples : List Int16) : List Int16 :=
  (List.range (samples.length / channels)).filterMap fun i => samples[i * channels + c]?

namespace Tone

/-- The sample of a frame stands on each of its channels. -/
theorem spread_getElem? (samples : List Int16) {channels c : Nat} (hc : c < channels) (i : Nat) :
    (samples.flatMap (List.replicate channels))[i * channels + c]? = samples[i]? := by
  induction samples generalizing i with
  | nil => rfl
  | cons s rest ih =>
    rw [List.flatMap_cons]
    cases i with
    | zero =>
      rw [Nat.zero_mul, Nat.zero_add, List.getElem?_append_left (by rwa [List.length_replicate]),
        List.getElem?_replicate_of_lt hc]
      rfl
    | succ i =>
      -- behind the first frame, the positions are those of the other frames
      have hbehind : (i + 1) * channels + c = channels + (i * channels + c) := by
        rw [Nat.succ_mul]
        omega
      rw [hbehind, List.getElem?_append_right (by rw [List.length_replicate]; omega),
        List.length_replicate, Nat.add_sub_cancel_left, ih]
      rfl

/-- Every channel has the samples of all frames. -/
theorem channelOf_spread (samples : List Int16) {channels c : Nat} (hc : c < channels) :
    channelOf channels c (samples.flatMap (List.replicate channels)) = samples := by
  have hframes : samples.length * channels / channels = samples.length :=
    Nat.mul_div_cancel _ (Nat.zero_lt_of_lt hc)
  rw [channelOf, length_spread, hframes]
  simp only [spread_getElem? samples hc]
  rw [filterMap_range_getElem?, List.take_length]

/-- A table of fewer frames has the first samples of a table of more. -/
theorem samples_prefix {frames longer : Nat} (h : frames ≤ longer) (frequency amplitude : Float)
    (sampleRate : UInt32) :
    samples frames frequency amplitude sampleRate
      <+: samples longer frequency amplitude sampleRate := by
  rw [List.prefix_iff_eq_take, length_samples, samples, samples, ← List.map_take, List.take_range,
    Nat.min_eq_left h]

theorem table_prefix {frames longer : Nat} (h : frames ≤ longer) (channels : UInt16)
    (frequency amplitude : Float) (sampleRate : UInt32) :
    table frames channels frequency amplitude sampleRate
      <+: table longer channels frequency amplitude sampleRate := by
  obtain ⟨others, hothers⟩ := samples_prefix h frequency amplitude sampleRate
  rw [table, table, ← hothers, List.flatMap_append]
  exact List.prefix_append _ _

theorem samples_getElem? {frames i : Nat} (h : i < frames) (frequency amplitude : Float)
    (sampleRate : UInt32) :
    (samples frames frequency amplitude sampleRate)[i]?
      = some (sampleAt frequency amplitude sampleRate i) := by
  rw [samples, List.getElem?_map, List.getElem?_range h]
  rfl

/-- To read a table is to hear the samples of the tone, each on every channel. -/
theorem samplesOfBytes_table (frames : Nat) (channels : UInt16) (frequency amplitude : Float)
    (sampleRate : UInt32) :
    samplesOfBytes (table frames channels frequency amplitude sampleRate)
      = (samples frames frequency amplitude sampleRate).flatMap
          (List.replicate channels.toNat) := by
  rw [table_eq, samplesOfBytes_bytesOfSamples]

/-- A table of one channel has the samples themselves. -/
theorem samplesOfBytes_mono (frames : Nat) (frequency amplitude : Float) (sampleRate : UInt32) :
    samplesOfBytes (table frames 1 frequency amplitude sampleRate)
      = samples frames frequency amplitude sampleRate := by
  have hone : List.replicate (UInt16.toNat 1) = fun s : Int16 => [s] := rfl
  rw [samplesOfBytes_table, hone, List.flatMap_singleton']

/-! ## The law -/

/-- **The shape of a tone table.** Whatever frequency, amplitude and sample rate are, not a number
and infinite included, there is one sample for each frame, the same in every table. A table of some
frames and channels has two bytes for each of them; those of frame `i` and channel `c` are the low
and the high byte of the sample of frame `i`. A shorter table is a prefix of a longer one, and every
channel of a table, read as samples, is the table of one channel. This is said of every size,
although only a table of up to `maxBytes` bytes can be held in one buffer; that of a checked plan
can, and it is as long as was planned. -/
theorem table_shape (frequency amplitude : Float) (sampleRate : UInt32) :
    (∀ (frames : Nat) (channels : UInt16),
      let table := table frames channels frequency amplitude sampleRate
      table.length = frames * channels.toNat * 2 ∧
      (∀ i < frames, ∀ c < channels.toNat,
        let sample := (sampleAt frequency amplitude sampleRate i).toUInt16.toNat
        (table.drop ((i * channels.toNat + c) * 2)).take 2
          = [UInt8.ofNat sample, UInt8.ofNat (sample / 256)]) ∧
      (∀ longer, frames ≤ longer →
        table <+: Tone.table longer channels frequency amplitude sampleRate) ∧
      ∀ c < channels.toNat, channelOf channels.toNat c (samplesOfBytes table)
        = samplesOfBytes (Tone.table frames 1 frequency amplitude sampleRate)) ∧
    ∀ (sampleRate channels : Int) (packetMillis : Float) (p : SendPlan),
      SendPlan.check frequency amplitude sampleRate channels packetMillis = .ok p →
        p.payload.length = p.payloadLength ∧ p.payload.length ≤ maxBytes := by
  constructor
  · intro frames channels table
    have htable : table = bytesOfSamples ((samples frames frequency amplitude sampleRate).flatMap
        (List.replicate channels.toNat)) := table_eq ..
    refine ⟨?_, ?_, ?_, ?_⟩
    · rw [htable, length_bytesOfSamples, length_spread, length_samples, sampleWidth]
    · intro i hi c hc sample
      have hsample := spread_getElem? (samples frames frequency amplitude sampleRate) hc i
      rw [samples_getElem? hi] at hsample
      rw [htable]
      exact sampleBytes_at hsample
    · intro longer hlonger
      exact table_prefix hlonger channels frequency amplitude sampleRate
    · intro c hc
      rw [samplesOfBytes_mono]
      show channelOf _ _ (samplesOfBytes (Tone.table _ _ _ _ _)) = _
      rw [samplesOfBytes_table, channelOf_spread _ hc]
  · intro sampleRate channels packetMillis p hplan
    have hdatagram := (SendPlan.checked_of_ok hplan).datagramLength_le
    have hlimit : Packet.maxDatagram ≤ maxBytes := by decide
    refine ⟨p.length_payload, ?_⟩
    rw [p.length_payload]
    exact (Nat.le_add_left _ Header.size).trans (hdatagram.trans hlimit)

/-- An amplitude that is not a number. The fourth sample of a table of three frames and two channels
is that of the second frame, the table starts one of five frames, and its second channel is the mono
table. -/
theorem table_shape_not_a_number :
    let nan : Float := 0 / 0
    let table := table 3 2 440 nan 8000
    (table.drop 6).take 2
        = [UInt8.ofNat (sampleAt 440 nan 8000 1).toUInt16.toNat,
           UInt8.ofNat ((sampleAt 440 nan 8000 1).toUInt16.toNat / 256)] ∧
      table <+: Tone.table 5 2 440 nan 8000 ∧
      channelOf 2 1 (samplesOfBytes table) = samplesOfBytes (Tone.table 3 1 440 nan 8000) ∧
      ∃ p, SendPlan.check 440 nan 8000 2 20 = .ok p ∧ p.payload.length = p.payloadLength := by
  intro nan table
  obtain ⟨htables, hplans⟩ := table_shape 440 nan 8000
  obtain ⟨-, hbytes, hprefix, hchannels⟩ := htables 3 2
  have hframes : (SendPlan.check 440 nan 8000 2 20).toOption.map SendPlan.framesPerPacket
      = some 160 := by decide +kernel
  obtain ⟨p, hplan, -⟩ := exists_ok_of_toOption_map hframes
  exact ⟨hbytes 1 (by decide) 1 (by decide), hprefix 5 (by decide), hchannels 1 (by decide), p,
    hplan, (hplans 8000 2 20 p hplan).1⟩

end Tone

end ToneLink
