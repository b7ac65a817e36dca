import ToneLink.Audio.Playback
import ToneLink.Tone
import ToneLink.Proofs.PrefillLaw
import ToneLink.Proofs.SinkContents

/-!
# What a checked plan promises

The checks run once, before anything is opened, and everything that is sized from a plan relies on
them.

- `bind_eq_ok`, `ite_error_eq_ok`: what follows from passing one check;
- `ListenPlan.Checked`, `SendPlan.Checked`: what holds of every plan that passes its check;
- `ListenPlan.Checked.prefilled_flatten`: the queue of a receiver takes the whole of its silence;
- `SendPlan.payload_eq`: the audio of a packet is the bytes of whole samples, at least one of them.
-/

namespace ToneLink

open Number

/-! ## Checks that may fail -/

/-- A computation succeeds if its first part does, and then the rest. -/
theorem bind_eq_ok {ε α β : Type} {x : Except ε α} {f : α → Except ε β} {b : β} :
    x >>= f = .ok b ↔ ∃ a, x = .ok a ∧ f a = .ok b := by
  cases x with
  | error e =>
    constructor
    · intro h
      cases h
    · rintro ⟨a, h, -⟩
      cases h
  | ok a =>
    constructor
    · intro h
      exact ⟨a, rfl, h⟩
    · rintro ⟨a', h, hf⟩
      cases h
      exact hf

/-- A check is passed if what it refuses is not the case. -/
theorem ite_error_eq_ok {ε β : Type} {refused : Prop} [Decidable refused] {e : ε}
    {x : Except ε β} {b : β} :
    (if refused then .error e else x) = .ok b ↔ ¬ refused ∧ x = .ok b := by
  by_cases h : refused
  · rw [if_pos h]
    constructor
    · intro hb
      cases hb
    · rintro ⟨hnot, -⟩
      exact absurd h hnot
  · rw [if_neg h]
    constructor
    · intro hb
      exact ⟨h, hb⟩
    · rintro ⟨-, hb⟩
      exact hb

theorem ite_throw_eq_ok {ε α β : Type} {refused : Prop} [Decidable refused] {e : ε}
    {f : α → Except ε β} {x : Except ε β} {b : β} :
    (if refused then throw e >>= f else x) = .ok b ↔ ¬ refused ∧ x = .ok b :=
  ite_error_eq_ok

/-- A computation that something is known of has succeeded. -/
theorem exists_ok_of_toOption_map {ε α β : Type} {x : Except ε α} {f : α → β} {b : β}
    (h : x.toOption.map f = some b) : ∃ a, x = .ok a ∧ f a = b := by
  cases x with
  | error e => cases h
  | ok a => exact ⟨a, rfl, Option.some.inj h⟩

/-! ## The checks -/

/-- A checked format has channels, and plays samples. -/
structure PcmFormat.Checked (f : PcmFormat) : Prop where
  sampleRate_pos : 0 < f.sampleRate.toNat
  channels_pos : 0 < f.channels.toNat

theorem PcmFormat.checked_of_ok {sampleRate channels : Int} {f : PcmFormat}
    (h : PcmFormat.check sampleRate channels = .ok f) : f.Checked := by
  simp only [PcmFormat.check, ite_error_eq_ok] at h
  obtain ⟨hrate, hchannels, hrateSize, hchannelsSize, hf⟩ := h
  cases hf
  simp only [UInt32.size, UInt16.size] at hrateSize hchannelsSize
  constructor
  · show 0 < (UInt32.ofNat sampleRate.toNat).toNat
    rw [UInt32.toNat_ofNat']
    omega
  · show 0 < (UInt16.ofNat channels.toNat).toNat
    rw [UInt16.toNat_ofNat']
    omega

/-- A format has frames for as many channels as were asked for. -/
theorem PcmFormat.bytesPerFrame_of_ok {sampleRate : Int} {channels : Nat} {f : PcmFormat}
    (h : PcmFormat.check sampleRate channels = .ok f) :
    f.bytesPerFrame = sampleWidth * channels := by
  simp only [PcmFormat.check, ite_error_eq_ok] at h
  obtain ⟨-, -, -, hsize, hf⟩ := h
  cases hf
  simp only [UInt16.size] at hsize
  show sampleWidth * (UInt16.ofNat (channels : Int).toNat).toNat = _
  rw [UInt16.toNat_ofNat', Nat.mod_eq_of_lt (by omega), Int.toNat_natCast]

/-- A checked receiver configuration has a jitter buffer that can be counted in bytes. -/
structure ListenPlan.Checked (p : ListenPlan) : Prop where
  format : p.format.Checked
  jitterFrames_pos : 0 < p.jitterFrames
  prefillBytes_le : p.prefillBytes ≤ Binary64.maxWord

theorem ListenPlan.format_of_ok {port : UInt16} {sampleRate channels : Int} {jitterMillis : Float}
    {p : ListenPlan} (h : ListenPlan.check port sampleRate channels jitterMillis = .ok p) :
    PcmFormat.check sampleRate channels = .ok p.format := by
  simp only [ListenPlan.check, bind_eq_ok, ite_throw_eq_ok] at h
  obtain ⟨f, hf, -, -, -, hp⟩ := h
  cases hp
  exact hf

theorem ListenPlan.checked_of_ok {port : UInt16} {sampleRate channels : Int}
    {jitterMillis : Float} {p : ListenPlan}
    (h : ListenPlan.check port sampleRate channels jitterMillis = .ok p) : p.Checked := by
  simp only [ListenPlan.check, bind_eq_ok, ite_throw_eq_ok] at h
  obtain ⟨f, hf, -, hframes, hbytes, hp⟩ := h
  cases hp
  refine ⟨PcmFormat.checked_of_ok hf, Nat.pos_of_ne_zero hframes, ?_⟩
  by_cases hle : f.bytesForFrames (f.framesForMillis jitterMillis) ≤ Binary64.maxWord
  · exact hle
  · refine absurd ?_ hbytes
    rw [PcmFormat.checkedBytesForFrames, if_neg hle]
    rfl

/-- Checking each operation comes to cutting the exact length. -/
theorem SendPlan.datagramLengthFor_eq (f : PcmFormat) (frames : Nat) :
    datagramLengthFor f frames
      = min (Header.size + f.bytesForFrames frames) Binary64.maxWord := by
  rw [datagramLengthFor, PcmFormat.checkedBytesForFrames, Nat.add_comm Header.size]
  by_cases hpayload : f.bytesForFrames frames ≤ Binary64.maxWord
  · rw [if_pos hpayload, Option.bind_some]
    by_cases hlength : f.bytesForFrames frames + Header.size ≤ Binary64.maxWord
    · rw [if_pos hlength, Option.getD_some, Nat.min_eq_left hlength]
    · rw [if_neg hlength, Option.getD_none, Nat.min_eq_right (Nat.le_of_not_le hlength)]
  · rw [if_neg hpayload, Option.bind_none, Option.getD_none]
    refine (Nat.min_eq_right ?_).symm
    exact Nat.le_trans (Nat.le_of_not_le hpayload) (Nat.le_add_right _ _)

/-- A checked sender configuration has packets that hold audio and fit in a datagram. -/
structure SendPlan.Checked (p : SendPlan) : Prop where
  format : p.format.Checked
  framesPerPacket_pos : 0 < p.framesPerPacket
  datagramLength_le : p.datagramLength ≤ Packet.maxDatagram

theorem SendPlan.format_of_ok {frequency amplitude : Float} {sampleRate channels : Int}
    {packetMillis : Float} {p : SendPlan}
    (h : SendPlan.check frequency amplitude sampleRate channels packetMillis = .ok p) :
    PcmFormat.check sampleRate channels = .ok p.format := by
  simp only [SendPlan.check, bind_eq_ok, ite_throw_eq_ok] at h
  obtain ⟨f, hf, -, -, -, -, hp⟩ := h
  cases hp
  exact hf

theorem SendPlan.checked_of_ok {frequency amplitude : Float} {sampleRate channels : Int}
    {packetMillis : Float} {p : SendPlan}
    (h : SendPlan.check frequency amplitude sampleRate channels packetMillis = .ok p) :
    p.Checked := by
  simp only [SendPlan.check, bind_eq_ok, ite_throw_eq_ok] at h
  obtain ⟨f, hf, -, -, hframes, hlength, hp⟩ := h
  cases hp
  refine ⟨PcmFormat.checked_of_ok hf, Nat.pos_of_ne_zero hframes, ?_⟩
  rw [datagramLengthFor_eq] at hlength
  show Header.size + f.bytesForFrames (f.framesForMillis packetMillis) ≤ Packet.maxDatagram
  -- a length that was cut to 64 bits would be too large
  rw [Packet.maxDatagram, Binary64.maxWord, UInt64.size] at *
  omega

/-! ## The silence of a receiver -/

namespace ListenPlan

/-- Silence is counted in whole samples. -/
theorem prefillBytes_eq (p : ListenPlan) :
    p.prefillBytes = p.jitterFrames * p.format.channels.toNat * sampleWidth := by
  rw [prefillBytes, PcmFormat.bytesForFrames, PcmFormat.bytesPerFrame, Nat.mul_comm sampleWidth,
    Nat.mul_assoc]

/-- The chunks of silence are long enough for all of it to fit in the queue. -/
theorem prefillBytes_le_chunks (p : ListenPlan) :
    p.prefillBytes ≤ queueCapacity * p.silenceChunkBytes := by
  have hframes : p.jitterFrames ≤ queueCapacity * p.silenceFrames := by
    simp only [silenceFrames, queueCapacity]
    omega
  calc p.jitterFrames * p.format.bytesPerFrame
      ≤ queueCapacity * p.silenceFrames * p.format.bytesPerFrame :=
        Nat.mul_le_mul_right _ hframes
    _ = queueCapacity * p.silenceChunkBytes := Nat.mul_assoc _ _ _

/-- A checked plan has chunks of silence. -/
theorem Checked.silenceChunkBytes_ne_zero {p : ListenPlan} (h : p.Checked) :
    p.silenceChunkBytes ≠ 0 := by
  have hframes : 0 < p.silenceFrames := Nat.lt_of_lt_of_le (by decide) (Nat.le_max_left _ _)
  have hframe : 0 < p.format.bytesPerFrame := Nat.mul_pos (by decide) h.format.channels_pos
  exact Nat.ne_of_gt (Nat.mul_pos hframes hframe)

/-- The queue of a receiver starts with all its silence: zero samples for every frame of the jitter
buffer, on every channel. -/
theorem Checked.prefilled_flatten {p : ListenPlan} (h : p.Checked) :
    (Audio.Playback.prefilled p).2.chunks.flatten
      = bytesOfSamples (List.replicate (p.jitterFrames * p.format.channels.toNat) 0) := by
  have hfill := JitterQueue.prefill_flatten_of_fits JitterQueue.standard
    h.silenceChunkBytes_ne_zero p.prefillBytes_le_chunks
  rw [bytesOfSamples_replicate_zero, ← prefillBytes_eq]
  exact hfill

end ListenPlan

/-! ## The audio of a sender -/

namespace Tone

/-- Samples, each of them on every channel. -/
theorem length_spread (channels : Nat) (samples : List Int16) :
    (samples.flatMap (List.replicate channels)).length = samples.length * channels := by
  induction samples with
  | nil => exact (Nat.zero_mul _).symm
  | cons s rest ih =>
    rw [List.flatMap_cons, List.length_append, List.length_replicate, ih, List.length_cons,
      Nat.succ_mul, Nat.add_comm]

theorem length_samples (frames : Nat) (frequency amplitude : Float) (sampleRate : UInt32) :
    (samples frames frequency amplitude sampleRate).length = frames := by
  rw [samples, List.length_map, List.length_range]

theorem frameBytes_eq (channels : UInt16) (s : Int16) :
    frameBytes channels s = bytesOfSamples (List.replicate channels.toNat s) := by
  rw [frameBytes, bytesOfSamples, List.flatMap_def, List.map_replicate]

/-- A table is the bytes of its samples, each of them on every channel. -/
theorem table_eq (frames : Nat) (channels : UInt16) (frequency amplitude : Float)
    (sampleRate : UInt32) :
    table frames channels frequency amplitude sampleRate
      = bytesOfSamples ((samples frames frequency amplitude sampleRate).flatMap
          (List.replicate channels.toNat)) := by
  have hframe : frameBytes channels = fun s => bytesOfSamples (List.replicate channels.toNat s) :=
    funext (frameBytes_eq channels)
  rw [table, hframe, bytesOfSamples, List.flatMap_assoc]
  rfl

end Tone

namespace SendPlan

/-- The samples of every packet of a plan: those of the tone, each of them on every channel. -/
def tone (p : SendPlan) : List Int16 :=
  (Tone.samples p.framesPerPacket p.frequency p.amplitude p.format.sampleRate).flatMap
    (List.replicate p.format.channels.toNat)

/-- The audio of a packet is the bytes of its samples. -/
theorem payload_eq (p : SendPlan) : p.payload = bytesOfSamples p.tone :=
  Tone.table_eq _ _ _ _ _

theorem length_tone (p : SendPlan) :
    p.tone.length = p.framesPerPacket * p.format.channels.toNat := by
  rw [tone, Tone.length_spread, Tone.length_samples]

/-- The audio of a packet is as long as it was planned. -/
theorem length_payload (p : SendPlan) : p.payload.length = p.payloadLength := by
  rw [payload_eq, length_bytesOfSamples, length_tone, payloadLength, PcmFormat.bytesForFrames,
    PcmFormat.bytesPerFrame, Nat.mul_comm sampleWidth, Nat.mul_assoc]

/-- A packet of a checked plan has audio. -/
theorem Checked.payload_ne_nil {p : SendPlan} (h : p.Checked) : p.payload ≠ [] := by
  have hlength : 0 < p.tone.length := by
    rw [length_tone]
    exact Nat.mul_pos h.framesPerPacket_pos h.format.channels_pos
  intro hnil
  have hbytes := congrArg List.length (p.payload_eq.symm.trans hnil)
  rw [length_bytesOfSamples, List.length_nil, sampleWidth] at hbytes
  omega

end SendPlan

end ToneLink
