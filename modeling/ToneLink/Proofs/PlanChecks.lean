import ToneLink.Numbering
import ToneLink.Proofs.FloatArithmetic
import ToneLink.Proofs.PrefilledStart

/-!
# Exactly the plans that are made

The numbers of a user are checked one thing after the other, in 64-bit words that may overflow. A
chain of checks comes to a list in whole numbers, of which the first entry that applies decides.

- `firstRefusal`, `decideBy`: what a chain of checks comes to;
- `PcmFormat.refusals`, `ListenPlan.refusals`, `SendPlan.refusals`: the checks in their order;
- `ListenPlan.receiver_check_exact`: which receivers are made, and their sizes;
- `SendPlan.sender_check_exact`: which senders are made, and their packets.
-/

namespace ToneLink

open Number

/-! ## Chains of checks -/

/-- The error of the first check that refuses. A check is whether it refuses, and its error. -/
def firstRefusal (checks : List (Bool × ConfigError)) : Option ConfigError :=
  (checks.find? Prod.fst).map Prod.snd

/-- What a chain of checks comes to. -/
def decideBy {α : Type} (checks : List (Bool × ConfigError)) (accepted : α) :
    Except ConfigError α :=
  match firstRefusal checks with
  | some e => .error e
  | none => .ok accepted

section DecideBy

variable {α β : Type} {checks rest : List (Bool × ConfigError)} {a : α} {b : β} {e : ConfigError}

theorem firstRefusal_cons_eq_none_iff {refuses : Bool} :
    firstRefusal ((refuses, e) :: rest) = none ↔ refuses = false ∧ firstRefusal rest = none := by
  cases refuses with
  | true =>
    constructor
    · rintro ⟨⟩
    · rintro ⟨⟨⟩, -⟩
  | false => exact ⟨fun h => ⟨rfl, h⟩, fun h => h.2⟩

theorem firstRefusal_append :
    firstRefusal (checks ++ rest) = (firstRefusal checks).or (firstRefusal rest) := by
  rw [firstRefusal, List.find?_append, Option.map_or]
  rfl

theorem decideBy_eq_error_iff : decideBy checks a = .error e ↔ firstRefusal checks = some e := by
  unfold decideBy
  cases firstRefusal checks with
  | some e' =>
    constructor
    · rintro ⟨⟩
      rfl
    · rintro ⟨⟩
      rfl
  | none =>
    constructor
    · rintro ⟨⟩
    · rintro ⟨⟩

theorem decideBy_eq_ok_iff {a' : α} :
    decideBy checks a = .ok a' ↔ firstRefusal checks = none ∧ a' = a := by
  unfold decideBy
  cases firstRefusal checks with
  | some e' =>
    constructor
    · rintro ⟨⟩
    · rintro ⟨⟨⟩, -⟩
  | none =>
    constructor
    · rintro ⟨⟩
      exact ⟨rfl, rfl⟩
    · rintro ⟨-, rfl⟩
      rfl

theorem exists_decideBy_eq_ok_iff :
    (∃ a', decideBy checks a = .ok a') ↔ firstRefusal checks = none := by
  constructor
  · rintro ⟨a', h⟩
    exact (decideBy_eq_ok_iff.mp h).1
  · intro h
    exact ⟨a, decideBy_eq_ok_iff.mpr ⟨h, rfl⟩⟩

/-- One more check before a chain. -/
theorem ite_eq_decideBy {refused : Prop} [Decidable refused] {refuses : Bool}
    {x : Except ConfigError α} (hrefuses : refused ↔ refuses = true)
    (hrest : ¬ refused → x = decideBy rest a) :
    (if refused then .error e else x) = decideBy ((refuses, e) :: rest) a := by
  by_cases h : refused
  · rw [if_pos h, hrefuses.mp h]
    rfl
  · have hfalse : refuses = false := Bool.eq_false_iff.mpr (mt hrefuses.mpr h)
    rw [if_neg h, hrest h, hfalse]
    rfl

theorem ite_throw_eq_decideBy {γ : Type} {refused : Prop} [Decidable refused] {refuses : Bool}
    {f : γ → Except ConfigError α} {x : Except ConfigError α}
    (hrefuses : refused ↔ refuses = true) (hrest : ¬ refused → x = decideBy rest a) :
    (if refused then throw e >>= f else x) = decideBy ((refuses, e) :: rest) a :=
  ite_eq_decideBy hrefuses hrest

/-- A chain of checks after another one. -/
theorem decideBy_bind {f : α → Except ConfigError β}
    (hrest : firstRefusal checks = none → f a = decideBy rest b) :
    decideBy checks a >>= f = decideBy (checks ++ rest) b := by
  have happend : firstRefusal (checks ++ rest) = _ := firstRefusal_append
  -- the second chain counts only if the first one refuses nothing
  cases hchecks : firstRefusal checks with
  | some e =>
    rw [hchecks] at happend
    rw [decideBy_eq_error_iff.mpr hchecks, decideBy_eq_error_iff.mpr happend]
    rfl
  | none =>
    rw [hchecks, Option.none_or] at happend
    rw [decideBy_eq_ok_iff.mpr ⟨hchecks, rfl⟩, decideBy, happend]
    exact hrest hchecks

end DecideBy

/-! ## Formats -/

namespace PcmFormat

/-- The format of numbers in range. What it is of others plays no part: they are refused before
anything is derived from it. -/
def ofNumbers (sampleRate channels : Int) : PcmFormat :=
  ⟨UInt32.ofNat sampleRate.toNat, UInt16.ofNat channels.toNat⟩

/-- The checks of a format, in their order. -/
def refusals (sampleRate channels : Int) : List (Bool × ConfigError) :=
  [(sampleRate < 1, .sampleRateNotPositive sampleRate),
    (channels < 1, .channelsNotPositive channels),
    (2 ^ 32 ≤ sampleRate, .sampleRateTooLarge sampleRate),
    (2 ^ 16 ≤ channels, .tooManyChannels channels)]

/-- Numbers that make a format. -/
@[mk_iff]
structure InRange (sampleRate channels : Int) : Prop where
  one_le_sampleRate : 1 ≤ sampleRate
  sampleRate_lt : sampleRate < 2 ^ 32
  one_le_channels : 1 ≤ channels
  channels_lt : channels < 2 ^ 16

variable {sampleRate channels : Int}

theorem check_eq (sampleRate channels : Int) :
    check sampleRate channels
      = decideBy (refusals sampleRate channels) (ofNumbers sampleRate channels) := by
  refine ite_eq_decideBy ?_ fun _ => ite_eq_decideBy ?_ fun _ => ite_eq_decideBy ?_ fun _ =>
    ite_eq_decideBy ?_ fun _ => rfl
  · rw [decide_eq_true_iff]
    omega
  · rw [decide_eq_true_iff]
    omega
  · exact decide_eq_true_iff.symm
  · exact decide_eq_true_iff.symm

theorem firstRefusal_refusals :
    firstRefusal (refusals sampleRate channels) = none ↔ InRange sampleRate channels := by
  simp only [refusals, firstRefusal_cons_eq_none_iff, decide_eq_false_iff_not, Int.not_lt,
    Int.not_le]
  constructor
  · rintro ⟨hrate, hchannels, hrateSize, hchannelsSize, -⟩
    exact ⟨hrate, hrateSize, hchannels, hchannelsSize⟩
  · rintro ⟨hrate, hrateSize, hchannels, hchannelsSize⟩
    exact ⟨hrate, hchannels, hrateSize, hchannelsSize, rfl⟩

theorem InRange.sampleRate_eq (h : InRange sampleRate channels) :
    ((ofNumbers sampleRate channels).sampleRate.toNat : Int) = sampleRate := by
  have hlow := h.one_le_sampleRate
  have hhigh := h.sampleRate_lt
  show ((UInt32.ofNat sampleRate.toNat).toNat : Int) = _
  rw [UInt32.toNat_ofNat_of_lt' (show _ < 4294967296 by omega)]
  omega

theorem InRange.channels_eq (h : InRange sampleRate channels) :
    ((ofNumbers sampleRate channels).channels.toNat : Int) = channels := by
  have hlow := h.one_le_channels
  have hhigh := h.channels_lt
  show ((UInt16.ofNat channels.toNat).toNat : Int) = _
  rw [UInt16.toNat_ofNat_of_lt' (show _ < 65536 by omega)]
  omega

/-- Bytes are counted in whole samples on every channel. -/
theorem InRange.bytesForFrames_eq (h : InRange sampleRate channels) (frames : Nat) :
    ((ofNumbers sampleRate channels).bytesForFrames frames : Int) = 2 * channels * frames := by
  rw [bytesForFrames, bytesPerFrame, sampleWidth, Nat.cast_mul, Nat.cast_mul, h.channels_eq]
  exact Int.mul_comm _ _

theorem checkedBytesForFrames_of_le {f : PcmFormat} {frames : Nat}
    (h : f.bytesForFrames frames ≤ Binary64.maxWord) :
    f.checkedBytesForFrames frames = some (f.bytesForFrames frames) := if_pos h

end PcmFormat

/-! ## Receivers -/

namespace ListenPlan

/-- The checks of a receiver, in their order: those of its format, then those of its depth. -/
def refusals (sampleRate channels : Int) (jitterMillis : Float) : List (Bool × ConfigError) :=
  let frames := (PcmFormat.ofNumbers sampleRate channels).framesForMillis jitterMillis
  PcmFormat.refusals sampleRate channels ++
    [(!jitterMillis.isFinite, .durationNotFinite jitterMillis),
      (frames < 1, .jitterEmpty jitterMillis),
      (2 ^ 64 ≤ frames * 2 * channels, .jitterTooLarge jitterMillis)]

theorem check_eq (port : UInt16) (sampleRate channels : Int) (jitterMillis : Float) :
    check port sampleRate channels jitterMillis
      = decideBy (refusals sampleRate channels jitterMillis)
          ⟨port, .ofNumbers sampleRate channels, jitterMillis,
            (PcmFormat.ofNumbers sampleRate channels).framesForMillis jitterMillis⟩ := by
  rw [check, PcmFormat.check_eq]
  refine decideBy_bind fun hformat => ?_
  have hbytes := (PcmFormat.firstRefusal_refusals.mp hformat).bytesForFrames_eq
    ((PcmFormat.ofNumbers sampleRate channels).framesForMillis jitterMillis)
  refine ite_throw_eq_decideBy ?_ fun _ => ite_throw_eq_decideBy ?_ fun _ =>
    ite_throw_eq_decideBy ?_ fun _ => rfl
  · rw [Bool.not_eq_true, Bool.not_eq_true']
  · rw [decide_eq_true_iff, Nat.lt_one_iff]
  · rw [decide_eq_true_iff, PcmFormat.checkedBytesForFrames, Int.mul_assoc,
      Int.mul_comm (Nat.cast _), ← hbytes, Binary64.maxWord, UInt64.size]
    split
    · simp only [Option.isNone_some, Bool.false_eq_true, false_iff]
      omega
    · simp only [Option.isNone_none, true_iff]
      omega

theorem firstRefusal_refusals {sampleRate channels : Int} {jitterMillis : Float} :
    let frames := (PcmFormat.ofNumbers sampleRate channels).framesForMillis jitterMillis
    firstRefusal (refusals sampleRate channels jitterMillis) = none ↔
      PcmFormat.InRange sampleRate channels ∧ jitterMillis.isFinite ∧ 1 ≤ frames ∧
        frames * 2 * channels < 2 ^ 64 := by
  intro frames
  rw [refusals, firstRefusal_append, Option.or_eq_none_iff, PcmFormat.firstRefusal_refusals]
  simp only [firstRefusal_cons_eq_none_iff, Bool.not_eq_false', decide_eq_false_iff_not,
    Nat.not_lt, Int.not_le]
  constructor
  · rintro ⟨hrange, hfinite, hframes, hbytes, -⟩
    exact ⟨hrange, hfinite, hframes, hbytes⟩
  · rintro ⟨hrange, hfinite, hframes, hbytes⟩
    exact ⟨hrange, hfinite, hframes, hbytes, rfl⟩

theorem maxDatagram_eq (p : ListenPlan) : p.maxDatagram = 12 + 4096 * p.format.channels.toNat := by
  rw [maxDatagram, Header.size, PcmFormat.bytesForFrames, PcmFormat.bytesPerFrame, sampleWidth,
    maxPayloadFrames, ← Nat.mul_assoc]

/-- The longest datagram can always be counted in bytes. -/
theorem maxDatagram_le (p : ListenPlan) : p.maxDatagram ≤ Binary64.maxWord := by
  have hchannels := p.format.channels.toNat_lt
  rw [maxDatagram_eq, Binary64.maxWord, UInt64.size]
  omega

/-- **Exactly the receivers that are made, and their sizes.** A receiver is made if its format, its
jitter depth and the bytes of that depth are in range; otherwise the first check that fails is
reported. Every size of a receiver that is made was computed without overflow, and its silence fits
in the queue. -/
theorem receiver_check_exact (port : UInt16) (sampleRate channels : Int) (jitterMillis : Float) :
    let frames := (PcmFormat.ofNumbers sampleRate channels).framesForMillis jitterMillis
    (∀ e, check port sampleRate channels jitterMillis = .error e ↔
      firstRefusal (refusals sampleRate channels jitterMillis) = some e) ∧
    ((∃ p, check port sampleRate channels jitterMillis = .ok p) ↔
      1 ≤ sampleRate ∧ sampleRate < 2 ^ 32 ∧ 1 ≤ channels ∧ channels < 2 ^ 16 ∧
        jitterMillis.isFinite ∧ 1 ≤ frames ∧ frames * 2 * channels < 2 ^ 64) ∧
    ∀ p, check port sampleRate channels jitterMillis = .ok p →
      (p.port = port ∧ p.format.sampleRate.toNat = sampleRate ∧
        p.format.channels.toNat = channels ∧ p.jitterMillis = jitterMillis ∧
        p.jitterFrames = frames) ∧
      (p.format.checkedBytesForFrames p.jitterFrames = some p.prefillBytes ∧
        p.prefillBytes = 2 * channels * frames) ∧
      (p.format.checkedBytesForFrames p.silenceFrames = some p.silenceChunkBytes ∧
        p.silenceChunkBytes = 2 * channels * (max 256 (frames ⌈/⌉ 64) : Nat)) ∧
      (∃ payload, p.format.checkedBytesForFrames maxPayloadFrames = some payload ∧
        p.maxDatagram = Header.size + payload ∧ p.maxDatagram ≤ Binary64.maxWord ∧
        p.maxDatagram = 12 + 4096 * channels) ∧
      0 < p.prefillBytes ∧ p.prefillBytes ≤ 64 * p.silenceChunkBytes := by
  intro frames
  refine ⟨fun e => ?_, ?_, fun p hp => ?_⟩
  · rw [check_eq]
    exact decideBy_eq_error_iff
  · simp only [check_eq, exists_decideBy_eq_ok_iff, firstRefusal_refusals, PcmFormat.inRange_iff,
      and_assoc]
    rfl
  · have hchecked := checked_of_ok hp
    have hle := p.prefillBytes_le_chunks
    have hpos : 0 < p.prefillBytes := Nat.mul_pos hchecked.jitterFrames_pos
      (Nat.mul_pos (by decide) hchecked.format.channels_pos)
    have hpayload : p.format.bytesForFrames maxPayloadFrames ≤ Binary64.maxWord :=
      (Nat.le_add_left _ _).trans p.maxDatagram_le
    rw [check_eq] at hp
    obtain ⟨haccepted, hp⟩ := decideBy_eq_ok_iff.mp hp
    obtain ⟨hrange, -⟩ := firstRefusal_refusals.mp haccepted
    have hformat : p.format = .ofNumbers sampleRate channels := congrArg ListenPlan.format hp
    have hjitter : p.jitterFrames = frames := congrArg ListenPlan.jitterFrames hp
    have hchannels : (p.format.channels.toNat : Int) = channels := by
      rw [hformat]
      exact hrange.channels_eq
    have hbytes : ∀ n : Nat, (p.format.bytesForFrames n : Int) = 2 * channels * n := by
      rw [hformat]
      exact hrange.bytesForFrames_eq
    refine ⟨⟨?_, ?_, hchannels, ?_, hjitter⟩, ⟨?_, ?_⟩, ⟨?_, ?_⟩,
      ⟨_, ?_, rfl, p.maxDatagram_le, ?_⟩, hpos, hle⟩
    · rw [hp]
    · rw [hformat]
      exact hrange.sampleRate_eq
    · rw [hp]
    · exact PcmFormat.checkedBytesForFrames_of_le hchecked.prefillBytes_le
    · rw [prefillBytes, hbytes, hjitter]
    · exact PcmFormat.checkedBytesForFrames_of_le hchecked.silenceChunkBytes_le
    · rw [silenceChunkBytes, hbytes, silenceFrames_eq, hjitter]
    · exact PcmFormat.checkedBytesForFrames_of_le hpayload
    · rw [maxDatagram_eq, ← hchannels, Nat.cast_add, Nat.cast_mul]
      rfl

/-- Two seconds on two channels: more than 64 of the shortest chunks. -/
theorem receiver_check_exact_two_seconds :
    ∃ p, check 5004 48000 2 2000 = .ok p ∧ p.jitterFrames = 96000 ∧ p.prefillBytes = 384000 ∧
      p.silenceChunkBytes = 6000 ∧ p.maxDatagram = 8204 := by
  have hframes : (PcmFormat.ofNumbers 48000 2).framesForMillis 2000 = 96000 := by decide +kernel
  obtain ⟨-, haccepted, hsizes⟩ := receiver_check_exact 5004 48000 2 2000
  simp only [hframes] at haccepted hsizes
  obtain ⟨p, hp⟩ := haccepted.mpr (by decide +kernel)
  obtain ⟨⟨-, -, -, -, hjitter⟩, ⟨-, hprefill⟩, ⟨-, hsilence⟩, ⟨_, -, -, -, hdatagram⟩, -⟩ :=
    hsizes p hp
  have hchunk : max 256 (96000 ⌈/⌉ 64) = 1500 := by decide
  rw [hchunk] at hsilence
  exact ⟨p, hp, hjitter, by omega, by omega, by omega⟩

end ListenPlan

/-! ## Senders -/

namespace SendPlan

/-- The checks of a sender, in their order: those of its format, then those of its packets. -/
def refusals (sampleRate channels : Int) (packetMillis : Float) : List (Bool × ConfigError) :=
  let frames := (PcmFormat.ofNumbers sampleRate channels).framesForMillis packetMillis
  let length := 12 + 2 * channels * frames
  PcmFormat.refusals sampleRate channels ++
    [(!packetMillis.isFinite, .durationNotFinite packetMillis),
      (¬ 0 < packetMillis, .durationNotPositive packetMillis),
      (frames < 1, .packetEmpty),
      (65507 < length, .datagramTooLarge (min length (2 ^ 64 - 1)).toNat 65507)]

theorem check_eq (frequency amplitude : Float) (sampleRate channels : Int) (packetMillis : Float) :
    check frequency amplitude sampleRate channels packetMillis
      = decideBy (refusals sampleRate channels packetMillis)
          ⟨.ofNumbers sampleRate channels, frequency, clampAmplitude amplitude,
            (PcmFormat.ofNumbers sampleRate channels).framesForMillis packetMillis,
            packetMillis⟩ := by
  rw [check, PcmFormat.check_eq]
  refine decideBy_bind fun hformat => ?_
  have hbytes := (PcmFormat.firstRefusal_refusals.mp hformat).bytesForFrames_eq
    ((PcmFormat.ofNumbers sampleRate channels).framesForMillis packetMillis)
  -- the length that is looked at is the exact one, cut off at 64 bits
  have hlength : (datagramLengthFor (.ofNumbers sampleRate channels)
      ((PcmFormat.ofNumbers sampleRate channels).framesForMillis packetMillis) : Int)
      = min (12 + 2 * channels
          * (PcmFormat.ofNumbers sampleRate channels).framesForMillis packetMillis)
        (2 ^ 64 - 1) := by
    rw [datagramLengthFor_eq, ← hbytes, Binary64.maxWord, UInt64.size, Header.size]
    omega
  refine ite_throw_eq_decideBy ?_ fun hfinite => ite_throw_eq_decideBy ?_ fun _ =>
    ite_throw_eq_decideBy ?_ fun _ => ?_
  · rw [Bool.not_eq_true, Bool.not_eq_true']
  · rw [decide_eq_true_iff]
    exact Binary64.le_zero_iff (not_not.mp hfinite)
  · rw [decide_eq_true_iff, Nat.lt_one_iff]
  · rw [← hlength, Int.toNat_natCast]
    refine ite_throw_eq_decideBy ?_ fun _ => rfl
    rw [decide_eq_true_iff, Packet.maxDatagram]
    omega

theorem firstRefusal_refusals {sampleRate channels : Int} {packetMillis : Float} :
    let frames := (PcmFormat.ofNumbers sampleRate channels).framesForMillis packetMillis
    firstRefusal (refusals sampleRate channels packetMillis) = none ↔
      PcmFormat.InRange sampleRate channels ∧ packetMillis.isFinite ∧ 0 < packetMillis ∧
        1 ≤ frames ∧ 12 + 2 * channels * frames ≤ 65507 := by
  intro frames
  rw [refusals, firstRefusal_append, Option.or_eq_none_iff, PcmFormat.firstRefusal_refusals]
  simp only [firstRefusal_cons_eq_none_iff, Bool.not_eq_false', decide_eq_false_iff_not,
    not_not, Nat.not_lt, Int.not_lt]
  constructor
  · rintro ⟨hrange, hfinite, hpos, hframes, hlength, -⟩
    exact ⟨hrange, hfinite, hpos, hframes, hlength⟩
  · rintro ⟨hrange, hfinite, hpos, hframes, hlength⟩
    exact ⟨hrange, hfinite, hpos, hframes, hlength, rfl⟩

/-- A packet that fits in a datagram has no more frames than it could have on one channel. -/
theorem Checked.framesPerPacket_le {p : SendPlan} (h : p.Checked) : p.framesPerPacket ≤ 32747 := by
  have hlength : 12 + p.framesPerPacket * (2 * p.format.channels.toNat) ≤ 65507 :=
    h.datagramLength_le
  have htwo : p.framesPerPacket * 2 ≤ p.framesPerPacket * (2 * p.format.channels.toNat) :=
    Nat.mul_le_mul_left _ (Nat.le_mul_of_pos_right 2 h.format.channels_pos)
  omega

/-- The frames of a packet can be added to a count of 32 bits as they are. -/
theorem Checked.startingAt_framesPerPacket {p : SendPlan} (h : p.Checked)
    (sequence sampleCounter : UInt32) :
    (Numbering.startingAt sequence sampleCounter p.framesPerPacket).framesPerPacket.toNat
      = p.framesPerPacket := by
  have hle := h.framesPerPacket_le
  exact UInt32.toNat_ofNat_of_lt' (show _ < 4294967296 by omega)

/-- **Exactly the senders that are made, and their packets.** A sender is made if its format and
its packet duration are in range, and a packet holds audio and fits in a datagram; otherwise the
first check that fails is reported. The lengths of a packet of a sender that is made were computed
without overflow, and its frames fit in a count of 32 bits. -/
theorem sender_check_exact (frequency amplitude : Float) (sampleRate channels : Int)
    (packetMillis : Float) :
    let frames := (PcmFormat.ofNumbers sampleRate channels).framesForMillis packetMillis
    (∀ e, check frequency amplitude sampleRate channels packetMillis = .error e ↔
      firstRefusal (refusals sampleRate channels packetMillis) = some e) ∧
    ((∃ p, check frequency amplitude sampleRate channels packetMillis = .ok p) ↔
      1 ≤ sampleRate ∧ sampleRate < 2 ^ 32 ∧ 1 ≤ channels ∧ channels < 2 ^ 16 ∧
        packetMillis.isFinite ∧ 0 < packetMillis ∧ 1 ≤ frames ∧
        12 + 2 * channels * frames ≤ 65507) ∧
    ∀ p, check frequency amplitude sampleRate channels packetMillis = .ok p →
      (p.format.sampleRate.toNat = sampleRate ∧ p.format.channels.toNat = channels ∧
        p.frequency = frequency ∧ p.amplitude = clampAmplitude amplitude ∧
        p.packetMillis = packetMillis ∧ p.framesPerPacket = frames) ∧
      (p.format.checkedBytesForFrames p.framesPerPacket = some p.payloadLength ∧
        p.payloadLength = 2 * channels * frames) ∧
      (p.datagramLength = 12 + 2 * channels * frames ∧ p.datagramLength ≤ 65507) ∧
      1 ≤ p.framesPerPacket ∧ p.framesPerPacket ≤ 32747 ∧
      ∀ sequence sampleCounter,
        (Numbering.startingAt sequence sampleCounter p.framesPerPacket).framesPerPacket.toNat
          = p.framesPerPacket := by
  intro frames
  refine ⟨fun e => ?_, ?_, fun p hp => ?_⟩
  · rw [check_eq]
    exact decideBy_eq_error_iff
  · simp only [check_eq, exists_decideBy_eq_ok_iff, firstRefusal_refusals, PcmFormat.inRange_iff,
      and_assoc]
    rfl
  · have hchecked := checked_of_ok hp
    have hdatagram : p.datagramLength = 12 + p.payloadLength := rfl
    have hle : p.datagramLength ≤ 65507 := hchecked.datagramLength_le
    have hword : p.payloadLength ≤ Binary64.maxWord := by
      rw [Binary64.maxWord, UInt64.size]
      omega
    rw [check_eq] at hp
    obtain ⟨haccepted, hp⟩ := decideBy_eq_ok_iff.mp hp
    obtain ⟨hrange, -⟩ := firstRefusal_refusals.mp haccepted
    have hformat : p.format = .ofNumbers sampleRate channels := congrArg SendPlan.format hp
    have hframes : p.framesPerPacket = frames := congrArg SendPlan.framesPerPacket hp
    have hpayload : (p.payloadLength : Int) = 2 * channels * frames := by
      rw [payloadLength, hformat, hrange.bytesForFrames_eq, hframes]
    refine ⟨⟨?_, ?_, ?_, ?_, ?_, hframes⟩, ⟨?_, hpayload⟩, ⟨?_, hle⟩,
      hchecked.framesPerPacket_pos, hchecked.framesPerPacket_le,
      hchecked.startingAt_framesPerPacket⟩
    · rw [hformat]
      exact hrange.sampleRate_eq
    · rw [hformat]
      exact hrange.channels_eq
    · rw [hp]
    · rw [hp]
    · rw [hp]
    · exact PcmFormat.checkedBytesForFrames_of_le hword
    · rw [hdatagram, Nat.cast_add, hpayload]
      rfl

/-- A packet of exactly the largest size, and one that is longer by a frame. -/
theorem sender_check_exact_at_limit :
    (∃ p, check 440 0.5 8000 1 4093.375 = .ok p ∧ p.framesPerPacket = 32747 ∧
      p.datagramLength = 65506) ∧
    check 440 0.5 8000 1 4093.5 = .error (.datagramTooLarge 65508 65507) := by
  have hlargest : (PcmFormat.ofNumbers 8000 1).framesForMillis 4093.375 = 32747 := by
    decide +kernel
  obtain ⟨-, haccepted, hlengths⟩ := sender_check_exact 440 0.5 8000 1 4093.375
  obtain ⟨hrefused, -⟩ := sender_check_exact 440 0.5 8000 1 4093.5
  simp only [hlargest] at haccepted hlengths
  obtain ⟨p, hp⟩ := haccepted.mpr (by decide +kernel)
  obtain ⟨⟨-, -, -, -, -, hframes⟩, -, ⟨hlength, -⟩, -⟩ := hlengths p hp
  exact ⟨⟨p, hp, hframes, by omega⟩, (hrefused _).mpr (by decide +kernel)⟩

end SendPlan

end ToneLink
