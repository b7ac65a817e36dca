import Mathlib.Algebra.Order.Floor.Div
import ToneLink.Proofs.CheckedPlans
import ToneLink.Proofs.StationRun
import ToneLink.Wave.FileWriter

/-!
# How a receiver starts

A receiver starts with silence in its queue, as much as its plan asks for. Its queue has a fixed
number of places, so the chunks of silence are made as long as they have to be. What places they
leave are taken by the first packets.

- `ListenPlan.prefillChunks`: the chunks of silence of a plan;
- `ListenPlan.Checked.prefilled_eq`: every checked plan gets all of them;
- `Station.History.Filled`: a queue from which nothing has been taken yet;
- `ListenPlan.prefill_fits`: the law of a start.
-/

namespace ToneLink

/-! ## Chunks of silence -/

namespace ListenPlan

theorem silenceFrames_eq (p : ListenPlan) : p.silenceFrames = max 256 (p.jitterFrames ⌈/⌉ 64) := rfl

/-- The chunks of silence: as many whole ones as leave a last one. -/
def prefillChunks (p : ListenPlan) : List Bytes :=
  List.replicate ((p.jitterFrames - 1) / p.silenceFrames) (silence p.silenceChunkBytes)
    ++ [silence (p.format.bytesForFrames ((p.jitterFrames - 1) % p.silenceFrames + 1))]

theorem length_prefillChunks (p : ListenPlan) :
    p.prefillChunks.length = (p.jitterFrames - 1) / p.silenceFrames + 1 := by
  rw [prefillChunks, List.length_append, List.length_replicate, List.length_singleton]

theorem silenceFrames_pos (p : ListenPlan) : 0 < p.silenceFrames :=
  Nat.lt_of_lt_of_le (by decide) (Nat.le_max_left _ _)

/-- The whole chunks leave a place for the last one. -/
theorem whole_chunks_lt (p : ListenPlan) :
    (p.jitterFrames - 1) / p.silenceFrames < queueCapacity := by
  refine Nat.div_lt_of_lt_mul ?_
  have hpos := p.silenceFrames_pos
  have hlong : (p.jitterFrames + 63) / 64 ≤ p.silenceFrames := Nat.le_max_right _ _
  rw [queueCapacity]
  omega

/-- The number of chunks is the number of frames divided by those of a chunk, rounded up. -/
theorem length_prefillChunks_eq_ceilDiv {p : ListenPlan} (h : p.Checked) :
    p.prefillChunks.length = p.jitterFrames ⌈/⌉ max 256 (p.jitterFrames ⌈/⌉ 64) := by
  have hframes := h.jitterFrames_pos
  have hshift : p.jitterFrames + p.silenceFrames - 1 = p.jitterFrames - 1 + p.silenceFrames := by
    omega
  rw [← silenceFrames_eq, length_prefillChunks, Nat.ceilDiv_eq_add_pred_div, hshift,
    Nat.add_div_right _ p.silenceFrames_pos]

/-- Every chunk of silence is a whole number of frames. -/
theorem bytesPerFrame_dvd (p : ListenPlan) :
    ∀ chunk ∈ p.prefillChunks, p.format.bytesPerFrame ∣ chunk.length := by
  intro chunk hchunk
  rcases List.mem_append.mp hchunk with hwhole | hlast
  · rw [(List.mem_replicate.mp hwhole).2, length_silence]
    exact Nat.dvd_mul_left _ _
  · rw [List.mem_singleton.mp hlast, length_silence]
    exact Nat.dvd_mul_left _ _

/-- All chunks of silence but the last one are equally long. -/
theorem length_of_mem_dropLast (p : ListenPlan) :
    ∀ chunk ∈ p.prefillChunks.dropLast, chunk.length = p.silenceChunkBytes := by
  intro chunk hchunk
  rw [prefillChunks, List.dropLast_concat] at hchunk
  rw [(List.mem_replicate.mp hchunk).2, length_silence]

/-- A chunk of silence can be counted in bytes if all of it can. -/
theorem Checked.silenceChunkBytes_le {p : ListenPlan} (h : p.Checked) :
    p.silenceChunkBytes ≤ Number.Binary64.maxWord := by
  have hframes := h.jitterFrames_pos
  have hcases : p.silenceFrames ≤ 256 ∨ p.silenceFrames ≤ p.jitterFrames := by
    rw [silenceFrames, silenceChunkFrames, queueCapacity]
    omega
  rcases hcases with hshort | hlong
  · have hchannels := p.format.channels.toNat_lt
    have hframe : p.format.bytesPerFrame ≤ 2 * 65535 := by
      rw [PcmFormat.bytesPerFrame, sampleWidth]
      omega
    calc p.silenceFrames * p.format.bytesPerFrame
        ≤ 256 * (2 * 65535) := Nat.mul_le_mul hshort hframe
      _ ≤ Number.Binary64.maxWord := by decide
  · calc p.silenceFrames * p.format.bytesPerFrame
        ≤ p.jitterFrames * p.format.bytesPerFrame := Nat.mul_le_mul_right _ hlong
      _ ≤ Number.Binary64.maxWord := h.prefillBytes_le

/-- The queue of a checked plan takes all its silence. -/
theorem Checked.prefilled_eq {p : ListenPlan} (h : p.Checked) :
    Audio.Playback.prefilled p
      = (⟨p.prefillChunks, p.prefillBytes, p.prefillChunks.length, false⟩,
          ⟨queueCapacity, p.prefillChunks⟩) := by
  have hframes := h.jitterFrames_pos
  have hframe : 0 < p.format.bytesPerFrame := Nat.mul_pos (by decide) h.format.channels_pos
  have hmod : (p.jitterFrames - 1) % p.silenceFrames < p.silenceFrames :=
    Nat.mod_lt _ p.silenceFrames_pos
  have hsplit : p.jitterFrames = (p.jitterFrames - 1) / p.silenceFrames * p.silenceFrames
      + ((p.jitterFrames - 1) % p.silenceFrames + 1) := by
    have hdivision := Nat.div_add_mod' (p.jitterFrames - 1) p.silenceFrames
    omega
  have hbytes : p.prefillBytes = (p.jitterFrames - 1) / p.silenceFrames * p.silenceChunkBytes
      + p.format.bytesForFrames ((p.jitterFrames - 1) % p.silenceFrames + 1) := by
    rw [prefillBytes, silenceChunkBytes, PcmFormat.bytesForFrames, PcmFormat.bytesForFrames,
      PcmFormat.bytesForFrames, ← Nat.mul_assoc, ← Nat.add_mul, ← hsplit]
  have hfill : JitterQueue.fillRoom p.prefillBytes p.silenceChunkBytes queueCapacity 0
      = ⟨p.prefillChunks, p.prefillBytes, p.prefillChunks.length, false⟩ := by
    rw [length_prefillChunks]
    exact JitterQueue.fillRoom_of_fits (Nat.mul_pos (Nat.succ_pos _) hframe)
      (Nat.mul_le_mul_right _ hmod) p.whole_chunks_lt hbytes
  rw [Audio.Playback.prefilled, JitterQueue.prefill, if_neg h.silenceChunkBytes_ne_zero]
  show (JitterQueue.fillRoom p.prefillBytes p.silenceChunkBytes queueCapacity 0,
    JitterQueue.mk queueCapacity
      (JitterQueue.fillRoom p.prefillBytes p.silenceChunkBytes queueCapacity 0).chunks) = _
  rw [hfill]

end ListenPlan

/-! ## The first packets -/

namespace Station

variable {lib : Wave.Library}

/-- The audio that was queued or dropped, oldest first. -/
def History.offered (h : History lib) : List Bytes := h.events.filterMap Event.offered?

/-- As long as nothing is taken, packets fill the places that `initial` has left, and then they are
dropped. -/
structure History.Filled (s : Station lib) (capacity : Nat) (initial : List Bytes)
    (h : History lib) : Prop where
  queue_eq : h.station.queue
    = some ⟨capacity, initial ++ h.offered.take (capacity - initial.length)⟩
  queued_eq : h.events.filterMap Event.queued? = h.offered.take (capacity - initial.length)
  drops_eq : h.station.drops
    = s.drops + (h.offered.length - (capacity - initial.length)).toUInt64

namespace History

variable {s : Station lib} {capacity : Nat} {initial : List Bytes} {h later : History lib}
  {p : Packet}

theorem offered_concat {e : Event} (hevents : later.events = h.events ++ [e]) :
    later.offered = h.offered ++ e.offered?.toList := by
  rw [offered, hevents, filterMap_concat]
  rfl

/-- What offers and takes nothing leaves a queue that is being filled as it is. -/
theorem Filled.frame (hf : h.Filled s capacity initial) {e : Event}
    (hevents : later.events = h.events ++ [e]) (hqueue : later.station.queue = h.station.queue)
    (hdrops : later.station.drops = h.station.drops) (hoffered : e.offered? = none)
    (hqueued : e.queued? = none) : later.Filled s capacity initial := by
  have hsame : later.offered = h.offered := by
    rw [offered_concat hevents, hoffered]
    exact List.append_nil _
  refine { queue_eq := ?_, queued_eq := ?_, drops_eq := ?_ }
  · rw [hqueue, hsame]
    exact hf.queue_eq
  · rw [hevents, filterMap_concat, hqueued, hsame]
    exact (List.append_nil _).trans hf.queued_eq
  · rw [hdrops, hsame]
    exact hf.drops_eq

/-- As long as there are places, all that was offered is in the queue, and so is the next packet. -/
theorem Filled.queued (hf : h.Filled s capacity initial)
    (hroom : h.offered.length < capacity - initial.length)
    (hevents : later.events = h.events ++ [.packet p (.ok ()) (some .queued)])
    (hqueue : ∀ queue, h.station.queue = some queue →
      later.station.queue = some { queue with chunks := queue.chunks ++ [p.payload] })
    (hdrops : later.station.drops = h.station.drops) : later.Filled s capacity initial := by
  have hoffered : later.offered = h.offered ++ [p.payload] := offered_concat hevents
  have hlength : later.offered.length = h.offered.length + 1 := by
    rw [hoffered, List.length_append, List.length_singleton]
  have htake : later.offered.take (capacity - initial.length)
      = h.offered.take (capacity - initial.length) ++ [p.payload] := by
    rw [List.take_of_length_le (by omega), List.take_of_length_le (by omega), hoffered]
  refine { queue_eq := ?_, queued_eq := ?_, drops_eq := ?_ }
  · rw [hqueue _ hf.queue_eq, htake, List.append_assoc]
  · rw [hevents, filterMap_concat, hf.queued_eq, htake]
    rfl
  · rw [hdrops, hf.drops_eq, hlength, Nat.sub_eq_zero_of_le (Nat.le_of_lt hroom),
      Nat.sub_eq_zero_of_le hroom]

/-- Once the places are taken, packets change nothing but the count. -/
theorem Filled.dropped (hf : h.Filled s capacity initial)
    (hfull : capacity - initial.length ≤ h.offered.length)
    (hevents : later.events = h.events ++ [.packet p (.ok ()) (some .dropped)])
    (hqueue : later.station.queue = h.station.queue)
    (hdrops : later.station.drops = h.station.drops + 1) : later.Filled s capacity initial := by
  have hoffered : later.offered = h.offered ++ [p.payload] := offered_concat hevents
  have hlength : later.offered.length - (capacity - initial.length)
      = h.offered.length - (capacity - initial.length) + 1 := by
    rw [hoffered, List.length_append, List.length_singleton, Nat.sub_add_comm hfull]
  have htake : later.offered.take (capacity - initial.length)
      = h.offered.take (capacity - initial.length) := by
    rw [hoffered, List.take_append_of_le_length hfull]
  refine { queue_eq := ?_, queued_eq := ?_, drops_eq := ?_ }
  · rw [hqueue, htake]
    exact hf.queue_eq
  · rw [hevents, filterMap_concat, hf.queued_eq, htake]
    exact List.append_nil _
  · rw [hdrops, hf.drops_eq, hlength, Nat.toUInt64, UInt64.ofNat_add, ← UInt64.add_assoc]
    rfl

/-- A queue that is being filled has room as long as not all places are offered. -/
theorem Filled.hasRoom_iff (hf : h.Filled s capacity initial) (hfits : initial.length ≤ capacity)
    {queue : JitterQueue} (hqueue : h.station.queue = some queue) :
    queue.hasRoom = true ↔ h.offered.length < capacity - initial.length := by
  have hsome := hf.queue_eq
  rw [hqueue] at hsome
  cases hsome
  show decide ((initial ++ List.take _ _).length < capacity) = true ↔ _
  rw [decide_eq_true_iff, List.length_append, List.length_take]
  omega

theorem Filled.change (hf : h.Filled s capacity initial) (hfits : initial.length ≤ capacity)
    (hchange : Change h later) (hrest : later.events.flatMap Event.taken = []) :
    later.Filled s capacity initial := by
  cases hchange with
  | @played queue taken rest hqueue hsplit playout underflowed =>
    rw [List.flatMap_append, List.append_eq_nil_iff, List.flatMap_singleton] at hrest
    have hnone : taken = [] := hrest.2
    have hchunks : queue.chunks = rest := by rw [hsplit, hnone, List.nil_append]
    refine hf.frame rfl ?_ rfl rfl rfl
    rw [hqueue, ← hchunks]
  | counted depth underflowed => exact hf.frame rfl rfl rfl rfl rfl
  | failed p e hrecord => exact hf.frame rfl rfl (h.station.drops_account p) rfl rfl
  | unplayed p hrecord hqueue => exact hf.frame rfl rfl (h.station.drops_account p) rfl rfl
  | @queued queue p hrecord hqueue hroom =>
    refine hf.queued ((hf.hasRoom_iff hfits hqueue).mp hroom) rfl (fun queue' hqueue' => ?_)
      (h.station.drops_account p)
    rw [hqueue] at hqueue'
    cases hqueue'
    rfl
  | dropped p hrecord hqueue hfull =>
    have hplaces := Nat.le_of_not_lt fun hlt => hfull ((hf.hasRoom_iff hfits hqueue).mpr hlt)
    refine hf.dropped hplaces rfl hqueue.symm ?_
    show ((h.station.account p).1.metrics.add .backpressureDrops 1).get .backpressureDrops = _
    rw [Metrics.get_add, if_pos rfl]
    exact congrArg (· + 1) (h.station.drops_account p)
  | reported now => exact hf.frame rfl rfl (get_publish _ _ (by decide)) rfl rfl

end History

/-- Until something is taken, packets fill the places that a queue has at the start. -/
theorem run_filled {s : Station lib} {queue : JitterQueue} (hqueue : s.queue = some queue)
    (hfits : queue.chunks.length ≤ queue.capacity) {steps : List Step}
    (hrest : (s.run steps).events.flatMap Event.taken = []) :
    (s.run steps).Filled s queue.capacity queue.chunks := by
  have hrun := s.run_induction steps
    (P := fun h => h.events.flatMap Event.taken = [] → h.Filled s queue.capacity queue.chunks)
  refine hrun (fun _ => ?_) (fun {h later} hfilled hchange hnone => ?_) hrest
  · refine { queue_eq := ?_, queued_eq := List.take_nil.symm, drops_eq := ?_ }
    · rw [hqueue]
      show some queue = some ⟨_, queue.chunks ++ List.take _ []⟩
      rw [List.take_nil, List.append_nil]
    · show s.drops = s.drops + (0 - _).toUInt64
      rw [Nat.zero_sub]
      exact (UInt64.add_zero _).symm
  · obtain ⟨e, hevents⟩ := hchange.exists_event
    have hbefore : h.events.flatMap Event.taken = [] := by
      rw [hevents, List.flatMap_append, List.append_eq_nil_iff] at hnone
      exact hnone.1
    exact (hfilled hbefore).change hfits hchange hnone

namespace History

variable {h later : History lib}

/-- The packets whose audio was queued or dropped, with what became of it, oldest first. -/
def outcomes (h : History lib) : List (Packet × Fate) := h.events.filterMap Event.outcome?

theorem outcomes_concat {e : Event} (hevents : later.events = h.events ++ [e]) :
    later.outcomes = h.outcomes ++ e.outcome?.toList := by
  rw [outcomes, hevents, filterMap_concat]
  rfl

/-- What was offered is the audio of these packets. -/
theorem offered_eq_outcomes (h : History lib) :
    h.offered = h.outcomes.map fun outcome => outcome.1.payload := by
  rw [offered, outcomes, List.map_filterMap]
  refine List.filterMap_congr fun e _ => ?_
  rcases e with ⟨p, result, _ | fate⟩ | _ | _ <;> rfl

/-- What is known of a station whose recording cannot fail: every packet is offered to the queue. -/
structure AllOffered (h : History lib) : Prop where
  playing : h.station.queue ≠ none
  safe : h.station.RecordsSafely
  outcomes_eq : h.outcomes.map Prod.fst = h.packets

theorem AllOffered.extend (ha : h.AllOffered) {e : Event} (hevents : later.events = h.events ++ [e])
    (hplaying : later.station.queue ≠ none) (hsafe : later.station.RecordsSafely)
    (houtcome : e.outcome?.toList.map Prod.fst = e.packet?.toList) : later.AllOffered := by
  refine { playing := hplaying, safe := hsafe, outcomes_eq := ?_ }
  rw [outcomes_concat hevents, packets_concat hevents, List.map_append, houtcome, ha.outcomes_eq]

theorem AllOffered.change (ha : h.AllOffered) (hchange : Change h later) : later.AllOffered := by
  have hrecorded : ∀ p : Packet, (h.station.record p.payload).2 = .ok () ∧
      (h.station.accounted p).RecordsSafely := by
    intro p
    obtain ⟨recording, hrecord, hsafe⟩ := record_of_safe ha.safe p.payload
    refine ⟨by rw [hrecord], ?_⟩
    rw [accounted, hrecord]
    exact hsafe
  cases hchange with
  | played hqueue hsplit playout underflowed =>
    exact ha.extend rfl (Option.some_ne_none _) ha.safe rfl
  | counted depth underflowed => exact ha.extend rfl ha.playing ha.safe rfl
  | failed p e hrecord =>
    rw [(hrecorded p).1] at hrecord
    cases hrecord
  | unplayed p hrecord hqueue => exact absurd hqueue ha.playing
  | queued p hrecord hqueue hroom =>
    exact ha.extend rfl (Option.some_ne_none _) (hrecorded p).2 rfl
  | dropped p hrecord hqueue hfull =>
    exact ha.extend rfl (Option.some_ne_none _) (hrecorded p).2 rfl
  | reported now => exact ha.extend rfl ha.playing ha.safe rfl

end History

/-- If the recording cannot fail, the audio of every packet of a run is queued or dropped. -/
theorem run_outcomes {s : Station lib} {queue : JitterQueue} (hqueue : s.queue = some queue)
    (hsafe : s.RecordsSafely) (steps : List Step) :
    (s.run steps).outcomes.map Prod.fst = steps.filterMap Step.packet? := by
  have hall : (s.run steps).AllOffered := by
    refine s.run_induction steps { playing := ?_, safe := hsafe, outcomes_eq := rfl }
      History.AllOffered.change
    rw [hqueue]
    exact Option.some_ne_none _
  rw [hall.outcomes_eq, run_packets]

/-- If the recording cannot fail, the queue is offered every packet of a run. -/
theorem run_offered {s : Station lib} {queue : JitterQueue} (hqueue : s.queue = some queue)
    (hsafe : s.RecordsSafely) (steps : List Step) :
    (s.run steps).offered = (steps.filterMap Step.packet?).map Packet.payload := by
  rw [History.offered_eq_outcomes, ← run_outcomes hqueue hsafe, List.map_map]
  rfl

end Station

/-! ## The law -/

namespace ListenPlan

/-- **The silence of a plan always fits.** Every plan that passes its check gets all its silence
into a fresh queue: zeros for every frame of the jitter buffer, in as many chunks as the number of
frames divided by the length of a chunk, rounded up, and that is at most the 64 places of the queue.
All chunks hold whole frames, all but the last are equally long, and nothing is too large for a
64-bit word. As long as nobody asks for audio, the first packets take the places that are left, and
the others are counted as dropped. If the recording cannot fail, these are all packets. -/
theorem prefill_fits {port : UInt16} {sampleRate channels : Int} {jitterMillis : Float}
    {plan : ListenPlan} (hplan : ListenPlan.check port sampleRate channels jitterMillis = .ok plan)
    {lib : Wave.Library} {s : Station lib}
    (hqueue : s.queue = some (Audio.Playback.prefilled plan).2)
    {steps : List Station.Step} (hrest : ∀ step ∈ steps, step.asks = false) :
    let frames := plan.jitterFrames
    let c := frames ⌈/⌉ max 256 (frames ⌈/⌉ 64)
    let prefill := (Audio.Playback.prefilled plan).1
    let queue := (Audio.Playback.prefilled plan).2
    let h := s.run steps
    1 ≤ c ∧ c ≤ 64 ∧ queue.capacity = 64 ∧ queue.chunks.length = c ∧
      queue.chunks.flatten = List.replicate plan.prefillBytes 0 ∧
      prefill.queued = plan.prefillBytes ∧ prefill.stoppedShort = false ∧
      (∀ chunk ∈ queue.chunks, plan.format.bytesPerFrame ∣ chunk.length) ∧
      (∀ chunk ∈ queue.chunks.dropLast, chunk.length = plan.silenceChunkBytes) ∧
      plan.prefillBytes ≤ Number.Binary64.maxWord ∧
      plan.silenceChunkBytes ≤ Number.Binary64.maxWord ∧
      h.station.queue = some { queue with chunks := queue.chunks ++ h.offered.take (64 - c) } ∧
      h.events.filterMap Station.Event.queued? = h.offered.take (64 - c) ∧
      h.station.drops = s.drops + (h.offered.length - (64 - c)).toUInt64 ∧
      (s.RecordsSafely →
        h.offered = (steps.filterMap Station.Step.packet?).map Packet.payload) := by
  intro frames c prefill queue h
  have hchecked : plan.Checked := checked_of_ok hplan
  have hprefilled := hchecked.prefilled_eq
  have hlength : plan.prefillChunks.length = c := length_prefillChunks_eq_ceilDiv hchecked
  have hcapacity : plan.prefillChunks.length ≤ queueCapacity := by
    rw [length_prefillChunks]
    exact plan.whole_chunks_lt
  have hprefill :
      prefill = ⟨plan.prefillChunks, plan.prefillBytes, plan.prefillChunks.length, false⟩ :=
    congrArg Prod.fst hprefilled
  have hchunks : queue = ⟨queueCapacity, plan.prefillChunks⟩ := congrArg Prod.snd hprefilled
  have hflatten : queue.chunks.flatten = List.replicate plan.prefillBytes 0 :=
    JitterQueue.prefill_flatten_of_fits JitterQueue.standard hchecked.silenceChunkBytes_ne_zero
      plan.prefillBytes_le_chunks
  have hplaces : queue.capacity = 64 := by
    rw [hchunks]
    rfl
  have hcount : queue.chunks.length = c := by
    rw [hchunks]
    exact hlength
  have hle : c ≤ 64 := by
    rw [← hlength]
    exact hcapacity
  have hfits : queue.chunks.length ≤ queue.capacity := by
    rw [hplaces, hcount]
    exact hle
  obtain ⟨hqueue_eq, hqueued_eq, hdrops_eq⟩ :=
    Station.run_filled hqueue hfits (s.run_taken_eq_nil hrest)
  rw [hplaces, hcount] at hqueued_eq hdrops_eq
  refine ⟨?_, hle, hplaces, hcount, hflatten, ?_, ?_, ?_, ?_, hchecked.prefillBytes_le,
    hchecked.silenceChunkBytes_le, ?_, hqueued_eq, hdrops_eq,
    fun hsafe => Station.run_offered hqueue hsafe steps⟩
  · rw [← hlength, length_prefillChunks]
    exact Nat.succ_pos _
  · rw [hprefill]
  · rw [hprefill]
  · rw [hchunks]
    exact plan.bytesPerFrame_dvd
  · rw [hchunks]
    exact plan.length_of_mem_dropLast
  · rw [← hplaces, ← hcount]
    exact hqueue_eq

/-- The silence of 2016 milliseconds leaves one place, which the first of two packets takes. -/
theorem prefill_fits_all_but_one :
    ∃ plan, ListenPlan.check 0 8000 1 2016 = .ok plan ∧ plan.jitterFrames = 16128 ∧
      let queue := (Audio.Playback.prefilled plan).2
      let s : Station (Wave.onDisk fun _ => .ok .file) :=
        .opened plan ⟨0⟩ reportPeriod true (some queue) none
      let h := s.run [.packet .manyWorkers ⟨{}, [1, 2]⟩ [] [], .report ⟨7⟩,
        .packet .manyWorkers ⟨{ sequence := 1 }, [3, 4]⟩ [] []]
      queue.chunks.length = 63 ∧
        h.station.queue = some { queue with chunks := queue.chunks ++ [[1, 2]] } ∧
        h.station.drops = 1 := by
  have hframes : (ListenPlan.check 0 8000 1 2016).toOption.map ListenPlan.jitterFrames
      = some 16128 := by decide +kernel
  cases hplan : ListenPlan.check 0 8000 1 2016 with
  | error e =>
    rw [hplan] at hframes
    cases hframes
  | ok plan =>
    rw [hplan] at hframes
    have hdepth : plan.jitterFrames = 16128 := Option.some.inj hframes
    refine ⟨plan, rfl, hdepth, ?_⟩
    intro queue s h
    have hrest : ∀ step ∈ ([.packet .manyWorkers ⟨{}, [1, 2]⟩ [] [], .report ⟨7⟩,
        .packet .manyWorkers ⟨{ sequence := 1 }, [3, 4]⟩ [] []] : List Station.Step),
        step.asks = false := by decide
    have hsafe : s.RecordsSafely := by
      intro r hr
      cases hr
    obtain ⟨-, -, -, hcount, -, -, -, -, -, -, -, hqueue, -, hdrops, hoffered⟩ :=
      prefill_fits hplan (s := s) rfl hrest
    have hroom : 16128 ⌈/⌉ max 256 (16128 ⌈/⌉ 64) = 63 := by decide
    rw [hdepth, hroom] at hcount hqueue hdrops
    rw [hoffered hsafe] at hqueue hdrops
    exact ⟨hcount, hqueue, hdrops⟩

end ListenPlan

end ToneLink
