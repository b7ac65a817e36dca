import Mathlib.Algebra.BigOperators.Ring.List
import Mathlib.Algebra.Ring.Nat
import ToneLink.Proofs.CheckedPlans
import ToneLink.Proofs.SinkRun
import ToneLink.Proofs.WireCodec

/-!
# Frames stay whole

A frame has a sample for every channel. If a frame were torn, every channel after it would be heard
on the side of another one. Chunks, requests and silence are counted in bytes, and no one looks at
frames again, so frames stay whole only because all these numbers are multiples of the length of a
frame.

- `framesOf`: the frames of some audio;
- `Sink.History.Aligned`: the invariant. What is pending, what is queued and what was heard consist
  of whole frames;
- `Sink.run_frames_in_order`: hence the frames that are heard are those of the accepted chunks, in
  order;
- `ListenPlan.dvd_length_of_mem_prefill`, `SendPlan.decode_take`: silence and packets of checked
  plans consist of whole frames;
- `Sink.frames_stay_whole`: all of it together.
-/

namespace ToneLink

variable {frame : Nat}

/-! ## Frames -/

/-- The frames of some audio. Bytes at the end that make up no frame are left out. -/
def framesOf (frame : Nat) (audio : Bytes) : List Bytes :=
  (List.range (audio.length / frame)).map fun i => (audio.drop (i * frame)).take frame

/-- Audio that starts with whole frames starts with their frames. -/
theorem framesOf_append (hframe : 0 < frame) {front : Bytes} (hfront : frame ∣ front.length)
    (back : Bytes) :
    framesOf frame (front ++ back) = framesOf frame front ++ framesOf frame back := by
  obtain ⟨count, hcount⟩ := hfront
  have hfirst : front.length / frame = count := by rw [hcount, Nat.mul_div_cancel_left _ hframe]
  have hboth : (front ++ back).length / frame = count + back.length / frame := by
    rw [List.length_append, hcount, Nat.mul_add_div hframe]
  rw [framesOf, hboth, List.range_add, List.map_append, List.map_map, framesOf, hfirst, framesOf]
  congr 1
  · refine List.map_congr_left ?_
    intro i hi
    -- this frame ends where `front` ends, or before
    have hend : i * frame + frame ≤ front.length := by
      rw [hcount, Nat.mul_comm frame, ← Nat.succ_mul]
      exact Nat.mul_le_mul_right _ (List.mem_range.mp hi)
    rw [List.drop_append_of_le_length (by omega), List.take_append_of_le_length]
    rw [List.length_drop]
    omega
  · -- and these start behind it
    refine List.map_congr_left ?_
    intro j _
    show ((front ++ back).drop ((count + j) * frame)).take frame = _
    rw [Nat.add_mul, Nat.mul_comm count, ← hcount, List.drop_length_add_append]

/-- The frames of chunks of whole frames are the frames of each of them. -/
theorem framesOf_flatten (hframe : 0 < frame) {chunks : List Bytes}
    (hchunks : ∀ chunk ∈ chunks, frame ∣ chunk.length) :
    framesOf frame chunks.flatten = chunks.flatMap (framesOf frame) := by
  induction chunks with
  | nil => simp [framesOf]
  | cons chunk rest ih =>
    rw [List.flatten_cons, framesOf_append hframe (hchunks chunk List.mem_cons_self),
      List.flatMap_cons, ih fun later hlater => hchunks later (List.mem_cons_of_mem _ hlater)]

/-- Silence has silent frames. -/
theorem eq_silence_of_mem_framesOf {piece : Bytes} {length : Nat}
    (h : piece ∈ framesOf frame (silence length)) : piece = silence frame := by
  obtain ⟨i, hi, rfl⟩ := List.mem_map.mp h
  have hend : (i + 1) * frame ≤ length := by
    rw [List.mem_range, length_silence] at hi
    exact (Nat.mul_le_mul_right _ hi).trans (Nat.div_mul_le_self _ _)
  rw [Nat.succ_mul] at hend
  rw [silence, List.drop_replicate, List.take_replicate, Nat.min_eq_left (by omega), silence]

theorem dvd_length_flatten {chunks : List Bytes} (h : ∀ chunk ∈ chunks, frame ∣ chunk.length) :
    frame ∣ chunks.flatten.length := by
  rw [List.length_flatten]
  refine List.dvd_sum ?_
  intro length hlength
  obtain ⟨chunk, hchunk, rfl⟩ := List.mem_map.mp hlength
  exact h chunk hchunk

/-! ## Requests -/

/-- Gathering whole frames for whole frames leaves whole frames pending. Silence makes up for what
is missing, and that is whole frames, too. -/
theorem Playout.dvd_length_gather {needed : Nat} (hneeded : frame ∣ needed) :
    ∀ (chunks : List Bytes) (pending : Bytes), frame ∣ pending.length →
      (∀ chunk ∈ chunks, frame ∣ chunk.length) →
      frame ∣ (gather needed pending chunks).pending.length
  | [], pending, hpending, _ => by
    by_cases h : pending.length < needed
    · have hfull : pending.length + (needed - pending.length) = needed := by omega
      simp only [gather, if_pos h, List.length_append, length_silence, hfull]
      exact hneeded
    · simp only [gather, if_neg h]
      exact hpending
  | chunk :: rest, pending, hpending, hchunks => by
    by_cases h : pending.length < needed
    · simp only [gather, if_pos h]
      refine dvd_length_gather hneeded rest _ ?_ fun later hlater =>
        hchunks later (List.mem_cons_of_mem _ hlater)
      rw [List.length_append]
      exact Nat.dvd_add hpending (hchunks chunk List.mem_cons_self)
    · simp only [gather, if_neg h]
      exact hpending

namespace Sink

namespace History

/-- The invariant of frames: what is pending, what is queued and what was heard consist of them. -/
structure Aligned (frame : Nat) (h : History) : Prop where
  pending_dvd : frame ∣ h.sink.playout.pending.length
  queue_dvd : ∀ chunk ∈ h.sink.queue.chunks, frame ∣ chunk.length
  audio_dvd : ∀ a ∈ h.answers, frame ∣ a.audio.length

theorem opened_aligned (maxChunks : Nat) (counters : RenderCounters) :
    (opened maxChunks counters).Aligned frame where
  pending_dvd := Nat.dvd_zero _
  queue_dvd := by
    intro chunk hchunk
    cases hchunk
  audio_dvd := by
    intro a ha
    cases ha

/-- To be supplied with whole frames keeps frames whole. -/
theorem Supplied.aligned {h later : History} {chunks : List Bytes} (hs : h.Supplied later chunks)
    (hchunks : ∀ chunk ∈ chunks, frame ∣ chunk.length) (ha : h.Aligned frame) :
    later.Aligned frame where
  pending_dvd := by
    rw [hs.playout_eq]
    exact ha.pending_dvd
  queue_dvd := by
    intro chunk hchunk
    rw [hs.chunks_eq] at hchunk
    rcases List.mem_append.mp hchunk with hold | hnew
    · exact ha.queue_dvd chunk hold
    · exact hchunks chunk hnew
  audio_dvd := by
    rw [hs.answers_eq]
    exact ha.audio_dvd

/-- To be asked for whole frames keeps frames whole. -/
theorem request_aligned {h : History} (ha : h.Aligned frame) {out : Bytes}
    (hout : frame ∣ out.length) : (h.request out).Aligned frame where
  pending_dvd := by
    show frame ∣ ((Playout.gather out.length h.sink.playout.pending
      h.sink.queue.chunks).pending.drop out.length).length
    rw [List.length_drop]
    exact Nat.dvd_sub (Playout.dvd_length_gather hout _ _ ha.pending_dvd ha.queue_dvd) hout
  queue_dvd := by
    intro chunk hchunk
    exact ha.queue_dvd chunk ((h.sink.fillInto_suffix out).subset hchunk)
  audio_dvd := by
    intro a hanswer
    rcases List.mem_append.mp hanswer with hold | hnew
    · exact ha.audio_dvd a hold
    · have hheld : frame ∣ h.sink.held.length := by
        rw [held, List.length_append]
        exact Nat.dvd_add ha.pending_dvd (dvd_length_flatten ha.queue_dvd)
      rw [List.mem_singleton.mp hnew, answer_audio, List.length_take]
      exact min_rec' (frame ∣ ·) hout hheld

end History

/-! ## Whole runs -/

section

variable {maxChunks : Nat} {counters : RenderCounters} {steps : List Step}
  (hchunks : ∀ chunk ∈ (run maxChunks counters steps).accepted, frame ∣ chunk.length)
  (hasked : ∀ a ∈ (run maxChunks counters steps).answers, frame ∣ a.asked)

include hchunks hasked

/-- A run in which only whole frames are accepted and asked for keeps them whole. -/
theorem run_aligned : (run maxChunks counters steps).Aligned frame := by
  -- what was accepted and asked for only grows, so it was whole at every step
  refine run_keeps (P := fun h => (∀ chunk ∈ h.accepted, frame ∣ chunk.length) →
    (∀ a ∈ h.answers, frame ∣ a.asked) → h.Aligned frame) ?_ ?_ ?_ steps hchunks hasked
  · intro h later chunks hs hp hlater hanswers
    rw [hs.accepted_eq] at hlater
    rw [hs.answers_eq] at hanswers
    exact hs.aligned (fun chunk hchunk => hlater chunk (List.mem_append_right _ hchunk))
      (hp (fun chunk hchunk => hlater chunk (List.mem_append_left _ hchunk)) hanswers)
  · intro h out hp hlater hanswers
    refine History.request_aligned
      (hp hlater fun a ha => hanswers a (List.mem_append_left _ ha)) ?_
    exact hanswers (h.answer out) (List.mem_append_right _ List.mem_cons_self)
  · intro _ _
    exact History.opened_aligned maxChunks counters

/-- The frames that are heard are those of the accepted chunks, in order. -/
theorem run_frames_in_order (hframe : 0 < frame) :
    (run maxChunks counters steps).answers.flatMap (fun a => framesOf frame a.audio)
      <+: (run maxChunks counters steps).accepted.flatMap (framesOf frame) := by
  have haligned := run_aligned hchunks hasked
  have haudio : ∀ audio ∈ (run maxChunks counters steps).answers.map Answer.audio,
      frame ∣ audio.length := by
    intro audio hmem
    obtain ⟨a, ha, rfl⟩ := List.mem_map.mp hmem
    exact haligned.audio_dvd a ha
  have hgiven : frame ∣ (Answer.heard (run maxChunks counters steps).answers).length :=
    dvd_length_flatten haudio
  have hheard : framesOf frame (Answer.heard (run maxChunks counters steps).answers)
      = (run maxChunks counters steps).answers.flatMap fun a => framesOf frame a.audio := by
    rw [Answer.heard, framesOf_flatten hframe haudio, List.flatMap_map]
  -- what was heard is the front of what was accepted, and the border lies between two frames
  rw [← hheard, ← framesOf_flatten hframe hchunks,
    ← (run_balanced maxChunks counters steps).conserved,
    framesOf_append hframe hgiven]
  exact List.prefix_append _ _

/-- Every frame of an answer is silent or a frame of an accepted chunk. -/
theorem run_mem_framesOf (hframe : 0 < frame) {a : Answer}
    (ha : a ∈ (run maxChunks counters steps).answers) {piece : Bytes}
    (hpiece : piece ∈ framesOf frame a.bytes) :
    piece = silence frame ∨
      ∃ chunk ∈ (run maxChunks counters steps).accepted, piece ∈ framesOf frame chunk := by
  have haudio := (run_aligned hchunks hasked).audio_dvd a ha
  rw [(run_balanced maxChunks counters steps).bytes_eq ha, framesOf_append hframe haudio] at hpiece
  rcases List.mem_append.mp hpiece with hheard | hpadding
  · right
    have hmem := (run_frames_in_order hchunks hasked hframe).subset
      (List.mem_flatMap.mpr ⟨a, ha, hheard⟩)
    exact List.mem_flatMap.mp hmem
  · left
    exact eq_silence_of_mem_framesOf hpadding

end

end Sink

/-! ## Where whole frames come from -/

/-- All silence of a plan consists of whole frames, whatever queue it goes into. -/
theorem ListenPlan.dvd_length_of_mem_prefill (p : ListenPlan) (queue : JitterQueue) {chunk : Bytes}
    (h : chunk ∈ (queue.prefill p.prefillBytes p.silenceChunkBytes).1.chunks) :
    p.format.bytesPerFrame ∣ chunk.length :=
  queue.dvd_length_of_mem_prefill (Nat.dvd_mul_left _ _) (Nat.dvd_mul_left _ _) h

namespace SendPlan

/-- The audio of a packet consists of whole frames. -/
theorem dvd_length_payload (p : SendPlan) : p.format.bytesPerFrame ∣ p.payload.length := by
  rw [length_payload]
  exact Nat.dvd_mul_left _ _

/-- A datagram that is cut behind some frames is a packet with as many frames, or with all that it
had. -/
theorem Checked.decode_take {p : SendPlan} (h : p.Checked) (header : Header) (frames : Nat)
    (hframes : 0 < frames) :
    Packet.decode ((Packet.encode ⟨header, p.payload⟩).take
        (Header.size + p.format.bytesForFrames frames))
      = .ok ⟨header, p.payload.take (p.format.bytesForFrames frames)⟩ ∧
    p.format.bytesPerFrame ∣ (p.payload.take (p.format.bytesForFrames frames)).length := by
  have hpositive : 0 < p.format.bytesForFrames frames :=
    Nat.mul_pos hframes (Nat.mul_pos (by decide) h.format.channels_pos)
  have haudio : 0 < p.payload.length := List.length_pos_iff.mpr h.payload_ne_nil
  constructor
  · rw [Packet.encode_take]
    refine Packet.decode_encode _ (List.length_pos_iff.mp ?_)
    rw [List.length_take]
    exact Nat.lt_min.mpr ⟨hpositive, haudio⟩
  · rw [List.length_take]
    exact min_rec' (p.format.bytesPerFrame ∣ ·) (Nat.dvd_mul_left _ _) p.dvd_length_payload

end SendPlan

/-! ## The law -/

/-- **Frames are never torn.** For any number of channels: as long as all chunks that a sink accepts
and all that it is asked for are whole frames, whole frames are pending at every point of every run,
the silence in an answer starts between two frames, and every frame of an answer is silent or a
frame of one accepted chunk; those that are audio come in the order in which they were accepted. The
silence of every checked receiver is queued as whole frames, whatever queue it goes into, and every
packet of a checked sender with as many channels consists of whole frames, also as far as such a
receiver looks at it. -/
theorem Sink.frames_stay_whole {channels : Nat} (hchannels : 0 < channels)
    (hwidth : frame = sampleWidth * channels) :
    (∀ (maxChunks : Nat) (counters : RenderCounters) (steps : List Sink.Step),
      let h := Sink.run maxChunks counters steps
      (∀ chunk ∈ h.accepted, frame ∣ chunk.length) → (∀ a ∈ h.answers, frame ∣ a.asked) →
        frame ∣ h.sink.playout.pending.length ∧
        (∀ a ∈ h.answers, a.bytes = a.audio ++ silence a.padding ∧ frame ∣ a.audio.length ∧
          ∀ piece ∈ framesOf frame a.bytes, piece = silence frame ∨
            ∃ chunk ∈ h.accepted, piece ∈ framesOf frame chunk) ∧
        h.answers.flatMap (fun a => framesOf frame a.audio)
          <+: h.accepted.flatMap (framesOf frame)) ∧
    (∀ port sampleRate jitterMillis listen,
      ListenPlan.check port sampleRate channels jitterMillis = .ok listen →
        ∀ queue : JitterQueue,
          ∀ chunk ∈ (queue.prefill listen.prefillBytes listen.silenceChunkBytes).1.chunks,
            frame ∣ chunk.length) ∧
    (∀ frequency amplitude sampleRate packetMillis send,
      SendPlan.check frequency amplitude sampleRate channels packetMillis = .ok send →
        ∀ header, let datagram := Packet.encode ⟨header, send.payload⟩
          Packet.decode datagram = .ok ⟨header, send.payload⟩ ∧ frame ∣ send.payload.length ∧
          ∀ port sampleRate jitterMillis listen,
            ListenPlan.check port sampleRate channels jitterMillis = .ok listen →
              ∃ payload, Packet.decode (datagram.take listen.maxDatagram) = .ok ⟨header, payload⟩ ∧
                payload <+: send.payload ∧ frame ∣ payload.length) := by
  have hframe : 0 < frame := by
    rw [hwidth]
    exact Nat.mul_pos (by decide) hchannels
  have hlistening : ∀ {port : UInt16} {sampleRate : Int} {jitterMillis : Float} {p : ListenPlan},
      ListenPlan.check port sampleRate channels jitterMillis = .ok p →
        p.format.bytesPerFrame = frame := by
    intro port sampleRate jitterMillis p hp
    exact (PcmFormat.bytesPerFrame_of_ok (ListenPlan.format_of_ok hp)).trans hwidth.symm
  refine ⟨?_, ?_, ?_⟩
  · intro maxChunks counters steps h hchunks hasked
    have haligned := Sink.run_aligned hchunks hasked
    refine ⟨haligned.pending_dvd, ?_, Sink.run_frames_in_order hchunks hasked hframe⟩
    intro a ha
    refine ⟨?_, haligned.audio_dvd a ha, ?_⟩
    · exact (Sink.run_balanced maxChunks counters steps).bytes_eq ha
    · intro piece hpiece
      exact Sink.run_mem_framesOf hchunks hasked hframe ha hpiece
  · intro port sampleRate jitterMillis listen hlisten queue chunk hchunk
    rw [← hlistening hlisten]
    exact listen.dvd_length_of_mem_prefill queue hchunk
  · intro frequency amplitude sampleRate packetMillis send hsend header datagram
    have hchecked := SendPlan.checked_of_ok hsend
    have hbytes : send.format.bytesPerFrame = frame :=
      (PcmFormat.bytesPerFrame_of_ok (SendPlan.format_of_ok hsend)).trans hwidth.symm
    refine ⟨Packet.decode_encode _ hchecked.payload_ne_nil, ?_, ?_⟩
    · rw [← hbytes]
      exact send.dvd_length_payload
    · intro port sampleRate jitterMillis listen hlisten
      -- sender and receiver count frames of the same length, so the cut lies between two frames
      have hcut : listen.maxDatagram
          = Header.size + send.format.bytesForFrames maxPayloadFrames := by
        rw [ListenPlan.maxDatagram, PcmFormat.bytesForFrames, hlistening hlisten, ← hbytes,
          PcmFormat.bytesForFrames]
      obtain ⟨hdecode, hwhole⟩ := hchecked.decode_take header maxPayloadFrames (by decide)
      refine ⟨_, ?_, List.take_prefix _ _, hbytes ▸ hwhole⟩
      rw [hcut]
      exact hdecode

/-- Two channels. A prefill stops short at the second of two places, a chunk waits for a request of
one frame, and the last request finds one frame too few. Of 2400 frames in a datagram, the receiver
looks at some. -/
theorem Sink.frames_stay_whole_two_channels :
    let h := Sink.run 2 {}
      [.prefill 20 8, .push [1, 2, 3, 4, 5, 6, 7, 8] [silence 4], .pull 24]
    0 < 2 ∧ 4 = sampleWidth * 2 ∧
      (∀ chunk ∈ h.accepted, 4 ∣ chunk.length) ∧ (∀ a ∈ h.answers, 4 ∣ a.asked) ∧
      [1, 2, 3, 4, 5, 6, 7, 8] ∈ h.accepted ∧
      h.answers.map Sink.Answer.bytes
        = [silence 4, silence 12 ++ [1, 2, 3, 4, 5, 6, 7, 8] ++ silence 4] ∧
      (∀ a ∈ h.answers, ∀ piece ∈ framesOf 4 a.bytes, piece = silence 4 ∨
        ∃ chunk ∈ h.accepted, piece ∈ framesOf 4 chunk) ∧
      ∃ listen send, ListenPlan.check 0 8000 2 20 = .ok listen ∧
        SendPlan.check 440 1 8000 2 300 = .ok send ∧ send.framesPerPacket = 2400 ∧
        (∀ chunk ∈ ((JitterQueue.empty 0).prefill listen.prefillBytes
          listen.silenceChunkBytes).1.chunks, 4 ∣ chunk.length) ∧
        ∃ payload, Packet.decode ((Packet.encode ⟨{}, send.payload⟩).take listen.maxDatagram)
            = .ok ⟨{}, payload⟩ ∧ payload <+: send.payload ∧ 4 ∣ payload.length := by
  intro h
  have hchunks : ∀ chunk ∈ h.accepted, 4 ∣ chunk.length := by decide
  have hasked : ∀ a ∈ h.answers, 4 ∣ a.asked := by decide
  have hwidth : 4 = sampleWidth * 2 := rfl
  obtain ⟨hruns, hsilence, hpackets⟩ := Sink.frames_stay_whole Nat.two_pos hwidth
  have hjitter : (ListenPlan.check 0 8000 2 20).toOption.map ListenPlan.jitterFrames
      = some 160 := by
    decide +kernel
  have hframes : (SendPlan.check 440 1 8000 2 300).toOption.map SendPlan.framesPerPacket
      = some 2400 := by decide +kernel
  refine ⟨Nat.two_pos, hwidth, hchunks, hasked, by decide, by decide,
    fun a ha => ((hruns 2 {} _ hchunks hasked).2.1 a ha).2.2, ?_⟩
  cases hlisten : ListenPlan.check 0 8000 2 20 with
  | error e =>
    rw [hlisten] at hjitter
    cases hjitter
  | ok listen =>
    cases hsend : SendPlan.check 440 1 8000 2 300 with
    | error e =>
      rw [hsend] at hframes
      cases hframes
    | ok send =>
      rw [hsend] at hframes
      exact ⟨listen, send, rfl, rfl, Option.some.inj hframes, hsilence _ _ _ _ hlisten _,
        (hpackets _ _ _ _ _ hsend {}).2.2 _ _ _ _ hlisten⟩

end ToneLink
