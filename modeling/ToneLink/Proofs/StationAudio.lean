import ToneLink.Station
import ToneLink.Proofs.QueueWaits
import ToneLink.Proofs.WaveLibrary

/-!
# What a station does with audio

Of all that a station keeps, only its queue and its playout decide what is heard. This module says
for each operation what becomes of the bytes that wait there.

- `Recording.append_of_takes`: a recording to a writer that never fails;
- `Station.held?`: everything that waits to be heard, if anything is played;
- `Station.receive_held`: a packet brings its audio, or is dropped and counted;
- `Station.report_held`: reports bring and take nothing;
- `Station.renderInto_held`: a callback takes the first samples.
-/

namespace ToneLink

/-! ## Recordings that cannot fail -/

namespace Recording

variable {lib : Wave.Library} {r : Recording lib}

/-- A recording that takes every sample takes every list of them. -/
theorem appendSamples_of_takes (h : lib.Takes r.writer) (samples : List Int16) :
    (r.appendSamples samples).1 = .ok () ∧ lib.Takes (r.appendSamples samples).2.writer := by
  induction samples generalizing r with
  | nil => exact ⟨rfl, h⟩
  | cons s rest ih =>
    have hnext := h.next s
    have hok : (lib.writeSample r.writer s).1 = .ok () := h [] s
    obtain ⟨path, channels, writer, samplesWritten⟩ := r
    rcases hwrite : lib.writeSample writer s with ⟨answer, later⟩
    rw [hwrite] at hok hnext
    cases hok
    simp only [appendSamples, hwrite]
    exact ih hnext

/-- A recording that takes every sample takes every payload. -/
theorem append_of_takes (h : lib.Takes r.writer) (payload : Bytes) :
    (r.append payload).1 = .ok () ∧ lib.Takes (r.append payload).2.writer :=
  appendSamples_of_takes h _

end Recording

namespace Station

variable {lib : Wave.Library}

/-- Everything that waits to be heard, in order, if anything is played. -/
def held? (s : Station lib) : Option Bytes := s.sink?.map Sink.held

/-- Packets dropped so far because the queue was full. -/
def drops (s : Station lib) : UInt64 := s.metrics.get .backpressureDrops

/-- No recording, or one that cannot fail. -/
def RecordsSafely (s : Station lib) : Prop := ∀ r ∈ s.recording, lib.Takes r.writer

/-- What waits to be heard depends on queue and playout only. -/
theorem held?_congr {s t : Station lib} (hqueue : t.queue = s.queue)
    (hplayout : t.playout = s.playout) :
    t.held? = s.held? := by
  rw [held?, held?, sink?, sink?, hqueue, hplayout, Option.map_map, Option.map_map]
  rfl

/-- A station that plays audio has a queue. -/
theorem exists_queue_of_held {s : Station lib} {bytes : Bytes} (h : s.held? = some bytes) :
    ∃ queue, s.queue = some queue ∧ s.playout.pending ++ queue.chunks.flatten = bytes := by
  rw [held?, sink?, Option.map_map] at h
  exact Option.map_eq_some_iff.mp h

/-! ## Packets -/

/-- What a packet adds to a counter. -/
def amount (s : Station lib) (p : Packet) : Counter → Nat
  | .packetsReceived => 1
  | .packetsLost => (s.ledger.losses.arrival p.header.sequence).lost
  | .bytesReceived => p.payload.length
  | _ => 0

/-- The books add to every counter what the packet amounts to. -/
theorem get_account (s : Station lib) (p : Packet) (c : Counter) :
    (s.account p).1.metrics.get c = s.metrics.get c + (s.amount p c).toUInt64 := by
  unfold account amount Ledger.enter LossAccount.record
  cases s.ledger.losses.arrival p.header.sequence <;> cases c <;>
    simp [Metrics.get_add, Arrival.lost]

theorem queueDepth_account (s : Station lib) (p : Packet) :
    (s.account p).1.metrics.queueDepth = s.metrics.queueDepth := by
  unfold account Ledger.enter LossAccount.record
  cases s.ledger.losses.arrival p.header.sequence <;> simp

/-- The books count no drops. -/
theorem drops_account (s : Station lib) (p : Packet) : (s.account p).1.drops = s.drops :=
  (s.get_account p .backpressureDrops).trans (UInt64.add_zero _)

/-- A safe recording stays safe, and nothing else changes. -/
theorem record_of_safe {s : Station lib} (h : s.RecordsSafely) (payload : Bytes) :
    ∃ recording, s.record payload = ({ s with recording }, .ok ()) ∧
      ({ s with recording } : Station lib).RecordsSafely := by
  obtain ⟨ledger, queue, playout, recording, metrics⟩ := s
  cases recording with
  | none => exact ⟨none, rfl, h⟩
  | some r =>
    obtain ⟨hok, htakes⟩ := Recording.append_of_takes (h r rfl) payload
    refine ⟨some (r.append payload).2, ?_, ?_⟩
    · exact congrArg (Prod.mk _) hok
    · intro r' hr'
      cases hr'
      exact htakes

/-- A chunk goes behind everything that waits, or it is dropped and counted as dropped. -/
theorem queueChunk_held {s : Station lib} {bytes : Bytes} (h : s.held? = some bytes)
    (host : JitterQueue.Host) (chunk : Bytes) :
    (s.queueChunk host chunk {}).1.drops = s.drops ∧
        (s.queueChunk host chunk {}).1.held? = some (bytes ++ chunk) ∨
      (s.queueChunk host chunk {}).1.drops = s.drops + 1 ∧
        (s.queueChunk host chunk {}).1.held? = some bytes := by
  obtain ⟨queue, hqueue, hbytes⟩ := exists_queue_of_held h
  by_cases hroom : queue.hasRoom
  · left
    have hqueued : (s.queueChunk host chunk {}).1
        = { s with queue := some { queue with chunks := queue.chunks ++ [chunk] } } := by
      simp only [queueChunk, hqueue, JitterQueue.enqueue_undisturbed, if_pos hroom]
    rw [hqueued]
    refine ⟨rfl, ?_⟩
    show some (s.playout.pending ++ (queue.chunks ++ [chunk]).flatten) = _
    rw [List.flatten_append, ← List.append_assoc, hbytes]
    simp
  · right
    have hdropped : (s.queueChunk host chunk {}).1
        = { s with queue := some queue, metrics := s.metrics.add .backpressureDrops 1 } := by
      simp only [queueChunk, hqueue, JitterQueue.enqueue_undisturbed, if_neg hroom]
    rw [hdropped]
    refine ⟨?_, ?_⟩
    · show (s.metrics.add .backpressureDrops 1).get .backpressureDrops = s.metrics.get _ + 1
      rw [Metrics.get_add, if_pos rfl]
      rfl
    · show some (s.playout.pending ++ queue.chunks.flatten) = some bytes
      rw [hbytes]

theorem recording_queueChunk (s : Station lib) (host : JitterQueue.Host) (chunk : Bytes)
    (consumer : JitterQueue.Interference) :
    (s.queueChunk host chunk consumer).1.recording = s.recording := by
  unfold queueChunk
  split
  · rfl
  · split <;> rfl

/-- A packet brings its audio, behind everything that waits, or it is dropped and counted as
dropped. -/
theorem receive_held {s : Station lib} {bytes : Bytes} (h : s.held? = some bytes)
    (hsafe : s.RecordsSafely) (host : JitterQueue.Host) (p : Packet) :
    (s.receive host p).station.RecordsSafely ∧
      ((s.receive host p).station.drops = s.drops ∧
          (s.receive host p).station.held? = some (bytes ++ p.payload) ∨
        (s.receive host p).station.drops = s.drops + 1 ∧
          (s.receive host p).station.held? = some bytes) := by
  -- books and recording leave the audio alone, so it is the queue that decides
  have haccount : (s.account p).1.held? = some bytes := h
  have hsafe' : (s.account p).1.RecordsSafely := hsafe
  obtain ⟨recording, hrecord, hrecorded⟩ := record_of_safe hsafe' p.payload
  have hreceive : (s.receive host p).station
      = ({ (s.account p).1 with recording }.queueChunk host p.payload {}).1 := by
    simp only [receive, receiveAmid, hrecord]
  have hdrops : ({ (s.account p).1 with recording } : Station lib).drops = s.drops :=
    s.drops_account p
  have hchunk := queueChunk_held
    (s := { (s.account p).1 with recording }) haccount host p.payload
  rw [hdrops] at hchunk
  rw [hreceive]
  refine ⟨?_, hchunk⟩
  rw [RecordsSafely, recording_queueChunk]
  exact hrecorded

/-! ## Reports -/

/-- A report counts underflows and nothing else. -/
theorem get_publish (m : Metrics) (r : Report) {c : Counter} (hc : c ≠ .playbackUnderflows) :
    (publish m r).get c = m.get c := by
  unfold publish
  split
  · rfl
  · rw [Metrics.get_setQueueDepth, Metrics.get_add, if_neg (Ne.symm hc)]

/-- A report brings and takes no audio. -/
theorem report_held (s : Station lib) (now : Instant) : (s.report now).2.held? = s.held? :=
  held?_congr rfl rfl

/-! ## Callbacks -/

/-- What the scratch buffer held before a callback plays no part, not even in what it holds
afterwards. -/
theorem renderInto_scratch (s : Station lib) (scratch scratch' : Bytes) (device : List Int16) :
    s.renderInto scratch device = s.renderInto scratch' device := by
  unfold renderInto
  split
  · rfl
  · rw [Sink.renderInto_eq, Sink.renderInto_eq]

/-- A callback of a station that holds whole samples plays the first of them, then zeros, and the
others wait on. Its buffers play no part, whatever they held before. -/
theorem renderInto_held {s : Station lib} {audio : List Int16}
    (h : s.held? = some (bytesOfSamples audio)) (scratch : Bytes) (device : List Int16) :
    ∃ (left : Bytes) (later : Station lib),
      s.renderInto scratch device
        = (some (audio.take device.length ++ List.replicate (device.length - audio.length) 0, left),
            later) ∧
      later.held? = some (bytesOfSamples (audio.drop device.length)) ∧
      later.recording = s.recording ∧ later.drops = s.drops := by
  obtain ⟨sink, hsink, hheld⟩ := Option.map_eq_some_iff.mp h
  refine ⟨(sink.renderInto scratch device).scratch,
    s.withSink (sink.renderInto scratch device).sink, ?_, ?_, rfl, rfl⟩
  · simp only [renderInto, hsink]
    rw [sink.renderInto_samples hheld]
  · show some (sink.renderInto scratch device).sink.held = _
    rw [sink.held_renderInto hheld]

end Station

end ToneLink
