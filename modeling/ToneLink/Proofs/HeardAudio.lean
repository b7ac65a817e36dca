import ToneLink.Proofs.PrefillLaw
import ToneLink.Proofs.PrefilledStart
import ToneLink.Proofs.RecordedAudio
import ToneLink.Proofs.SinkRun
import ToneLink.Proofs.StationBooks

/-!
# What is heard and what is recorded

A station hands every packet on twice: to its recording, which takes it at once, and to its queue,
which may be full. The two never see each other. What is heard follows the queue, so it differs from
the recording by the packets that were dropped, and by nothing else.

- `Station.heard`: what the requests of a run are answered with, padding left out;
- `Station.History.Hears`: the invariant. What has been heard and what is pending make up the chunks
  that were taken from the queue;
- `Station.History.Recorded`: the invariant of the recording;
- `Station.recording_and_playback_agree`: the law of the two.
-/

namespace ToneLink

namespace Station

variable {lib : Wave.Library}

/-! ## What is heard -/

/-- What a request is answered with, padding left out. -/
def heardNow (s : Station lib) (needed : Nat) : Bytes :=
  match s.sink? with
  | none => []
  | some sink => (Sink.History.answer { sink } (silence needed)).audio

namespace History

/-- What requests are answered with, one after another. -/
def heardOn (h : History lib) : List Nat → Bytes
  | [] => []
  | needed :: rest => h.station.heardNow needed ++ (h.fill needed).heardOn rest

/-- What is heard while a packet waits. -/
def heardWaiting (h : History lib) (p : Packet) (requests : List Nat) : Bytes :=
  if h.station.mustWait p then h.heardOn requests else []

/-- What is heard in a step. -/
def heardIn (h : History lib) : Step → Bytes
  | .packet _ p before during => h.heardWaiting p before ++ (h.serve p before).heardWaiting p during
  | .fill needed => h.station.heardNow needed
  | .report _ | .reportIfDue _ | .isDue _ | .callback _ _ => []

/-- What is heard in many steps. -/
def heard (h : History lib) : List Step → Bytes
  | [] => []
  | step :: rest => h.heardIn step ++ (h.step step).heard rest

end History

/-- What is heard in a run. -/
def heard (s : Station lib) (steps : List Step) : Bytes := History.heard { station := s } steps

/-- A request is answered with the first bytes that wait to be heard, and the others wait on. -/
theorem heardNow_append_held {s : Station lib} {bytes : Bytes} (h : s.held? = some bytes)
    (needed : Nat) :
    ∃ rest, (s.fill needed).2.held? = some rest ∧ s.heardNow needed ++ rest = bytes := by
  obtain ⟨sink, hsink, rfl⟩ := Option.map_eq_some_iff.mp h
  refine ⟨(sink.fill needed).2.held, ?_, ?_⟩
  · simp only [fill, hsink]
    rfl
  · simp only [heardNow, hsink]
    rw [Sink.History.answer_audio, Sink.fill, Sink.held_fillInto]
    exact List.take_append_drop _ _

namespace History

theorem fill_station (h : History lib) (needed : Nat) :
    (h.fill needed).station = (h.station.fill needed).2 := by
  unfold fill Station.fill
  cases h.station.sink? <;> rfl

/-- The invariant of what is heard: together with what is pending, it is what was pending at the
start and the chunks that were taken since. -/
def Hears (initial heard : Bytes) (h : History lib) : Prop :=
  heard ++ h.station.playout.pending = initial ++ (h.events.flatMap Event.taken).flatten

namespace Hears

variable {initial heard : Bytes} {h : History lib}

/-- What neither takes chunks nor touches the pending bytes is not heard. -/
theorem frame (hh : h.Hears initial heard) {later : History lib} {e : Event}
    (hevents : later.events = h.events ++ [e]) (htaken : e.taken = [])
    (hplayout : later.station.playout = h.station.playout) : later.Hears initial heard := by
  unfold Hears
  rw [hplayout, hevents, List.flatMap_append, List.flatMap_singleton, htaken, List.append_nil]
  exact hh

theorem fill (hh : h.Hears initial heard) (needed : Nat) :
    (h.fill needed).Hears initial (heard ++ h.station.heardNow needed) := by
  cases hqueue : h.station.queue with
  | none =>
    have hsilent : h.station.heardNow needed = [] := by
      simp only [heardNow, sink?, hqueue, Option.map_none]
    rw [h.fill_of_none needed hqueue, hsilent, List.append_nil]
    exact hh
  | some queue =>
    obtain ⟨taken, rest, playout, underflowed, hsplit, hfill⟩ := h.fill_of_queue needed hqueue
    have hheld : h.station.held? = some (h.station.playout.pending ++ queue.chunks.flatten) := by
      rw [held?, sink?, hqueue]
      rfl
    obtain ⟨after, hafter, hsum⟩ := heardNow_append_held hheld needed
    have hpending : playout.pending ++ rest.flatten = after := by
      rw [← fill_station, hfill] at hafter
      exact Option.some.inj hafter
    -- the chunks that stay in the queue are neither heard nor taken
    have hbalance : h.station.heardNow needed ++ playout.pending
        = h.station.playout.pending ++ taken.flatten := by
      rw [← hpending, hsplit, List.flatten_append, ← List.append_assoc, ← List.append_assoc] at hsum
      exact List.append_cancel_right hsum
    rw [hfill]
    show heard ++ _ ++ playout.pending = _
    rw [List.append_assoc, hbalance, ← List.append_assoc, hh, List.flatMap_append,
      List.flatMap_singleton, List.flatten_append, List.append_assoc]
    rfl

theorem fills (hh : h.Hears initial heard) (requests : List Nat) :
    (requests.foldl History.fill h).Hears initial (heard ++ h.heardOn requests) := by
  induction requests generalizing h heard with
  | nil =>
    rw [heardOn, List.append_nil]
    exact hh
  | cons needed rest ih =>
    rw [heardOn, ← List.append_assoc]
    exact ih (hh.fill needed)

theorem serve (hh : h.Hears initial heard) (p : Packet) (requests : List Nat) :
    (h.serve p requests).Hears initial (heard ++ h.heardWaiting p requests) := by
  unfold History.serve heardWaiting
  split
  · exact hh.fills requests
  · rw [List.append_nil]
    exact hh

/-- A packet that comes in is not heard yet. -/
theorem receive (hh : h.Hears initial heard) (host : JitterQueue.Host) (p : Packet) :
    (h.receive host p).Hears initial heard := by
  refine hh.frame rfl rfl ?_
  show (h.station.receiveAmid host p {}).station.playout = _
  rw [(h.station.receiveAmid_eq host p {}).2]
  split
  · rename_i queue _ _
    rcases queue.enqueue host p.payload {} with ⟨_ | _, later⟩ <;> rfl
  · rfl

theorem step (hh : h.Hears initial heard) (step : Step) :
    (h.step step).Hears initial (heard ++ h.heardIn step) := by
  cases step with
  | packet host p before during =>
    rw [History.step, packet_eq, heardIn, ← List.append_assoc]
    exact ((hh.serve p before).serve p during).receive host p
  | fill needed => exact hh.fill needed
  | report now =>
    rw [heardIn, List.append_nil]
    exact hh.frame rfl rfl rfl
  | reportIfDue now =>
    rw [heardIn, List.append_nil, History.step, reportIfDue_eq]
    split
    · exact hh.frame rfl rfl rfl
    · exact hh
  | isDue now =>
    rw [heardIn, List.append_nil]
    exact hh
  | callback depth underflowed =>
    rw [heardIn, List.append_nil]
    exact hh.frame rfl rfl rfl

theorem steps (hh : h.Hears initial heard) (steps : List Step) :
    (steps.foldl History.step h).Hears initial (heard ++ h.heard steps) := by
  -- a step leads to another history, in which more has been heard
  induction steps generalizing h heard with
  | nil =>
    rw [History.heard, List.append_nil]
    exact hh
  | cons step rest ih =>
    rw [History.heard, ← List.append_assoc]
    exact ih (hh.step step)

end Hears

end History

/-- In every run, what is heard and then pending is what was pending at the start, and then the
chunks that were taken from the queue. -/
theorem run_hears (s : Station lib) (steps : List Step) :
    (s.run steps).Hears s.playout.pending (s.heard steps) := by
  have hstart : ({ station := s } : History lib).Hears s.playout.pending [] :=
    (List.append_nil _).symm
  exact hstart.steps steps

/-- With a queue, what is heard, what is pending and what waits are what waited at the start and
what was queued since. -/
theorem run_heard_append_waiting {s : Station lib} {queue : JitterQueue}
    (hqueue : s.queue = some queue) (steps : List Step) :
    s.heard steps ++ (s.run steps).station.playout.pending ++ (s.run steps).station.waiting.flatten
      = s.playout.pending ++ queue.chunks.flatten
        ++ ((s.run steps).events.filterMap Event.queued?).flatten := by
  have hhears : s.heard steps ++ (s.run steps).station.playout.pending = _ := s.run_hears steps
  rw [hhears, List.append_assoc, List.append_assoc, ← List.flatten_append, ← List.flatten_append,
    (run_conserved hqueue steps).fifo]

/-! ## What is recorded -/

namespace History

variable {layout : Wave.Spec → Bytes} {view : lib.View} {h later : History lib} {format : PcmFormat}

/-- The invariant of the recording: it holds the whole samples of all packets so far. -/
def Recorded (layout : Wave.Spec → Bytes) (view : lib.View) (format : PcmFormat)
    (h : History lib) : Prop :=
  ∃ r, h.station.recording = some r ∧
    r.Holds layout view format (h.packets.map fun p => wholeSamples p.payload).flatten

theorem Recorded.frame (hr : h.Recorded layout view format) {e : Event}
    (hevents : later.events = h.events ++ [e]) (hpacket : e.packet? = none)
    (hrecording : later.station.recording = h.station.recording) :
    later.Recorded layout view format := by
  unfold Recorded
  rw [hrecording, packets_concat hevents, hpacket, Option.toList_none, List.append_nil]
  exact hr

/-- Whatever becomes of the audio of a packet, it is recorded. -/
theorem Recorded.packet (hlib : lib.Documented layout view) (hr : h.Recorded layout view format)
    {e : Event} {p : Packet} (hevents : later.events = h.events ++ [e])
    (hpacket : e.packet? = some p)
    (hrecording : later.station.recording = (h.station.record p.payload).1.recording) :
    later.Recorded layout view format := by
  -- the recording comes before the queue, so the fate in `e` plays no part
  obtain ⟨r, hsome, hholds⟩ := hr
  refine ⟨(r.append p.payload).2, ?_, ?_⟩
  · rw [hrecording, record, hsome]
  · rw [packets_concat hevents, hpacket, List.map_append, List.flatten_append]
    have hpayload := (hholds.append hlib p.payload).2
    simpa using hpayload

theorem Recorded.change (hlib : lib.Documented layout view) (hr : h.Recorded layout view format)
    (hchange : Change h later) : later.Recorded layout view format := by
  cases hchange with
  | played hqueue hsplit playout underflowed => exact hr.frame rfl rfl rfl
  | counted depth underflowed => exact hr.frame rfl rfl rfl
  | failed p e hrecord => exact hr.packet hlib rfl rfl rfl
  | unplayed p hrecord hqueue => exact hr.packet hlib rfl rfl rfl
  | queued p hrecord hqueue hroom => exact hr.packet hlib rfl rfl rfl
  | dropped p hrecord hqueue hfull => exact hr.packet hlib rfl rfl rfl
  | reported now => exact hr.frame rfl rfl rfl

/-! ## What was dropped -/

/-- What was queued is the audio of the packets that were not dropped. -/
theorem queued_eq_outcomes (h : History lib) :
    h.events.filterMap Event.queued?
      = (h.outcomes.filter fun outcome => outcome.2 ≠ .dropped).map fun outcome =>
          outcome.1.payload := by
  rw [outcomes, List.filter_filterMap, List.map_filterMap]
  refine List.filterMap_congr ?_
  intro e _
  rcases e with ⟨p, result, _ | _ | _⟩ | _ | _ <;> rfl

theorem countP_dropped_eq (h : History lib) :
    h.events.countP Event.dropped = h.outcomes.countP fun outcome => outcome.2 = .dropped := by
  rw [outcomes, List.countP_filterMap]
  refine List.countP_congr ?_
  intro e _
  rcases e with ⟨p, result, _ | _ | _⟩ | _ | _ <;> simp [Event.dropped, Event.outcome?]

end History

/-- A recording that starts with a run holds the whole samples of all its packets. -/
theorem run_recorded {layout : Wave.Spec → Bytes} {view : lib.View}
    (hlib : lib.Documented layout view) {s : Station lib} {r : Recording lib} {format : PcmFormat}
    (hrecording : s.recording = some r) (hholds : r.Holds layout view format [])
    (steps : List Step) :
    (s.run steps).Recorded layout view format :=
  s.run_induction steps ⟨r, hrecording, hholds⟩ (History.Recorded.change hlib)

/-! ## The law -/

/-- **Recording and playback take in the same packets.** A station starts with a recording whose
writes succeed and a queue that is empty or holds silence, and packets with whole samples come in,
in between any requests, reports and callbacks. Then the audio of the recording, however it ends, is
that of all packets in order. The audio of each packet was either queued or dropped, and what has
been heard, what is pending and what is queued are the silence and then the audio of all packets but
exactly those that were dropped. These are counted; so as long as the counter has not run over and
shows zero, all that is heard after the silence is what was recorded. -/
theorem recording_and_playback_agree {layout : Wave.Spec → Bytes} {view : lib.View}
    (hlib : lib.Documented layout view) {path : String} {format : PcmFormat} {previous : Bytes}
    {r : Recording lib} {log : List Log.Entry}
    (hcreate : Recording.create lib path format previous = .ok (r, log))
    (hworks : view.works r.writer) (plan : ListenPlan) (start : Instant) (period : Duration)
    (watchesPlayback : Bool) (maxChunks target chunkBytes : Nat) {steps : List Step}
    (heven : ∀ p ∈ steps.filterMap Step.packet?, 2 ∣ p.payload.length) :
    let prefilled := (JitterQueue.empty maxChunks).prefill target chunkBytes
    let s := opened plan start period watchesPlayback (some prefilled.2) (some r)
    let packets := steps.filterMap Step.packet?
    let h := s.run steps
    let outcomes := h.events.filterMap Event.outcome?
    let dropped := outcomes.countP fun outcome => outcome.2 = .dropped
    ∃ recording queue, h.station.recording = some recording ∧ h.station.queue = some queue ∧
      ∀ ending,
        let file := (recording.ended ending).file
        let recorded := file.drop (Wave.headerSize (layout (Recording.spec format)))
        let heard := s.heard steps ++ h.station.playout.pending ++ queue.chunks.flatten
        recorded = (packets.map Packet.payload).flatten ∧
        outcomes.map Prod.fst = packets ∧
        heard = silence prefilled.1.queued
          ++ ((outcomes.filter fun outcome => outcome.2 ≠ .dropped).map fun outcome =>
              outcome.1.payload).flatten ∧
        h.station.drops = dropped.toUInt64 ∧
        (dropped < UInt64.size → h.station.drops = 0 →
          heard = silence prefilled.1.queued ++ recorded) := by
  intro prefilled s packets h outcomes dropped
  have hstart := Recording.holds_of_create hlib hcreate hworks
  have hsafe : s.RecordsSafely := by
    rintro r' ⟨⟩
    exact hstart.takes hlib
  have hall : outcomes.map Prod.fst = packets := run_outcomes rfl hsafe steps
  have hpackets : h.packets = packets := s.run_packets steps
  obtain ⟨recording, hrecording, hholds⟩ := run_recorded (s := s) hlib rfl hstart steps
  obtain ⟨queue, hqueue⟩ := Option.ne_none_iff_exists'.mp (run_conserved (s := s) rfl steps).playing
  refine ⟨recording, queue, hrecording, hqueue, ?_⟩
  intro ending file recorded heard
  have hrecorded : recorded = (packets.map Packet.payload).flatten := by
    -- packets with whole samples have no odd byte that the recording would leave out
    have hwhole : (packets.map fun p => wholeSamples p.payload) = packets.map Packet.payload := by
      refine List.map_congr_left ?_
      intro p hp
      exact wholeSamples_of_even (heven p hp)
    rw [← hwhole, ← hpackets]
    exact hholds.drop_file hlib ending
  have hheard : heard = silence prefilled.1.queued
      ++ ((outcomes.filter fun outcome => outcome.2 ≠ .dropped).map fun outcome =>
          outcome.1.payload).flatten := by
    have hsum := run_heard_append_waiting (s := s) rfl steps
    rw [waiting, hqueue, History.queued_eq_outcomes, JitterQueue.prefill_flatten] at hsum
    exact hsum
  have hdrops : h.station.drops = dropped.toUInt64 := by
    rw [(run_booked rfl rfl steps).drops_eq, History.countP_dropped_eq]
    rfl
  refine ⟨hrecorded, hall, hheard, hdrops, ?_⟩
  intro hsize hzero
  -- nothing was dropped, so there is nothing to leave out
  have hnone : dropped = 0 := by
    rw [hdrops] at hzero
    have hcount : dropped.toUInt64.toNat = dropped := UInt64.toNat_ofNat_of_lt hsize
    rw [← hcount, hzero]
    rfl
  have hkept : (outcomes.filter fun outcome => outcome.2 ≠ .dropped) = outcomes := by
    refine List.filter_eq_self.mpr ?_
    intro outcome houtcome
    have hqueued := List.countP_eq_zero.mp hnone outcome houtcome
    simpa using hqueued
  rw [hheard, hkept, hrecorded, ← hall, List.map_map]
  rfl

/-- Silence takes one of two places. The second packet waits for a request of three bytes, which is
answered with the silence and half a sample; the fourth packet is dropped. Before it comes,
recording and playback are the same but for the silence. -/
theorem recording_and_playback_agree_one_drop :
    let format : PcmFormat := ⟨8000, 1⟩
    let steps : List Step :=
      [.packet .manyWorkers ⟨{}, [1, 2]⟩ [] [],
       .packet .manyWorkers ⟨{ sequence := 1 }, [3, 4]⟩ [] [3],
       .packet .oneWorker ⟨{ sequence := 2 }, [5, 6]⟩ [] [],
       .packet .oneWorker ⟨{ sequence := 3 }, [7, 8]⟩ [] []]
    let lib := Wave.onDisk fun _ => .ok .file
    let view := Wave.FileWriter.view fun _ => .ok .file
    ∃ r log, ∃ s : Station lib, lib.Documented Wave.formatBody view ∧
      Recording.create lib "tone.wav" format [9] = .ok (r, log) ∧ view.works r.writer ∧
      (∀ p ∈ steps.filterMap Step.packet?, 2 ∣ p.payload.length) ∧
      s = opened ⟨0, format, 20, 160⟩ ⟨0⟩ reportPeriod true
        (some ((JitterQueue.empty 2).prefill 2 2).2) (some r) ∧
      (∃ recording queue, (s.run steps).station.recording = some recording ∧
        (s.run steps).station.queue = some queue ∧ (s.run steps).station.drops = 1 ∧
        (recording.ended .finalized).file.drop
          (Wave.headerSize (Wave.formatBody (Recording.spec format))) = [1, 2, 3, 4, 5, 6, 7, 8] ∧
        s.heard steps ++ (s.run steps).station.playout.pending ++ queue.chunks.flatten
          = [0, 0, 1, 2, 3, 4, 5, 6]) ∧
      ∃ recording queue, (s.run (steps.take 3)).station.recording = some recording ∧
        (s.run (steps.take 3)).station.queue = some queue ∧
        (s.run (steps.take 3)).station.drops = 0 ∧
        s.heard (steps.take 3) ++ (s.run (steps.take 3)).station.playout.pending
          ++ queue.chunks.flatten
          = [0, 0] ++ (recording.ended .dropped).file.drop
              (Wave.headerSize (Wave.formatBody (Recording.spec format))) := by
  intro format steps lib view
  have hlib : lib.Documented Wave.formatBody view := Wave.onDisk_documented _
  have hcreate : Recording.create lib "tone.wav" format [9] = .ok (_, _) := rfl
  have hagree := fun (steps : List Step)
      (heven : ∀ p ∈ steps.filterMap Step.packet?, 2 ∣ p.payload.length) =>
    recording_and_playback_agree hlib hcreate rfl ⟨0, format, 20, 160⟩ ⟨0⟩ reportPeriod true 2 2 2
      heven
  refine ⟨_, _, _, hlib, hcreate, rfl, by decide, rfl, ?_, ?_⟩
  · obtain ⟨recording, queue, hrecording, hqueue, hboth⟩ := hagree steps (by decide)
    obtain ⟨hrecorded, -, hheard, hdrops, -⟩ := hboth .finalized
    exact ⟨recording, queue, hrecording, hqueue, hdrops.trans (by decide +kernel), hrecorded,
      hheard.trans (by decide +kernel)⟩
  · obtain ⟨recording, queue, hrecording, hqueue, hboth⟩ := hagree (steps.take 3) (by decide)
    obtain ⟨-, -, -, hdrops, hsame⟩ := hboth .dropped
    have hnone := hdrops.trans (c := 0) (by decide +kernel)
    exact ⟨recording, queue, hrecording, hqueue, hnone, hsame (by decide +kernel) hnone⟩

end Station

end ToneLink
