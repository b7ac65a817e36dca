import Mathlib.Logic.Relation
import ToneLink.Proofs.StationAudio

/-!
# Runs of a station

A run is any order of packets, reports and callbacks. A packet that finds the queue full waits with
its audio for room, and the requests that are answered while it waits belong to it.

- `Station.Step`: what can happen;
- `Station.Event`: what is known of it afterwards, and the lists that are read off a run;
- `Station.History.packet_eq`: a packet that waited comes to one that arrived at the end of its
  wait;
- `Station.Change`: everything that a station can do, one constructor for each of the ways in which
  its state changes;
- `Station.run_changes`: every run consists of such changes, so a property of runs is proved one
  constructor at a time.
-/

namespace ToneLink

theorem filterMap_concat {α β : Type*} (f : α → Option β) (entries : List α) (entry : α) :
    (entries ++ [entry]).filterMap f = entries.filterMap f ++ (f entry).toList := by
  rw [List.filterMap_append, List.filterMap_cons]
  cases f entry <;> rfl

namespace Station

variable {lib : Wave.Library}

/-! ## Steps and events -/

/-- What can happen to a station. -/
inductive Step
  /-- A packet comes in. If it finds the queue full, some numbers of bytes are asked for before its
  audio is pushed, and others while the push waits. -/
  | packet (host : JitterQueue.Host) (p : Packet) (before during : List Nat)
  /-- A report is made. -/
  | report (now : Instant)
  /-- A report is made if one is due. -/
  | reportIfDue (now : Instant)
  /-- It is asked whether a report is due. -/
  | isDue (now : Instant)
  /-- A number of bytes is asked for. -/
  | fill (needed : Nat)
  /-- A callback is entered into the counters. -/
  | callback (depth : Nat) (underflowed : Bool)

/-- The packet that a step brings. -/
def Step.packet? : Step → Option Packet
  | .packet _ p _ _ => some p
  | _ => none

/-- Whether a step asks for audio. -/
def Step.asks : Step → Bool
  | .packet _ _ before during => !(before.isEmpty && during.isEmpty)
  | .fill _ => true
  | _ => false

/-- What is known of a step afterwards. -/
inductive Event
  /-- A packet was taken in, with this result. If it was recorded and there is a queue, its audio
  met this fate. -/
  | packet (p : Packet) (result : Except RecordingError Unit) (fate : Option Fate)
  /-- A callback was counted. It took these chunks from the queue. -/
  | callback (depth : Nat) (underflowed : Bool) (taken : List Bytes)
  /-- A report was made. -/
  | report (r : Report)

namespace Event

/-- The packet that came in. -/
def packet? : Event → Option Packet
  | .packet p _ _ => some p
  | _ => none

/-- The audio that was queued. -/
def queued? : Event → Option Bytes
  | .packet p _ (some .queued) => some p.payload
  | _ => none

/-- The audio that was queued or dropped. -/
def offered? : Event → Option Bytes
  | .packet p _ (some _) => some p.payload
  | _ => none

/-- The packet whose audio was queued or dropped, and which of the two it was. -/
def outcome? : Event → Option (Packet × Fate)
  | .packet p _ (some fate) => some (p, fate)
  | _ => none

/-- Whether audio was dropped. -/
def dropped : Event → Bool
  | .packet _ _ (some .dropped) => true
  | _ => false

/-- Whether a packet could not be recorded. -/
def failed : Event → Bool
  | .packet _ (.error _) _ => true
  | _ => false

/-- The chunks that were taken from the queue. -/
def taken : Event → List Bytes
  | .callback _ _ taken => taken
  | _ => []

/-- The report that was made. -/
def report? : Event → Option Report
  | .report r => some r
  | _ => none

end Event

/-- A station, and what has happened to it. -/
structure History (lib : Wave.Library) where
  station : Station lib
  /-- Everything that happened, oldest first. -/
  events : List Event := []

/-- The chunks that wait in the queue, if there is one. -/
def waiting (s : Station lib) : List Bytes := (s.queue.map JitterQueue.chunks).getD []

/-- What becomes of the audio of a packet: nothing if it cannot be recorded or is not played. -/
def fate (s : Station lib) (host : JitterQueue.Host) (p : Packet)
    (consumer : JitterQueue.Interference) : Option Fate :=
  match (s.record p.payload).2, s.queue with
  | .ok (), some queue => some (queue.enqueue host p.payload consumer).1
  | _, _ => none

/-- Whether a packet has to wait for room in the queue. -/
def mustWait (s : Station lib) (p : Packet) : Bool :=
  (s.record p.payload).2.isOk && s.queue.any fun queue => !queue.hasRoom

namespace History

/-- Answers a request, if anything is played. -/
def fill (h : History lib) (needed : Nat) : History lib :=
  match h.station.sink? with
  | none => h
  | some sink =>
    let later := (h.station.fill needed).2
    ⟨later, h.events ++ [.callback sink.queue.depth (sink.runsDry needed)
      (h.station.waiting.take (h.station.waiting.length - later.waiting.length))]⟩

/-- Answers requests while a packet waits. -/
def serve (h : History lib) (p : Packet) (requests : List Nat) : History lib :=
  if h.station.mustWait p then requests.foldl fill h else h

/-- Takes in a packet. The consumer during the wait is the playout of this very station, and it
takes as many chunks as its requests need. -/
def packet (h : History lib) (host : JitterQueue.Host) (p : Packet) (before during : List Nat) :
    History lib :=
  let first := h.serve p before
  let last := first.serve p during
  let consumer : JitterQueue.Interference :=
    { before := h.station.waiting.length - first.station.waiting.length
      during := first.station.waiting.length - last.station.waiting.length }
  let r := h.station.receiveAmid host p consumer
  { station := { r.station with
      playout := last.station.playout
      ledger := { r.station.ledger with counters := last.station.ledger.counters } }
    events := last.events ++ [.packet p r.result (h.station.fate host p consumer)] }

/-- Makes a report. -/
def report (h : History lib) (now : Instant) : History lib :=
  let (r, station) := h.station.report now
  ⟨station, h.events ++ [.report r]⟩

/-- Makes a report if one is due. -/
def reportIfDue (h : History lib) (now : Instant) : History lib :=
  let (r, station) := h.station.reportIfDue now
  ⟨station, h.events ++ r.toList.map .report⟩

/-- Enters a callback into the counters. -/
def callback (h : History lib) (depth : Nat) (underflowed : Bool) : History lib :=
  ⟨h.station.recordCallback depth underflowed, h.events ++ [.callback depth underflowed []]⟩

/-- One step of a run. -/
def step (h : History lib) : Step → History lib
  | .packet host p before during => h.packet host p before during
  | .report now => h.report now
  | .reportIfDue now => h.reportIfDue now
  | .isDue _ => h
  | .fill needed => h.fill needed
  | .callback depth underflowed => h.callback depth underflowed

end History

/-- A run of a station. -/
def run (s : Station lib) (steps : List Step) : History lib :=
  steps.foldl History.step { station := s }

/-! ## What a step can do -/

/-- The state after a packet is in the books, and in the recording as far as it can be recorded. -/
def accounted (s : Station lib) (p : Packet) : Station lib :=
  { (s.account p).1 with recording := (s.record p.payload).1.recording }

/-- The ways in which a station changes. -/
inductive Change (h : History lib) : History lib → Prop
  /-- A callback takes chunks from the front of the queue. -/
  | played {queue : JitterQueue} {taken rest : List Bytes}
      (hqueue : h.station.queue = some queue) (hsplit : queue.chunks = taken ++ rest)
      (playout : Playout) (underflowed : Bool) :
    Change h
      ⟨{ h.station with
          queue := some { queue with chunks := rest }
          playout
          ledger := h.station.ledger.recordCallback queue.depth underflowed },
        h.events ++ [.callback queue.depth underflowed taken]⟩
  /-- A callback is counted. -/
  | counted (depth : Nat) (underflowed : Bool) : Change h (h.callback depth underflowed)
  /-- A packet cannot be recorded. -/
  | failed (p : Packet) (e : RecordingError)
      (hrecord : (h.station.record p.payload).2 = .error e) :
    Change h ⟨h.station.accounted p, h.events ++ [.packet p (.error e) none]⟩
  /-- A packet is not to be played. -/
  | unplayed (p : Packet) (hrecord : (h.station.record p.payload).2 = .ok ())
      (hqueue : h.station.queue = none) :
    Change h ⟨h.station.accounted p, h.events ++ [.packet p (.ok ()) none]⟩
  /-- A packet finds room in the queue. -/
  | queued {queue : JitterQueue} (p : Packet)
      (hrecord : (h.station.record p.payload).2 = .ok ())
      (hqueue : h.station.queue = some queue) (hroom : queue.hasRoom) :
    Change h
      ⟨{ h.station.accounted p with
          queue := some { queue with chunks := queue.chunks ++ [p.payload] } },
        h.events ++ [.packet p (.ok ()) (some .queued)]⟩
  /-- A packet finds the queue full. -/
  | dropped {queue : JitterQueue} (p : Packet)
      (hrecord : (h.station.record p.payload).2 = .ok ())
      (hqueue : h.station.queue = some queue) (hfull : ¬ queue.hasRoom) :
    Change h
      ⟨{ h.station.accounted p with
          queue := some queue
          metrics := (h.station.accounted p).metrics.add .backpressureDrops 1 },
        h.events ++ [.packet p (.ok ()) (some .dropped)]⟩
  /-- A report is made. -/
  | reported (now : Instant) : Change h (h.report now)

/-- Every change is one event. -/
theorem Change.exists_event {h later : History lib} (hchange : Change h later) :
    ∃ e, later.events = h.events ++ [e] := by
  cases hchange <;> exact ⟨_, rfl⟩

/-- Changes, one after another. -/
abbrev Changes : History lib → History lib → Prop := Relation.ReflTransGen Change

/-! ## Requests -/

/-- What requests leave of a station: they take chunks from the front of the queue, and audio and
counters move on. -/
structure Served (s t : Station lib) : Prop where
  losses_eq : t.ledger.losses = s.ledger.losses
  reporter_eq : t.ledger.reporter = s.ledger.reporter
  recording_eq : t.recording = s.recording
  metrics_eq : t.metrics = s.metrics
  queue_eq : ∀ queue ∈ s.queue, ∃ rest, rest <:+ queue.chunks ∧
    t.queue = some { queue with chunks := rest }

theorem Served.refl (s : Station lib) : Served s s :=
  ⟨rfl, rfl, rfl, rfl, fun queue hqueue => ⟨queue.chunks, List.suffix_refl _, hqueue⟩⟩

theorem Served.trans {s t u : Station lib} (hst : Served s t) (htu : Served t u) : Served s u where
  losses_eq := htu.losses_eq.trans hst.losses_eq
  reporter_eq := htu.reporter_eq.trans hst.reporter_eq
  recording_eq := htu.recording_eq.trans hst.recording_eq
  metrics_eq := htu.metrics_eq.trans hst.metrics_eq
  queue_eq := by
    intro queue hqueue
    obtain ⟨rest, hsuffix, ht⟩ := hst.queue_eq queue hqueue
    obtain ⟨rest', hsuffix', hu⟩ := htu.queue_eq _ ht
    exact ⟨rest', hsuffix'.trans hsuffix, hu⟩

/-- Requests on a full queue come to a wait. -/
theorem Served.awaited {s t : Station lib} (hst : Served s t) {queue later : JitterQueue}
    (hqueue : s.queue = some queue) (hlater : t.queue = some later) (hfull : ¬ queue.hasRoom) :
    queue.awaited (s.waiting.length - t.waiting.length) = later := by
  obtain ⟨rest, hsuffix, ht⟩ := hst.queue_eq queue hqueue
  rw [hlater] at ht
  cases ht
  rw [JitterQueue.awaited, if_neg hfull, waiting, waiting, hqueue, hlater, JitterQueue.pullMany]
  exact congrArg (JitterQueue.mk _) (List.suffix_iff_eq_drop.mp hsuffix).symm

namespace History

/-- A request takes chunks from the front of the queue and is counted. -/
theorem fill_of_queue (h : History lib) (needed : Nat) {queue : JitterQueue}
    (hqueue : h.station.queue = some queue) :
    ∃ taken rest playout underflowed, queue.chunks = taken ++ rest ∧
      h.fill needed
        = ⟨{ h.station with
              queue := some { queue with chunks := rest }
              playout
              ledger := h.station.ledger.recordCallback queue.depth underflowed },
            h.events ++ [.callback queue.depth underflowed taken]⟩ := by
  let sink : Sink := ⟨queue, h.station.playout, h.station.ledger.counters⟩
  have hsink : h.station.sink? = some sink := by
    rw [sink?, hqueue]
    rfl
  have hstation : (h.station.fill needed).2 = h.station.withSink (sink.fill needed).2 := by
    simp only [Station.fill, hsink]
  have hcounters : (sink.fill needed).2.counters
      = sink.counters.record queue.depth (sink.runsDry needed) := by
    rw [Sink.fill, sink.fillInto_counters, length_silence]
  obtain ⟨taken, hsplit⟩ := sink.fillInto_suffix (silence needed)
  have hchunks : queue.chunks = taken ++ (sink.fill needed).2.queue.chunks := hsplit.symm
  have htaken : queue.chunks.take (queue.chunks.length - (sink.fill needed).2.queue.chunks.length)
      = taken := by
    rw [hchunks, List.length_append, Nat.add_sub_cancel, List.take_left]
  refine ⟨taken, _, (sink.fill needed).2.playout, sink.runsDry needed, hchunks, ?_⟩
  simp only [fill, hsink, hstation, waiting, hqueue, withSink, Option.map_some, Option.getD_some,
    htaken, hcounters]
  rfl

/-- Without a queue a request has no answer. -/
theorem fill_of_none (h : History lib) (needed : Nat) (hqueue : h.station.queue = none) :
    h.fill needed = h := by
  simp only [fill, sink?, hqueue, Option.map_none]

theorem fill_served (h : History lib) (needed : Nat) :
    Served h.station (h.fill needed).station := by
  cases hqueue : h.station.queue with
  | none =>
    rw [h.fill_of_none needed hqueue]
    exact Served.refl _
  | some queue =>
    obtain ⟨taken, rest, playout, underflowed, hsplit, hfill⟩ := h.fill_of_queue needed hqueue
    rw [hfill]
    refine ⟨rfl, rfl, rfl, rfl, ?_⟩
    intro queue' hqueue'
    rw [hqueue] at hqueue'
    cases hqueue'
    exact ⟨rest, ⟨taken, hsplit.symm⟩, rfl⟩

/-- What every request does, the requests do that a packet waits for. -/
theorem serve_of_fill {R : History lib → History lib → Prop} (refl : ∀ h, R h h)
    (trans : ∀ {h h' h''}, R h h' → R h' h'' → R h h'')
    (fill : ∀ (h : History lib) (needed : Nat), R h (h.fill needed)) (h : History lib) (p : Packet)
    (requests : List Nat) : R h (h.serve p requests) := by
  have hfills : ∀ (requests : List Nat) (h : History lib), R h (requests.foldl History.fill h) := by
    intro requests
    induction requests with
    | nil => exact refl
    | cons needed rest ih => exact fun h => trans (fill h needed) (ih (h.fill needed))
  by_cases hwait : h.station.mustWait p = true
  · rw [serve, if_pos hwait]
    exact hfills requests h
  · rw [serve, if_neg hwait]
    exact refl h

theorem serve_served (h : History lib) (p : Packet) (requests : List Nat) :
    Served h.station (h.serve p requests).station :=
  serve_of_fill (R := fun h later => Served h.station later.station)
    (fun h => Served.refl h.station) Served.trans fill_served h p requests

end History

/-! ## Reports -/

/-- A report is made if one is due; otherwise nothing changes. -/
theorem reportIfDue_eq (s : Station lib) (now : Instant) :
    s.reportIfDue now
      = if s.ledger.reporter.isDue now then (some (s.report now).1, (s.report now).2)
        else (none, s) := by
  by_cases hdue : s.ledger.reporter.isDue now = true
  · rw [if_pos hdue, reportIfDue, Ledger.reportIfDue, if_pos hdue]
    rfl
  · rw [if_neg hdue, reportIfDue, Ledger.reportIfDue, if_neg hdue]

/-! ## One packet -/

/-- A packet is recorded as well after requests as before them. -/
theorem Served.record_eq {s t : Station lib} (hst : Served s t) (payload : Bytes) :
    (t.record payload).2 = (s.record payload).2 ∧
      (t.record payload).1.recording = (s.record payload).1.recording := by
  rw [record, record, hst.recording_eq]
  cases s.recording with
  | none => exact ⟨rfl, hst.recording_eq⟩
  | some r => exact ⟨rfl, rfl⟩

/-- Requests do not show in the books of a packet, but for the counters. -/
theorem Served.accounted_eq {s t : Station lib} (hst : Served s t) (p : Packet) :
    { s.accounted p with
        queue := t.queue
        playout := t.playout
        ledger := { (s.accounted p).ledger with counters := t.ledger.counters } }
      = t.accounted p := by
  obtain ⟨-, hrecording⟩ := hst.record_eq p.payload
  rw [accounted, accounted, hrecording]
  obtain ⟨⟨losses, counters, reporter⟩, queue, playout, recorded, metrics⟩ := s
  obtain ⟨⟨losses', counters', reporter'⟩, queue', playout', recorded', metrics'⟩ := t
  obtain ⟨hlosses, hreporter, -, hmetrics, -⟩ := hst
  cases hlosses
  cases hreporter
  cases hmetrics
  rfl

/-- What is left to do after a chunk met its fate in the queue. -/
def settled (s : Station lib) : Fate × JitterQueue → Station lib
  | (.queued, queue) => { s with queue := some queue }
  | (.dropped, queue) =>
    { s with
        queue := some queue
        metrics := s.metrics.add .backpressureDrops 1 }

theorem queueChunk_eq (s : Station lib) (host : JitterQueue.Host) (chunk : Bytes)
    (consumer : JitterQueue.Interference) :
    (s.queueChunk host chunk consumer).1
      = match s.queue with
        | none => s
        | some queue => s.settled (queue.enqueue host chunk consumer) := by
  rw [queueChunk]
  cases s.queue with
  | none => rfl
  | some queue =>
    cases hpushed : queue.enqueue host chunk consumer with
    | mk fate later => cases fate <;> simp only [hpushed, settled]

/-- Taking in a packet: the books come first, then the recording, then the queue. -/
theorem receiveAmid_eq (s : Station lib) (host : JitterQueue.Host) (p : Packet)
    (consumer : JitterQueue.Interference) :
    (s.receiveAmid host p consumer).result = (s.record p.payload).2 ∧
      (s.receiveAmid host p consumer).station
        = match (s.record p.payload).2, s.queue with
          | .ok (), some queue =>
            (s.accounted p).settled (queue.enqueue host p.payload consumer)
          | _, _ => s.accounted p := by
  -- the books and the recording do not see each other
  have hbooks : (s.account p).1.record p.payload
      = (s.accounted p, (s.record p.payload).2) := by
    obtain ⟨ledger, queue, playout, recording, metrics⟩ := s
    cases recording <;> rfl
  rw [receiveAmid]
  simp only [hbooks]
  cases (s.record p.payload).2 with
  | error e => exact ⟨rfl, rfl⟩
  | ok u =>
    refine ⟨rfl, (queueChunk_eq _ host p.payload consumer).trans ?_⟩
    have hqueue : (s.accounted p).queue = s.queue := rfl
    rw [hqueue]
    cases s.queue <;> rfl

/-- Takes in a packet that finds the consumer at rest. -/
def History.receive (h : History lib) (host : JitterQueue.Host) (p : Packet) : History lib :=
  ⟨(h.station.receive host p).station,
    h.events ++ [.packet p (h.station.receive host p).result (h.station.fate host p {})]⟩

/-- A packet is recorded or not, finds a queue or not, and finds room or not. -/
theorem History.receive_change (h : History lib) (host : JitterQueue.Host) (p : Packet) :
    Change h (h.receive host p) := by
  obtain ⟨hresult, hstation⟩ := h.station.receiveAmid_eq host p {}
  rw [History.receive, Station.receive, hresult, hstation, fate]
  cases hrecord : (h.station.record p.payload).2 with
  | error e => exact .failed p e hrecord
  | ok u =>
    cases hqueue : h.station.queue with
    | none => exact .unplayed p hrecord hqueue
    | some queue =>
      by_cases hroom : queue.hasRoom
      · simp only [JitterQueue.enqueue_undisturbed, if_pos hroom]
        exact .queued p hrecord hqueue hroom
      · simp only [JitterQueue.enqueue_undisturbed, if_neg hroom]
        exact .dropped p hrecord hqueue hroom

/-- What a wait leaves of playout and counters shows beside the packet that waited. -/
theorem Served.settled_eq {s t : Station lib} (hst : Served s t) (p : Packet)
    (pushed : Fate × JitterQueue) :
    { (s.accounted p).settled pushed with
        playout := t.playout
        ledger := { ((s.accounted p).settled pushed).ledger with
          counters := t.ledger.counters } }
      = (t.accounted p).settled pushed := by
  rw [← hst.accounted_eq]
  obtain ⟨fate, queue⟩ := pushed
  cases fate <;> rfl

namespace History

/-- A packet that does not have to wait finds the consumer at rest. -/
theorem packet_eq_of_not_mustWait {h : History lib} {p : Packet}
    (hwait : ¬ h.station.mustWait p = true) (host : JitterQueue.Host) (before during : List Nat) :
    h.packet host p before during = ((h.serve p before).serve p during).receive host p := by
  have hserve : ∀ requests, h.serve p requests = h := fun requests => if_neg hwait
  have hrest : h.station.waiting.length - h.station.waiting.length = 0 := Nat.sub_self _
  simp only [packet, hserve, hrest, receive, Station.receive, receiveAmid_eq]
  split
  · rw [(Served.refl h.station).settled_eq]
  · rfl

/-- The wait of a packet leaves of the queue what its requests leave of it. -/
theorem serve_queue {h : History lib} {queue : JitterQueue} (hqueue : h.station.queue = some queue)
    (p : Packet) (requests : List Nat) :
    (h.serve p requests).station.queue
      = some (queue.awaited
          (h.station.waiting.length - (h.serve p requests).station.waiting.length)) := by
  have hserved := h.serve_served p requests
  by_cases hroom : queue.hasRoom
  · have hwait : ¬ h.station.mustWait p = true := by
      simp [mustWait, hqueue, hroom]
    rw [JitterQueue.awaited, if_pos hroom, serve, if_neg hwait, hqueue]
  · obtain ⟨rest, -, hlater⟩ := hserved.queue_eq queue hqueue
    rw [hserved.awaited hqueue hlater hroom, hlater]

end History

/-- A packet that has to wait is recorded, and finds a queue. -/
theorem of_mustWait {s : Station lib} {p : Packet} (h : s.mustWait p = true) :
    (s.record p.payload).2 = .ok () ∧ ∃ queue, s.queue = some queue := by
  obtain ⟨hok, hfull⟩ := Bool.and_eq_true_iff.mp h
  cases hrecord : (s.record p.payload).2 with
  | error e =>
    rw [hrecord] at hok
    cases hok
  | ok u =>
    cases hqueue : s.queue with
    | none =>
      rw [hqueue] at hfull
      cases hfull
    | some queue => exact ⟨rfl, queue, rfl⟩

namespace History

/-- A packet that waited comes to one that arrived at the end of its wait. -/
theorem packet_eq (h : History lib) (host : JitterQueue.Host) (p : Packet)
    (before during : List Nat) :
    h.packet host p before during = ((h.serve p before).serve p during).receive host p := by
  by_cases hwait : h.station.mustWait p = true
  · obtain ⟨hok, queue, hqueue⟩ := of_mustWait hwait
    have hserved := (h.serve_served p before).trans ((h.serve p before).serve_served p during)
    have hlater := serve_queue (serve_queue hqueue p before) p during
    obtain ⟨hresult, -⟩ := hserved.record_eq p.payload
    -- both sides push into what the requests leave of the queue
    simp only [packet, receive, Station.receive, fate, receiveAmid_eq, hresult, hok, hqueue, hlater,
      JitterQueue.enqueue_eq_push, JitterQueue.awaited_zero, hserved.settled_eq]
  · exact packet_eq_of_not_mustWait hwait host before during

/-! ## Runs -/

theorem fill_changes (h : History lib) (needed : Nat) : Changes h (h.fill needed) := by
  cases hqueue : h.station.queue with
  | none =>
    rw [h.fill_of_none needed hqueue]
  | some queue =>
    obtain ⟨taken, rest, playout, underflowed, hsplit, hfill⟩ := h.fill_of_queue needed hqueue
    rw [hfill]
    exact .single (.played hqueue hsplit playout underflowed)

theorem serve_changes (h : History lib) (p : Packet) (requests : List Nat) :
    Changes h (h.serve p requests) :=
  serve_of_fill (fun _ => .refl) Relation.ReflTransGen.trans fill_changes h p requests

theorem reportIfDue_eq (h : History lib) (now : Instant) :
    h.reportIfDue now = if h.station.ledger.reporter.isDue now then h.report now else h := by
  rw [reportIfDue, Station.reportIfDue_eq]
  by_cases hdue : h.station.ledger.reporter.isDue now = true
  · rw [if_pos hdue, if_pos hdue]
    rfl
  · rw [if_neg hdue, if_neg hdue]
    exact congrArg (History.mk h.station) (List.append_nil _)

theorem step_changes (h : History lib) (step : Step) : Changes h (h.step step) := by
  cases step with
  | packet host p before during =>
    rw [History.step, packet_eq]
    exact ((h.serve_changes p before).trans (serve_changes _ p during)).tail
      (receive_change _ host p)
  | report now => exact .single (.reported now)
  | reportIfDue now =>
    rw [History.step, reportIfDue_eq]
    by_cases hdue : h.station.ledger.reporter.isDue now = true
    · rw [if_pos hdue]
      exact .single (.reported now)
    · rw [if_neg hdue]
  | isDue now => exact .refl
  | fill needed => exact h.fill_changes needed
  | callback depth underflowed => exact .single (.counted depth underflowed)

end History

/-- Every run is a sequence of changes. -/
theorem run_changes (s : Station lib) (steps : List Step) :
    Changes { station := s } (s.run steps) := by
  have hsteps : ∀ (steps : List Step) (h : History lib),
      Changes h (steps.foldl History.step h) := by
    intro steps
    induction steps with
    | nil => exact fun h => .refl
    | cons step rest ih => exact fun h => (h.step_changes step).trans (ih (h.step step))
  exact hsteps steps { station := s }

/-- What holds at the start of a run and is kept by every change holds at its end. -/
theorem run_induction {P : History lib → Prop} (s : Station lib) (steps : List Step)
    (start : P { station := s })
    (change : ∀ {h later : History lib}, P h → Change h later → P later) :
    P (s.run steps) := by
  have hchanges := s.run_changes steps
  generalize s.run steps = last at hchanges ⊢
  induction hchanges with
  | refl => exact start
  | tail _ hchange ih => exact change ih hchange

/-! ### The packets of a run -/

namespace History

/-- The packets that came in, oldest first. -/
def packets (h : History lib) : List Packet := h.events.filterMap Event.packet?

theorem packets_concat {h later : History lib} {e : Event}
    (hevents : later.events = h.events ++ [e]) :
    later.packets = h.packets ++ e.packet?.toList := by
  rw [packets, hevents, filterMap_concat]
  rfl

theorem fill_packets (h : History lib) (needed : Nat) : (h.fill needed).packets = h.packets := by
  cases hqueue : h.station.queue with
  | none => rw [h.fill_of_none needed hqueue]
  | some queue =>
    obtain ⟨taken, rest, playout, underflowed, -, hfill⟩ := h.fill_of_queue needed hqueue
    rw [hfill, packets, filterMap_concat]
    exact List.append_nil _

theorem serve_packets (h : History lib) (p : Packet) (requests : List Nat) :
    (h.serve p requests).packets = h.packets :=
  serve_of_fill (R := fun h later => later.packets = h.packets) (fun _ => rfl)
    (fun hfirst hsecond => hsecond.trans hfirst) fill_packets h p requests

theorem step_packets (h : History lib) (step : Step) :
    (h.step step).packets = h.packets ++ step.packet?.toList := by
  cases step with
  | packet host p before during =>
    rw [History.step, packets, packet, filterMap_concat]
    exact congrArg (· ++ [p]) ((serve_packets _ p during).trans (h.serve_packets p before))
  | report now => exact filterMap_concat _ _ _
  | reportIfDue now =>
    rw [History.step, reportIfDue_eq]
    by_cases hdue : h.station.ledger.reporter.isDue now = true
    · rw [if_pos hdue]
      exact filterMap_concat _ _ _
    · rw [if_neg hdue]
      exact (List.append_nil _).symm
  | isDue now => exact (List.append_nil _).symm
  | fill needed => exact (h.fill_packets needed).trans (List.append_nil _).symm
  | callback depth underflowed => exact filterMap_concat _ _ _

end History

/-- The packets of a run are those that its steps bring. -/
theorem run_packets (s : Station lib) (steps : List Step) :
    (s.run steps).packets = steps.filterMap Step.packet? := by
  have hsteps : ∀ (steps : List Step) (h : History lib),
      (steps.foldl History.step h).packets = h.packets ++ steps.filterMap Step.packet? := by
    intro steps
    induction steps with
    | nil => exact fun h => (List.append_nil _).symm
    | cons step rest ih =>
      intro h
      rw [List.foldl_cons, ih, h.step_packets, List.append_assoc]
      cases hpacket : step.packet? <;> simp [hpacket]
  exact hsteps steps { station := s }

/-! ### What nobody asks for -/

/-- A step that asks for no audio takes none. -/
theorem History.step_taken (h : History lib) {step : Step} (hrest : step.asks = false) :
    (h.step step).events.flatMap Event.taken = h.events.flatMap Event.taken := by
  have hconcat : ∀ e : Event, e.taken = [] →
      (h.events ++ [e]).flatMap Event.taken = h.events.flatMap Event.taken := by
    intro e hnone
    rw [List.flatMap_append, List.flatMap_singleton, hnone, List.append_nil]
  cases step with
  | packet host p before during =>
    have hserve : h.serve p [] = h := by
      unfold History.serve
      split <;> rfl
    obtain ⟨rfl, rfl⟩ : before = [] ∧ during = [] := by simpa [Step.asks] using hrest
    rw [History.step, h.packet_eq, hserve, hserve]
    exact hconcat _ rfl
  | report now => exact hconcat _ rfl
  | reportIfDue now =>
    rw [History.step, reportIfDue_eq]
    by_cases hdue : h.station.ledger.reporter.isDue now = true
    · rw [if_pos hdue]
      exact hconcat _ rfl
    · rw [if_neg hdue]
  | isDue now => rfl
  | fill needed => cases hrest
  | callback depth underflowed => exact hconcat _ rfl

/-- As long as nobody asks for audio, nothing is taken. -/
theorem run_taken_eq_nil (s : Station lib) {steps : List Step}
    (hrest : ∀ step ∈ steps, step.asks = false) :
    (s.run steps).events.flatMap Event.taken = [] := by
  have hsteps : ∀ (steps : List Step) (h : History lib), (∀ step ∈ steps, step.asks = false) →
      (steps.foldl History.step h).events.flatMap Event.taken = h.events.flatMap Event.taken := by
    intro steps
    induction steps with
    | nil => exact fun h _ => rfl
    | cons step rest ih =>
      intro h hquiet
      rw [List.foldl_cons, ih _ fun other hother => hquiet other (List.mem_cons_of_mem _ hother)]
      exact h.step_taken (hquiet step List.mem_cons_self)
  exact hsteps steps { station := s } hrest

end Station

end ToneLink
