import ToneLink.Metrics
import ToneLink.Packet
import ToneLink.Playout
import ToneLink.Wave.Recording

/-!
# The receiving station

A station is everything a receiver keeps while it runs: the books, the jitter queue and the playout
behind it, an optional recording, and the metrics. Each operation is a function of the station; what
it logs is part of its result.

- `Station.receive`: takes in one packet;
- `Station.report`, `Station.reportIfDue`: close a report window;
- `Station.fill`, `Station.renderInto`, `Station.render`: the sound device asks for audio;
- `Station.finish`: ends the recording.
-/

namespace ToneLink

/-- The state of a running receiver. -/
structure Station (lib : Wave.Library) where
  ledger : Ledger
  /-- Without a queue nothing is played. -/
  queue : Option JitterQueue
  playout : Playout := {}
  recording : Option (Recording lib)
  metrics : Metrics := {}

namespace Station

variable {lib : Wave.Library}

/-- A station that has just started. The rates and the reports count from `start`. -/
def opened (plan : ListenPlan) (start : Instant) (period : Duration) (watchesPlayback : Bool)
    (queue : Option JitterQueue) (recording : Option (Recording lib)) : Station lib where
  ledger := .opened start period plan.depthMillis watchesPlayback
  queue := queue
  recording := recording

/-! ### Packets -/

/-- What taking in a packet came to. -/
structure Received (lib : Wave.Library) where
  station : Station lib
  log : List Log.Entry
  result : Except RecordingError Unit

/-- Queues a chunk for playback, if anything is played. A dropped chunk is counted and logged. -/
def queueChunk (s : Station lib) (host : JitterQueue.Host) (chunk : Bytes)
    (consumer : JitterQueue.Interference) : Station lib × List Log.Entry :=
  match s.queue with
  | none => (s, [])
  | some queue =>
    match queue.enqueue host chunk consumer with
    | (.queued, queue) => ({ s with queue := some queue }, [])
    | (.dropped, queue) =>
      ({ s with
          queue := some queue
          metrics := s.metrics.add .backpressureDrops 1 },
       [⟨.warn, .receiver, "Playback queue full; dropping audio chunk"⟩])

/-- Enters a packet into the books and the metrics. -/
def account (s : Station lib) (p : Packet) : Station lib × List Log.Entry :=
  let (arrival, ledger) := s.ledger.enter p.header.sequence p.payload.length
  let metrics := match arrival with
    | .gap _ _ lost => s.metrics.add .packetsLost lost.toNat
    | _ => s.metrics
  let metrics := (metrics.add .packetsReceived 1).add .bytesReceived p.payload.length
  ({ s with ledger, metrics }, arrival.log)

/-- Writes a payload to the recording, if there is one. -/
def record (s : Station lib) (payload : Bytes) : Station lib × Except RecordingError Unit :=
  match s.recording with
  | none => (s, .ok ())
  | some r =>
    let (result, r) := r.append payload
    ({ s with recording := some r }, result)

/-- Takes in a packet while the consumer of the queue may act: accounts for it, records it, and
queues it for playback. If it cannot be recorded it is not queued either. -/
def receiveAmid (s : Station lib) (host : JitterQueue.Host) (p : Packet)
    (consumer : JitterQueue.Interference) : Received lib :=
  let (s, gapLog) := s.account p
  match s.record p.payload with
  | (s, .error e) => ⟨s, gapLog, .error e⟩
  | (s, .ok ()) =>
    let (s, dropLog) := s.queueChunk host p.payload consumer
    ⟨s, gapLog ++ dropLog, .ok ()⟩

/-- Takes in a packet. -/
def receive (s : Station lib) (host : JitterQueue.Host) (p : Packet) : Received lib :=
  s.receiveAmid host p {}

/-- Counts a datagram that is too short to be a packet. -/
def rejectUndersized (s : Station lib) : Station lib :=
  { s with metrics := s.metrics.add .undersizedPackets 1 }

/-! ### Reports -/

/-- Brings the metrics up to date with a report. -/
def publish (m : Metrics) (r : Report) : Metrics :=
  match r.playback with
  | none => m
  | some seen => (m.add .playbackUnderflows seen.underflows).setQueueDepth seen.maxDepth

/-- Makes a report. -/
def report (s : Station lib) (now : Instant) : Report × Station lib :=
  let (r, ledger) := s.ledger.report now
  (r, { s with ledger, metrics := publish s.metrics r })

/-- Makes a report if one is due. -/
def reportIfDue (s : Station lib) (now : Instant) : Option Report × Station lib :=
  match s.ledger.reportIfDue now with
  | (none, _) => (none, s)
  | (some r, ledger) => (some r, { s with ledger, metrics := publish s.metrics r })

/-! ### Playback -/

/-- Enters a render callback into the counters. -/
def recordCallback (s : Station lib) (depth : Nat) (underflowed : Bool) : Station lib :=
  { s with ledger := s.ledger.recordCallback depth underflowed }

/-- Queue, playout and counters of a station that plays audio. -/
def sink? (s : Station lib) : Option Sink :=
  s.queue.map fun queue => ⟨queue, s.playout, s.ledger.counters⟩

/-- The station with another state of its queue, playout and counters. -/
def withSink (s : Station lib) (sink : Sink) : Station lib :=
  { s with
    queue := some sink.queue
    playout := sink.playout
    ledger := { s.ledger with counters := sink.counters } }

/-- Answers a request for `needed` bytes of audio, if anything is played. -/
def fill (s : Station lib) (needed : Nat) : Option Bytes × Station lib :=
  match s.sink? with
  | none => (none, s)
  | some sink =>
    let (bytes, sink) := sink.fill needed
    (some bytes, s.withSink sink)

/-- The render callback, if anything is played: the samples, the scratch buffer as it is left
behind, and the station. -/
def renderInto (s : Station lib) (scratch : Bytes) (device : List Int16) :
    Option (List Int16 × Bytes) × Station lib :=
  match s.sink? with
  | none => (none, s)
  | some sink =>
    let r := sink.renderInto scratch device
    (some (r.samples, r.scratch), s.withSink r.sink)

/-- Answers a request for `count` samples, if anything is played. -/
def render (s : Station lib) (count : Nat) : Option (List Int16) × Station lib :=
  let (rendered, s) := s.renderInto [] (List.replicate count 0)
  (rendered.map Prod.fst, s)

/-! ### The end -/

/-- Ends the recording, if there is one, and says whether it is complete. -/
def finish (s : Station lib) : Except RecordingError (List Log.Entry) :=
  match s.recording with
  | none => .ok []
  | some r => r.finalize.1

end Station

end ToneLink
