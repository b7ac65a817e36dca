import ToneLink.Audio.Playback
import ToneLink.CommandLine.Receiver
import ToneLink.Listening
import ToneLink.Program.Outcome
import ToneLink.StopSignal

/-!
# The receiver

The program reads its command line, checks it, opens the recording and the audio output, and listens
until it is interrupted. A recording that was asked for and cannot be opened is fatal; an audio
output is not missed.

- `Receiver.launch`: everything before the first wait;
- `Receiver.close`: everything after the last one;
- `Receiver.run`: a whole run.
-/

namespace ToneLink.Program.Receiver

open CommandLine Net Number

/-- A receiver that is about to listen. -/
structure Ready (lib : Wave.Library) where
  logging : Logging
  log : List Log.Entry
  playback : Audio.Playback
  listening : Listening lib

variable {lib : Wave.Library}

/-- What is logged about a checked configuration. -/
def planEntries (o : ReceiverOptions) (plan : ListenPlan) : List Log.Entry :=
  let format := plan.format
  [⟨.info, .receiver, "Starting tone receiver v" ++ version⟩,
   ⟨.info, .receiver,
     s!"{format.sampleRate} Hz x{format.channels} | jitter buffer "
       ++ fixedText 1 plan.depthMillis ++ s!" ms ({plan.jitterFrames} samples)"⟩]
  ++ o.metricsAddress.toList.map fun e => ⟨.info, .receiver, "Metrics bind: " ++ e.text⟩

/-- Opens the recording, if one is asked for. -/
def openRecording (lib : Wave.Library) (o : ReceiverOptions) (plan : ListenPlan) :
    Except RecordingError (Option (Recording lib) × List Log.Entry) :=
  match o.recordingPath with
  | none => .ok (none, [])
  | some path => do
    let (recording, log) ← Recording.create lib path plan.format []
    return (some recording, log)

/-- A port on every interface of the host. -/
def anyAddress (port : UInt16) : Endpoint := { address := .v4 0 0 0 0, port }

/-- What opening a socket at a port comes to: the address at which it listens, or what the system
has against it. -/
abbrev Listen := UInt16 → Except String String

/-- Reads and checks a command line and opens what the receiver needs. Rates and reports count from
`start`. -/
def launch (lib : Wave.Library) (around : Surroundings) (audio : Audio.System) (listen : Listen)
    (start : Instant) (words : List String) : Except Outcome (Ready lib) :=
  match ReceiverOptions.command.parse words with
  | .error stop => .error (.ofStop ReceiverOptions.command stop)
  | .ok o =>
    match Logging.start around o.logging o.logPath with
    | .error e => .error (.failed none [] (.logFile (o.logPath.getD "") e))
    | .ok (logging, log) =>
      match o.plan with
      | .error e =>
        .error (.failed logging (log ++ [⟨.error, .receiver, e.message⟩]) (.configuration e))
      | .ok plan =>
        let log := log ++ planEntries o plan
        match openRecording lib o plan with
        | .error e =>
          .error (.failed logging (log ++ [⟨.error, .receiver, e.message⟩]) (.recording e))
        | .ok (recording, recordingLog) =>
          let log := log ++ recordingLog
          match listen plan.port with
          | .error cause =>
            .error
              { Outcome.failed logging log (.socket (anyAddress plan.port).text cause) with
                recording := recording.map (·.ended .dropped) }
          | .ok ownAddress =>
            let (playback, playbackLog) := Audio.Playback.resolve plan o.noAudio o.device audio
            .ok ⟨logging,
              log ++ [ReceiveSocket.listeningEntry ownAddress] ++ playbackLog
                ++ [⟨.info, .receiver, "Ready to receive audio..."⟩],
              playback,
              ⟨.listening plan.maxDatagram,
                .withPlayback plan start reportPeriod playback recording⟩⟩

/-- What is logged at the end, and whether the recording ends well. -/
def close (playback : Audio.Playback) (l : Listening lib) :
    List Log.Entry × Except RecordingError Unit :=
  let (finishLog, result) : List Log.Entry × Except RecordingError Unit :=
    match l.station.finish with
    | .ok log => (log, .ok ())
    | .error e => ([], .error e)
  let s := l.socket
  ([⟨.info, .receiver, "Stopping receiver"⟩] ++ playback.stop audioTeardown ++ finishLog
    ++ [⟨.info, .receiver,
      s!"Socket totals: {s.packets} datagrams, {s.bytes} bytes, {s.dropped} undersized"⟩],
   result)

/-- The end of a program that has listened. Of two failures of the recording the first counts. -/
def finish (ready : Ready lib) (log : List Log.Entry) (l : Listening lib)
    (listened : Except RecordingError Unit) : Outcome :=
  let (closing, finished) := close ready.playback l
  let log := ready.log ++ log ++ closing
  let outcome : Outcome :=
    match listened, finished with
    | .error e, _ | .ok (), .error e => .failed ready.logging log (.recording e)
    | .ok (), .ok () => { logging := some ready.logging, log }
  { outcome with recording := l.station.recording.map (·.ended .finalized) }

/-- A run whose waits end as given and that is interrupted then. -/
def run (lib : Wave.Library) (around : Surroundings) (audio : Audio.System) (listen : Listen)
    (start : Instant) (waits : List (Incoming × Instant)) (stopAt : Instant) (words : List String) :
    Outcome :=
  match launch lib around audio listen start words with
  | .error o => o
  | .ok ready =>
    let p := ready.listening.steps .manyWorkers waits
    match p.result with
    | .error e => finish ready p.log p.state (.error e)
    | .ok () =>
      let (l, stopLog) := p.state.stop stopAt
      finish ready (p.log ++ [StopSignals.interruptEntry] ++ stopLog) l (.ok ())

end ToneLink.Program.Receiver
