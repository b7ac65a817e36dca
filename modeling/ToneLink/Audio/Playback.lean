import ToneLink.Audio.Device
import ToneLink.Station

/-!
# Playback, if the machine has it

Whether audio is played is decided once, when the receiver starts. If anything is in the way of a
playing stream, the receiver goes on without audio and says why.

- `Playback.resolve`: the decision;
- `Playback.stop`: the end of playback;
- `Station.withPlayback`: the station that playback feeds on.
-/

namespace ToneLink.Audio

/-- How the audio of a receiver is played. -/
inductive Playback
  /-- A stream is running and consumes a prefilled queue. -/
  | playing (stream : Stream) (sink : Sink)
  /-- Nothing is played; packets are only counted. -/
  | statsOnly
  deriving DecidableEq

namespace Playback

/-- How often the audio output looks whether it shall stop. -/
def stopPoll : Duration := .millis 100

/-- The parameters that a stream is opened with. -/
def configEntry (format : PcmFormat) : Log.Entry :=
  let channels := format.channels
  let rate := format.sampleRate
  ⟨.debug, .audio,
    "Stream config: StreamConfig \x7b " ++ s!"channels: {channels}, sample_rate: SampleRate({rate})"
      ++ ", buffer_size: Default \x7d"⟩

/-- The queue that a stream starts with. -/
def prefilled (plan : ListenPlan) : JitterQueue.Prefill × JitterQueue :=
  JitterQueue.standard.prefill plan.prefillBytes plan.silenceChunkBytes

/-- What is logged when no stream can be had. -/
def unavailable (failure : Failure) : Log.Entry :=
  ⟨.warn, .receiver,
    s!"Audio output unavailable ({failure.message}); running without audio output"⟩

/-- Selects, opens and starts the wanted device, on a thread of its own. -/
def startStream (plan : ListenPlan) (query : Option Query) (system : System) :
    Except Failure Stream × List Log.Entry :=
  match system.threadError with
  | some reason => (.error (.noThread reason), [])
  | none =>
    match system.select query with
    | .error e => (.error e, [])
    | .ok device => (device.start plan.format, [configEntry plan.format])

/-- Decides how audio is played. The queue is prefilled before the device is asked for. -/
def resolve (plan : ListenPlan) (noAudio : Bool) (query : Option Query) (system : System) :
    Playback × List Log.Entry :=
  if noAudio then
    (.statsOnly, [⟨.info, .receiver, "Audio playback disabled (--no-audio)"⟩])
  else
    let (prefill, queue) := prefilled plan
    let opening := prefill.log plan.prefillBytes plan.silenceChunkBytes
      ++ [⟨.info, .audio, "Initializing audio playback"⟩]
    match startStream plan query system with
    | (.error e, log) => (.statsOnly, opening ++ log ++ [unavailable e])
    | (.ok stream, log) =>
      (.playing stream { queue },
        opening ++ log ++ [⟨.info, .audio, "Audio playback started on " ++ stream.device⟩])

/-- The queue and the counters that a receiver shares with its output, if audio is played. -/
def sink? : Playback → Option Sink
  | .playing _ sink => some sink
  | .statsOnly => none

/-- The running stream. -/
def stream? : Playback → Option Stream
  | .playing stream _ => some stream
  | .statsOnly => none

/-- Ends playback. The output is given a window of time to stop in, and is left to itself if the
window is shorter than the time in which it is sure to notice. -/
def stop (p : Playback) (window : Duration) : List Log.Entry :=
  match p with
  | .statsOnly => []
  | .playing .. =>
    if stopPoll.nanos ≤ window.nanos then [⟨.info, .audio, "Audio playback stopped"⟩]
    else [⟨.warn, .audio, s!"Audio thread did not stop within {window.text}; detaching"⟩]

/-- What is logged when the device reports an error. -/
def streamError (p : Playback) (text : String) : List Log.Entry :=
  match p with
  | .statsOnly => []
  | .playing .. => [⟨.warn, .audio, "Audio stream error: " ++ text⟩]

end Playback

end ToneLink.Audio

namespace ToneLink.Station

variable {lib : Wave.Library}

/-- A station that has just started and shares queue and counters with the audio output. Without
output it has neither. -/
def withPlayback (plan : ListenPlan) (start : Instant) (period : Duration)
    (playback : Audio.Playback) (recording : Option (Recording lib)) : Station lib :=
  match playback.sink? with
  | none => .opened plan start period false none recording
  | some sink => (Station.opened plan start period true none recording).withSink sink

end ToneLink.Station
