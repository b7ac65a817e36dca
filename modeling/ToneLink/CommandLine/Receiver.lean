import ToneLink.CommandLine.Sender
import ToneLink.ListenPlan

/-!
# The command line of the receiver

`ReceiverOptions.command` is the table of its settings; `ReceiverOptions.plan` checks the numbers.
-/

namespace ToneLink.CommandLine

open Net

/-- The options of the receiver. -/
structure ReceiverOptions where
  port : UInt16 := 50005
  sampleRate : Int := 44100
  channels : Int := 1
  jitterMillis : Float := 60
  device : Option Audio.Query := none
  noAudio : Bool := false
  recordingPath : Option String := none
  logPath : Option String := none
  metricsAddress : Option Endpoint := none
  logging : LogOptions := {}

namespace ReceiverOptions

/-- Checks the numbers. -/
def plan (o : ReceiverOptions) : Except ConfigError ListenPlan :=
  ListenPlan.check o.port o.sampleRate o.channels o.jitterMillis

/-- The settings of the receiver. -/
def settings : List (Setting ReceiverOptions) :=
  [{ name := "listen-port"
     help := "UDP port to bind"
     defaultText := some "50005"
     effect := .storing .port fun port o => { o with port } },
   { name := "sample-rate"
     help := "Expected sample rate"
     defaultText := some "44100"
     takesNegative := true
     effect := .storing .whole fun sampleRate o => { o with sampleRate } },
   { name := "channels"
     help := "Channel count (mono=1)"
     defaultText := some "1"
     takesNegative := true
     effect := .storing .whole fun channels o => { o with channels } },
   { name := "jitter-buffer-ms"
     help := "Jitter buffer depth in milliseconds"
     defaultText := some "60"
     takesNegative := true
     effect := .storing .real fun jitterMillis o => { o with jitterMillis } },
   { name := "device"
     help := "Playback device, by index or name"
     effect := .storing .device fun d o => { o with device := some d } },
   { name := "no-audio"
     help := "Disable audio playback (stats only)"
     effect := .switch fun o => { o with noAudio := true } },
   { name := "save-wav"
     help := "Optional WAV output path"
     effect := .storing .path fun p o => { o with recordingPath := some p } },
   { name := "log-file"
     help := "Optional log file path"
     effect := .storing .path fun p o => { o with logPath := some p } },
   { name := "metrics-bind"
     help := "Prometheus metrics bind address (serves `GET /metrics`); disabled when omitted"
     effect := .storing .endpoint fun e o => { o with metricsAddress := some e } }]
  ++ LogOptions.settings.map (.within fun f o => { o with logging := f o.logging })

/-- The receiver. -/
def command : Command ReceiverOptions where
  name := "receiver"
  about := "Tone Stream Receiver - Receive, play and measure a UDP tone stream"
  version := some version
  settings := settings
  initial := {}

end ReceiverOptions

end ToneLink.CommandLine
