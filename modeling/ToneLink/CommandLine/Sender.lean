import ToneLink.CommandLine.LogOptions
import ToneLink.SendPlan

/-!
# The command line of the sender

`SenderOptions.command` is the table of its settings; `SenderOptions.plan` checks the numbers.
-/

namespace ToneLink

/-- The version of both programs. -/
def version : String := "0.1.0"

namespace CommandLine

open Net

/-- The options of the sender. -/
structure SenderOptions where
  address : IpAddress := .v4 0 0 0 0
  port : UInt16 := 0
  frequency : Float := 1000
  amplitude : Float := 0.8
  sampleRate : Int := 44100
  channels : Int := 1
  packetMillis : Float := 20
  metricsAddress : Option Endpoint := none
  logging : LogOptions := {}

namespace SenderOptions

/-- Where the tone goes. -/
def destination (o : SenderOptions) : Endpoint := { address := o.address, port := o.port }

/-- Checks the numbers. -/
def plan (o : SenderOptions) : Except ConfigError SendPlan :=
  SendPlan.check o.frequency o.amplitude o.sampleRate o.channels o.packetMillis

/-- The settings of the sender. -/
def settings : List (Setting SenderOptions) :=
  [{ name := "ip"
     help := "Destination IP address"
     required := true
     effect := .storing .address fun address o => { o with address } },
   { name := "port"
     help := "Destination UDP port"
     required := true
     effect := .storing .port fun port o => { o with port } },
   { name := "freq"
     help := "Tone frequency in Hz"
     defaultText := some "1000"
     effect := .storing .real fun frequency o => { o with frequency } },
   { name := "amplitude"
     help := "Amplitude as fraction of full scale (clamped to 0.0-1.0)"
     defaultText := some "0.8"
     takesNegative := true
     effect := .storing .real fun amplitude o => { o with amplitude } },
   { name := "sample-rate"
     help := "PCM sample rate"
     defaultText := some "44100"
     takesNegative := true
     effect := .storing .whole fun sampleRate o => { o with sampleRate } },
   { name := "channels"
     help := "Channel count; the tone is duplicated on every channel"
     defaultText := some "1"
     takesNegative := true
     effect := .storing .whole fun channels o => { o with channels } },
   { name := "packet-ms"
     help := "Packet duration in milliseconds"
     defaultText := some "20"
     takesNegative := true
     effect := .storing .real fun packetMillis o => { o with packetMillis } },
   { name := "metrics-bind"
     help := "Prometheus metrics bind address (serves `GET /metrics`); disabled when omitted"
     effect := .storing .endpoint fun e o => { o with metricsAddress := some e } }]
  ++ LogOptions.settings.map (.within fun f o => { o with logging := f o.logging })

/-- The sender. -/
def command : Command SenderOptions where
  name := "sender"
  about := "Tone Stream Sender - Stream a PCM sine tone over UDP"
  version := some version
  settings := settings
  initial := {}

end SenderOptions

end CommandLine

end ToneLink
