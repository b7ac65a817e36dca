/-!
# Metrics

A process counts what it does in nine counters and one gauge, for a scraper to read. Counters are
64-bit and wrap around; the gauge is the longest queue of the last report window.

- `Counter`: the counters, with their published names and descriptions;
- `Metrics`, `Metrics.get`, `Metrics.add`: their values;
- `Metrics.families`: everything as published, in the order of the names;
- `PublishingError`: why nothing can be published.
-/

namespace ToneLink

/-- What is counted. -/
inductive Counter
  | packetsSent
  | bytesSent
  | shortSends
  | packetsReceived
  | packetsLost
  | bytesReceived
  | undersizedPackets
  | backpressureDrops
  | playbackUnderflows
  deriving DecidableEq, Repr

namespace Counter

/-- The counter's name, without what all names start with. -/
def name : Counter → String
  | .packetsSent => "packets_sent_total"
  | .bytesSent => "bytes_sent_total"
  | .shortSends => "short_sends_total"
  | .packetsReceived => "packets_received_total"
  | .packetsLost => "packets_lost_total"
  | .bytesReceived => "bytes_received_total"
  | .undersizedPackets => "undersized_packets_total"
  | .backpressureDrops => "backpressure_drops_total"
  | .playbackUnderflows => "playback_underflows_total"

/-- The counter's description. -/
def help : Counter → String
  | .packetsSent => "Total tone packets sent"
  | .bytesSent => "Total datagram bytes sent"
  | .shortSends => "Sends that wrote fewer bytes than requested"
  | .packetsReceived => "Total well-formed packets received"
  | .packetsLost => "Packets counted as lost from sequence gaps"
  | .bytesReceived => "Total PCM payload bytes received"
  | .undersizedPackets => "Datagrams rejected for being no longer than the header"
  | .backpressureDrops => "Audio chunks dropped because the jitter queue stayed full"
  | .playbackUnderflows => "Render callbacks padded with silence"

end Counter

/-- The values of a process. -/
structure Metrics where
  packetsSent : UInt64 := 0
  bytesSent : UInt64 := 0
  shortSends : UInt64 := 0
  packetsReceived : UInt64 := 0
  packetsLost : UInt64 := 0
  bytesReceived : UInt64 := 0
  undersizedPackets : UInt64 := 0
  backpressureDrops : UInt64 := 0
  playbackUnderflows : UInt64 := 0
  /-- The gauge. -/
  queueDepth : Int64 := 0
  deriving DecidableEq, Repr

namespace Metrics

/-- The value of a counter. -/
def get (m : Metrics) : Counter → UInt64
  | .packetsSent => m.packetsSent
  | .bytesSent => m.bytesSent
  | .shortSends => m.shortSends
  | .packetsReceived => m.packetsReceived
  | .packetsLost => m.packetsLost
  | .bytesReceived => m.bytesReceived
  | .undersizedPackets => m.undersizedPackets
  | .backpressureDrops => m.backpressureDrops
  | .playbackUnderflows => m.playbackUnderflows

/-- Counts `amount` more. -/
def add (m : Metrics) (c : Counter) (amount : Nat) : Metrics :=
  let n := amount.toUInt64
  match c with
  | .packetsSent => { m with packetsSent := m.packetsSent + n }
  | .bytesSent => { m with bytesSent := m.bytesSent + n }
  | .shortSends => { m with shortSends := m.shortSends + n }
  | .packetsReceived => { m with packetsReceived := m.packetsReceived + n }
  | .packetsLost => { m with packetsLost := m.packetsLost + n }
  | .bytesReceived => { m with bytesReceived := m.bytesReceived + n }
  | .undersizedPackets => { m with undersizedPackets := m.undersizedPackets + n }
  | .backpressureDrops => { m with backpressureDrops := m.backpressureDrops + n }
  | .playbackUnderflows => { m with playbackUnderflows := m.playbackUnderflows + n }

/-- Sets the gauge. -/
def setQueueDepth (m : Metrics) (depth : Int) : Metrics :=
  { m with queueDepth := Int64.ofInt depth }

/-- Adding to a counter changes that counter alone. -/
theorem get_add (m : Metrics) (c d : Counter) (n : Nat) :
    (m.add c n).get d = if c = d then m.get d + n.toUInt64 else m.get d := by
  cases c <;> cases d <;> rfl

@[simp] theorem get_setQueueDepth (m : Metrics) (depth : Int) (c : Counter) :
    (m.setQueueDepth depth).get c = m.get c := by cases c <;> rfl

@[simp] theorem queueDepth_add (m : Metrics) (c : Counter) (n : Nat) :
    (m.add c n).queueDepth = m.queueDepth := by cases c <;> rfl

/-! ### As published -/

/-- Whether a figure only grows. -/
inductive FamilyKind
  | counter
  | gauge
  deriving DecidableEq, Repr

/-- One published figure. -/
structure Family where
  name : String
  help : String
  kind : FamilyKind
  value : Float
  labels : List (String × String)
  deriving DecidableEq

/-- What all published names start with. -/
def namespaceName : String := "tone_stream_"

/-- A counter as published by a process. -/
def counterFamily (m : Metrics) (process : String) (c : Counter) : Family where
  name := namespaceName ++ c.name
  help := c.help
  kind := .counter
  value := (m.get c).toFloat
  labels := [("process", process)]

/-- The gauge as published by a process. -/
def gaugeFamily (m : Metrics) (process : String) : Family where
  name := namespaceName ++ "jitter_queue_max_depth_chunks"
  help := "Maximum jitter queue depth seen during the last report window"
  kind := .gauge
  value := m.queueDepth.toFloat
  labels := [("process", process)]

/-- Everything that a process publishes, in the order of the names. -/
def families (m : Metrics) (process : String) : List Family :=
  let counter := m.counterFamily process
  [counter .backpressureDrops, counter .bytesReceived, counter .bytesSent, m.gaugeFamily process,
   counter .packetsLost, counter .packetsReceived, counter .packetsSent,
   counter .playbackUnderflows, counter .shortSends, counter .undersizedPackets]

end Metrics

/-- Why the figures cannot be published at an address. -/
inductive PublishingError
  /-- Somebody else listens there. -/
  | addressInUse
  deriving DecidableEq, Repr

namespace PublishingError

/-- What the system reports. -/
def cause : PublishingError → String
  | .addressInUse => "Address already in use (os error 98)"

/-- What was being done and what went wrong. The server that publishes names the cause, and so does
the system. -/
def message (e : PublishingError) : String :=
  "error creating server listener: " ++ e.cause ++ ": " ++ e.cause

end PublishingError

end ToneLink
