import ToneLink.Duration
import ToneLink.Packet
import ToneLink.PcmFormat

/-!
# What a receiver is going to listen for

A `ListenPlan` is a checked configuration of the receiver. The sizes of its buffers follow from it;
the jitter queue holds a fixed number of chunks, so a deeper buffer is prefilled with longer ones.

- `ListenPlan.check`: the checks, in the order in which their errors are reported;
- `prefillBytes`, `silenceChunkBytes`, `maxDatagram`, `depthMillis`: what follows from a plan;
- the fixed times and capacities of a receiver.
-/

namespace ToneLink

open Number

/-! ### Fixed sizes and times -/

/-- Chunks that the jitter queue of a receiver holds. -/
def queueCapacity : Nat := 64

/-- How long a producer waits for a place in the jitter queue. -/
def pushTimeout : Duration := .millis 50

/-- How long one wait for a datagram lasts at most. -/
def receiveTimeout : Duration := .seconds 1

/-- Time between two reports. -/
def reportPeriod : Duration := .seconds 5

/-- Time that the audio output is given to stop. -/
def audioTeardown : Duration := .seconds 2

/-- Fewest frames in a chunk of prefilled silence. -/
def silenceChunkFrames : Nat := 256

/-- Most frames of a packet that a receiver takes in. -/
def maxPayloadFrames : Nat := 2048

/-! ### Plans -/

/-- A checked receiver configuration. -/
structure ListenPlan where
  port : UInt16
  format : PcmFormat
  /-- Wanted depth of the jitter buffer in milliseconds. -/
  jitterMillis : Float
  /-- The same depth in frames. -/
  jitterFrames : Nat
  deriving DecidableEq

namespace ListenPlan

/-- Checks the numbers of a user: the format first, then that the jitter depth is finite, holds at
least one frame, and can be counted in bytes. -/
def check (port : UInt16) (sampleRate channels : Int) (jitterMillis : Float) :
    Except ConfigError ListenPlan := do
  let format ← PcmFormat.check sampleRate channels
  if ¬ jitterMillis.isFinite then
    throw (.durationNotFinite jitterMillis)
  let frames := format.framesForMillis jitterMillis
  if frames = 0 then
    throw (.jitterEmpty jitterMillis)
  if (format.checkedBytesForFrames frames).isNone then
    throw (.jitterTooLarge jitterMillis)
  return ⟨port, format, jitterMillis, frames⟩

/-- Bytes of silence that wait in the queue when playback starts. -/
def prefillBytes (p : ListenPlan) : Nat := p.format.bytesForFrames p.jitterFrames

/-- Frames in a chunk of that silence: enough that the whole of it fits in the queue. -/
def silenceFrames (p : ListenPlan) : Nat :=
  max silenceChunkFrames ((p.jitterFrames + (queueCapacity - 1)) / queueCapacity)

/-- Bytes in a chunk of that silence. -/
def silenceChunkBytes (p : ListenPlan) : Nat := p.format.bytesForFrames p.silenceFrames

/-- The depth in milliseconds that whole frames come to. -/
def depthMillis (p : ListenPlan) : Float := p.format.millisForFrames p.jitterFrames

/-- Bytes of a datagram that the receiver looks at; what is beyond is cut off. -/
def maxDatagram (p : ListenPlan) : Nat :=
  Header.size + p.format.bytesForFrames maxPayloadFrames

end ListenPlan

end ToneLink
