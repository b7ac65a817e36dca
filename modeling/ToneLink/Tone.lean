import ToneLink.SendPlan

/-!
# The tone table

The audio of a stream is one table of samples, the same for every packet: a sine wave that starts at
phase zero, each sample repeated on every channel.

- `Tone.sampleAt`: the sample of a frame, whatever the channel count and the table's length;
- `Tone.table`: the bytes of a packet; `Tone.maxBytes`: how many there can be.
-/

namespace ToneLink.Tone

/-- The number nearest to π. -/
def pi : Float := Float.ofBits 0x400921FB54442D18

/-- The phase gained from one frame to the next. -/
def phaseStep (frequency : Float) (sampleRate : UInt32) : Float :=
  2 * pi * frequency / sampleRate.toFloat

/-- The largest sample of a tone. -/
def fullScale (amplitude : Float) : Float := SendPlan.clampAmplitude amplitude * 32767

/-- The sample of frame `i`: the sine of its phase, scaled, with its fraction cut off. -/
def sampleAt (frequency amplitude : Float) (sampleRate : UInt32) (i : Nat) : Int16 :=
  ((phaseStep frequency sampleRate * i.toUInt64.toFloat).sin * fullScale amplitude).toInt16

/-- The samples of a mono table. -/
def samples (frames : Nat) (frequency amplitude : Float) (sampleRate : UInt32) : List Int16 :=
  (List.range frames).map (sampleAt frequency amplitude sampleRate)

/-- One sample on each of `channels` channels. -/
def frameBytes (channels : UInt16) (s : Int16) : Bytes :=
  (List.replicate channels.toNat (sampleBytes s)).flatten

/-- Most bytes that a buffer can have, on a machine with 64-bit addresses. -/
def maxBytes : Nat := 0x7FFFFFFFFFFFFFFF

/-- The bytes of `frames` frames. They are written to one buffer, so there is no such table of more
than `maxBytes` bytes: to ask for one ends the program. -/
def table (frames : Nat) (channels : UInt16) (frequency amplitude : Float)
    (sampleRate : UInt32) : Bytes :=
  (samples frames frequency amplitude sampleRate).flatMap (frameBytes channels)

end ToneLink.Tone

namespace ToneLink.SendPlan

/-- The audio of every packet of a plan. -/
def payload (p : SendPlan) : Bytes :=
  Tone.table p.framesPerPacket p.format.channels p.frequency p.amplitude p.format.sampleRate

end ToneLink.SendPlan
