import ToneLink.Duration
import ToneLink.Packet
import ToneLink.PcmFormat

/-!
# What a sender is going to send

A `SendPlan` is a checked configuration: it is made once, before a socket is opened, and holds for
the life of the stream.

- `SendPlan.check`: the checks, in the order in which their errors are reported;
- `payloadLength`, `datagramLength`, `interval?`: what follows from a plan.
-/

namespace ToneLink

open Number

/-- A checked sender configuration. -/
structure SendPlan where
  format : PcmFormat
  /-- Frequency of the tone in Hz; any number, even not a number. -/
  frequency : Float
  /-- Fraction of full scale. -/
  amplitude : Float
  framesPerPacket : Nat
  /-- Duration of a packet in milliseconds. -/
  packetMillis : Float
  deriving DecidableEq

namespace SendPlan

/-- Cuts an amplitude to the range from 0 to 1. What is not a number stays so. -/
def clampAmplitude (amplitude : Float) : Float :=
  let raised := if amplitude < 0 then 0 else amplitude
  if 1 < raised then 1 else raised

/-- The length of a datagram with `frames` frames, or the largest 64-bit number if its audio, or
the audio and the header, do not fit in 64 bits. -/
def datagramLengthFor (format : PcmFormat) (frames : Nat) : Nat :=
  ((format.checkedBytesForFrames frames).bind fun payload =>
    if payload + Header.size ≤ Binary64.maxWord then some (payload + Header.size) else none).getD
      Binary64.maxWord

/-- Checks the numbers of a user: the format first, then that the packet duration is finite and
positive, holds at least one frame, and fits in a datagram. -/
def check (frequency amplitude : Float) (sampleRate channels : Int) (packetMillis : Float) :
    Except ConfigError SendPlan := do
  let format ← PcmFormat.check sampleRate channels
  if ¬ packetMillis.isFinite then
    throw (.durationNotFinite packetMillis)
  if packetMillis ≤ 0 then
    throw (.durationNotPositive packetMillis)
  let frames := format.framesForMillis packetMillis
  if frames = 0 then
    throw .packetEmpty
  let length := datagramLengthFor format frames
  if Packet.maxDatagram < length then
    throw (.datagramTooLarge length Packet.maxDatagram)
  return ⟨format, frequency, clampAmplitude amplitude, frames, packetMillis⟩

/-- Bytes of audio in a packet. -/
def payloadLength (p : SendPlan) : Nat := p.format.bytesForFrames p.framesPerPacket

/-- Bytes of a datagram. -/
def datagramLength (p : SendPlan) : Nat := Header.size + p.payloadLength

/-- The time between two packets. -/
def interval? (p : SendPlan) : Option Duration := Duration.ofMillis? p.packetMillis

end SendPlan

end ToneLink
