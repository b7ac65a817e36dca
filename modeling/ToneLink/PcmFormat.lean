import ToneLink.ConfigError

/-!
# The format of a stream

All audio is signed 16-bit, the samples of a frame side by side, one per channel. The sender and
the receiver size packets and buffers with the same few conversions between time, frames and bytes.

- `PcmFormat.check`: turns the numbers a user gave into a format;
- `framesForMillis`, `millisForFrames`: time and frames;
- `bytesForFrames`, `checkedBytesForFrames`: frames and bytes, the latter only if the byte count
  fits in a 64-bit word.
-/

namespace ToneLink

open Number

/-- Bytes of one sample. -/
def sampleWidth : Nat := 2

/-- Sample rate and channel count of a stream. -/
structure PcmFormat where
  sampleRate : UInt32
  channels : UInt16
  deriving DecidableEq, Repr

namespace PcmFormat

/-- Accepts a sample rate of 1 to 2³² - 1 and 1 to 2¹⁶ - 1 channels. Both are looked at for being
positive before either is looked at for being too large. -/
def check (sampleRate channels : Int) : Except ConfigError PcmFormat :=
  if sampleRate ≤ 0 then .error (.sampleRateNotPositive sampleRate)
  else if channels ≤ 0 then .error (.channelsNotPositive channels)
  else if UInt32.size ≤ sampleRate then .error (.sampleRateTooLarge sampleRate)
  else if UInt16.size ≤ channels then .error (.tooManyChannels channels)
  else .ok ⟨UInt32.ofNat sampleRate.toNat, UInt16.ofNat channels.toNat⟩

/-- Bytes of one frame: a sample on every channel. -/
def bytesPerFrame (f : PcmFormat) : Nat := sampleWidth * f.channels.toNat

/-- The number of frames nearest to `ms` milliseconds, a half going up. The time in seconds and
its product with the sample rate are each rounded to binary64 first. -/
def framesForMillis (f : PcmFormat) (ms : Float) : Nat :=
  (Binary64.ofFloat (f.sampleRate.toFloat * (ms / 1000))).wholeCount

/-- How many milliseconds `frames` frames last. -/
def millisForFrames (f : PcmFormat) (frames : Nat) : Float :=
  frames.toUInt64.toFloat * 1000 / f.sampleRate.toFloat

/-- Bytes of `frames` frames. -/
def bytesForFrames (f : PcmFormat) (frames : Nat) : Nat := frames * f.bytesPerFrame

/-- Bytes of `frames` frames, if the number fits in 64 bits. -/
def checkedBytesForFrames (f : PcmFormat) (frames : Nat) : Option Nat :=
  if f.bytesForFrames frames ≤ Binary64.maxWord then some (f.bytesForFrames frames) else none

end PcmFormat

end ToneLink
