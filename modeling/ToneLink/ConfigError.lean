import ToneLink.Number.Decimal

/-!
# Why a configuration is refused

Every number a user can give is checked before anything starts; `ConfigError` lists the causes of a
refusal and `ConfigError.message` words them.
-/

namespace ToneLink

open Number

/-- The cause of a refused configuration. -/
inductive ConfigError
  | sampleRateNotPositive (rate : Int)
  | channelsNotPositive (channels : Int)
  | sampleRateTooLarge (rate : Int)
  | tooManyChannels (channels : Int)
  | durationNotFinite (ms : Float)
  | durationNotPositive (ms : Float)
  /-- The packet duration rounds to no frame at all. -/
  | packetEmpty
  | datagramTooLarge (length limit : Nat)
  /-- The jitter depth rounds to no frame at all. -/
  | jitterEmpty (ms : Float)
  | jitterTooLarge (ms : Float)
  deriving DecidableEq

/-- The wording of a refusal. -/
def ConfigError.message : ConfigError → String
  | .sampleRateNotPositive rate => s!"sample rate must be positive (got {rate})"
  | .channelsNotPositive channels => s!"channel count must be positive (got {channels})"
  | .sampleRateTooLarge rate => s!"sample rate {rate} does not fit in 32 bits"
  | .tooManyChannels channels => s!"channel count {channels} does not fit in 16 bits"
  | .durationNotFinite ms =>
    s!"duration must be a finite number of milliseconds (got {shortestText ms})"
  | .durationNotPositive ms => s!"packet duration must be positive (got {shortestText ms} ms)"
  | .packetEmpty =>
    "computed samples per packet is zero; check sample rate / packet duration"
  | .datagramTooLarge length limit =>
    s!"datagram of {length} bytes exceeds the UDP limit of {limit} bytes"
  | .jitterEmpty ms => s!"jitter buffer of {shortestText ms} ms must hold at least one sample"
  | .jitterTooLarge ms => s!"jitter buffer of {shortestText ms} ms is too large"

end ToneLink
