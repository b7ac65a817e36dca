import ToneLink.Duration
import ToneLink.Log

/-!
# Loss accounting

A receiver compares each sequence number with the one it expects. Whatever deviates counts as lost
packets, as many as the distance from the expected number modulo 2³²: a duplicate or a late packet
is not told apart from loss and shows as a very large gap.

- `LossAccount.record`: enters a packet and says how it arrived;
- `LossAccount.throughput`: the figures at an instant;
- `LossAccount.closeWindow`: the same, starting a new report window.
-/

namespace ToneLink

/-- How a packet arrived. -/
inductive Arrival
  /-- The first of the stream, accepted with any number. -/
  | first
  /-- The number after the last one. -/
  | inOrder
  /-- Any other number. -/
  | gap (expected got lost : UInt32)
  deriving DecidableEq, Repr

namespace Arrival

/-- Packets that count as lost with this arrival. -/
def lost : Arrival → Nat
  | .gap _ _ lost => lost.toNat
  | _ => 0

/-- A gap is worth a warning. -/
def log : Arrival → List Log.Entry
  | .gap expected got lost =>
    [⟨.warn, .lossAccount, s!"Sequence gap: expected {expected} got {got} (lost {lost})"⟩]
  | _ => []

end Arrival

/-- Totals of a stream. All but the window's count only grow. -/
structure LossAccount where
  startedAt : Instant
  last : Option UInt32 := none
  lost : Nat := 0
  received : Nat := 0
  bytes : Nat := 0
  /-- Packets received since the last report. -/
  window : Nat := 0
  deriving DecidableEq, Repr

/-- The figures of a stream at an instant. Rates are averages since the start. -/
structure Throughput where
  window : Nat
  received : Nat
  lost : Nat
  bitsPerSecond : Float
  packetsPerSecond : Float
  deriving DecidableEq

namespace LossAccount

/-- An account of nothing yet. -/
def opened (startedAt : Instant) : LossAccount := { startedAt }

/-- How a packet with this number arrives. -/
def arrival (a : LossAccount) (sequence : UInt32) : Arrival :=
  match a.last with
  | none => .first
  | some last =>
    let expected := last + 1
    if sequence = expected then .inOrder else .gap expected sequence (sequence - expected)

/-- Enters a packet of `length` bytes of audio. -/
def record (a : LossAccount) (sequence : UInt32) (length : Nat) : Arrival × LossAccount :=
  let arrival := a.arrival sequence
  (arrival,
    { a with
      last := some sequence
      lost := a.lost + arrival.lost
      received := a.received + 1
      bytes := a.bytes + length
      window := a.window + 1 })

/-- The figures at an instant; before any time has passed the rates are zero. -/
def throughput (a : LossAccount) (now : Instant) : Throughput :=
  let elapsed := (now.since a.startedAt).toSeconds
  let rates : Float × Float :=
    if 0 < elapsed then
      (a.bytes.toUInt64.toFloat * 8 / elapsed, a.received.toUInt64.toFloat / elapsed)
    else (0, 0)
  ⟨a.window, a.received, a.lost, rates.1, rates.2⟩

/-- The figures at an instant, and the account with a new window. The totals stay. -/
def closeWindow (a : LossAccount) (now : Instant) : Throughput × LossAccount :=
  (a.throughput now, { a with window := 0 })

end LossAccount

end ToneLink
