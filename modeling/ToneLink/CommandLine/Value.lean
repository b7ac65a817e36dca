import ToneLink.Audio.Device
import ToneLink.Net.Address
import ToneLink.Number.Literal

/-!
# Values on a command line

A setting that takes a value reads it from text. What cannot be read is refused, and the refusal
says whether anything was written at all, whether it was none of a few choices, or what is wrong
with it.

- `Refusal`: why a value is refused;
- `ValueReader`: a reader of values; one reader for each kind that settings use.
-/

namespace ToneLink.CommandLine

open Number Net

/-- Why a value is refused. -/
inductive Refusal
  /-- Nothing is written where something has to be. -/
  | blank
  | notAChoice
  | malformed (reason : String)
  deriving DecidableEq, Repr

/-- Reads a value from its text. -/
abbrev ValueReader (α : Type) := String → Except Refusal α

namespace ValueReader

/-- Any text, even none. -/
def text : ValueReader String := .ok

/-- The path of a file. -/
def path : ValueReader String := fun t => if t.isEmpty then .error .blank else .ok t

/-- A signed 64-bit number. -/
def whole : ValueReader Int := fun t =>
  (readWhole .signedWord t).mapError fun e => .malformed e.message

/-- The number of a port. -/
def port : ValueReader UInt16 := fun t => do
  let n ← whole t
  if 0 ≤ n ∧ n < UInt16.size then return UInt16.ofNat n.toNat
  else throw (.malformed s!"{n} is not in 0..=65535")

/-- A real number. -/
def real : ValueReader Float := fun t =>
  (readReal t).mapError fun e => .malformed e.message

/-- An address. -/
def address : ValueReader IpAddress := fun t =>
  ((IpAddress.read? t).elim (.error (.malformed "invalid IP address syntax")) .ok)

/-- An address with a port. -/
def endpoint : ValueReader Endpoint := fun t =>
  ((Endpoint.read? t).elim (.error (.malformed "invalid socket address syntax")) .ok)

/-- An output device. -/
def device : ValueReader Audio.Query := fun t => .ok (.read t)

/-- One of a few names, exactly as written. -/
def choice {α : Type} (choices : List (String × α)) : ValueReader α := fun t =>
  if t.isEmpty then .error .blank
  else ((choices.lookup t).elim (.error .notAChoice) .ok)

end ValueReader

end ToneLink.CommandLine
