import ToneLink.Number.Binary64

/-!
# Reading numbers from text

The numbers of a command line. Whole numbers are read digit by digit, so that the reason for a
refusal is the first one met from the left; real numbers are rounded correctly to binary64.

- `readWhole bounds text`: an optional sign and decimal digits, within `bounds`;
- `readReal text`: an optional sign, then digits with at most one point and at most one exponent,
  or one of the words for the values without digits, in any case.
-/

namespace ToneLink.Number

/-! ### Whole numbers -/

/-- Why a text is not a whole number of the wanted range. -/
inductive WholeError
  | empty
  | invalidDigit
  | tooLarge
  | tooSmall
  deriving DecidableEq, Repr

/-- What is told about the refusal. -/
def WholeError.message : WholeError → String
  | .empty => "cannot parse integer from empty string"
  | .invalidDigit => "invalid digit found in string"
  | .tooLarge => "number too large to fit in target type"
  | .tooSmall => "number too small to fit in target type"

/-- A range of whole numbers, both ends included. -/
structure WholeBounds where
  low : Int
  high : Int

/-- The numbers of an unsigned 64-bit word. -/
def WholeBounds.word : WholeBounds := ⟨0, UInt64.size - 1⟩

/-- The numbers of a signed 64-bit word. -/
def WholeBounds.signedWord : WholeBounds := ⟨Int64.minValue.toInt, Int64.maxValue.toInt⟩

/-- The value of a decimal digit. -/
def digitValue? (c : Char) : Option Nat :=
  if '0' ≤ c ∧ c ≤ '9' then some (c.toNat - '0'.toNat) else none

/-- Reads digits after the sign; `sign` is `1` or `-1`, `sofar` the number read before. The range
is checked after each digit, so an overlong number is refused before a later bad digit is seen. -/
def readDigits (bounds : WholeBounds) (sign : Int) (sofar : Int) :
    List Char → Except WholeError Int
  | [] => .ok sofar
  | c :: rest =>
    match digitValue? c with
    | none => .error .invalidDigit
    | some d =>
      let next := sofar * 10 + sign * d
      if next < bounds.low then .error .tooSmall
      else if bounds.high < next then .error .tooLarge
      else readDigits bounds sign next rest

/-- Reads a whole number within the bounds. A minus sign is understood only where negative numbers
are in range. -/
def readWhole (bounds : WholeBounds) (text : String) : Except WholeError Int :=
  match text.toList with
  | [] => .error .empty
  | ['+'] | ['-'] => .error .invalidDigit
  | '+' :: rest => readDigits bounds 1 0 rest
  | '-' :: rest =>
    if bounds.low < 0 then readDigits bounds (-1) 0 rest else .error .invalidDigit
  | cs => readDigits bounds 1 0 cs

/-! ### Real numbers -/

/-- Why a text is not a real number. -/
inductive RealError
  | empty
  | invalid
  deriving DecidableEq, Repr

/-- What is told about the refusal. -/
def RealError.message : RealError → String
  | .empty => "cannot parse float from empty string"
  | .invalid => "invalid float literal"

/-- Longest stretch of digits at the front of a text, and the rest. -/
def spanDigits : List Char → List Nat × List Char
  | [] => ([], [])
  | c :: rest =>
    match digitValue? c with
    | none => ([], c :: rest)
    | some d =>
      let (ds, after) := spanDigits rest
      (d :: ds, after)

/-- The number that decimal digits write. -/
def ofDigits (ds : List Nat) : Nat := ds.foldl (fun n d => n * 10 + d) 0

/-- The exponent part of a number: nothing, or `e` with a signed number after it. -/
def readExponent : List Char → Option Int
  | [] => some 0
  | c :: rest =>
    if c = 'e' ∨ c = 'E' then
      let (negative, body) := match rest with
        | '-' :: r => (true, r)
        | '+' :: r => (false, r)
        | r => (false, r)
      match spanDigits body with
      | (d :: ds, []) =>
        let n : Int := ofDigits (d :: ds)
        some (if negative then -n else n)
      | _ => none
    else none

/-- The binary64 number nearest to `units · 10 ^ power`. Far outside the range of finite numbers
the answer is known without computing the power. -/
def nearestReal (units : Nat) (power : Int) : Float :=
  let width : Int := (Nat.toDigits 10 units).length
  if units = 0 then 0
  else if 400 < power + width then Float.ofBits 0x7FF0000000000000
  else if power + width < -400 then 0
  else if 0 ≤ power then Float.ofScientific units false power.toNat
  else Float.ofScientific units true (-power).toNat

/-- An unsigned number with digits before or after its point. -/
def readMagnitude (cs : List Char) : Option Float :=
  let (whole, rest) := spanDigits cs
  let (fraction, rest) := match rest with
    | '.' :: r => spanDigits r
    | r => ([], r)
  if whole.isEmpty && fraction.isEmpty then none
  else (readExponent rest).map fun e =>
    nearestReal (ofDigits (whole ++ fraction)) (e - fraction.length)

/-- An unsigned number, in digits or in words. -/
def readUnsigned (cs : List Char) : Option Float :=
  let word := String.ofList (cs.map Char.toLower)
  if word = "inf" ∨ word = "infinity" then some (Float.ofBits 0x7FF0000000000000)
  else if word = "nan" then some (Float.ofBits 0x7FF8000000000000)
  else readMagnitude cs

/-- Reads a real number. -/
def readReal (text : String) : Except RealError Float :=
  match text.toList with
  | [] => .error .empty
  | '-' :: rest => ((readUnsigned rest).map Float.neg).elim (.error .invalid) .ok
  | '+' :: rest => (readUnsigned rest).elim (.error .invalid) .ok
  | cs => (readUnsigned cs).elim (.error .invalid) .ok

end ToneLink.Number
