import ToneLink.Number.Binary64

/-!
# Decimal text of a binary64 number

Two ways of writing a number, both positional (an exponent is never written):

- `shortestText`: the fewest significant digits that read back as the same number, and of those
  the digits nearest to its exact value (a tie goes up);
- `fixedText places`: a fixed number of decimal places, a half going to the even neighbour.

The search for the fewest digits walks decimal grids from coarse to fine. On each grid only the two
neighbours of the exact value can be the nearest grid point that still reads back, so only these
two are tested, with whole-number arithmetic.
-/

namespace ToneLink.Number

/-- How a number in text is signed, and what the values without digits are called. -/
structure NumeralStyle where
  notANumber : String
  infinite : String
  minus : String

/-- The numerals of this program's messages and reports. -/
def NumeralStyle.plain : NumeralStyle := ⟨"NaN", "inf", "-"⟩

/-- The digits of a natural number. -/
def digits (n : Nat) : List Char := Nat.toDigits 10 n

/-- Writes `units / 10 ^ places` with exactly `places` digits after the point. -/
def placed (units places : Nat) : String :=
  if places = 0 then String.ofList (digits units)
  else
    let fraction := digits (units % Nat.pow 10 places)
    String.ofList (digits (units / Nat.pow 10 places)) ++ "." ++
      String.ofList (List.replicate (places - fraction.length) '0' ++ fraction)

/-! ### The fewest digits -/

/-- The largest `p` with `10 ^ p ≤ num / den`, for a positive quotient above `10 ^ -400`. -/
def floorLog10 (num den : Nat) : Int :=
  ((digits (num * Nat.pow 10 400 / den)).length : Int) - 401

/-- A decimal number `units · 10 ^ power`. -/
structure Scientific where
  units : Nat
  power : Int
  deriving DecidableEq, Repr

/-- The values around `num / den` that read back as the same number, as quotients over a common
divisor: from `low` to `high`, ends included when `closed`. -/
structure Interval where
  low : Nat
  exact : Nat
  high : Nat
  den : Nat
  closed : Bool
  deriving Repr

/-- The interval of real numbers nearer to `mantissa · 2 ^ exponent` than to any other binary64
number. Below a power of two the neighbours are twice as dense. -/
def Interval.around (mantissa : Nat) (exponent : Int) : Interval :=
  let below := if mantissa = Binary64.leadingBit ∧ -1074 < exponent then 1 else 2
  let point (k : Nat) := (Binary64.scaled k (exponent - 2)).1
  ⟨point (4 * mantissa - below), point (4 * mantissa), point (4 * mantissa + 2),
    (Binary64.scaled 1 (exponent - 2)).2, mantissa % 2 = 0⟩

/-- Whether the grid point `units · 10 ^ power` lies in the interval. -/
def Interval.contains (i : Interval) (s : Scientific) : Bool :=
  let (point, den) := match s.power with
    | .ofNat k => (s.units * Nat.pow 10 k * i.den, 1)
    | .negSucc k => (s.units * i.den, Nat.pow 10 (k + 1))
  if i.closed then i.low * den ≤ point && point ≤ i.high * den
  else i.low * den < point && point < i.high * den

/-- The better of the exact value's two neighbours on the grid of multiples of `10 ^ power`, if
one of them lies in the interval. -/
def Interval.hit? (i : Interval) (power : Int) : Option Scientific :=
  let (num, den) := match power with
    | .ofNat k => (i.exact, i.den * Nat.pow 10 k)
    | .negSucc k => (i.exact * Nat.pow 10 (k + 1), i.den)
  let floor : Scientific := ⟨num / den, power⟩
  let ceiling : Scientific := ⟨num / den + 1, power⟩
  match i.contains floor, i.contains ceiling with
  | true, true => some (if 2 * (num % den) < den then floor else ceiling)
  | true, false => some floor
  | false, true => some ceiling
  | false, false => none

/-- Tries grids of one digit after another, `fuel` of them. -/
def Interval.search (i : Interval) (top : Int) : (fuel : Nat) → (count : Nat) → Scientific
  | 0, count => ⟨i.exact / i.den, top - count⟩
  | fuel + 1, count => (i.hit? (top - count)).getD (i.search top fuel (count + 1))

/-- The shortest decimal number that reads back as `mantissa · 2 ^ exponent`. Seventeen digits
always suffice. -/
def shortest (mantissa : Nat) (exponent : Int) : Scientific :=
  if mantissa = 0 then ⟨0, 0⟩
  else
    let i := Interval.around mantissa exponent
    i.search (floorLog10 i.exact i.den) 17 0

/-- Removes the zeros that end the units of a decimal number with places. -/
def trimZeros : (places : Nat) → Nat → Nat × Nat
  | 0, units => (0, units)
  | places + 1, units =>
    if units % 10 = 0 then trimZeros places (units / 10) else (places + 1, units)

/-- Writes a decimal number without an exponent. -/
def Scientific.positional (s : Scientific) : String :=
  match s.power with
  | .ofNat k => placed (s.units * Nat.pow 10 k) 0
  | .negSucc k =>
    let (places, units) := trimZeros (k + 1) s.units
    placed units places

/-! ### The two texts -/

/-- Signs a magnitude, and names the values without digits. -/
def signedText (style : NumeralStyle) (magnitude : Nat → Int → String) : Binary64 → String
  | .notANumber => style.notANumber
  | .infinite negative => (if negative then style.minus else "") ++ style.infinite
  | .finite negative m e => (if negative then style.minus else "") ++ magnitude m e

/-- The shortest text that reads back as the same number. -/
def shortestText (x : Float) : String :=
  signedText .plain (fun m e => (shortest m e).positional) (.ofFloat x)

/-- The number rounded to `places` decimal places. -/
def fixedText (places : Nat) (x : Float) : String :=
  signedText .plain (fun m e =>
    let (num, den) := Binary64.scaled m e
    placed (roundDiv (num * Nat.pow 10 places) den .toEven) places) (.ofFloat x)

end ToneLink.Number
