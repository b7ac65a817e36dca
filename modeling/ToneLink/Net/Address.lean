/-!
# Internet addresses

Addresses as they are written: four decimal numbers, or eight hexadecimal groups of which one run of
zeros may be left out; an endpoint adds a port. What is read is read completely or not at all.

- `IpAddress`, `Endpoint`;
- `IpAddress.read?`, `Endpoint.read?`: from text;
- `IpAddress.text`, `Endpoint.text`: to text.
-/

namespace ToneLink.Net

/-- An address of either version. -/
inductive IpAddress
  | v4 (a b c d : UInt8)
  /-- Eight groups of sixteen bits. -/
  | v6 (groups : List UInt16)
  deriving DecidableEq, Repr

/-- An address and a port. An address of version six may name the interface it is meant for. -/
structure Endpoint where
  address : IpAddress
  port : UInt16
  scope : UInt32 := 0
  deriving DecidableEq, Repr

/-! ### Reading -/

/-- Reads something off the front of a text; the rest of the text. -/
abbrev Reader (α : Type) := List Char → Option (α × List Char)

/-- Reads one given character. -/
def readChar (wanted : Char) : Reader Unit
  | [] => none
  | c :: rest => if c = wanted then some ((), rest) else none

/-- The value of a digit. -/
def digitIn (radix : Nat) (c : Char) : Option Nat :=
  let value :=
    if '0' ≤ c ∧ c ≤ '9' then c.toNat - '0'.toNat
    else if 'a' ≤ c ∧ c ≤ 'f' then c.toNat - 'a'.toNat + 10
    else if 'A' ≤ c ∧ c ≤ 'F' then c.toNat - 'A'.toNat + 10
    else radix
  if value < radix then some value else none

/-- The longest stretch of digits. -/
def readDigits (radix : Nat) : List Char → List Nat × List Char
  | [] => ([], [])
  | c :: rest =>
    match digitIn radix c with
    | none => ([], c :: rest)
    | some d =>
      let (ds, after) := readDigits radix rest
      (d :: ds, after)

/-- Which numbers are read. -/
structure NumberRule where
  radix : Nat
  limit : Nat
  maxDigits : Option Nat := none
  leadingZeros : Bool := true

/-- A number of a dotted address. -/
def NumberRule.octet : NumberRule := ⟨10, UInt8.size, some 3, false⟩

/-- A group of a version six address. -/
def NumberRule.group : NumberRule := ⟨16, UInt16.size, some 4, true⟩

/-- A port. -/
def NumberRule.port : NumberRule := ⟨10, UInt16.size, none, true⟩

/-- An interface number. -/
def NumberRule.scope : NumberRule := ⟨10, UInt32.size, none, true⟩

/-- Reads a number. -/
def readNumber (rule : NumberRule) : Reader Nat := fun cs =>
  let (ds, rest) := readDigits rule.radix cs
  let value := ds.foldl (fun n d => n * rule.radix + d) 0
  let tooLong := match rule.maxDigits with
    | none => false
    | some most => most < ds.length
  let zeroFirst := !rule.leadingZeros && ds.head? == some 0 && 1 < ds.length
  if ds.isEmpty || tooLong || zeroFirst || rule.limit ≤ value then none else some (value, rest)

/-- Reads a dotted address. -/
def readV4 : Reader IpAddress := fun cs => do
  let (a, cs) ← readNumber .octet cs
  let (_, cs) ← readChar '.' cs
  let (b, cs) ← readNumber .octet cs
  let (_, cs) ← readChar '.' cs
  let (c, cs) ← readNumber .octet cs
  let (_, cs) ← readChar '.' cs
  let (d, cs) ← readNumber .octet cs
  return (.v4 a.toUInt8 b.toUInt8 c.toUInt8 d.toUInt8, cs)

/-- Reads what comes after a separator, or at the very front without one. -/
def separated {α : Type} (isFront : Bool) (inner : Reader α) : Reader α := fun cs =>
  if isFront then inner cs
  else do
    let (_, cs) ← readChar ':' cs
    inner cs

/-- Reads up to `room` groups, the last two of which may be written as a dotted address. Says
whether they were. -/
def readGroups (isFront : Bool) : (room : Nat) → List Char → List UInt16 × Bool × List Char
  | 0, cs => ([], false, cs)
  | room + 1, cs =>
    let dotted := if room = 0 then none else separated isFront readV4 cs
    match dotted with
    | some (.v4 a b c d, rest) =>
      ([a.toUInt16 * 256 + b.toUInt16, c.toUInt16 * 256 + d.toUInt16], true, rest)
    | _ =>
      match separated isFront (readNumber .group) cs with
      | none => ([], false, cs)
      | some (g, rest) =>
        let (gs, dotted, rest) := readGroups false room rest
        (g.toUInt16 :: gs, dotted, rest)

/-- Reads a version six address. Two colons stand for at least one group of zeros; a dotted address
may only stand at the end. -/
def readV6 : Reader IpAddress := fun cs =>
  let (front, dotted, cs) := readGroups true 8 cs
  if front.length = 8 then some (.v6 front, cs)
  else if dotted then none
  else do
    let (_, cs) ← readChar ':' cs
    let (_, cs) ← readChar ':' cs
    let (back, _, cs) := readGroups true (7 - front.length) cs
    return (.v6 (front ++ List.replicate (8 - front.length - back.length) 0 ++ back), cs)

/-- Reads a port with the colon before it. -/
def readPort : Reader UInt16 := fun cs => do
  let (_, cs) ← readChar ':' cs
  let (port, cs) ← readNumber .port cs
  return (port.toUInt16, cs)

/-- Reads the interface of an address, if one is given. -/
def readScope (cs : List Char) : UInt32 × List Char :=
  let scope := do
    let (_, cs) ← readChar '%' cs
    let (scope, cs) ← readNumber .scope cs
    some (scope.toUInt32, cs)
  scope.getD (0, cs)

/-- Takes what was read only if nothing is left. -/
def complete {α : Type} (reader : Reader α) (text : String) : Option α :=
  match reader text.toList with
  | some (value, []) => some value
  | _ => none

/-- Reads an address. -/
def IpAddress.read? (text : String) : Option IpAddress :=
  complete (fun cs => (readV4 cs).or (readV6 cs)) text

/-- Reads an endpoint. -/
def Endpoint.read? (text : String) : Option Endpoint :=
  let v4 : Reader Endpoint := fun cs => do
    let (address, cs) ← readV4 cs
    let (port, cs) ← readPort cs
    return (⟨address, port, 0⟩, cs)
  let v6 : Reader Endpoint := fun cs => do
    let (_, cs) ← readChar '[' cs
    let (address, cs) ← readV6 cs
    let (scope, cs) := readScope cs
    let (_, cs) ← readChar ']' cs
    let (port, cs) ← readPort cs
    return (⟨address, port, scope⟩, cs)
  complete (fun cs => (v4 cs).or (v6 cs)) text

/-! ### Writing -/

/-- A dotted address. -/
def dottedText (a b c d : UInt8) : String :=
  s!"{a.toNat}.{b.toNat}.{c.toNat}.{d.toNat}"

/-- Groups in hexadecimal digits, with colons between them. -/
def groupsText (groups : List UInt16) : String :=
  ":".intercalate (groups.map fun g => String.ofList (Nat.toDigits 16 g.toNat))

/-- How many zeros a list starts with. -/
def leadingZeros (groups : List UInt16) : Nat := (groups.takeWhile (· = 0)).length

/-- Start and length of the first longest run of zeros. -/
def longestZeros : List UInt16 → Nat × Nat
  | [] => (0, 0)
  | g :: rest =>
    let here := leadingZeros (g :: rest)
    let (start, length) := longestZeros rest
    if length ≤ here then (0, here) else (start + 1, length)

/-- An address as text. A run of at least two zeros is left out. -/
def IpAddress.text : IpAddress → String
  | .v4 a b c d => dottedText a b c d
  | .v6 [0, 0, 0, 0, 0, 0xFFFF, high, low] =>
    "::ffff:" ++ dottedText (high.toNat / 256).toUInt8 high.toUInt8
      (low.toNat / 256).toUInt8 low.toUInt8
  | .v6 groups =>
    let (start, length) := longestZeros groups
    if 1 < length then
      groupsText (groups.take start) ++ "::" ++ groupsText (groups.drop (start + length))
    else groupsText groups

/-- An endpoint as text. -/
def Endpoint.text (e : Endpoint) : String :=
  match e.address with
  | .v4 .. => e.address.text ++ s!":{e.port}"
  | .v6 _ =>
    let scope := if e.scope = 0 then "" else s!"%{e.scope}"
    "[" ++ e.address.text ++ scope ++ "]" ++ s!":{e.port}"

end ToneLink.Net
