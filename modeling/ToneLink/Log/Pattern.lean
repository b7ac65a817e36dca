import ToneLink.Text.AlphanumericTable
import ToneLink.Text.Blank

/-!
# Patterns

A filter may ask that a value match a regular expression. No line has values of its own, so a
pattern never has to be matched; but a filter with text that is no pattern is refused as a whole, so
here is what a pattern is.

- `Pattern.isPattern`: whether a text is one.

Patterns have alternatives, groups, classes of characters, repetition and flags. They have no names
for classes of the character standard, which takes tables for each, and no counted repetition, for
its braces and commas end a value. What looks around or back is not regular and not taken.
-/

namespace ToneLink.Log.Pattern

open Text

/-- What the flags of a pattern say about the text after them. -/
structure Rules where
  /-- Blanks and comments count for nothing. -/
  spaced : Bool := false
  /-- Characters are those of the character standard, not bytes. -/
  unicode : Bool := true
  /-- Case is disregarded. -/
  anyCase : Bool := false
  deriving DecidableEq, Repr

namespace Rules

/-- Sets or clears a flag. Some change only what a pattern matches, not what is one. -/
def change (r : Rules) (flag : Char) (on : Bool) : Rules :=
  if flag = 'x' then { r with spaced := on }
  else if flag = 'u' then { r with unicode := on }
  else if flag = 'i' then { r with anyCase := on }
  else r

/-- Whether characters can be compared: to disregard the case of all characters takes a table. -/
def compares (r : Rules) : Bool := !(r.anyCase && r.unicode)

end Rules

/-- The letters of flags. -/
def flagLetters : List Char := ['i', 'm', 's', 'U', 'u', 'R', 'x']

/-- What comes after blanks and comments; a comment ends with its line. -/
def skipFrom (inComment : Bool) : List Char → List Char
  | [] => []
  | c :: rest =>
    if inComment then skipFrom (c ≠ '\n') rest
    else if isBlank c then skipFrom false rest
    else if c = '#' then skipFrom true rest
    else c :: rest

/-- The text from its first character that counts. -/
def skip (r : Rules) (text : List Char) : List Char :=
  if r.spaced then skipFrom false text else text

/-! ### Single characters -/

/-- What one character, or an escape, stands for. -/
inductive Primitive
  /-- A character. -/
  | literal (c : Char)
  /-- One of several characters. -/
  | kind
  /-- A place between characters. -/
  | place
  deriving DecidableEq, Repr

/-- The value of a hexadecimal digit. -/
def hexValue? (c : Char) : Option Nat :=
  if '0' ≤ c ∧ c ≤ '9' then some (c.toNat - '0'.toNat)
  else if 'a' ≤ c ∧ c ≤ 'f' then some (c.toNat - 'a'.toNat + 10)
  else if 'A' ≤ c ∧ c ≤ 'F' then some (c.toNat - 'A'.toNat + 10)
  else none

/-- Reads so many hexadecimal digits; `sofar` is the number read before. -/
def hexDigits? (r : Rules) : (count sofar : Nat) → List Char → Option (Nat × List Char)
  | 0, sofar, text => some (sofar, text)
  | count + 1, sofar, text =>
    match skip r text with
    | [] => none
    | c :: rest => (hexValue? c).bind fun d => hexDigits? r count (sofar * 16 + d) rest

/-- A character by its code point, in so many digits. -/
def coded? (r : Rules) (count : Nat) (text : List Char) : Option (Primitive × List Char) := do
  let (n, rest) ← hexDigits? r count 0 text
  if n.isValidChar then some (.literal (Char.ofNat n), rest) else none

/-- What a backslash and the text after it stand for. Kinds of characters and the ends of words take
tables, unless characters are bytes. -/
def escape? (r : Rules) : List Char → Option (Primitive × List Char)
  | [] => none
  | c :: rest =>
    if c = 'x' then coded? r 2 rest
    else if c = 'u' then coded? r 4 rest
    else if c = 'U' then coded? r 8 rest
    else if c ∈ ['a', 'f', 't', 'n', 'r', 'v'] then some (.literal c, rest)
    else if c = 'A' ∨ c = 'z' then some (.place, rest)
    else if c ∈ ['d', 's', 'w'] then if r.unicode then none else some (.kind, rest)
    else if c ∈ ['b', '<', '>'] then if r.unicode then none else some (.place, rest)
    else if c.toNat < 128 ∧ !c.isAlphanum then some (.literal c, rest)
    else none

/-! ### Classes of characters -/

/-- Names of classes, as they stand in a class between colons. -/
def classNames : List String :=
  ["alnum", "alpha", "ascii", "blank", "cntrl", "digit", "graph", "lower", "print", "punct",
   "space", "upper", "word", "xdigit"]

/-- What comes after the name of a class, of which the opening bracket has been read. -/
def afterClassName? : List Char → Option (List Char)
  | ':' :: rest =>
    let rest := if rest.head? = some '^' then rest.drop 1 else rest
    match rest.dropWhile (· ≠ ':') with
    | ':' :: ']' :: after =>
      if String.ofList (rest.takeWhile (· ≠ ':')) ∈ classNames then some after else none
    | _ => none
  | _ => none

/-- Opens a class: what comes after its bracket, a sign of negation and a closing bracket that
stands first and so is a character. -/
def openClass? (r : Rules) (text : List Char) : Option (List Char) :=
  let (negated, text) := match skip r text with
    | '^' :: rest => (true, skip r rest)
    | text => (false, text)
  if !r.compares || (negated && !r.unicode) then none
  else match text with
    | ']' :: rest => some rest
    | text => some text

/-- One character of a class, or an escape. -/
def primitive? (r : Rules) : List Char → Option (Primitive × List Char)
  | [] => none
  | '\\' :: rest => escape? r rest
  | c :: rest => some (.literal c, rest)

/-- A primitive by itself in a class, where places are none. -/
def alone? (rest : List Char) : Primitive → Option (List Char)
  | .place => none
  | _ => some rest

/-- Reads a character, a kind of characters or a range of characters. A hyphen is no range before a
closing bracket or another hyphen. -/
def afterItem? (r : Rules) (text : List Char) : Option (List Char) := do
  let (first, rest) ← primitive? r text
  match skip r rest with
  | [] => none
  | '-' :: more =>
    match skip r more with
    | ']' :: _ | '-' :: _ => alone? ('-' :: more) first
    | more => do
      let (last, rest) ← primitive? r more
      match first, last with
      | .literal low, .literal high => if low ≤ high then some rest else none
      | _, _ => none
  | rest => alone? rest first

/-- Reads a class to its end, `depth` classes deep in another one. Two classes can be joined by a
doubled sign. -/
def afterClass? (r : Rules) : (fuel depth : Nat) → List Char → Option (List Char)
  | 0, _, _ => none
  | fuel + 1, depth, text =>
    match skip r text with
    | [] => none
    | '[' :: rest =>
      match afterClassName? rest with
      | some rest => afterClass? r fuel depth rest
      | none => (openClass? r rest).bind (afterClass? r fuel (depth + 1))
    | ']' :: rest => if depth = 0 then some rest else afterClass? r fuel (depth - 1) rest
    | '&' :: '&' :: rest | '-' :: '-' :: rest | '~' :: '~' :: rest => afterClass? r fuel depth rest
    | text => (afterItem? r text).bind (afterClass? r fuel depth)

/-! ### Groups -/

/-- What an opening parenthesis does. -/
inductive Opening
  /-- It only sets flags. -/
  | flags (r : Rules) (rest : List Char)
  /-- It opens a group, perhaps with a name. -/
  | group (r : Rules) (name : Option String) (rest : List Char)

/-- Reads flags: letters to set and, after a hyphen, letters to clear, each once. -/
def flags? (r : Rules) (on : Bool) (given : List Char) (hyphenLast : Bool) :
    List Char → Option Opening
  | [] => none
  | c :: rest =>
    if c = ':' ∨ c = ')' then
      if hyphenLast then none
      else if c = ':' then some (.group r none rest)
      else if given.isEmpty then none
      else some (.flags r rest)
    else if c = '-' then if on then flags? r false given true rest else none
    else if c ∈ flagLetters ∧ c ∉ given then flags? (r.change c on) on (c :: given) false rest
    else none

/-- Whether characters are the name of a group: letters, digits and a few signs, no digit first. -/
def isGroupName : List Char → Bool
  | [] => false
  | c :: rest =>
    (c = '_' || (alphanumericRanges.contains c && !c.isDigit))
      && rest.all fun x => x ∈ ['_', '.', '[', ']'] || alphanumericRanges.contains x

/-- Reads the name of a group. -/
def named? (r : Rules) (text : List Char) : Option Opening :=
  let name := text.takeWhile (· ≠ '>')
  match text.dropWhile (· ≠ '>') with
  | [] => none
  | _ :: rest =>
    if isGroupName name then some (.group r (some (String.ofList name)) rest) else none

/-- Reads what an opening parenthesis does. -/
def opening? (r : Rules) (text : List Char) : Option Opening :=
  match skip r text with
  | '?' :: '=' :: _ | '?' :: '!' :: _ | '?' :: '<' :: '=' :: _ | '?' :: '<' :: '!' :: _ => none
  | '?' :: 'P' :: '<' :: rest | '?' :: '<' :: rest => named? r rest
  | '?' :: rest => flags? r true [] false rest
  | rest => some (.group r none rest)

/-! ### Whole patterns -/

/-- Whether the text is the rest of a pattern. `outer` are the rules outside of each open group,
`names` those of groups so far, and `repeatable` says whether there is something to repeat. -/
def isRest : (fuel : Nat) → Rules → (outer : List Rules) → (names : List String) →
    (repeatable : Bool) → List Char → Bool
  | 0, _, _, _, _, _ => false
  | fuel + 1, r, outer, names, repeatable, text =>
    match skip r text with
    | [] => outer.isEmpty
    | '(' :: rest =>
      match opening? r rest with
      | none => false
      | some (.flags r rest) => isRest fuel r outer names false rest
      | some (.group inner none rest) => isRest fuel inner (r :: outer) names false rest
      | some (.group inner (some name) rest) =>
        name ∉ names && isRest fuel inner (r :: outer) (name :: names) false rest
    | ')' :: rest =>
      match outer with
      | [] => false
      | r :: outer => isRest fuel r outer names true rest
    | '|' :: rest => isRest fuel r outer names false rest
    | '[' :: rest =>
      match (openClass? r rest).bind (afterClass? r (fuel + 1) 0) with
      | none => false
      | some rest => isRest fuel r outer names true rest
    | '{' :: _ => false
    | '.' :: rest => r.unicode && isRest fuel r outer names true rest
    | '\\' :: rest =>
      match escape? r rest with
      | none => false
      | some (.literal _, rest) => r.compares && isRest fuel r outer names true rest
      | some (_, rest) => isRest fuel r outer names true rest
    | c :: rest =>
      if c = '?' ∨ c = '*' ∨ c = '+' then
        let rest := if rest.head? = some '?' then rest.drop 1 else rest
        repeatable && isRest fuel r outer names true rest
      else if c = '^' ∨ c = '$' then isRest fuel r outer names true rest
      else r.compares && isRest fuel r outer names true rest

/-- Whether a text is a pattern. Each step takes a character, so its length is fuel enough. -/
def isPattern (text : String) : Bool :=
  isRest (text.length + 1) {} [] [] false text.toList

end ToneLink.Log.Pattern
