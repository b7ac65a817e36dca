/-!
# Text on a terminal

Some characters steer a terminal instead of showing something. Text that comes from a user must not:

- `Text.withControlsWritten` writes such characters out, so that a reader sees them (log lines);
- `Text.withoutControls` leaves out whole sequences of them (messages about the command line).

A sequence starts with the escape character. What it consists of and where it ends depends on the
character after that, so a `Terminal` says what the characters before the next one have begun.
-/

namespace ToneLink.Text

/-! ### Writing controls out -/

/-- The escape character, which begins a sequence. -/
def escapeChar : Char := Char.ofNat 0x1B

/-- Delete, which shows nothing. -/
def deleteChar : Char := Char.ofNat 0x7F

/-- Controls of one byte that can change what a terminal shows: bell, backspace, form feed, escape
and delete. -/
def steeringControls : List Nat := [0x07, 0x08, 0x0C, 0x1B, 0x7F]

/-- A code in two hexadecimal digits. -/
def twoDigits (n : Nat) : String :=
  String.ofList [Nat.digitChar (n / 16 % 16), Nat.digitChar (n % 16)]

/-- A character as it is written in a log line: a control of one byte as its two digits, one of the
second set of controls with its digits in braces, any other as it is. -/
def controlWritten (c : Char) : String :=
  if c.toNat ∈ steeringControls then "\\x" ++ twoDigits c.toNat
  else if 0x80 ≤ c.toNat ∧ c.toNat ≤ 0x9F then "\\u\x7b" ++ twoDigits c.toNat ++ "\x7d"
  else c.toString

/-- The text with its controls written out. -/
def withControlsWritten (text : String) : String :=
  String.join (text.toList.map controlWritten)

/-! ### Leaving controls out -/

/-- What the characters so far have begun. -/
inductive Terminal
  /-- Nothing: characters are shown. -/
  | plain
  /-- A sequence, of which only the escape character is known. -/
  | escape
  /-- A sequence of escape, intermediate characters and a last one. -/
  | intermediate
  /-- A control sequence: parameters and a last character from `@` on. -/
  | control
  /-- The head of a device string. -/
  | deviceHead
  /-- Parameters of a device string. -/
  | deviceParameters
  /-- Intermediate characters of a device string. -/
  | deviceIntermediate
  /-- A string for the device or an application. -/
  | string
  /-- A command for the system, which ends with the bell. -/
  | command
  deriving DecidableEq, Repr

namespace Terminal

/-- Blanks that are shown though they are controls. -/
def isShownControl (c : Char) : Bool :=
  c = '\t' || c = '\n' || c = '\r' || c = Char.ofNat 0x0C

/-- Whether a character lies between two others, both included. -/
def between (low high c : Char) : Bool := low ≤ c && c ≤ high

/-- Whether a byte of the character, in its encoding as bytes, ends a string. -/
def endsString (c : Char) : Bool := (String.utf8EncodeChar c).any (· = 0x9C)

/-- What a visible character of the basic set begins or ends. -/
def afterVisible (t : Terminal) (c : Char) : Terminal :=
  match t with
  | .plain => .plain
  | .escape =>
    if between ' ' '/' c then .intermediate
    else if c = '[' then .control
    else if c = ']' then .command
    else if c = 'P' then .deviceHead
    else if c = 'X' ∨ c = '^' ∨ c = '_' then .string
    else .plain
  | .intermediate => if between ' ' '/' c then .intermediate else .plain
  | .control => if between ' ' '?' c then .control else .plain
  | .deviceHead =>
    if between ' ' '/' c then .deviceIntermediate
    else if between '0' '?' c then .deviceParameters
    else .string
  | .deviceParameters =>
    if between ' ' '/' c then .deviceIntermediate
    else if between '0' ';' c then .deviceParameters
    else .string
  | .deviceIntermediate => if between ' ' '/' c then .deviceIntermediate else .string
  | .string => .string
  | .command => .command

/-- Whether a blank among the controls breaks off what has been begun, and is shown. -/
def yieldsToBlank : Terminal → Bool
  | .plain | .escape | .intermediate | .control => true
  | _ => false

/-- Takes one more character: what is begun then, and whether the character is shown. The escape
character begins anew wherever it stands, and cancel and substitute break everything off. -/
def step (t : Terminal) (c : Char) : Terminal × Bool :=
  if c = escapeChar then (.escape, false)
  else if c.toNat = 0x18 ∨ c.toNat = 0x1A then (.plain, false)
  else if c < ' ' then
    if t.yieldsToBlank && isShownControl c then (.plain, true)
    else if t = .command ∧ c.toNat = 0x07 then (.plain, false)
    else (t, false)
  else if c < deleteChar then (t.afterVisible c, t = .plain)
  else if t = .plain then (.plain, c ≠ deleteChar)
  else if t = .string ∧ endsString c then (.plain, false)
  else (t, false)

/-- The characters that are shown. -/
def shown (t : Terminal) : List Char → List Char
  | [] => []
  | c :: rest =>
    let (next, visible) := t.step c
    if visible then c :: shown next rest else shown next rest

end Terminal

/-- What is left of a text if everything is left out that steers a terminal. A sequence that does
not end within the text is left out to its end. -/
def withoutControls (text : String) : String :=
  String.ofList (Terminal.plain.shown text.toList)

end ToneLink.Text
