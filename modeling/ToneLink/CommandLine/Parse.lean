import ToneLink.CommandLine.Command
import ToneLink.Text.Terminal

/-!
# Reading a command line

The words of a command line are taken from left to right. A setting waits for its value until the
next setting or the end; only then is the value looked at. A word that belongs to nothing ends the
reading at once, whatever is wrong with the settings before it.

- `Word.ofText`: what a word may be;
- `Stop`: why a command does not run; `Stop.message`;
- `Command.parse`: the options that a command line gives.
-/

namespace ToneLink.CommandLine

/-! ### Words -/

/-- What a word may be. -/
inductive Word
  /-- Two hyphens: no setting follows. -/
  | terminator
  /-- A setting, perhaps with a value after an equals sign. -/
  | long (name : String) (attached : Option String)
  /-- A letter after one hyphen; what follows it does not matter. -/
  | short (letter : Char)
  | plain (text : String)
  deriving DecidableEq, Repr

/-- Takes a word apart by the hyphens that it starts with. A single hyphen is a plain word. -/
def Word.ofText (text : String) : Word :=
  match text.toList with
  | ['-', '-'] => .terminator
  | '-' :: '-' :: rest =>
    let name := String.ofList (rest.takeWhile (· ≠ '='))
    match rest.dropWhile (· ≠ '=') with
    | [] => .long name none
    | _ :: value => .long name (some (String.ofList value))
  | '-' :: letter :: _ => .short letter
  | _ => .plain text

/-- Whether characters look like a number without a sign. There may be one point, not first and not
in an exponent, and one `e`, neither first nor last. -/
def looksUnsigned (isFirst sawPoint sawExponent : Bool) : List Char → Bool
  | [] => true
  | '.' :: rest =>
    !isFirst && !sawPoint && !sawExponent && looksUnsigned false true sawExponent rest
  | c :: rest =>
    if c = 'e' ∨ c = 'E' then
      !isFirst && !sawExponent && !rest.isEmpty && looksUnsigned false sawPoint true rest
    else c.isDigit && looksUnsigned false sawPoint sawExponent rest

/-- Whether a word looks like a negative number. -/
def looksNegative (text : String) : Bool :=
  match text.toList with
  | '-' :: rest => looksUnsigned true false false rest
  | _ => false

/-! ### Why a command does not run -/

/-- Why a command does not run. Settings are named as their usage shows them. -/
inductive Stop
  | helpWanted
  | versionWanted
  | unknownWord (text : String)
  | repeated (setting : String)
  | blankValue (setting : String)
  | notAChoice (value setting : String)
  | badValue (value setting reason : String)
  | needlessValue (value setting : String)
  | missingSettings (settings : List String)
  deriving DecidableEq, Repr

/-- A word between single quotes, without what would steer a terminal. -/
def singleQuoted (text : String) : String := "'" ++ Text.withoutControls text ++ "'"

/-- What is wrong with the command line; nothing, if help or version was asked for. -/
def Stop.message : Stop → String
  | .helpWanted | .versionWanted => ""
  | .unknownWord text => "unexpected argument " ++ singleQuoted text ++ " found"
  | .repeated setting =>
    "the argument " ++ singleQuoted setting ++ " cannot be used multiple times"
  | .blankValue setting =>
    "a value is required for " ++ singleQuoted setting ++ " but none was supplied"
  | .notAChoice value setting =>
    "invalid value " ++ singleQuoted value ++ " for " ++ singleQuoted setting
  | .badValue value setting reason =>
    "invalid value " ++ singleQuoted value ++ " for " ++ singleQuoted setting ++ ": " ++ reason
  | .needlessValue value setting =>
    "unexpected value " ++ singleQuoted value ++ " for " ++ singleQuoted setting
      ++ " found; no more were expected"
  | .missingSettings settings =>
    "the following required arguments were not provided:"
      ++ String.join (settings.map fun s => "\n  " ++ s)

/-! ### Reading -/

/-- A setting that takes a value, and the value if it has been given. -/
structure Pending (σ : Type) where
  setting : Setting σ
  value : Option String := none

/-- How far a command line has been read. -/
structure Progress (σ : Type) where
  options : σ
  /-- Names of the settings that have been taken into account. -/
  given : List String := []
  pending : Option (Pending σ) := none

namespace Progress

variable {σ : Type}

/-- The stop that a refused value is. -/
def refused (s : Setting σ) (value : String) : Refusal → Stop
  | .blank => .blankValue s.usage
  | .notAChoice => .notAChoice value s.usage
  | .malformed reason => .badValue value s.usage reason

/-- Takes a setting into account, with its value if it takes one. No setting is given twice. -/
def enter (p : Progress σ) (s : Setting σ) (value : String) : Except Stop (Progress σ) :=
  if s.name ∈ p.given then .error (.repeated s.usage)
  else
    let given := s.name :: p.given
    match s.effect with
    | .switch set => .ok { p with options := set p.options, given }
    | .value read =>
      match read value with
      | .error refusal => .error (refused s value refusal)
      | .ok set => .ok { p with options := set p.options, given }

/-- Takes the pending setting into account. -/
def settle (p : Progress σ) : Except Stop (Progress σ) :=
  match p.pending with
  | none => .ok p
  | some ⟨s, none⟩ => .error (.blankValue s.usage)
  | some ⟨s, some value⟩ => { p with pending := none }.enter s value

/-- Reads a word that names a setting, help or version. -/
def takeLong (c : Command σ) (p : Progress σ) (name : String) (attached : Option String) :
    Except Stop (Progress σ) :=
  let asking (stop : Stop) : Except Stop (Progress σ) :=
    match attached with
    | some value => .error (.needlessValue value ("--" ++ name))
    | none => do
      let _ ← p.settle
      throw stop
  match c.setting? name with
  | some s =>
    match s.takesValue, attached with
    | false, some value => .error (.needlessValue value s.usage)
    | false, none => do
      let p ← p.settle
      p.enter s ""
    | true, some value => do
      let p ← p.settle
      p.enter s value
    | true, none => do
      let p ← p.settle
      return { p with pending := some { setting := s } }
  | none =>
    if name = "help" then asking .helpWanted
    else if name = "version" ∧ c.version.isSome then asking .versionWanted
    else .error (.unknownWord ("--" ++ name))

/-- Reads a letter after a single hyphen. -/
def takeShort (c : Command σ) (p : Progress σ) (letter : Char) : Except Stop (Progress σ) := do
  if letter = 'h' then
    let _ ← p.settle
    throw .helpWanted
  else if letter = 'V' ∧ c.version.isSome then
    let _ ← p.settle
    throw .versionWanted
  else throw (.unknownWord ("-" ++ letter.toString))

/-- Gives a word to the setting that waits for a value, if there is one. -/
def takePlain (p : Progress σ) (text : String) : Except Stop (Progress σ) :=
  match p.pending with
  | some ⟨s, none⟩ => .ok { p with pending := some ⟨s, some text⟩ }
  | _ => .error (.unknownWord text)

/-- Whether a setting waits for a value and would take a negative number. -/
def awaitsNegative (p : Progress σ) : Bool :=
  match p.pending with
  | some ⟨s, none⟩ => s.takesNegative
  | _ => false

/-- Reads words. After the terminator there can only be words that belong to nothing. -/
def takeWords (c : Command σ) (p : Progress σ) : List String → Except Stop (Progress σ)
  | [] => p.settle
  | text :: rest => do
    if p.awaitsNegative && looksNegative text then
      takeWords c (← p.takePlain text) rest
    else
      match Word.ofText text, rest with
      | .terminator, [] => p.settle
      | .terminator, text :: _ => throw (.unknownWord text)
      | .long name attached, _ => takeWords c (← p.takeLong c name attached) rest
      | .short letter, _ => takeWords c (← p.takeShort c letter) rest
      | .plain text, _ => takeWords c (← p.takePlain text) rest

end Progress

/-- The options that a command line gives. -/
def Command.parse {σ : Type} (c : Command σ) (words : List String) : Except Stop σ := do
  let p ← Progress.takeWords c { options := c.initial } words
  let missing := c.settings.filter fun s => s.required && !p.given.contains s.name
  if missing.isEmpty then return p.options
  else throw (.missingSettings (missing.map Setting.usage))

end ToneLink.CommandLine
