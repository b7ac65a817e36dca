import ToneLink.CommandLine.Value

/-!
# Commands and their settings

A command is a table of settings. Each setting knows how it changes the options `σ` of the command,
so that reading a command line is a fold over its words and no option is ever looked up by name.

- `Effect`: what a setting does to the options;
- `Setting`: a setting with all that its help and its errors say;
- `Command`: a command; `Command.helpText`, `Command.versionText`.
-/

namespace ToneLink.CommandLine

/-- What a setting does to the options of a command. -/
inductive Effect (σ : Type)
  /-- The setting stands alone. -/
  | switch (set : σ → σ)
  /-- The setting takes a value. -/
  | value (read : ValueReader (σ → σ))

/-- A value that is stored in the options once it has been read. -/
def Effect.storing {σ α : Type} (read : ValueReader α) (store : α → σ → σ) : Effect σ :=
  .value fun t => (read t).map store

/-- An effect on a part of larger options. -/
def Effect.within {σ τ : Type} (modify : (σ → σ) → τ → τ) : Effect σ → Effect τ
  | .switch set => .switch (modify set)
  | .value read => .value fun t => (read t).map modify

/-- A setting, given as two hyphens and its name. -/
structure Setting (σ : Type) where
  name : String
  help : String
  /-- The text of the value that holds unless another is given. -/
  defaultText : Option String := none
  /-- The only values there are, if they are few. -/
  choices : List String := []
  required : Bool := false
  /-- Whether a value may start with a minus sign. -/
  takesNegative : Bool := false
  effect : Effect σ

namespace Setting

variable {σ τ : Type}

/-- A setting of a part of larger options. -/
def within (modify : (σ → σ) → τ → τ) (s : Setting σ) : Setting τ :=
  { s with effect := s.effect.within modify }

/-- Whether the setting takes a value. -/
def takesValue (s : Setting σ) : Bool :=
  match s.effect with
  | .switch _ => false
  | .value _ => true

/-- The name with its hyphens. -/
def flag (s : Setting σ) : String := "--" ++ s.name

/-- What the value is called: the name in capitals. -/
def valueName (s : Setting σ) : String :=
  String.ofList (s.name.toList.map fun c => if c = '-' then '_' else c.toUpper)

/-- The setting as it is written, its value in angle brackets. -/
def usage (s : Setting σ) : String :=
  if s.takesValue then s.flag ++ " <" ++ s.valueName ++ ">" else s.flag

/-- What the help says about this setting. -/
def helpNote (s : Setting σ) : String :=
  let default := match s.defaultText with
    | none => ""
    | some text => " [default: " ++ text ++ "]"
  let choices :=
    if s.choices.isEmpty then ""
    else " [possible values: " ++ ", ".intercalate s.choices ++ "]"
  s.help ++ default ++ choices

end Setting

/-- A command with options `σ`. -/
structure Command (σ : Type) where
  name : String
  about : String
  /-- A command without a version cannot be asked for it. -/
  version : Option String
  settings : List (Setting σ)
  /-- The options of an empty command line. Required settings hold a placeholder in them. -/
  initial : σ

namespace Command

variable {σ : Type}

/-- How the command is written. -/
def usage (c : Command σ) : String :=
  let required := (c.settings.filter (·.required)).map fun s => " " ++ s.usage
  "Usage: " ++ c.name ++ " [OPTIONS]" ++ String.join required

/-- What is shown if the version is asked for. -/
def versionText (c : Command σ) : String :=
  match c.version with
  | none => ""
  | some version => c.name ++ " " ++ version ++ "\n"

/-- What can be set or asked for: how it is written, and what the help says about it. -/
def helpRows (c : Command σ) : List (String × String) :=
  c.settings.map (fun s => ("      " ++ s.usage, s.helpNote))
    ++ [("  -h, --help", "Print help")]
    ++ c.version.toList.map fun _ => ("  -V, --version", "Print version")

/-- The columns of a help text. -/
def helpWidth : Nat := 100

/-- The column at which notes begin if they stand beside what they are about. -/
def noteColumn (rows : List (String × String)) : Nat :=
  (rows.map fun row => row.1.length + 2).foldl max 0

/-- Whether notes stand beside what they are about. They do if that takes no more than two fifths of
the columns, or else if all notes fit into the rest. -/
def notesBeside (rows : List (String × String)) : Bool :=
  let column := noteColumn rows
  5 * column ≤ 2 * helpWidth || rows.all fun row => column + row.2.length ≤ helpWidth

/-- The help about one setting. -/
def helpRow (beside : Bool) (column : Nat) (row : String × String) : String :=
  if beside then
    row.1 ++ String.ofList (List.replicate (column - row.1.length) ' ') ++ row.2 ++ "\n"
  else row.1 ++ "\n          " ++ row.2 ++ "\n"

/-- What is shown if help is asked for. -/
def helpText (c : Command σ) : String :=
  let rows := c.helpRows
  c.about ++ "\n\n" ++ c.usage ++ "\n\nOptions:\n"
    ++ String.join (rows.map (helpRow (notesBeside rows) (noteColumn rows)))

/-- The setting of a name. -/
def setting? (c : Command σ) (name : String) : Option (Setting σ) :=
  c.settings.find? (·.name == name)

end Command

end ToneLink.CommandLine
