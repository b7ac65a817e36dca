import ToneLink.Log
import ToneLink.Text.Terminal

/-!
# How lines are shown

A shown line starts with a time stamp and a level of five columns, names its component, and ends
with the message, its controls written out. In colour the level has a colour of its own and what
surrounds it is dim.

- `Log.ColorChoice`: when colour is used;
- `Log.Entry.console`: a line as shown.
-/

namespace ToneLink.Log

/-- What a user says about colour. -/
inductive ColorChoice
  | auto
  | always
  | never
  deriving DecidableEq, Repr

namespace ColorChoice

/-- The choices by name. -/
def names : List (String × ColorChoice) := [("auto", auto), ("always", always), ("never", never)]

/-- Variables whose mere presence turns automatic colour off. -/
def disablingVariables : List String := ["NO_COLOR", "EMACS"]

/-- Whether lines are coloured. Left to itself, colour is for terminals, unless the environment
forbids it. -/
def useColor (choice : ColorChoice) (environmentForbids isTerminal : Bool) : Bool :=
  match choice with
  | .always => true
  | .never => false
  | .auto => !environmentForbids && isTerminal

end ColorChoice

/-- The level's name in five columns. -/
def Level.column : Level → String
  | .info => " INFO"
  | .warn => " WARN"
  | l => l.name

/-- A terminal's number for the level's colour. -/
def Level.colorCode : Level → Nat
  | .error => 31
  | .warn => 33
  | .info => 32
  | .debug => 34
  | .trace => 35

/-- Text between the codes that switch a rendition on and all off again. -/
def rendition (code : Nat) (text : String) : String :=
  let escape := (Char.ofNat 27).toString ++ "["
  escape ++ s!"{code}m" ++ text ++ escape ++ "0m"

/-- The terminal's number for dim text. -/
def dim : Nat := 2

/-- A line as shown. -/
def Entry.console (e : Entry) (time : String) (color : Bool) : String :=
  let message := Text.withControlsWritten e.message
  if color then
    rendition dim time ++ " " ++ rendition e.level.colorCode e.level.column ++ " "
      ++ rendition dim e.origin.path ++ rendition dim ":" ++ " " ++ message
  else time ++ " " ++ e.level.column ++ " " ++ e.origin.path ++ ": " ++ message

end ToneLink.Log
