import ToneLink.Log
import ToneLink.Log.Pattern
import ToneLink.Number.Literal
import ToneLink.Text.Offset

/-!
# Which lines are shown

A filter is a list of directives. A directive names where lines come from, or nothing, and how
verbose lines from there may be; it may also ask for a field that a line must have. Of the
directives that fit a line the most particular one decides: the one with the longest path, and with
a field if there are two of these. A directive that is meant for spans of activity, or for the value
of a field, decides about no line, since there are no spans and no values.

- `Log.Threshold`: how verbose lines may be; `Threshold.read?`;
- `Log.Directive`: one directive; `Directive.read?`;
- `Log.Filter.read?`: directives from text, separated by commas;
- `Log.Filter.shows`: whether a line is shown.
-/

namespace ToneLink.Log

open Number

/-- The most verbose level that is shown, as its verbosity; zero shows nothing. -/
structure Threshold where
  verbosity : Nat
  deriving DecidableEq, Repr

namespace Threshold

/-- Shows nothing. -/
def off : Threshold := ⟨0⟩

/-- Shows a level and all less verbose ones. -/
def upTo (l : Level) : Threshold := ⟨l.verbosity⟩

/-- The names of thresholds. -/
def names : List (String × Threshold) :=
  [("", .upTo .error), ("error", .upTo .error), ("warn", .upTo .warn), ("info", .upTo .info),
   ("debug", .upTo .debug), ("trace", .upTo .trace), ("off", .off)]

/-- Reads a threshold: a number from 0 to 5, or a name in any case. -/
def read? (text : String) : Option Threshold :=
  match readWhole ⟨0, 5⟩ text with
  | .ok n => some ⟨n.toNat⟩
  | .error _ => (names.find? fun n => n.1 == String.ofList (text.toList.map Char.toLower)).map (·.2)

end Threshold

/-- A field that a directive asks for. -/
structure FieldTest where
  name : String
  /-- What its value must be; nothing means that any value will do. -/
  value : Option String := none
  deriving DecidableEq, Repr

namespace FieldTest

/-- Values that are compared as they are: truth values and numbers. Any other is a pattern. -/
def isPlain (value : String) : Bool :=
  value = "true" || value = "false" || (readWhole .word value).toBool
    || (readWhole .signedWord value).toBool || (readReal value).toBool

/-- Reads a field: a name, and perhaps a value after an equals sign. What comes after a second one
does not count. -/
def read? (text : String) : Option FieldTest :=
  match text.splitOn "=" with
  | name :: value :: _ =>
    if isPlain value || Pattern.isPattern value then some { name, value := some value } else none
  | _ => if text.isEmpty then none else some { name := text }

end FieldTest

/-- What is let through from where. -/
structure Directive where
  /-- Where lines come from; nothing means anywhere. -/
  path : Option String := none
  /-- The span of activity that the directive is meant for. -/
  span : Option String := none
  /-- The field that a line must have. -/
  field : Option FieldTest := none
  threshold : Threshold := .upTo .trace
  deriving DecidableEq, Repr

namespace Directive

/-- Whether the directive decides about lines at all. -/
def isForLines (d : Directive) : Bool :=
  d.span.isNone && d.field.all (·.value.isNone)

/-- Whether a directive is about lines from a path. A line has one field, its message. -/
def fits (d : Directive) (path : String) : Bool :=
  d.isForLines && d.path.all (fun start => path.startsWith start)
    && d.field.all (·.name = messageField)

/-- How long the path of a directive is; no path is shorter than any. -/
def reach (d : Directive) : Nat :=
  match d.path with
  | none => 0
  | some path => path.utf8ByteSize + 1

/-- Whether a directive is at least as particular as another one. -/
def atLeastAsParticular (d e : Directive) : Bool :=
  e.reach < d.reach || (d.reach = e.reach && (d.field.isSome || e.field.isNone))

/-- A path or a threshold that stands alone: a threshold if it can be one. -/
def ofWord (word : String) : Directive :=
  match Threshold.read? word with
  | some threshold => { threshold }
  | none => { path := some word }

/-- Characters that a path may start with. -/
def startsPath (c : Char) : Bool :=
  c = '-' || c = ':' || c = '_' || Text.alphanumericRanges.contains c

/-! ### Reading

A directive is read along its marks: brackets, braces and the equals sign. The marks are looked for
between the blanks around the directive, and their places are counted from the first character that
is no blank; what stands between two places is then taken from the directive as it is written. -/

open Text

/-- The first mark, its place and what comes after it. -/
def mark? (isMark : Char → Bool) (text : Marked) : Option (Nat × Char × Marked) :=
  match text.dropWhile fun m => !isMark m.2 with
  | [] => none
  | (place, c) :: rest => some (place, c, rest)

/-- The threshold that is written behind a place; nothing there lets everything through. -/
def threshold? (written : List Char) (start : Nat) : Option Threshold := do
  let word ← rest? written start
  if word.isEmpty then some (.upTo .trace) else Threshold.read? word

/-- Reads what may follow a closing bracket: nothing, or a threshold. -/
def afterSpan? (written : List Char) (d : Directive) : Marked → Option Directive
  | [] => some d
  | (place, c) :: _ =>
    if c = '=' then (threshold? written (place + 1)).map fun threshold => { d with threshold }
    else none

/-- Reads a field from a place on, which ends with a brace and a bracket. -/
def afterBrace? (written : List Char) (d : Directive) (start : Nat) (text : Marked) :
    Option Directive := do
  let (place, _, rest) ← mark? (· = '\x7d') text
  let field ← (part? written start place).bind FieldTest.read?
  match rest with
  | (_, ']') :: rest => afterSpan? written { d with field := some field } rest
  | _ => none

/-- Reads a span from a place on, which ends with a bracket, or with a brace if a field follows. -/
def afterBracket? (written : List Char) (d : Directive) (start : Nat) (text : Marked) :
    Option Directive := do
  let (place, c, rest) ← mark? (fun c => c = ']' || c = '\x7b') text
  let span ← part? written start place
  if c = ']' then afterSpan? written { d with span := some span } rest
  else
    let d := if span.isEmpty then d else { d with span := some span }
    afterBrace? written d (place + 1) rest

/-- Reads one directive. -/
def read? (text : String) : Option Directive :=
  let written := text.toList
  match marked 0 (trimmed written) with
  | [] => none
  | (place, c) :: rest =>
    if c = '[' then afterBracket? written {} (place + 1) rest
    else if !startsPath c then none
    else
      match mark? (fun c => c = '=' || c = '[') rest with
      | none => some (ofWord text)
      | some (place, c, rest) => do
        let path ← part? written 0 place
        if c = '=' then
          (threshold? written (place + 1)).map fun threshold => { path := some path, threshold }
        else afterBracket? written { path := some path } (place + 1) rest

end Directive

/-- Directives; of two that are equally particular and fit the same lines the later one counts. -/
abbrev Filter := List Directive

namespace Filter

/-- Shows lines of a threshold from anywhere. -/
def everywhere (threshold : Threshold) : Filter := [{ threshold }]

/-- Reads directives separated by commas. Text without any directive shows nothing; text that is no
directive makes the whole unreadable. -/
def read? (text : String) : Option Filter :=
  ((text.splitOn ",").filter (· ≠ "")).mapM Directive.read?

/-- The directive that decides about lines from a path. -/
def deciding (f : Filter) (path : String) : Option Directive :=
  f.foldl (fun best d =>
    if !d.fits path then best
    else match best with
      | none => some d
      | some b => if d.atLeastAsParticular b then some d else some b) none

/-- Whether a line is shown. -/
def shows (f : Filter) (e : Entry) : Bool :=
  match f.deciding e.origin.path with
  | none => false
  | some d => e.level.verbosity ≤ d.threshold.verbosity

end Filter

end ToneLink.Log
