import ToneLink.CommandLine.LogOptions
import ToneLink.Disk
import ToneLink.Log.Filter
import ToneLink.Text.Quoted

/-!
# Logging of a program

Before a program does anything else it decides which lines are shown, whether in colour, and whether
a log file gets a copy. The filter of the environment comes before that of the command line; an
unknown threshold on the command line is replaced and complained about.

- `Surroundings`: what a program finds around it;
- `Logging.configure`, `Logging.start`: the decision, and what can stand in its way;
- `Logging.console`, `Logging.file`: lines as shown.
-/

namespace ToneLink.Program

open CommandLine

/-- What a program finds around it. -/
structure Surroundings where
  /-- The log filter of the environment. -/
  filter : Option String := none
  /-- Whether the environment forbids colour. -/
  colorForbidden : Bool := false
  /-- Whether log lines go to a terminal. -/
  isTerminal : Bool := false
  /-- What opening a file comes to. -/
  openFile : Disk.Opener

/-- How a program logs. -/
structure Logging where
  filter : Log.Filter
  color : Bool
  /-- A file that gets a copy of each line, without colour. -/
  filePath : Option String

namespace Logging

/-- The threshold for lines from anywhere if none is named, or none that is known. -/
def fallback : Log.Threshold := .upTo .info

/-- Decides how a program logs. -/
def configure (around : Surroundings) (options : LogOptions) (filePath : Option String) :
    Logging where
  filter := (around.filter.bind Log.Filter.read?).getD
    (.everywhere ((Log.Threshold.read? options.level).getD fallback))
  color := options.color.useColor around.colorForbidden around.isTerminal
  filePath := filePath

/-- What is logged if the threshold on the command line is unknown, even where it does not count. -/
def complaint (options : LogOptions) : List Log.Entry :=
  if (Log.Threshold.read? options.level).isSome then []
  else [⟨.warn, .logging, "Unknown log level " ++ Text.quoted options.level ++ ", using info"⟩]

/-- Starts to log, unless there is to be a log file and it cannot be opened. -/
def start (around : Surroundings) (options : LogOptions) (filePath : Option String) :
    Except Disk.Error (Logging × List Log.Entry) := do
  if let some path := filePath then
    let _ ← around.openFile path
  return (configure around options filePath, complaint options)

/-- The lines among `entries` that are shown, as a console shows them. -/
def console (l : Logging) (time : String) (entries : List Log.Entry) : List String :=
  (entries.filter l.filter.shows).map (·.console time l.color)

/-- The same lines as the log file gets them. -/
def file (l : Logging) (time : String) (entries : List Log.Entry) : List String :=
  (entries.filter l.filter.shows).map (·.console time false)

end Logging

end ToneLink.Program
