import ToneLink.ConfigError
import ToneLink.Program.Logging
import ToneLink.Wave.Recording

/-!
# How a program ends

A program answers with an exit code, a text on its output, the lines it logged and what it has to
say in the end about a failure.

- `Failure`: why a run fails, and the lines that say so;
- `Outcome`: the end of a program; `Outcome.ofStop` for one that never ran;
- `Outcome.errorLines`, `Outcome.fileLines`: what is seen of it.
-/

namespace ToneLink.Program

open CommandLine

/-- Why a run fails. -/
inductive Failure
  | logFile (path : String) (cause : Disk.Error)
  | configuration (error : ConfigError)
  | recording (error : RecordingError)
  /-- The socket cannot be opened at an address, for a cause as the system words it. -/
  | socket (address cause : String)

/-- What was being done and what went wrong, as the last lines of a program show it. -/
def causedBy (context cause : String) : List String :=
  ["Error: " ++ context, "", "Caused by:", "    " ++ cause]

/-- The last lines of a program that fails. -/
def Failure.lines : Failure → List String
  | .logFile path cause => causedBy ("failed to open log file: " ++ path) cause.message
  | .configuration error => ["Error: " ++ error.message]
  | .recording error => causedBy error.context error.cause
  | .socket address cause => causedBy ("failed to bind UDP socket to " ++ address) cause

/-- The end of a program. -/
structure Outcome where
  exitCode : UInt8 := 0
  /-- Text on the output. -/
  output : String := ""
  /-- How it logged, if it came so far. -/
  logging : Option Logging := none
  /-- Everything it logged. -/
  log : List Log.Entry := []
  /-- Lines after the log lines. -/
  lastLines : List String := []
  /-- What its recording leaves behind. -/
  recording : Option Recording.Ended := none

namespace Outcome

/-- The end of a command line that cannot be run, or that only asks for information. -/
def ofStop {σ : Type} (c : Command σ) : Stop → Outcome
  | .helpWanted => { output := c.helpText }
  | .versionWanted => { output := c.versionText }
  | stop =>
    { exitCode := 2
      lastLines := ["error: " ++ stop.message, "", "For more information, try '--help'."] }

/-- The end of a run that fails. -/
def failed (logging : Option Logging) (log : List Log.Entry) (failure : Failure) : Outcome :=
  { exitCode := 1, logging, log, lastLines := failure.lines }

/-- All that is written besides the output: log lines and last lines. -/
def errorLines (o : Outcome) (time : String) : List String :=
  (match o.logging with
    | none => []
    | some l => l.console time o.log) ++ o.lastLines

/-- The lines of the log file, if there is one. -/
def fileLines (o : Outcome) (time : String) : Option (List String) :=
  match o.logging with
  | none => none
  | some l => l.filePath.map fun _ => l.file time o.log

end Outcome

end ToneLink.Program
