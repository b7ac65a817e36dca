import ToneLink.CommandLine.Parse
import ToneLink.Log.Console

/-!
# The options for logging

Both programs let the user choose how much is logged and whether in colour.
-/

namespace ToneLink.CommandLine

/-- How much is logged, and whether in colour. -/
structure LogOptions where
  /-- The name of a threshold; any text is taken here, and looked at when logging starts. -/
  level : String := "info"
  color : Log.ColorChoice := .auto
  deriving DecidableEq, Repr

namespace LogOptions

/-- The settings for logging. -/
def settings : List (Setting LogOptions) :=
  [{ name := "log-level"
     help := "Log level filter (trace, debug, info, warn, error). `RUST_LOG` overrides it"
     defaultText := some "info"
     effect := .storing .text fun level o => { o with level } },
   { name := "color"
     help := "Coloring"
     defaultText := some "auto"
     choices := Log.ColorChoice.names.map (·.1)
     effect := .storing (.choice Log.ColorChoice.names) fun color o => { o with color } }]

/-- A command that has no other settings. -/
def command : Command LogOptions where
  name := "logging"
  about := ""
  version := none
  settings := settings
  initial := {}

end LogOptions

end ToneLink.CommandLine
