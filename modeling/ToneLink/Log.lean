/-!
# Log lines

Components do not print: they return the lines they would log, in order. A line has a level, the
component it comes from and a message; where it is shown decides what is written around it.

- `Log.Level`, ordered by verbosity;
- `Log.Origin`: the components that log, and the paths under which their lines are filtered;
- `Log.Entry`: one line; `Entry.line` is its level and message.
-/

namespace ToneLink.Log

/-- How serious a line is. -/
inductive Level
  | error
  | warn
  | info
  | debug
  | trace
  deriving DecidableEq, Repr

namespace Level

/-- Verbosity: a filter that lets a level through lets through all less verbose ones. -/
def verbosity : Level → Nat
  | .error => 1
  | .warn => 2
  | .info => 3
  | .debug => 4
  | .trace => 5

/-- The level's name in a line. -/
def name : Level → String
  | .error => "ERROR"
  | .warn => "WARN"
  | .info => "INFO"
  | .debug => "DEBUG"
  | .trace => "TRACE"

end Level

/-- The component that a line comes from. -/
inductive Origin
  | sender
  | sendSocket
  | receiver
  | receiveSocket
  | lossAccount
  | jitterQueue
  | reports
  | recording
  | audio
  | stopSignal
  | logging
  deriving DecidableEq, Repr

/-- The path that names a component in a line and in a filter. -/
def Origin.path : Origin → String
  | .sender => "sender"
  | .sendSocket => "sender::network"
  | .receiver => "receiver"
  | .receiveSocket => "receiver::network"
  | .lossAccount => "receiver::sequence"
  | .jitterQueue => "receiver::jitter_buffer"
  | .reports => "receiver::stats"
  | .recording => "receiver::capture"
  | .audio => "receiver::audio"
  | .stopSignal => "tone_stream_common::shutdown"
  | .logging => "tone_stream_common::observability::tracing"

/-- One log line. -/
structure Entry where
  level : Level
  origin : Origin
  message : String
  deriving DecidableEq, Repr

/-- The name of the one field that a line has. -/
def messageField : String := "message"

/-- Level and message of a line. -/
def Entry.line (e : Entry) : String := e.level.name ++ " " ++ e.message

end ToneLink.Log
