import ToneLink.Duration
import ToneLink.Number.Literal
import ToneLink.PcmFormat
import ToneLink.Text.Lowercase
import ToneLink.Text.Quoted

/-!
# Output devices

The sound system offers a default device and a list of devices. Any step towards a playing stream
may fail: getting a thread to do it on, listing the devices, opening one, starting it, and all of it
may take too long.

- `Audio.Device`, `Audio.System`: what there is, and what goes wrong with it;
- `Audio.Query`: the device a user wants; `Query.read` understands a position or part of a name;
- `System.select`, `System.openStream`: from a query to a running stream.
-/

namespace ToneLink.Audio

/-- An output device. -/
structure Device where
  /-- A device may refuse to tell its name. -/
  name : Option String
  /-- Why the device cannot be opened, if it cannot. -/
  openError : Option String := none
  /-- Why the device cannot be started, if it cannot. -/
  startError : Option String := none
  /-- Whether opening and starting take longer than the receiver waits. -/
  late : Bool := false
  deriving DecidableEq, Repr

/-- The sound system. -/
structure System where
  default : Option Device
  devices : List Device
  /-- Why the devices cannot be listed, if they cannot. -/
  listError : Option String := none
  /-- Why there is no thread for the output, if there is none. -/
  threadError : Option String := none
  deriving DecidableEq, Repr

/-- How long the receiver waits for a device to start. -/
def startupTimeout : Duration := .seconds 5

/-- Which device is wanted. -/
inductive Query
  /-- The device at a position of the list. -/
  | index (position : Nat)
  /-- The first device whose name contains a text, case disregarded. -/
  | named (part : String)
  deriving DecidableEq, Repr

/-- A number is a position, anything else part of a name. -/
def Query.read (text : String) : Query :=
  match Number.readWhole .word text with
  | .ok n => .index n.toNat
  | .error _ => .named text

/-- Why no stream is playing. -/
inductive Failure
  | noThread (reason : String)
  | noDefault
  | cannotList (reason : String)
  | noneAt (position : Nat)
  | noneNamed (part : String)
  | cannotOpen (reason : String)
  | cannotStart (reason : String)
  | notInTime
  deriving DecidableEq, Repr

/-- The wording of a failure. -/
def Failure.message : Failure → String
  | .noThread reason => "failed to spawn audio thread: " ++ reason
  | .noDefault => "no output device available"
  | .cannotList reason => "failed to list output devices: " ++ reason
  | .noneAt position => s!"no output device at index {position}"
  | .noneNamed part => "no output device matching " ++ Text.quoted part
  | .cannotOpen reason => "failed to build output stream: " ++ reason
  | .cannotStart reason => "failed to start audio stream: " ++ reason
  | .notInTime => s!"audio device did not start within {startupTimeout.text}"

namespace Device

/-- Whether a device answers to part of a name. A device without a name answers to none. -/
def answersTo (d : Device) (part : String) : Bool :=
  match d.name with
  | none => false
  | some name => Text.containsIgnoringCase name part

/-- The name under which a device is reported. -/
def displayName (d : Device) : String := d.name.getD "<unnamed>"

end Device

namespace System

/-- The device that a query stands for; without a query, the default one. -/
def select (s : System) : Option Query → Except Failure Device
  | none => s.default.elim (.error .noDefault) .ok
  | some query =>
    match s.listError with
    | some reason => .error (.cannotList reason)
    | none =>
      match query with
      | .index position => s.devices[position]?.elim (.error (.noneAt position)) .ok
      | .named part =>
        (s.devices.find? (·.answersTo part)).elim (.error (.noneNamed part)) .ok

end System

/-- A running output stream. -/
structure Stream where
  device : String
  format : PcmFormat
  deriving DecidableEq, Repr

/-- Opens and starts a device. What becomes of one that is late, nobody waits to see. -/
def Device.start (d : Device) (format : PcmFormat) : Except Failure Stream :=
  if d.late then .error .notInTime
  else
    match d.openError with
    | some reason => .error (.cannotOpen reason)
    | none =>
      match d.startError with
      | some reason => .error (.cannotStart reason)
      | none => .ok ⟨d.displayName, format⟩

end ToneLink.Audio
