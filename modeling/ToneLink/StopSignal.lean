import ToneLink.Log

/-!
# Stopping

A run is stopped by a signal that anyone who holds it can raise and that is never lowered. Copies of
a signal are the same signal; whoever waits for it waits no longer than until it is raised.

- `StopSignals`: the signals of a process, the handles by which they are held, and who waits.
-/

namespace ToneLink

/-- The signals of a process. Each handle and each waiter belongs to one signal. -/
structure StopSignals where
  /-- Whether each signal is raised. -/
  raised : List Bool
  /-- The signal of each handle. -/
  handles : List Nat
  /-- The signal of each waiter. -/
  waiters : List Nat := []
  deriving DecidableEq, Repr

namespace StopSignals

/-- One signal with one handle. -/
def start : StopSignals := { raised := [false], handles := [0] }

/-- The signal that a handle stands for; an unknown handle stands for none. -/
def signalOf (s : StopSignals) (handle : Nat) : Nat := s.handles.getD handle s.raised.length

/-- Whether the signal of a handle is raised. -/
def isRaised (s : StopSignals) (handle : Nat) : Bool := s.raised.getD (s.signalOf handle) false

/-- A new signal; its handle. -/
def create (s : StopSignals) : Nat × StopSignals :=
  (s.handles.length,
    { s with raised := s.raised ++ [false], handles := s.handles ++ [s.raised.length] })

/-- Another handle of the same signal. -/
def copy (s : StopSignals) (handle : Nat) : Nat × StopSignals :=
  (s.handles.length, { s with handles := s.handles ++ [s.signalOf handle] })

/-- Raises the signal of a handle. Raising it again changes nothing. -/
def raise (s : StopSignals) (handle : Nat) : StopSignals :=
  { s with raised := s.raised.set (s.signalOf handle) true }

/-- Starts waiting for the signal of a handle; the waiter. -/
def wait (s : StopSignals) (handle : Nat) : Nat × StopSignals :=
  (s.waiters.length, { s with waiters := s.waiters ++ [s.signalOf handle] })

/-- Whether a waiter has been released. -/
def isReleased (s : StopSignals) (waiter : Nat) : Bool :=
  match s.waiters[waiter]? with
  | none => false
  | some signal => s.raised.getD signal false

/-- Whether each handle's signal is raised. -/
def states (s : StopSignals) : List Bool := (List.range s.handles.length).map s.isRaised

/-- What is logged when an interrupt of the user raises the signal. -/
def interruptEntry : Log.Entry :=
  ⟨.info, .stopSignal, "Interrupt received, shutting down"⟩

end StopSignals

end ToneLink
