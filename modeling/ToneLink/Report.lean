import ToneLink.LossAccount
import ToneLink.Number.Decimal

/-!
# Reports

At most once per period the receiver reports how the stream is doing: the totals and rates of the
loss account and, while audio is played, what the render callbacks saw since the last report.

- `RenderCounters`: what callbacks saw; `record` one callback, `take` and reset;
- `Report`, `Report.text`: one report and its line;
- `Ledger`: loss account, render counters and report schedule kept together; `Ledger.report` and
  `Ledger.reportIfDue` close a window.
-/

namespace ToneLink

open Number

/-! ### Render counters -/

/-- What the render callbacks of a window saw. Both figures stop at the largest 32-bit number. -/
structure RenderCounters where
  /-- Callbacks that had to be padded. -/
  underflows : Nat := 0
  /-- Longest queue at the start of a callback. -/
  maxDepth : Nat := 0
  deriving DecidableEq, Repr

namespace RenderCounters

/-- Largest figure kept. -/
def ceiling : Nat := UInt32.size - 1

/-- Enters one callback. -/
def record (c : RenderCounters) (depth : Nat) (underflowed : Bool) : RenderCounters where
  underflows := if underflowed then min ceiling (c.underflows + 1) else c.underflows
  maxDepth := max c.maxDepth (min ceiling depth)

/-- The figures of the window, and counters for the next one. -/
def take (c : RenderCounters) : RenderCounters × RenderCounters := (c, {})

end RenderCounters

/-! ### One report -/

/-- The figures of one report. -/
structure Report where
  window : Nat
  received : Nat
  lost : Nat
  kilobitsPerSecond : Float
  packetsPerSecond : Float
  /-- Configured depth of the jitter buffer. -/
  bufferMillis : Float
  /-- What the callbacks saw, while audio is played. -/
  playback : Option RenderCounters
  deriving DecidableEq

namespace Report

/-- The line of a report; measured figures have one decimal. -/
def text (r : Report) : String :=
  let stream := s!"received={r.received} (+{r.window}) lost={r.lost} bitrate="
    ++ fixedText 1 r.kilobitsPerSecond ++ " kbps packet_rate=" ++ fixedText 1 r.packetsPerSecond
    ++ "/s buffer=" ++ fixedText 1 r.bufferMillis ++ " ms"
  match r.playback with
  | none => stream
  | some c => stream ++ s!" underflows={c.underflows} max_depth={c.maxDepth}"

/-- A report is logged. -/
def entry (r : Report) : Log.Entry := ⟨.info, .reports, "Stats: " ++ r.text⟩

end Report

/-! ### When to report -/

/-- When the next report is due and what it echoes. -/
structure Reporter where
  period : Duration
  lastReport : Instant
  bufferMillis : Float
  /-- Whether reports include the render counters. -/
  watchesPlayback : Bool
  /-- Reports made so far. -/
  emitted : Nat := 0
  deriving DecidableEq

namespace Reporter

/-- Whether a full period has passed since the last report. -/
def isDue (r : Reporter) (now : Instant) : Bool :=
  r.period.nanos ≤ (now.since r.lastReport).nanos

end Reporter

/-! ### The books of a run -/

/-- Everything that is counted for reports. -/
structure Ledger where
  losses : LossAccount
  counters : RenderCounters := {}
  reporter : Reporter
  deriving DecidableEq

namespace Ledger

/-- Books that open at `start`. -/
def opened (start : Instant) (period : Duration) (bufferMillis : Float)
    (watchesPlayback : Bool) : Ledger where
  losses := .opened start
  reporter := { period, lastReport := start, bufferMillis, watchesPlayback }

/-- Enters a packet. -/
def enter (l : Ledger) (sequence : UInt32) (length : Nat) : Arrival × Ledger :=
  let (arrival, losses) := l.losses.record sequence length
  (arrival, { l with losses })

/-- Enters a render callback. -/
def recordCallback (l : Ledger) (depth : Nat) (underflowed : Bool) : Ledger :=
  { l with counters := l.counters.record depth underflowed }

/-- Makes a report and starts new windows. The render counters are only read, and only reset, if
the reporter watches them. -/
def report (l : Ledger) (now : Instant) : Report × Ledger :=
  let (figures, losses) := l.losses.closeWindow now
  let (playback, counters) :=
    if l.reporter.watchesPlayback then
      let (seen, fresh) := l.counters.take
      (some seen, fresh)
    else (none, l.counters)
  ({ window := figures.window
     received := figures.received
     lost := figures.lost
     kilobitsPerSecond := figures.bitsPerSecond / 1000
     packetsPerSecond := figures.packetsPerSecond
     bufferMillis := l.reporter.bufferMillis
     playback },
   { losses, counters
     reporter := { l.reporter with lastReport := now, emitted := l.reporter.emitted + 1 } })

/-- Makes a report if one is due; otherwise nothing changes. -/
def reportIfDue (l : Ledger) (now : Instant) : Option Report × Ledger :=
  if l.reporter.isDue now then
    let (r, l) := l.report now
    (some r, l)
  else (none, l)

end Ledger

end ToneLink
