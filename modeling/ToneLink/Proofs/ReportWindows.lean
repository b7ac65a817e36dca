import Mathlib.Data.List.DropRight
import ToneLink.Proofs.SinkRun
import ToneLink.Proofs.StationBooks
import ToneLink.Wave.FileWriter

/-!
# What reports say of a run

A report counts packets and callbacks since the report before it, and packets since the start. Two
accumulators are reset by reading, the window of the account and the counters of the callbacks, and
the metrics are never reset. Each report nevertheless follows from what happened before it.

- `Station.Event.sinceReport`, `Station.Event.tally`: the open window of a run, and what its
  callbacks come to;
- `Station.ReportExact`: what a report says, from the events before it;
- `Station.History.Windowed`: the invariant of accumulators and metrics;
- `Station.reports_partition`: the windows of a run are its parts.
-/

namespace ToneLink

/-- A report takes the windows, and only they are reset. -/
theorem Ledger.report_eq (l : Ledger) (now : Instant) :
    l.report now
      = ({ window := l.losses.window
           received := l.losses.received
           lost := l.losses.lost
           kilobitsPerSecond := (l.losses.throughput now).bitsPerSecond / 1000
           packetsPerSecond := (l.losses.throughput now).packetsPerSecond
           bufferMillis := l.reporter.bufferMillis
           playback := if l.reporter.watchesPlayback then some l.counters else none },
         { losses := { l.losses with window := 0 }
           counters := if l.reporter.watchesPlayback then {} else l.counters
           reporter :=
            { l.reporter with lastReport := now, emitted := l.reporter.emitted + 1 } }) := by
  unfold Ledger.report
  cases l.reporter.watchesPlayback <;> rfl

namespace Station

variable {lib : Wave.Library}

open LossAccount (entry)

/-! ## Windows -/

namespace Event

/-- Whether a callback had to be padded. -/
def underflowed : Event → Bool
  | .callback _ underflowed _ => underflowed
  | _ => false

/-- The length of the queue at the start of a callback. -/
def depth? : Event → Option Nat
  | .callback depth _ _ => some depth
  | _ => none

/-- What happened since the last report. -/
def sinceReport (events : List Event) : List Event := events.rtakeWhile fun e => e.report?.isNone

/-- What the callbacks among some events come to: how many of them had to be padded, and the longest
queue. Both figures stop at the largest one that is kept. -/
def tally (events : List Event) : RenderCounters where
  underflows := min RenderCounters.ceiling (events.countP underflowed)
  maxDepth := ((events.filterMap depth?).map (min RenderCounters.ceiling)).foldl max 0

theorem sinceReport_concat {e : Event} (h : e.report? = none) (events : List Event) :
    sinceReport (events ++ [e]) = sinceReport events ++ [e] :=
  List.rtakeWhile_concat_pos _ _ _ (by rw [h]; rfl)

theorem sinceReport_report (events : List Event) (r : Report) :
    sinceReport (events ++ [.report r]) = [] :=
  List.rtakeWhile_concat_neg _ _ _ Bool.false_ne_true

/-! ### What one event does -/

/-- The account after an event that is no report. -/
def enter (a : LossAccount) : Event → LossAccount
  | .packet p _ _ => (a.record p.header.sequence p.payload.length).2
  | _ => a

/-- The counters after an event that is no report. -/
def count (c : RenderCounters) : Event → RenderCounters
  | .callback depth underflowed _ => c.record depth underflowed
  | _ => c

theorem enter_recordAll (e : Event) (a : LossAccount) (packets : List Packet) (window : Nat) :
    e.enter { a.recordAll (packets.map entry) with window }
      = { a.recordAll ((packets ++ e.packet?.toList).map entry) with
          window := window + e.packet?.toList.length } := by
  cases e with
  | packet p result fate =>
    show _ = { a.recordAll ((packets ++ [p]).map entry) with window := window + 1 }
    rw [List.map_append, List.map_singleton, LossAccount.recordAll_concat]
    rfl
  | callback depth underflowed taken =>
    show _ = { a.recordAll ((packets ++ []).map entry) with window := window + 0 }
    rw [List.append_nil]
    rfl
  | report r =>
    show _ = { a.recordAll ((packets ++ []).map entry) with window := window + 0 }
    rw [List.append_nil]
    rfl

/-- A packet counts in the window and in the total. -/
theorem window_enter (e : Event) (a : LossAccount) :
    (e.enter a).window + a.received = a.window + (e.enter a).received := by
  cases e with
  | packet p result fate =>
    show a.window + 1 + a.received = a.window + (a.received + 1)
    omega
  | callback depth underflowed taken => rfl
  | report r => rfl

/-- A callback is tallied as it is counted. -/
theorem tally_concat (e : Event) (events : List Event) :
    tally (events ++ [e]) = e.count (tally events) := by
  have hnone : ∀ {e : Event}, e.depth? = none → e.underflowed = false →
      tally (events ++ [e]) = tally events := by
    intro e hdepth hunderflowed
    rw [tally, filterMap_concat, hdepth, List.countP_append, List.countP_singleton, hunderflowed,
      Option.toList_none, List.append_nil]
    rfl
  cases e with
  | packet p result fate => exact hnone rfl rfl
  | report r => exact hnone rfl rfl
  | callback depth underflowed taken =>
    have hdepth : (events ++ [Event.callback depth underflowed taken]).filterMap depth?
        = events.filterMap depth? ++ [depth] := filterMap_concat _ _ _
    simp only [tally, count, RenderCounters.record, hdepth, List.map_append, List.map_singleton,
      List.foldl_append, List.foldl_cons, List.foldl_nil, List.countP_append, List.countP_singleton]
    cases underflowed
    · rfl
    · congr 1
      show min _ (_ + 1) = min _ (min _ _ + 1)
      omega

theorem maxDepth_count_le (e : Event) {c : RenderCounters}
    (h : c.maxDepth ≤ RenderCounters.ceiling) :
    (e.count c).maxDepth ≤ RenderCounters.ceiling := by
  cases e with
  | packet p result fate => exact h
  | callback depth underflowed taken => exact Nat.max_le.mpr ⟨h, Nat.min_le_left _ _⟩
  | report r => exact h

/-- Below the ceiling every padded callback counts. -/
theorem underflows_count (e : Event) (c : RenderCounters)
    (h : c.underflows + (if e.underflowed then 1 else 0) ≤ RenderCounters.ceiling) :
    (e.count c).underflows = c.underflows + if e.underflowed then 1 else 0 := by
  cases e with
  | packet p result fate => rfl
  | report r => rfl
  | callback depth underflowed taken =>
    cases underflowed
    · rfl
    · exact Nat.min_eq_right h

end Event

/-! ## Reports -/

namespace History

/-- The reports that were made, oldest first. -/
def reports (h : History lib) : List Report := h.events.filterMap Event.report?

/-- What the reports say of callbacks, oldest first. -/
def seen (h : History lib) : List RenderCounters := h.reports.filterMap Report.playback

end History

/-- What a report says, from the events before it: packets and losses since the start, packets and
callbacks since the last report. -/
structure ReportExact (start : Instant) (watchesPlayback : Bool) (before : List Event)
    (r : Report) : Prop where
  received_eq : r.received = (before.filterMap Event.packet?).length
  lost_eq : r.lost
    = ((LossAccount.opened start).recordAll ((before.filterMap Event.packet?).map entry)).lost
  window_eq : r.window = ((Event.sinceReport before).filterMap Event.packet?).length
  playback_eq : r.playback
    = if watchesPlayback then some (Event.tally (Event.sinceReport before)) else none

/-- In no window of a run more callbacks had to be padded than can be counted. -/
def Unsaturated (events : List Event) : Prop :=
  ∀ before, before <+: events →
    (Event.sinceReport before).countP Event.underflowed ≤ RenderCounters.ceiling

theorem Unsaturated.of_concat {events : List Event} {e : Event} (h : Unsaturated (events ++ [e])) :
    Unsaturated events :=
  fun before hbefore => h before (hbefore.trans (List.prefix_append events [e]))

/-- The invariant of windows, counters and metrics. -/
structure History.Windowed (start : Instant) (watchesPlayback : Bool) (h : History lib) : Prop where
  watches_eq : h.station.ledger.reporter.watchesPlayback = watchesPlayback
  losses_eq : h.station.ledger.losses
    = { (LossAccount.opened start).recordAll (h.packets.map entry) with
        window := ((Event.sinceReport h.events).filterMap Event.packet?).length }
  counters_eq : watchesPlayback = true →
    h.station.ledger.counters = Event.tally (Event.sinceReport h.events)
  depth_le : h.station.ledger.counters.maxDepth ≤ RenderCounters.ceiling
  emitted_eq : h.station.ledger.reporter.emitted = h.reports.length
  exact : EachAfter (fun before e => ∀ r, e = .report r →
    ReportExact start watchesPlayback before r) h.events
  windows_sum : (h.reports.map Report.window).sum + h.station.ledger.losses.window
    = h.station.ledger.losses.received
  underflows_sum : watchesPlayback = true → Unsaturated h.events →
    (h.seen.map RenderCounters.underflows).sum + h.station.ledger.counters.underflows
      = h.events.countP Event.underflowed
  seen_length : h.seen.length = if watchesPlayback then h.reports.length else 0
  underflows_eq : h.station.metrics.playbackUnderflows
    = (h.seen.map RenderCounters.underflows).sum.toUInt64
  depth_eq : h.station.metrics.queueDepth.toInt
    = ((h.seen.getLast?.map RenderCounters.maxDepth).getD 0 : Nat)

/-! ## One change -/

/-- The published underflows grow by those of the report. -/
theorem playbackUnderflows_publish (m : Metrics) (r : Report) :
    (publish m r).playbackUnderflows
      = m.playbackUnderflows + (r.playback.toList.map RenderCounters.underflows).sum.toUInt64 := by
  rw [publish]
  cases r.playback with
  | none => exact (UInt64.add_zero _).symm
  | some c => rfl

/-- The gauge shows the longest queue of the last report that saw callbacks. No length that is kept
is too large for it. -/
theorem queueDepth_publish {m : Metrics} {r : Report} {seen : List RenderCounters}
    (hm : m.queueDepth.toInt = ((seen.getLast?.map RenderCounters.maxDepth).getD 0 : Nat))
    (hle : ∀ c ∈ r.playback, c.maxDepth ≤ RenderCounters.ceiling) :
    (publish m r).queueDepth.toInt
      = (((seen ++ r.playback.toList).getLast?.map RenderCounters.maxDepth).getD 0 : Nat) := by
  rw [publish]
  cases hplayback : r.playback with
  | none =>
    rw [Option.toList_none, List.append_nil]
    exact hm
  | some c =>
    have hdepth : c.maxDepth ≤ RenderCounters.ceiling := hle c hplayback
    have hceiling : RenderCounters.ceiling < 2 ^ 32 := by decide
    rw [Option.toList_some, List.getLast?_concat]
    exact Int64.toInt_ofInt_of_le (by omega) (by omega)

namespace History.Windowed

variable {start : Instant} {watchesPlayback : Bool} {h later : History lib}

/-- An event that is no report changes the windows and the counters by what it brings. -/
theorem frame (hw : h.Windowed start watchesPlayback) {e : Event}
    (hevents : later.events = h.events ++ [e]) (hreport : e.report? = none)
    (hreporter : later.station.ledger.reporter = h.station.ledger.reporter)
    (hlosses : later.station.ledger.losses = e.enter h.station.ledger.losses)
    (hcounters : later.station.ledger.counters = e.count h.station.ledger.counters)
    (hunderflows : later.station.metrics.playbackUnderflows = h.station.metrics.playbackUnderflows)
    (hdepth : later.station.metrics.queueDepth = h.station.metrics.queueDepth) :
    later.Windowed start watchesPlayback := by
  have hpackets : later.packets = h.packets ++ e.packet?.toList := packets_concat hevents
  have hreports : later.reports = h.reports := by
    rw [reports, hevents, filterMap_concat, hreport]
    exact List.append_nil _
  have hseen : later.seen = h.seen := congrArg (List.filterMap Report.playback) hreports
  have hsince : Event.sinceReport later.events = Event.sinceReport h.events ++ [e] := by
    rw [hevents, Event.sinceReport_concat hreport]
  refine {
    watches_eq := ?_, losses_eq := ?_, counters_eq := fun hwatches => ?_, depth_le := ?_
    emitted_eq := ?_, exact := ?_, windows_sum := ?_, underflows_sum := fun hwatches hbelow => ?_
    seen_length := ?_, underflows_eq := ?_, depth_eq := ?_ }
  · rw [hreporter]
    exact hw.watches_eq
  · rw [hlosses, hw.losses_eq, Event.enter_recordAll, hpackets, hsince, filterMap_concat,
      List.length_append]
  · rw [hcounters, hw.counters_eq hwatches, hsince, Event.tally_concat]
  · rw [hcounters]
    exact e.maxDepth_count_le hw.depth_le
  · rw [hreporter, hreports]
    exact hw.emitted_eq
  · -- only reports say anything
    rw [hevents]
    refine hw.exact.concat fun r hr => ?_
    rw [hr] at hreport
    cases hreport
  · have hsum := hw.windows_sum
    have hwindow := e.window_enter h.station.ledger.losses
    rw [hreports, hlosses]
    omega
  · -- the open window is below the ceiling, so a padded callback still counts
    rw [hevents] at hbelow hsince
    have hsum := hw.underflows_sum hwatches hbelow.of_concat
    have hopen := hbelow _ (List.prefix_refl _)
    rw [hsince, List.countP_append, List.countP_singleton] at hopen
    have hcounted : h.station.ledger.counters.underflows
        ≤ (Event.sinceReport h.events).countP Event.underflowed := by
      rw [hw.counters_eq hwatches]
      exact Nat.min_le_right _ _
    rw [hseen, hcounters, hevents, Event.underflows_count e _ (by omega), List.countP_append,
      List.countP_singleton]
    omega
  · rw [hseen, hreports]
    exact hw.seen_length
  · rw [hseen, hunderflows]
    exact hw.underflows_eq
  · rw [hseen, hdepth]
    exact hw.depth_eq

/-- A report says what the windows hold. -/
theorem reportExact (hw : h.Windowed start watchesPlayback) {r : Report}
    (hwindow : r.window = h.station.ledger.losses.window)
    (hreceived : r.received = h.station.ledger.losses.received)
    (hlost : r.lost = h.station.ledger.losses.lost)
    (hplayback : r.playback = if watchesPlayback then some h.station.ledger.counters else none) :
    ReportExact start watchesPlayback h.events r := by
  rw [hw.losses_eq] at hwindow hreceived hlost
  refine { received_eq := ?_, lost_eq := hlost, window_eq := hwindow, playback_eq := ?_ }
  · rw [hreceived]
    show ((LossAccount.opened start).recordAll _).received = _
    rw [LossAccount.received_recordAll, List.length_map]
    exact Nat.zero_add _
  · rw [hplayback]
    cases watchesPlayback with
    | false => rfl
    | true => rw [hw.counters_eq rfl]

/-- A report closes the windows. -/
theorem report (hw : h.Windowed start watchesPlayback) (now : Instant) :
    (h.report now).Windowed start watchesPlayback := by
  have hledger := h.station.ledger.report_eq now
  rw [hw.watches_eq] at hledger
  generalize hr : (h.station.ledger.report now).1 = r
  have hevents : (h.report now).events = h.events ++ [.report r] := by
    rw [← hr]
    rfl
  have hmetrics : (h.report now).station.metrics = publish h.station.metrics r := by
    rw [← hr]
    rfl
  have hlater : (h.report now).station.ledger = (h.station.ledger.report now).2 := rfl
  rw [hledger] at hr hlater
  have hplayback : r.playback
      = if watchesPlayback then some h.station.ledger.counters else none := by rw [← hr]
  have hpackets : (h.report now).packets = h.packets :=
    (packets_concat hevents).trans (List.append_nil _)
  have hreports : (h.report now).reports = h.reports ++ [r] := by
    rw [reports, hevents, filterMap_concat]
    rfl
  have hseen : (h.report now).seen = h.seen ++ r.playback.toList := by
    rw [seen, hreports, filterMap_concat]
    rfl
  have hsince : Event.sinceReport (h.report now).events = [] := by
    rw [hevents, Event.sinceReport_report]
  refine {
    watches_eq := ?_, losses_eq := ?_, counters_eq := fun hwatches => ?_, depth_le := ?_
    emitted_eq := ?_, exact := ?_, windows_sum := ?_, underflows_sum := fun hwatches hbelow => ?_
    seen_length := ?_, underflows_eq := ?_, depth_eq := ?_ }
  · rw [hlater]
    exact hw.watches_eq
  · rw [hlater, hpackets, hsince, hw.losses_eq]
    rfl
  · rw [hlater, hsince, hwatches]
    rfl
  · rw [hlater]
    cases watchesPlayback
    · exact hw.depth_le
    · exact Nat.zero_le _
  · rw [hlater, hreports, List.length_append]
    exact congrArg (· + 1) hw.emitted_eq
  · rw [hevents]
    refine hw.exact.concat fun r' hr' => ?_
    cases hr'
    refine hw.reportExact ?_ ?_ ?_ hplayback <;> rw [← hr]
  · -- the open window moves into the sum
    have hwindow : r.window = h.station.ledger.losses.window := by rw [← hr]
    rw [hlater, hreports, List.map_append, List.sum_append, List.map_singleton, List.sum_singleton,
      hwindow]
    exact hw.windows_sum
  · -- and so does the open count
    rw [hevents] at hbelow
    rw [hwatches] at hplayback
    rw [hlater, hseen, hplayback, hevents, hwatches, List.map_append, List.sum_append,
      List.countP_append]
    exact hw.underflows_sum hwatches hbelow.of_concat
  · rw [hseen, hreports, hplayback, List.length_append, List.length_append, hw.seen_length]
    cases watchesPlayback <;> rfl
  · rw [hmetrics, hseen, playbackUnderflows_publish, hw.underflows_eq, List.map_append,
      List.sum_append]
    exact (UInt64.ofNat_add _ _).symm
  · rw [hmetrics, hseen]
    refine queueDepth_publish hw.depth_eq fun c hc => ?_
    rw [hplayback] at hc
    cases watchesPlayback
    · cases hc
    · cases hc
      exact hw.depth_le

theorem change (hw : h.Windowed start watchesPlayback) (hchange : Change h later) :
    later.Windowed start watchesPlayback := by
  have hunderflows : ∀ p : Packet, (h.station.account p).1.metrics.playbackUnderflows
      = h.station.metrics.playbackUnderflows := fun p =>
    (h.station.get_account p .playbackUnderflows).trans (UInt64.add_zero _)
  have hdepth := h.station.queueDepth_account
  cases hchange with
  | played hqueue hsplit playout underflowed =>
    exact hw.frame (e := .callback _ _ _) rfl rfl rfl rfl rfl rfl rfl
  | counted depth underflowed => exact hw.frame rfl rfl rfl rfl rfl rfl rfl
  | failed p e hrecord => exact hw.frame rfl rfl rfl rfl rfl (hunderflows p) (hdepth p)
  | unplayed p hrecord hqueue => exact hw.frame rfl rfl rfl rfl rfl (hunderflows p) (hdepth p)
  | queued p hrecord hqueue hroom =>
    exact hw.frame rfl rfl rfl rfl rfl (hunderflows p) (hdepth p)
  | dropped p hrecord hqueue hfull =>
    exact hw.frame rfl rfl rfl rfl rfl (hunderflows p) (hdepth p)
  | reported now => exact hw.report now

end History.Windowed

/-! ## The law -/

/-- **Reports partition a run.** In any run of a station with fresh books, at whatever instants
reports are made or asked for, each report says how many packets have come in and how many count as
lost up to then, how many packets came in since the report before it and, if playback is watched,
what the callbacks since then come to. So the windows of all reports and the open one add up to the
packets, and unless a window had more callbacks to pad than can be counted, their underflows and the
open ones add up to the padded callbacks. The metrics show the sum of the reported underflows, as a
64-bit number, and the longest queue of the last report; if playback is not watched they show
neither. -/
theorem reports_partition (s : Station lib) (start : Instant) (steps : List Step)
    (hlosses : s.ledger.losses = .opened start) (hcounters : s.ledger.counters = {})
    (hmetrics : s.metrics = {}) (hemitted : s.ledger.reporter.emitted = 0) :
    let watches := s.ledger.reporter.watchesPlayback
    let h := s.run steps
    let l := h.station.ledger
    let underflows := (h.seen.map RenderCounters.underflows).sum
    h.packets = steps.filterMap Step.packet? ∧
      (∀ (j : Nat) (hj : j < h.events.length) (r : Report), h.events[j] = .report r →
        ReportExact start watches (h.events.take j) r) ∧
      (h.reports.map Report.window).sum + l.losses.window = l.losses.received ∧
      l.losses.received = h.packets.length ∧
      l.reporter.emitted = h.reports.length ∧
      (watches = true →
        h.seen.length = h.reports.length ∧
        l.counters = Event.tally (Event.sinceReport h.events) ∧
        (Unsaturated h.events →
          underflows + l.counters.underflows = h.events.countP Event.underflowed)) ∧
      h.station.metrics.playbackUnderflows.toNat = underflows % 2 ^ 64 ∧
      h.station.metrics.queueDepth.toInt
        = ((h.seen.getLast?.map RenderCounters.maxDepth).getD 0 : Nat) ∧
      (watches = false → h.seen = [] ∧ h.station.metrics.playbackUnderflows = 0 ∧
        h.station.metrics.queueDepth.toInt = 0) := by
  intro watches h l underflows
  have hw : h.Windowed start watches := by
    refine s.run_induction steps ?_ History.Windowed.change
    exact {
      watches_eq := rfl
      losses_eq := hlosses
      counters_eq := fun _ => hcounters
      depth_le := by
        rw [hcounters]
        exact Nat.zero_le _
      emitted_eq := hemitted
      exact := EachAfter.nil _
      windows_sum := by
        rw [hlosses]
        rfl
      underflows_sum := fun _ _ => by
        rw [hcounters]
        rfl
      seen_length := by cases watches <;> rfl
      underflows_eq := by
        rw [hmetrics]
        rfl
      depth_eq := by
        rw [hmetrics]
        rfl }
  have hreceived : l.losses.received = h.packets.length := by
    show h.station.ledger.losses.received = _
    rw [hw.losses_eq]
    show ((LossAccount.opened start).recordAll _).received = _
    rw [LossAccount.received_recordAll, List.length_map]
    exact Nat.zero_add _
  refine ⟨s.run_packets steps, hw.exact, hw.windows_sum, hreceived, hw.emitted_eq,
    fun hwatches => ⟨?_, hw.counters_eq hwatches, hw.underflows_sum hwatches⟩, ?_, hw.depth_eq,
    fun hwatches => ?_⟩
  · rw [hw.seen_length, if_pos hwatches]
  · rw [hw.underflows_eq]
    exact UInt64.toNat_ofNat'
  · have hnone : h.seen = [] := by
      refine List.length_eq_zero_iff.mp ?_
      rw [hw.seen_length, hwatches]
      rfl
    have hunderflows := hw.underflows_eq
    have hdepth := hw.depth_eq
    rw [hnone] at hunderflows hdepth
    exact ⟨hnone, hunderflows, hdepth⟩

/-- Two windows, of which the second is closed at an earlier instant than the first. -/
theorem reports_partition_two_windows :
    let s : Station (Wave.onDisk fun _ => .ok .file) :=
      { ledger := .opened ⟨0⟩ reportPeriod 20 true, queue := none, recording := none }
    let steps : List Step :=
      [.packet .bare ⟨{ sequence := 5 }, [1]⟩ [] [], .callback 3 true, .reportIfDue ⟨1⟩,
       .report ⟨9⟩, .packet .bare ⟨{ sequence := 9 }, [2]⟩ [] [], .callback 2 false,
       .callback 7 true, .report ⟨4⟩, .packet .bare ⟨{ sequence := 10 }, [3]⟩ [] []]
    let h := s.run steps
    s.ledger.losses = .opened ⟨0⟩ ∧ s.ledger.counters = {} ∧ s.metrics = {} ∧
      s.ledger.reporter.emitted = 0 ∧
      h.reports.map Report.window = [1, 1] ∧ h.station.ledger.losses.received = 3 ∧
      h.station.ledger.losses.window = 1 ∧ h.seen = [⟨1, 3⟩, ⟨1, 7⟩] ∧
      h.station.metrics.playbackUnderflows.toNat = 2 ∧ h.station.metrics.queueDepth.toInt = 7 := by
  intro s steps h
  obtain ⟨hpackets, -, hwindows, hreceived, -, -, hunderflows, hdepth, -⟩ :=
    reports_partition s ⟨0⟩ steps rfl rfl rfl rfl
  have hrun : h.reports.map Report.window = [1, 1] ∧ h.seen = [⟨1, 3⟩, ⟨1, 7⟩] := by
    decide +kernel
  have hthree : h.station.ledger.losses.received = 3 := by
    rw [hreceived, hpackets]
    rfl
  rw [hrun.1, hthree] at hwindows
  rw [hrun.2] at hunderflows hdepth
  refine ⟨rfl, rfl, rfl, rfl, hrun.1, hthree, ?_, hrun.2, hunderflows, hdepth⟩
  exact Nat.add_left_cancel hwindows

end Station

end ToneLink
