import Mathlib.Data.List.Chain
import Mathlib.Order.Defs.LinearOrder
import ToneLink.Proofs.ReportWindows

/-!
# When reports are made

Nobody keeps a deadline: each time it is looked whether a full period has passed since the last
report, and the instants of these looks may come in any order.

- `Station.Look`: one look, and what it came to;
- `Station.watch`: a run that keeps its looks;
- `Station.Watch.Timed`: what every step keeps;
- `Station.reports_on_time`: the law of reports.
-/

namespace ToneLink

/-! ## Instants -/

/-- An instant that the clock can show. -/
def Instant.OnClock (t : Instant) : Prop := -Instant.limit ≤ t.nanos ∧ t.nanos < Instant.limit

/-- Elapsed time never overflows. -/
theorem Instant.OnClock.since_lt {now earlier : Instant} (hnow : now.OnClock)
    (hearlier : earlier.OnClock) : (now.since earlier).nanos < Duration.limit := by
  obtain ⟨-, hnow⟩ := hnow
  obtain ⟨hearlier, -⟩ := hearlier
  have hpos : 0 < Instant.limit := by decide
  have hlimit : (Duration.limit : Int) = 2 * Instant.limit := by decide
  show (now.nanos - earlier.nanos).toNat < Duration.limit
  omega

/-- A report is due once a full period has passed. Without a period it would be due even at an
instant before the last report, where the elapsed time is cut off at zero. -/
theorem Reporter.isDue_iff {r : Reporter} (hperiod : 0 < r.period.nanos) (now : Instant) :
    r.isDue now = true ↔ r.lastReport.nanos + r.period.nanos ≤ now.nanos := by
  rw [isDue, decide_eq_true_iff]
  show r.period.nanos ≤ (now.nanos - r.lastReport.nanos).toNat ↔ _
  omega

namespace Station

variable {lib : Wave.Library}

/-! ## Looks -/

/-- A look whether a report is due: when, the station before it and after it, and the report if one
was made. -/
structure Look (lib : Wave.Library) where
  now : Instant
  before : Station lib
  report : Option Report
  after : Station lib

namespace Look

/-- The instant of the report, if one was made. -/
def reported? (l : Look lib) : Option Instant := l.report.map fun _ => l.now

/-- A look that reports exactly if a full period has passed since the last report, and changes
nothing otherwise. -/
structure Decided (period : Duration) (last : Instant) (l : Look lib) : Prop where
  lastReport_eq : l.before.ledger.reporter.lastReport = last
  isSome_iff : l.report.isSome ↔ last.nanos + period.nanos ≤ l.now.nanos
  unchanged : l.report = none → l.after = l.before
  reported : ∀ r, l.report = some r → l.before.report l.now = (r, l.after)

end Look

/-- The instants of the reports that were made, oldest first. -/
def reportTimes (looks : List (Look lib)) : List Instant := looks.filterMap Look.reported?

/-- The instant of the last report, or the start if none was made. -/
def lastReport (start : Instant) (looks : List (Look lib)) : Instant :=
  (reportTimes looks).getLastD start

/-- The instant of a look. -/
def Step.lookedAt? : Step → Option Instant
  | .reportIfDue now => some now
  | _ => none

/-- A run, and the looks of it. -/
structure Watch (lib : Wave.Library) where
  history : History lib
  /-- The looks, oldest first. -/
  looks : List (Look lib) := []

/-- Looks whether a report is due. -/
def Watch.look (w : Watch lib) (now : Instant) : Watch lib where
  history := w.history.reportIfDue now
  looks := w.looks ++ [⟨now, w.history.station, (w.history.station.reportIfDue now).1,
    (w.history.station.reportIfDue now).2⟩]

/-- One step of a run. -/
def Watch.step (w : Watch lib) : Step → Watch lib
  | .reportIfDue now => w.look now
  | step => { w with history := w.history.step step }

/-- A run of a station that keeps its looks. -/
def watch (s : Station lib) (steps : List Step) : Watch lib :=
  steps.foldl Watch.step { history := { station := s } }

/-- To keep the looks leaves the run as it is. -/
theorem watch_history (s : Station lib) (steps : List Step) :
    (s.watch steps).history = s.run steps := by
  have hsteps : ∀ (steps : List Step) (w : Watch lib),
      (steps.foldl Watch.step w).history = steps.foldl History.step w.history := by
    intro steps
    induction steps with
    | nil => exact fun w => rfl
    | cons step rest ih =>
      intro w
      rw [List.foldl_cons, List.foldl_cons, ih]
      cases step <;> rfl
  exact hsteps steps { history := { station := s } }

/-- There is one look for each step that looks. -/
theorem watch_looks (s : Station lib) (steps : List Step) :
    (s.watch steps).looks.map Look.now = steps.filterMap Step.lookedAt? := by
  have hsteps : ∀ (steps : List Step) (w : Watch lib), (steps.foldl Watch.step w).looks.map Look.now
      = w.looks.map Look.now ++ steps.filterMap Step.lookedAt? := by
    intro steps
    induction steps with
    | nil => exact fun w => (List.append_nil _).symm
    | cons step rest ih =>
      intro w
      rw [List.foldl_cons, ih]
      cases step with
      | reportIfDue now =>
        show (w.looks ++ [_]).map Look.now ++ _ = _
        rw [List.map_append, List.append_assoc]
        rfl
      | packet | report | isDue | fill | callback => rfl
  exact hsteps steps { history := { station := s } }

/-! ## One step -/

theorem report_reporter (s : Station lib) (now : Instant) :
    (s.report now).2.ledger.reporter
      = { s.ledger.reporter with
          lastReport := now
          emitted := s.ledger.reporter.emitted + 1 } := by
  show (s.ledger.report now).2.reporter = _
  rw [Ledger.report_eq]

theorem report_startedAt (s : Station lib) (now : Instant) :
    (s.report now).2.ledger.losses.startedAt = s.ledger.losses.startedAt := by
  show (s.ledger.report now).2.losses.startedAt = _
  rw [Ledger.report_eq]

/-- Nothing that tells the time of reports has moved: neither the reporter, nor the instant from
which their rates are counted. -/
structure SameTimes (s t : Station lib) : Prop where
  reporter_eq : t.ledger.reporter = s.ledger.reporter
  startedAt_eq : t.ledger.losses.startedAt = s.ledger.losses.startedAt

theorem receive_sameTimes (s : Station lib) (host : JitterQueue.Host) (p : Packet) :
    SameTimes s (s.receive host p).station := by
  rw [receive, (s.receiveAmid_eq host p {}).2]
  split
  · rename_i queue _ _
    cases queue.enqueue host p.payload {} with
    | mk fate later => cases fate <;> exact ⟨rfl, rfl⟩
  · exact ⟨rfl, rfl⟩

theorem Served.sameTimes {s t : Station lib} (h : Served s t) : SameTimes s t :=
  ⟨h.reporter_eq, congrArg LossAccount.startedAt h.losses_eq⟩

/-- Packets and requests come between reports without moving them. -/
theorem History.step_sameTimes (h : History lib) {step : Step} (hreport : ∀ now, step ≠ .report now)
    (hlook : ∀ now, step ≠ .reportIfDue now) : SameTimes h.station (h.step step).station := by
  cases step with
  | packet host p before during =>
    have hserved := (h.serve_served p before).trans ((h.serve p before).serve_served p during)
    have hreceived := receive_sameTimes ((h.serve p before).serve p during).station host p
    rw [History.step, h.packet_eq]
    exact ⟨hreceived.reporter_eq.trans hserved.sameTimes.reporter_eq,
      hreceived.startedAt_eq.trans hserved.sameTimes.startedAt_eq⟩
  | report now => exact absurd rfl (hreport now)
  | reportIfDue now => exact absurd rfl (hlook now)
  | isDue now => exact ⟨rfl, rfl⟩
  | fill needed => exact (h.fill_served needed).sameTimes
  | callback depth underflowed => exact ⟨rfl, rfl⟩

/-! ## Whole runs -/

/-- A run of a station whose reports come a period after the last one. -/
structure Watch.Timed (s : Station lib) (w : Watch lib) : Prop where
  period_eq : w.history.station.ledger.reporter.period = s.ledger.reporter.period
  startedAt_eq : w.history.station.ledger.losses.startedAt = s.ledger.losses.startedAt
  lastReport_eq : w.history.station.ledger.reporter.lastReport
    = lastReport s.ledger.reporter.lastReport w.looks
  emitted_eq : w.history.station.ledger.reporter.emitted
    = s.ledger.reporter.emitted + (reportTimes w.looks).length
  decided : EachAfter (fun earlier look => look.Decided s.ledger.reporter.period
    (lastReport s.ledger.reporter.lastReport earlier)) w.looks
  startedAt_looks : ∀ look ∈ w.looks,
    look.before.ledger.losses.startedAt = s.ledger.losses.startedAt

section Timed

variable {s : Station lib} {w : Watch lib}

theorem reportTimes_concat (looks : List (Look lib)) (look : Look lib) :
    reportTimes (looks ++ [look]) = reportTimes looks ++ look.reported?.toList :=
  filterMap_concat _ _ _

theorem lastReport_concat (start : Instant) (looks : List (Look lib)) (look : Look lib) :
    lastReport start (looks ++ [look]) = look.reported?.getD (lastReport start looks) := by
  rw [lastReport, reportTimes_concat]
  cases look.reported? with
  | none =>
    rw [Option.toList_none, List.append_nil]
    rfl
  | some t =>
    rw [Option.toList_some, List.getLastD_concat]
    rfl

theorem Watch.look_of_due {now : Instant}
    (hdue : w.history.station.ledger.reporter.isDue now = true) :
    w.look now
      = ⟨w.history.report now, w.looks ++ [⟨now, w.history.station,
          some (w.history.station.report now).1, (w.history.station.report now).2⟩]⟩ := by
  rw [Watch.look, History.reportIfDue_eq, Station.reportIfDue_eq, if_pos hdue, if_pos hdue]

theorem Watch.look_of_not_due {now : Instant}
    (hdue : ¬ w.history.station.ledger.reporter.isDue now = true) :
    w.look now
      = ⟨w.history, w.looks ++ [⟨now, w.history.station, none, w.history.station⟩]⟩ := by
  rw [Watch.look, History.reportIfDue_eq, Station.reportIfDue_eq, if_neg hdue, if_neg hdue]

/-- What is due is decided against the last report that was made. -/
theorem Watch.Timed.look (h : w.Timed s) (hperiod : 0 < s.ledger.reporter.period.nanos)
    (now : Instant) : (w.look now).Timed s := by
  have hdue : w.history.station.ledger.reporter.isDue now = true
      ↔ (lastReport s.ledger.reporter.lastReport w.looks).nanos + s.ledger.reporter.period.nanos
          ≤ now.nanos := by
    rw [Reporter.isDue_iff (h.period_eq.symm ▸ hperiod), h.period_eq, h.lastReport_eq]
  have hlooks : ∀ (r : Option Report) (after : Station lib),
      ∀ look ∈ w.looks ++ [⟨now, w.history.station, r, after⟩],
        look.before.ledger.losses.startedAt = s.ledger.losses.startedAt := by
    intro r after look hlook
    rcases List.mem_append.mp hlook with hearlier | hnew
    · exact h.startedAt_looks look hearlier
    · rw [List.mem_singleton.mp hnew]
      exact h.startedAt_eq
  by_cases hnow : (lastReport s.ledger.reporter.lastReport w.looks).nanos
      + s.ledger.reporter.period.nanos ≤ now.nanos
  · -- a report is made, and the next one counts from it
    have hreporter := w.history.station.report_reporter now
    rw [look_of_due (hdue.mpr hnow)]
    refine ⟨?_, ?_, ?_, ?_, h.decided.concat ⟨h.lastReport_eq, iff_of_true rfl hnow, ?_, ?_⟩,
      hlooks _ _⟩
    · exact (congrArg Reporter.period hreporter).trans h.period_eq
    · exact (w.history.station.report_startedAt now).trans h.startedAt_eq
    · rw [lastReport_concat]
      exact congrArg Reporter.lastReport hreporter
    · rw [reportTimes_concat, List.length_append, ← Nat.add_assoc, ← h.emitted_eq]
      exact congrArg Reporter.emitted hreporter
    · rintro ⟨⟩
    · rintro r ⟨⟩
      rfl
  · -- nothing changes
    rw [look_of_not_due (mt hdue.mp hnow)]
    refine ⟨h.period_eq, h.startedAt_eq, ?_, ?_,
      h.decided.concat ⟨h.lastReport_eq, iff_of_false ?_ hnow, fun _ => rfl, ?_⟩, hlooks _ _⟩
    · rw [lastReport_concat]
      exact h.lastReport_eq
    · rw [reportTimes_concat]
      exact h.emitted_eq.trans (by rw [List.length_append]; rfl)
    · rintro ⟨⟩
    · rintro r ⟨⟩

theorem Watch.Timed.step (h : w.Timed s) (hperiod : 0 < s.ledger.reporter.period.nanos)
    {step : Step} (hreport : ∀ now, step ≠ .report now) : (w.step step).Timed s := by
  by_cases hlook : ∃ now, step = .reportIfDue now
  · obtain ⟨now, rfl⟩ := hlook
    exact h.look hperiod now
  · obtain ⟨hreporter, hstarted⟩ :=
      w.history.step_sameTimes hreport fun now hnow => hlook ⟨now, hnow⟩
    have hstep : w.step step = { w with history := w.history.step step } := by
      cases step with
      | reportIfDue now => exact absurd ⟨now, rfl⟩ hlook
      | packet | report | isDue | fill | callback => rfl
    rw [hstep]
    exact ⟨(congrArg Reporter.period hreporter).trans h.period_eq, hstarted.trans h.startedAt_eq,
      (congrArg Reporter.lastReport hreporter).trans h.lastReport_eq,
      (congrArg Reporter.emitted hreporter).trans h.emitted_eq, h.decided, h.startedAt_looks⟩

/-- Every run that makes no report unasked is timed. -/
theorem watch_timed (s : Station lib) {steps : List Step}
    (hperiod : 0 < s.ledger.reporter.period.nanos)
    (hasked : ∀ now, Step.report now ∉ steps) : (s.watch steps).Timed s := by
  have hsteps : ∀ (steps : List Step) (w : Watch lib), (∀ now, Step.report now ∉ steps) →
      w.Timed s → (steps.foldl Watch.step w).Timed s := by
    intro steps
    induction steps with
    | nil => exact fun w _ h => h
    | cons step rest ih =>
      intro w hasked h
      refine ih _ (fun now hnow => hasked now (List.mem_cons_of_mem _ hnow)) (h.step hperiod ?_)
      rintro now rfl
      exact hasked now List.mem_cons_self
  refine hsteps steps _ hasked ⟨rfl, rfl, rfl, rfl, EachAfter.nil _, ?_⟩
  rintro look ⟨⟩

end Timed

/-! ## Spacing -/

section Spacing

variable {start : Instant} {period : Duration} {looks : List (Look lib)}

/-- What holds between the last report and each look that reports holds between one report and the
next. -/
theorem isChain_reportTimes {R : Instant → Instant → Prop}
    (h : EachAfter (fun earlier look =>
      look.report.isSome → R (lastReport start earlier) look.now) looks) :
    (start :: reportTimes looks).IsChain R := by
  induction looks using List.reverseRecOn with
  | nil => exact List.isChain_singleton start
  | append_singleton looks look ih =>
    obtain ⟨hlooks, hlook⟩ := h.of_concat
    rw [reportTimes_concat, Look.reported?]
    cases hreport : look.report with
    | none =>
      rw [Option.map_none, Option.toList_none, List.append_nil]
      exact ih hlooks
    | some r =>
      rw [Option.map_some, Option.toList_some, ← List.cons_append, List.isChain_append]
      refine ⟨ih hlooks, List.isChain_singleton _, ?_⟩
      have hlast : (start :: reportTimes looks).getLast? = some (lastReport start looks) := by
        rw [List.getLast?_cons, lastReport, List.getLastD_eq_getLast?]
      rw [hlast]
      rintro _ ⟨⟩ _ ⟨⟩
      exact hlook (hreport ▸ rfl)

/-- The last look is less than a period after the last report: it would have reported. -/
theorem lastLook_lt (hperiod : 0 < period.nanos)
    (h : EachAfter (fun earlier look => look.Decided period (lastReport start earlier)) looks) :
    ((looks.map Look.now).getLastD start).nanos
      < (lastReport start looks).nanos + period.nanos := by
  induction looks using List.reverseRecOn with
  | nil =>
    show start.nanos < start.nanos + period.nanos
    omega
  | append_singleton looks look =>
    obtain ⟨-, hlook⟩ := h.of_concat
    rw [List.map_append, List.map_singleton, List.getLastD_concat, lastReport_concat,
      Look.reported?]
    cases hreport : look.report with
    | none =>
      have hearly := mt hlook.isSome_iff.mpr (by rw [hreport]; rintro ⟨⟩)
      exact Int.not_le.mp hearly
    | some r =>
      show look.now.nanos < look.now.nanos + period.nanos
      omega

/-- If looks are at most some time apart, none comes later than that after a report was due. -/
theorem look_lt_of_spaced (hperiod : 0 < period.nanos)
    (h : EachAfter (fun earlier look => look.Decided period (lastReport start earlier)) looks)
    {d : Duration}
    (hspaced : (start :: looks.map Look.now).IsChain
      fun a b : Instant => b.nanos ≤ a.nanos + d.nanos) :
    EachAfter (fun earlier look =>
      look.now.nanos < (lastReport start earlier).nanos + period.nanos + d.nanos) looks := by
  induction looks using List.reverseRecOn with
  | nil => exact EachAfter.nil _
  | append_singleton looks look ih =>
    obtain ⟨hlooks, -⟩ := h.of_concat
    rw [List.map_append, ← List.cons_append, List.isChain_append] at hspaced
    obtain ⟨hearlier, -, hnext⟩ := hspaced
    refine (ih hlooks hearlier).concat ?_
    -- the look before this one was still within the period
    have hlast := lastLook_lt hperiod hlooks
    have hgap : look.now.nanos ≤ ((looks.map Look.now).getLastD start).nanos + d.nanos := by
      refine hnext _ ?_ _ rfl
      rw [List.getLast?_cons, List.getLastD_eq_getLast?]
      rfl
    omega

/-- The last report was made at a look, if not at the start. -/
theorem lastReport_mem (start : Instant) (looks : List (Look lib)) :
    lastReport start looks ∈ start :: looks.map Look.now := by
  rcases List.mem_cons.mp (List.getLastD_mem_cons (l := reportTimes looks) (a := start))
    with hstart | hlater
  · rw [lastReport, hstart]
    exact List.mem_cons_self
  · obtain ⟨look, hlook, hreported⟩ := List.mem_filterMap.mp hlater
    obtain ⟨r, -, hnow⟩ := Option.map_eq_some_iff.mp hreported
    rw [lastReport, ← hnow]
    exact List.mem_cons_of_mem _ (List.mem_map_of_mem hlook)

end Spacing

/-- **Reports are on time.** In every run that makes no report unasked, a look reports exactly if a
full period has passed since the last report, and a look that makes no report changes nothing. So
reports are at least a period apart, however the clock jumps; and if the looks are at most `d`
apart, less than a period and `d`. A look computes the time since the last report, and its report
the time since the start; neither overflows, whatever the period. -/
theorem reports_on_time (s : Station lib) (steps : List Step)
    (hperiod : 0 < s.ledger.reporter.period.nanos) (hasked : ∀ now, Step.report now ∉ steps) :
    let start := s.ledger.reporter.lastReport
    let period := s.ledger.reporter.period.nanos
    let looks := (s.watch steps).looks
    ((s.watch steps).history = s.run steps ∧
      looks.map Look.now = steps.filterMap Step.lookedAt?) ∧
    EachAfter (fun earlier look =>
      look.before.ledger.reporter.lastReport = lastReport start earlier ∧
        (look.report.isSome ↔ (lastReport start earlier).nanos + period ≤ look.now.nanos)) looks ∧
    (start :: reportTimes looks).IsChain (fun a b : Instant => a.nanos + period ≤ b.nanos) ∧
    ((reportTimes looks).map Instant.nanos).Pairwise (· < ·) ∧
    (∀ look ∈ looks, (look.report = none → look.after = look.before) ∧
      ∀ r, look.report = some r → look.before.report look.now = (r, look.after)) ∧
    (∀ d : Duration,
      (start :: looks.map Look.now).IsChain (fun a b : Instant => b.nanos ≤ a.nanos + d.nanos) →
      (start :: reportTimes looks).IsChain
        (fun a b : Instant => b.nanos < a.nanos + period + d.nanos) ∧
      EachAfter (fun earlier look =>
        look.now.nanos < (lastReport start earlier).nanos + period + d.nanos) looks) ∧
    ((∀ t ∈ s.ledger.losses.startedAt :: start :: looks.map Look.now, t.OnClock) →
      ∀ look ∈ looks,
        (look.now.since look.before.ledger.reporter.lastReport).nanos < Duration.limit ∧
        (look.now.since look.before.ledger.losses.startedAt).nanos < Duration.limit) ∧
    (s.run steps).station.ledger.reporter.emitted
      = s.ledger.reporter.emitted + (reportTimes looks).length ∧
    (reportTimes looks).length ≤ looks.length := by
  intro start period looks
  have htimed := watch_timed s hperiod hasked
  have hdecided := htimed.decided
  have hapart : (start :: reportTimes looks).IsChain
      (fun a b : Instant => a.nanos + period ≤ b.nanos) :=
    isChain_reportTimes fun j hj => (hdecided j hj).isSome_iff.mp
  refine ⟨⟨s.watch_history steps, s.watch_looks steps⟩, ?_, hapart, ?_, ?_, ?_, ?_, ?_,
    List.length_filterMap_le _ _⟩
  · exact fun j hj => ⟨(hdecided j hj).lastReport_eq, (hdecided j hj).isSome_iff⟩
  · refine List.isChain_iff_pairwise.mp ((List.isChain_map _).mpr (hapart.tail.imp ?_))
    intro a b hab
    omega
  · intro look hlook
    obtain ⟨j, hj, rfl⟩ := List.getElem_of_mem hlook
    exact ⟨(hdecided j hj).unchanged, (hdecided j hj).reported⟩
  · intro d hspaced
    have hsoon := look_lt_of_spaced hperiod hdecided hspaced
    exact ⟨isChain_reportTimes fun j hj _ => hsoon j hj, hsoon⟩
  · intro hclock look hlook
    obtain ⟨j, hj, rfl⟩ := List.getElem_of_mem hlook
    -- the last report was made at an earlier look
    have hlast : lastReport start (looks.take j) ∈ start :: looks.map Look.now := by
      rcases List.mem_cons.mp (lastReport_mem start (looks.take j)) with hstart | hearlier
      · rw [hstart]
        exact List.mem_cons_self
      · rw [List.map_take] at hearlier
        exact List.mem_cons_of_mem _ (List.mem_of_mem_take hearlier)
    have hnow := hclock _
      (List.mem_cons_of_mem _ (List.mem_cons_of_mem _ (List.mem_map_of_mem hlook)))
    rw [(hdecided j hj).lastReport_eq, htimed.startedAt_looks _ hlook]
    exact ⟨hnow.since_lt (hclock _ (List.mem_cons_of_mem _ hlast)),
      hnow.since_lt (hclock _ List.mem_cons_self)⟩
  · rw [← s.watch_history steps, htimed.emitted_eq]

/-- Two reports, with a clock that steps back after the first. -/
theorem reports_on_time_after_step_back :
    let s : Station (Wave.onDisk fun _ => .ok .file) :=
      { ledger := .opened ⟨0⟩ ⟨5⟩ 20 true, queue := none, recording := none }
    let steps : List Step := [.reportIfDue ⟨4⟩, .reportIfDue ⟨5⟩, .callback 1 false,
      .reportIfDue ⟨3⟩, .reportIfDue ⟨9⟩, .reportIfDue ⟨10⟩]
    reportTimes (s.watch steps).looks = [⟨5⟩, ⟨10⟩] ∧
      (s.run steps).station.ledger.reporter.emitted = 2 ∧
      ([⟨0⟩, ⟨5⟩, ⟨10⟩] : List Instant).IsChain (fun a b : Instant => a.nanos + 5 ≤ b.nanos) ∧
      ([⟨0⟩, ⟨5⟩, ⟨10⟩] : List Instant).IsChain
        (fun a b : Instant => b.nanos < a.nanos + 5 + 6) := by
  intro s steps
  have htimes : reportTimes (s.watch steps).looks = [⟨5⟩, ⟨10⟩] := by decide
  obtain ⟨⟨-, hlooks⟩, -, hapart, -, -, hsoon, -, hemitted, -⟩ :=
    reports_on_time s steps (by decide) (by simp [steps])
  rw [htimes] at hapart hemitted
  obtain ⟨hchain, -⟩ := hsoon ⟨6⟩ (by rw [hlooks]; decide)
  rw [htimes] at hchain
  exact ⟨htimes, hemitted, hapart, hchain⟩

end Station

end ToneLink
