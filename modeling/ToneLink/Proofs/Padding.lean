import Mathlib.Algebra.GroupWithZero.Nat
import Mathlib.Data.Finset.Max
import Mathlib.Data.Finset.Lattice.Fold
import Mathlib.Order.Interval.Finset.Nat
import ToneLink.Proofs.SinkRun

/-!
# How much is padded over a run

A request is padded by what it alone lacks. Once silence has been played, the audio that it stood in
for is late by just as much, so it is not lacking a second time. Over a run, the padding is
therefore not the sum of all shortages but the largest lead of demand over supply:

- `Sink.Answer.demand`, `supply`, `deficit`: bytes asked for up to a request, bytes accepted before
  it, and the lead of the first over the second;
- `Sink.Answer.AllExact.lt_iff`: the invariant. So many bytes of padding are fewer than `x` exactly
  if every lead so far is less than `x`;
- `Sink.padding_is_running_max`: the padding is the running maximum of the leads, a request
  underflows exactly if it sets a new positive maximum, and a run without underflow is one in which
  demand never leads.
-/

namespace ToneLink.Sink

namespace Answer

variable (answers : List Answer)

/-- Bytes asked for by the first `count` requests. -/
def askedIn (count : Nat) : Nat := ((answers.take count).map asked).sum

/-- Bytes of padding in the answers to the first `count` requests. -/
def paddedIn (count : Nat) : Nat := ((answers.take count).map padding).sum

/-- How many of the first `count` requests underflowed. -/
def underflowsIn (count : Nat) : Nat := (answers.take count).countP ranDry

/-- Bytes asked for up to request `j`, which is included. -/
def demand (j : Nat) : Nat := askedIn answers (j + 1)

/-- Bytes accepted before request `j`. -/
def supply (j : Nat) : Nat := (answers.map supplied).getD j 0

/-- How far demand leads supply at request `j`; negative if it lags behind. -/
def deficit (j : Nat) : Int := demand answers j - supply answers j

variable {answers}

theorem askedIn_succ {j : Nat} (hj : j < answers.length) :
    askedIn answers (j + 1) = askedIn answers j + (answers[j]).asked := by
  rw [askedIn, List.take_succ_eq_append_getElem hj, List.map_append, List.sum_append]
  rfl

theorem paddedIn_succ {j : Nat} (hj : j < answers.length) :
    paddedIn answers (j + 1) = paddedIn answers j + (answers[j]).padding := by
  rw [paddedIn, List.take_succ_eq_append_getElem hj, List.map_append, List.sum_append]
  rfl

theorem underflowsIn_succ {j : Nat} (hj : j < answers.length) :
    underflowsIn answers (j + 1)
      = underflowsIn answers j + if (answers[j]).ranDry then 1 else 0 := by
  rw [underflowsIn, List.take_succ_eq_append_getElem hj, List.countP_append, List.countP_singleton]
  rfl

theorem supply_eq {j : Nat} (hj : j < answers.length) :
    supply answers j = (answers[j]).supplied := by
  rw [supply, List.getD_eq_getElem?_getD, List.getElem?_map, List.getElem?_eq_getElem hj]
  rfl

/-! ## One request -/

namespace AllExact

/-- What was asked for has been heard or padded. -/
theorem heard_add_padded (h : AllExact answers) {count : Nat} (hcount : count ≤ answers.length) :
    (heard (answers.take count)).length + paddedIn answers count = askedIn answers count := by
  induction count with
  | zero => rfl
  | succ j ih =>
    have hj : j < answers.length := hcount
    have hprevious := ih (Nat.le_of_lt hj)
    have hlast := (h j hj).length_eq
    rw [askedIn_succ hj, paddedIn_succ hj, List.take_succ_eq_append_getElem hj, heard_concat,
      List.length_append]
    omega

/-- The padding after a request is the one before, or the lead of demand if that is more. -/
theorem paddedIn_succ_eq (h : AllExact answers) {j : Nat} (hj : j < answers.length) :
    (paddedIn answers (j + 1) : Int) = max (paddedIn answers j : Int) (deficit answers j) := by
  have hheard := h.heard_add_padded (Nat.le_of_lt hj)
  have hlength := (h j hj).length_eq
  have haudio := (h j hj).audio_length
  have hgiven := (h j hj).given_le
  rw [deficit, demand, askedIn_succ hj, supply_eq hj, paddedIn_succ hj]
  omega

/-- A request underflows exactly if the lead of demand is more than was padded before it. -/
theorem ranDry_iff_lt_deficit (h : AllExact answers) {j : Nat} (hj : j < answers.length) :
    (answers[j]).ranDry = true ↔ (paddedIn answers j : Int) < deficit answers j := by
  have hheard := h.heard_add_padded (Nat.le_of_lt hj)
  have haudio := (h j hj).audio_length
  have hgiven := (h j hj).given_le
  rw [(h j hj).ranDry_iff, deficit, demand, askedIn_succ hj, supply_eq hj]
  omega

/-! ## Many requests -/

/-- The padding is less than a number exactly if that is positive and every lead is less, too. -/
theorem lt_iff (h : AllExact answers) (x : Int) {count : Nat} (hcount : count ≤ answers.length) :
    (paddedIn answers count : Int) < x ↔ 0 < x ∧ ∀ i < count, deficit answers i < x := by
  induction count with
  | zero =>
    show ((0 : Nat) : Int) < x ↔ _
    constructor
    · intro hx
      exact ⟨hx, fun i hi => absurd hi (Nat.not_lt_zero i)⟩
    · rintro ⟨hx, -⟩
      exact hx
  | succ j ih =>
    have hj : j < answers.length := hcount
    rw [h.paddedIn_succ_eq hj, max_lt_iff, ih (Nat.le_of_lt hj)]
    constructor
    · rintro ⟨⟨hx, hearlier⟩, hlast⟩
      refine ⟨hx, fun i hi => ?_⟩
      rcases Nat.lt_succ_iff_lt_or_eq.mp hi with hlt | rfl
      · exact hearlier i hlt
      · exact hlast
    · rintro ⟨hx, hall⟩
      exact ⟨⟨hx, fun i hi => hall i (Nat.lt_succ_of_lt hi)⟩, hall j (Nat.lt_succ_self j)⟩

/-- The padding is the running maximum of the leads, or nothing if demand never led. -/
theorem paddedIn_eq_max (h : AllExact answers) {j : Nat} (hj : j < answers.length) :
    (paddedIn answers (j + 1) : Int)
      = max 0 ((Finset.range (j + 1)).sup' Finset.nonempty_range_add_one (deficit answers)) := by
  -- two numbers are equal if the same numbers are greater than them
  refine eq_of_forall_gt_iff fun x => ?_
  rw [h.lt_iff x hj, max_lt_iff, Finset.sup'_lt_iff]
  simp only [Finset.mem_range]

/-- As many requests underflow as set a new positive maximum of the leads. -/
theorem underflowsIn_eq_card (h : AllExact answers) {count : Nat}
    (hcount : count ≤ answers.length) :
    underflowsIn answers count = ((Finset.range count).filter fun i =>
      0 < deficit answers i ∧ ∀ k < i, deficit answers k < deficit answers i).card := by
  induction count with
  | zero => rfl
  | succ j ih =>
    have hj : j < answers.length := hcount
    -- a lead beyond the padding is a lead beyond zero and all leads before
    have hrecord : (answers[j]).ranDry = true ↔
        0 < deficit answers j ∧ ∀ k < j, deficit answers k < deficit answers j :=
      (h.ranDry_iff_lt_deficit hj).trans (h.lt_iff _ (Nat.le_of_lt hj))
    rw [underflowsIn_succ hj, ih (Nat.le_of_lt hj), Finset.range_add_one, Finset.filter_insert]
    by_cases hdry : (answers[j]).ranDry = true
    · rw [if_pos hdry, if_pos (hrecord.mp hdry), Finset.card_insert_of_notMem (by simp)]
    · rw [if_neg hdry, if_neg fun hr => hdry (hrecord.mpr hr), Nat.add_zero]

/-- Nothing underflows exactly if nothing is padded. -/
theorem forall_ranDry_eq_false_iff (h : AllExact answers) :
    (∀ a ∈ answers, a.ranDry = false) ↔ paddedIn answers answers.length = 0 := by
  have hone : ∀ (j : Nat) (hj : j < answers.length),
      (answers[j]).ranDry = false ↔ (answers[j]).padding = 0 := by
    intro j hj
    have hdry := (h j hj).ranDry_iff
    have hlength := (h j hj).length_eq
    rw [Bool.eq_false_iff, Ne, hdry]
    omega
  rw [paddedIn, List.take_length, List.sum_eq_zero_iff_forall_eq_nat]
  constructor
  · intro hnone n hn
    obtain ⟨a, ha, rfl⟩ := List.mem_map.mp hn
    obtain ⟨j, hj, rfl⟩ := List.mem_iff_getElem.mp ha
    exact (hone j hj).mp (hnone _ ha)
  · intro hzero a ha
    obtain ⟨j, hj, rfl⟩ := List.mem_iff_getElem.mp ha
    exact (hone j hj).mpr (hzero _ (List.mem_map_of_mem ha))

/-- Nothing is padded exactly if demand never leads. -/
theorem paddedIn_eq_zero_iff (h : AllExact answers) :
    paddedIn answers answers.length = 0 ↔
      ∀ j < answers.length, demand answers j ≤ supply answers j := by
  have hone := h.lt_iff 1 (Nat.le_refl _)
  constructor
  · intro hzero j hj
    rw [hzero] at hone
    have hlead := (hone.mp Int.zero_lt_one).2 j hj
    rw [deficit] at hlead
    omega
  · intro hle
    have hlt := hone.mpr ⟨Int.zero_lt_one, fun j hj => by
      have hlead := hle j hj
      rw [deficit]
      omega⟩
    omega

end AllExact

end Answer

/-! ## Whole runs -/

/-- The counter of a run that started with fresh counters counts the underflows, until it is
full. -/
theorem run_underflows (maxChunks : Nat) (steps : List Step) :
    (run maxChunks {} steps).sink.counters.underflows
      = min RenderCounters.ceiling ((run maxChunks {} steps).answers.countP Answer.ranDry) := by
  refine run_keeps (P := fun h => h.sink.counters.underflows
      = min RenderCounters.ceiling (h.answers.countP Answer.ranDry)) ?_ ?_ rfl steps
  · intro h later chunks hs hcount
    rw [hs.counters_eq, hs.answers_eq]
    exact hcount
  · intro h out hcount
    show (h.sink.fillInto out).2.counters.underflows
      = min _ ((h.answers ++ [h.answer out]).countP Answer.ranDry)
    have hanswer : (h.answer out).ranDry = h.sink.runsDry out.length := rfl
    rw [fillInto_counters, RenderCounters.underflows_record, hcount, List.countP_append,
      List.countP_singleton, hanswer]
    by_cases hdry : h.sink.runsDry out.length = true
    · rw [if_pos hdry, if_pos hdry]
      omega
    · rw [if_neg hdry, if_neg hdry, Nat.add_zero]

/-- **The padding of a run is the running maximum of the lead of demand over supply.** After request
`j` of a run, so many zero bytes have been padded as demand led supply by at its worst, at any
request so far; and so many requests have underflowed as have set a new, positive maximum of that
lead. Hence a run underflows nowhere exactly if demand never leads at any request. -/
theorem padding_is_running_max (maxChunks : Nat) (steps : List Step) :
    let h := run maxChunks {} steps
    (∀ (j : Nat) (hj : j < h.answers.length),
      let a := h.answers[j]
      a.bytes = a.audio ++ silence a.padding ∧
      (Answer.paddedIn h.answers (j + 1) : Int)
        = max 0 ((Finset.range (j + 1)).sup' Finset.nonempty_range_add_one
            fun i => (Answer.demand h.answers i : Int) - Answer.supply h.answers i) ∧
      Answer.underflowsIn h.answers (j + 1) = ((Finset.range (j + 1)).filter fun i =>
        0 < Answer.deficit h.answers i ∧
          ∀ k < i, Answer.deficit h.answers k < Answer.deficit h.answers i).card) ∧
    h.sink.counters.underflows
      = min RenderCounters.ceiling (Answer.underflowsIn h.answers h.answers.length) ∧
    ((∀ a ∈ h.answers, a.ranDry = false) ↔
      ∀ j < h.answers.length, Answer.demand h.answers j ≤ Answer.supply h.answers j) := by
  intro h
  have hexact : Answer.AllExact h.answers := (run_balanced maxChunks {} steps).exact
  refine ⟨fun j hj => ⟨(hexact j hj).bytes_eq, ?_, ?_⟩, ?_, ?_⟩
  · exact hexact.paddedIn_eq_max hj
  · exact hexact.underflowsIn_eq_card hj
  · rw [Answer.underflowsIn, List.take_length]
    exact run_underflows maxChunks steps
  · exact hexact.forall_ranDry_eq_false_iff.trans hexact.paddedIn_eq_zero_iff

/-- Two bytes are queued and five asked for; then four are queued and two asked for. The second
request is answered in full although demand still leads by one byte: three bytes were padded before,
and they count. -/
theorem padding_is_running_max_after_underflow :
    let h := run 4 {} [.offer [1, 2], .pull 5, .offer [3, 4, 5, 6], .pull 2]
    1 < h.answers.length ∧ (Answer.paddedIn h.answers 2 : Int) = 3 ∧
      max 0 ((Finset.range 2).sup' Finset.nonempty_range_add_one
        fun i => (Answer.demand h.answers i : Int) - Answer.supply h.answers i) = 3 := by
  have hj : 1 <
      (run 4 {} [.offer [1, 2], .pull 5, .offer [3, 4, 5, 6], .pull 2]).answers.length := by
    decide
  have hpadded : (Answer.paddedIn
      (run 4 {} [.offer [1, 2], .pull 5, .offer [3, 4, 5, 6], .pull 2]).answers 2 : Int) = 3 := by
    decide
  exact ⟨hj, hpadded, ((padding_is_running_max 4 _).1 1 hj).2.1.symm.trans hpadded⟩

end ToneLink.Sink
