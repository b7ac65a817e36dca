import Mathlib.Algebra.GroupWithZero.Nat
import ToneLink.Proofs.LossLaw

/-!
# What a loss account makes of any numbers

Nothing vouches for the sequence numbers that a receiver sees: datagrams come from anywhere, so any
number may follow any other. The account still has a closed form. Every number is the expected one
or starts a gap, the gaps add up to what is lost, and the sum telescopes:

- `LossAccount.arrivals`: how packets arrive that are entered one after another;
- `LossAccount.lost_recordAll_eq_sum`: lost is what the arrivals lose;
- `LossAccount.lost_of_numbers`: the closed form, from the first number, the last one, their count
  and the steps that do not lead up;
- `LossAccount.lost_eq_zero_iff`: nothing is lost exactly if the numbers count up from the first;
- `LossAccount.totals_of_numbers`: the law for all totals and for each arrival.
-/

namespace ToneLink

/-- The number after another one, as a plain number. -/
theorem eq_add_one_iff_toNat (last s : UInt32) :
    s = last + 1 ↔ s.toNat = (last.toNat + 1) % 2 ^ 32 := by
  rw [← UInt32.toNat_inj, UInt32.toNat_add]
  rfl

/-- No arrival loses more than there are other numbers. -/
theorem Arrival.lost_le (arrival : Arrival) : arrival.lost ≤ 2 ^ 32 - 1 := by
  cases arrival with
  | first => exact Nat.zero_le _
  | inOrder => exact Nat.zero_le _
  | gap expected got lost =>
    have hlost := lost.toNat_lt
    show lost.toNat ≤ _
    omega

namespace LossAccount

/-! ## Arrivals -/

/-- How packets arrive that are entered one after another. -/
def arrivals (a : LossAccount) : List (UInt32 × Nat) → List Arrival
  | [] => []
  | p :: rest => (a.record p.1 p.2).1 :: (a.record p.1 p.2).2.arrivals rest

theorem length_arrivals (a : LossAccount) (packets : List (UInt32 × Nat)) :
    (a.arrivals packets).length = packets.length := by
  induction packets generalizing a with
  | nil => rfl
  | cons p rest ih => rw [arrivals, List.length_cons, ih, List.length_cons]

/-- A packet arrives at the account of those before it. -/
theorem arrivals_getElem? (a : LossAccount) (packets : List (UInt32 × Nat)) (k : Nat) :
    (a.arrivals packets)[k]?
      = packets[k]?.map fun p => (a.recordAll (packets.take k)).arrival p.1 := by
  induction packets generalizing a k with
  | nil => rfl
  | cons p rest ih =>
    cases k with
    | zero => rfl
    | succ k =>
      rw [arrivals, List.getElem?_cons_succ, ih, List.getElem?_cons_succ]
      rfl

section Prefixes

variable (a : LossAccount) {packets : List (UInt32 × Nat)} {k : Nat} (hk : k < packets.length)

include hk

theorem recordAll_take_succ : a.recordAll (packets.take (k + 1))
    = ((a.recordAll (packets.take k)).record (packets[k]).1 (packets[k]).2).2 := by
  rw [List.take_succ_eq_append_getElem hk, recordAll_concat]

/-- An account remembers the number of its last packet. -/
theorem last_recordAll_take_succ :
    (a.recordAll (packets.take (k + 1))).last = some (packets[k]).1 := by
  rw [recordAll_take_succ a hk]
  rfl

/-- An account grows by what an arrival loses. -/
theorem lost_recordAll_take_succ : (a.recordAll (packets.take (k + 1))).lost
    = (a.recordAll (packets.take k)).lost
      + ((a.recordAll (packets.take k)).arrival (packets[k]).1).lost := by
  rw [recordAll_take_succ a hk]
  rfl

end Prefixes

/-- Every packet entered counts for the window. -/
theorem window_recordAll (a : LossAccount) (packets : List (UInt32 × Nat)) :
    (a.recordAll packets).window = a.window + packets.length := by
  induction packets generalizing a with
  | nil => rfl
  | cons p rest ih =>
    rw [recordAll_cons, ih, List.length_cons]
    show a.window + 1 + rest.length = _
    omega

/-- Lost is what the arrivals lose. -/
theorem lost_recordAll_eq_sum (a : LossAccount) (packets : List (UInt32 × Nat)) :
    (a.recordAll packets).lost = a.lost + ((a.arrivals packets).map Arrival.lost).sum := by
  induction packets generalizing a with
  | nil => rfl
  | cons p rest ih =>
    rw [recordAll_cons, ih, arrivals, List.map_cons, List.sum_cons]
    show a.lost + (a.arrival p.1).lost + _ = a.lost + ((a.arrival p.1).lost + _)
    omega

theorem lost_recordAll_le (a : LossAccount) (packets : List (UInt32 × Nat)) :
    (a.recordAll packets).lost ≤ a.lost + packets.length * (2 ^ 32 - 1) := by
  induction packets generalizing a with
  | nil => exact Nat.le_add_right _ _
  | cons p rest ih =>
    have hrest := ih (a.record p.1 p.2).2
    have hfirst := (a.arrival p.1).lost_le
    have hlost : (a.record p.1 p.2).2.lost = a.lost + (a.arrival p.1).lost := rfl
    rw [recordAll_cons, List.length_cons, Nat.succ_mul]
    omega

/-- The counts of an account that has been open for no more packets and bytes than it can count. -/
theorem recordAll_lt (startedAt : Instant) {packets : List (UInt32 × Nat)}
    (hcount : packets.length ≤ 2 ^ 32) (hbytes : (packets.map Prod.snd).sum < 2 ^ 64) :
    ((opened startedAt).recordAll packets).lost < 2 ^ 64 ∧
      ((opened startedAt).recordAll packets).received < 2 ^ 64 ∧
      ((opened startedAt).recordAll packets).bytes < 2 ^ 64 ∧
      ((opened startedAt).recordAll packets).window < 2 ^ 64 := by
  have hlost := lost_recordAll_le (opened startedAt) packets
  have hproduct := Nat.mul_le_mul_right (2 ^ 32 - 1) hcount
  rw [received_recordAll, bytes_recordAll, window_recordAll]
  simp only [opened] at *
  omega

/-- An arrival after another one is in order, or it is a gap that loses something. -/
theorem arrival_cases (a : LossAccount) {last : UInt32} (h : a.last = some last)
    (sequence : UInt32) :
    (sequence = last + 1 ∧ a.arrival sequence = .inOrder) ∨
      (sequence ≠ last + 1 ∧ ∃ lost, a.arrival sequence = .gap (last + 1) sequence lost ∧
        lost ≠ 0) := by
  by_cases hexpected : sequence = last + 1
  · left
    refine ⟨hexpected, ?_⟩
    simp only [arrival, h]
    exact if_pos hexpected
  · right
    refine ⟨hexpected, sequence - (last + 1), ?_, ?_⟩
    · simp only [arrival, h]
      exact if_neg hexpected
    · intro hzero
      refine hexpected ?_
      rw [← UInt32.sub_add_cancel sequence (last + 1), hzero, UInt32.zero_add]

/-- An arrival after another one loses nothing exactly if it is in order. -/
theorem lost_arrival_eq_zero_iff (a : LossAccount) {last : UInt32} (h : a.last = some last)
    (sequence : UInt32) : (a.arrival sequence).lost = 0 ↔ sequence = last + 1 := by
  rcases a.arrival_cases h sequence with ⟨hexpected, harrival⟩ | ⟨hexpected, lost, harrival, hlost⟩
  · rw [harrival]
    exact iff_of_true rfl hexpected
  · rw [harrival]
    exact iff_of_false (fun hzero => hlost (UInt32.toNat_inj.mp hzero)) hexpected

/-- As long as every number is the expected one, nothing is lost, and at the first other one
something is. -/
theorem lost_recordAll_eq_iff (a : LossAccount) {last : UInt32} (h : a.last = some last)
    (packets : List (UInt32 × Nat)) :
    (a.recordAll packets).lost = a.lost ↔
      ∀ (k : Nat) (hk : k < packets.length),
        (packets[k]).1.toNat = (last.toNat + (k + 1)) % 2 ^ 32 := by
  induction packets generalizing a last with
  | nil => exact iff_of_true rfl fun k hk => absurd hk (Nat.not_lt_zero k)
  | cons p rest ih =>
    have hlast : (a.record p.1 p.2).2.last = some p.1 := rfl
    have hrest := ih (a.record p.1 p.2).2 hlast
    have hgrows := lost_recordAll_eq_sum (a.record p.1 p.2).2 rest
    have hlost : (a.record p.1 p.2).2.lost = a.lost + (a.arrival p.1).lost := rfl
    have hexpected := eq_add_one_iff_toNat last p.1
    rw [recordAll_cons]
    constructor
    · intro hnone
      -- no number makes up for what another one loses
      have hfirst : p.1.toNat = (last.toNat + 1) % 2 ^ 32 :=
        hexpected.mp ((a.lost_arrival_eq_zero_iff h p.1).mp (by omega))
      have hlater := hrest.mp (by omega)
      rintro (_ | k) hk
      · exact hfirst
      · have hnext := hlater k (Nat.lt_of_succ_lt_succ hk)
        rw [List.getElem_cons_succ, hnext, hfirst]
        omega
    · intro hall
      have hfirst : p.1.toNat = (last.toNat + 1) % 2 ^ 32 := hall 0 (Nat.zero_lt_succ _)
      have harrival := (a.lost_arrival_eq_zero_iff h p.1).mpr (hexpected.mpr hfirst)
      have hlater := hrest.mpr fun k hk => by
        have hnext := hall (k + 1) (Nat.succ_lt_succ hk)
        rw [List.getElem_cons_succ] at hnext
        omega
      omega

/-! ## The account of any numbers -/

section Numbers

variable (startedAt : Instant) (first : UInt32 × Nat) (rest : List (UInt32 × Nat))

/-- Steps of a list of numbers that do not lead up: to the same number or to a smaller one. -/
def descents (first : UInt32 × Nat) (rest : List (UInt32 × Nat)) : Nat :=
  ((first :: rest).zip rest).countP fun step => step.2.1 ≤ step.1.1

/-- Numbers are positions in the stream of all numbers, so their descents are steps back in it. -/
theorem backsteps_eq_descents :
    backsteps first.1.toNat (rest.map fun p => p.1.toNat) = descents first rest := by
  let number : UInt32 × Nat → Nat := fun p => p.1.toNat
  have hzip : ((first :: rest).map number).zip (rest.map number)
      = ((first :: rest).zip rest).map (Prod.map number number) := List.zip_map
  show (((first :: rest).map number).zip (rest.map number)).countP _ = _
  rw [hzip, List.countP_map]
  rfl

/-- **What any numbers lose.** -/
theorem lost_of_numbers :
    (((opened startedAt).recordAll (first :: rest)).lost : Int)
      = ((rest.getLastD first).1.toNat - first.1.toNat - rest.length)
        + 2 ^ 32 * descents first rest := by
  have hbound : ∀ p ∈ rest.map fun p => (p.1.toNat, p.2), p.1 < 2 ^ 32 :=
    List.forall_mem_map.mpr fun p _ => p.1.toNat_lt
  -- in the stream that starts with 0, every number stands at the position it names
  have hnumber : ∀ s : UInt32, 0 + UInt32.ofNat s.toNat = s := by
    intro s
    rw [UInt32.ofNat_toNat, UInt32.zero_add]
  have hentries : (rest.map fun p => (p.1.toNat, p.2)).map
      (fun p => ((0 : UInt32) + UInt32.ofNat p.1, p.2)) = rest := by
    rw [List.map_map]
    refine (List.map_congr_left fun p _ => ?_).trans (List.map_id rest)
    exact Prod.ext (hnumber p.1) rfl
  have hfirst : ((opened startedAt).record first.1 first.2).2.last
      = some (0 + UInt32.ofNat first.1.toNat) := congrArg some (hnumber first.1).symm
  have hlost := lost_recordAll_positions first.1.toNat_lt hbound _ hfirst
  rw [hentries, List.map_map, List.length_map] at hlost
  rw [recordAll_cons, hlost, ← backsteps_eq_descents]
  have hlast : (rest.map (Prod.fst ∘ fun p => (p.1.toNat, p.2))).getLastD first.1.toNat
      = (rest.getLastD first).1.toNat := List.getLastD_map
  rw [hlast]
  show ((0 : Nat) : Int) + _ + _ = _
  rw [Int.natCast_zero, Int.zero_add]
  rfl

/-- Modulo 2³² the steps that do not lead up leave no trace. -/
theorem lost_mod_of_numbers :
    ((opened startedAt).recordAll (first :: rest)).lost % 2 ^ 32
      = ((rest.getLastD first).1 - first.1 - UInt32.ofNat rest.length).toNat := by
  have hlost := lost_of_numbers startedAt first rest
  have hfirst := first.1.toNat_lt
  have hlast := (rest.getLastD first).1.toNat_lt
  simp only [UInt32.toNat_sub, UInt32.toNat_ofNat']
  omega

/-- The first packet of an account loses nothing. -/
theorem lost_recordAll_cons_le :
    ((opened startedAt).recordAll (first :: rest)).lost ≤ rest.length * (2 ^ 32 - 1) := by
  have hrest := lost_recordAll_le ((opened startedAt).record first.1 first.2).2 rest
  have hzero : ((opened startedAt).record first.1 first.2).2.lost = 0 := rfl
  rw [hzero, Nat.zero_add] at hrest
  exact hrest

/-- The last number of an account. -/
theorem last_recordAll_cons :
    ((opened startedAt).recordAll (first :: rest)).last = some (rest.getLastD first).1 := by
  rcases List.eq_nil_or_concat rest with rfl | ⟨earlier, p, rfl⟩
  · rfl
  · rw [List.concat_eq_append, ← List.cons_append, recordAll_concat, List.getLastD_concat]
    rfl

/-- **Nothing is lost exactly if the numbers count up from the first**, wrapping around as often as
they have to. -/
theorem lost_eq_zero_iff :
    ((opened startedAt).recordAll (first :: rest)).lost = 0 ↔
      ∀ (k : Nat) (hk : k < (first :: rest).length),
        ((first :: rest)[k]).1.toNat = (first.1.toNat + k) % 2 ^ 32 := by
  have hfirst : first.1.toNat = (first.1.toNat + 0) % 2 ^ 32 :=
    (Nat.mod_eq_of_lt first.1.toNat_lt).symm
  refine (lost_recordAll_eq_iff ((opened startedAt).record first.1 first.2).2 rfl rest).trans ?_
  constructor
  · rintro hrest (_ | k) hk
    · exact hfirst
    · exact hrest k (Nat.lt_of_succ_lt_succ hk)
  · intro hall k hk
    exact hall (k + 1) (Nat.succ_lt_succ hk)

/-- The arrival of every packet but the first: in order, or a gap that is worth what the account
grows by. -/
theorem arrivals_succ (a : LossAccount) {packets : List (UInt32 × Nat)} {k : Nat}
    (hk : k + 1 < packets.length) :
    ∃ arrival, (a.arrivals packets)[k + 1]? = some arrival ∧
      ((packets[k + 1]).1 = (packets[k]).1 + 1 ∧ arrival = .inOrder ∨
        (packets[k + 1]).1 ≠ (packets[k]).1 + 1 ∧
          ∃ lost, arrival = .gap ((packets[k]).1 + 1) (packets[k + 1]).1 lost ∧ lost ≠ 0) ∧
      (a.recordAll (packets.take (k + 2))).lost
        = (a.recordAll (packets.take (k + 1))).lost + arrival.lost := by
  refine ⟨_, ?_, ?_, a.lost_recordAll_take_succ hk⟩
  · rw [arrivals_getElem?, List.getElem?_eq_getElem hk]
    rfl
  · exact arrival_cases _ (a.last_recordAll_take_succ (Nat.lt_of_succ_lt hk)) _

end Numbers

/-! ## The law -/

/-- **The totals of any numbers.** At most 2³² packets with any numbers are entered, whose audio can
be counted in 64 bits. No count overflows at any point. In the end the last number, the number of
packets and their bytes are on record, and lost is the distance from the first number to the last,
less the steps between them, and 2³² for every step that does not lead up. That is at most as much
as every step can lose, and modulo 2³² it depends on the first number, the last one and their count
alone; it is nothing exactly if the numbers count up from the first. The first packet arrives as the
first. Every other one arrives in order exactly if its number is the one after the last, and
otherwise as a gap, which loses something: exactly what the account grows by. -/
theorem totals_of_numbers (startedAt : Instant) (first : UInt32 × Nat)
    (rest : List (UInt32 × Nat)) (hcount : (first :: rest).length ≤ 2 ^ 32)
    (hbytes : ((first :: rest).map Prod.snd).sum < 2 ^ 64) :
    let packets := first :: rest
    let after := fun k => (opened startedAt).recordAll (packets.take k)
    let arrivals := (opened startedAt).arrivals packets
    let a := (opened startedAt).recordAll packets
    let last := (rest.getLastD first).1
    (∀ k, (after k).lost < 2 ^ 64 ∧ (after k).received < 2 ^ 64 ∧ (after k).bytes < 2 ^ 64 ∧
      (after k).window < 2 ^ 64) ∧
    a.last = some last ∧ a.received = rest.length + 1 ∧ a.bytes = (packets.map Prod.snd).sum ∧
    (a.lost : Int) = (last.toNat - first.1.toNat - rest.length)
      + 2 ^ 32 * ((packets.zip rest).countP fun step => step.2.1 ≤ step.1.1) ∧
    a.lost ≤ rest.length * (2 ^ 32 - 1) ∧
    a.lost % 2 ^ 32 = (last - first.1 - UInt32.ofNat rest.length).toNat ∧
    (a.lost = 0 ↔ ∀ (k : Nat) (hk : k < packets.length),
      (packets[k]).1.toNat = (first.1.toNat + k) % 2 ^ 32) ∧
    arrivals.length = packets.length ∧ arrivals[0]? = some .first ∧
    ∀ (k : Nat) (hk : k + 1 < packets.length), ∃ arrival, arrivals[k + 1]? = some arrival ∧
      (arrival = .inOrder ↔ (packets[k + 1]).1.toNat = ((packets[k]).1.toNat + 1) % 2 ^ 32) ∧
      (arrival ≠ .inOrder → ∃ lost, lost ≠ 0 ∧
        arrival = .gap ((packets[k]).1 + 1) (packets[k + 1]).1 lost ∧
        (after (k + 2)).lost = (after (k + 1)).lost + lost.toNat) := by
  intro packets after arrivals a last
  refine ⟨?_, last_recordAll_cons startedAt first rest, ?_, ?_,
    lost_of_numbers startedAt first rest, lost_recordAll_cons_le startedAt first rest,
    lost_mod_of_numbers startedAt first rest, lost_eq_zero_iff startedAt first rest,
    length_arrivals _ _, rfl, ?_⟩
  · intro k
    have hlength : (packets.take k).length ≤ 2 ^ 32 := by
      rw [List.length_take]
      exact (Nat.min_le_right _ _).trans hcount
    have hsum : ((packets.take k).map Prod.snd).sum ≤ (packets.map Prod.snd).sum := by
      rw [← List.take_append_drop k packets, List.map_append, List.sum_append,
        List.take_append_drop]
      exact Nat.le_add_right _ _
    exact recordAll_lt startedAt hlength (Nat.lt_of_le_of_lt hsum hbytes)
  · show ((opened startedAt).recordAll (first :: rest)).received = _
    rw [received_recordAll]
    exact Nat.zero_add _
  · show ((opened startedAt).recordAll packets).bytes = _
    rw [bytes_recordAll]
    exact Nat.zero_add _
  · intro k hk
    obtain ⟨arrival, harrival, hcases, hgrowth⟩ := arrivals_succ (opened startedAt) hk
    have hexpected := eq_add_one_iff_toNat (packets[k]).1 (packets[k + 1]).1
    refine ⟨arrival, harrival, ?_⟩
    rcases hcases with ⟨hnumber, rfl⟩ | ⟨hnumber, lost, rfl, hlost⟩
    · exact ⟨iff_of_true rfl (hexpected.mp hnumber), fun hnot => absurd rfl hnot⟩
    · refine ⟨iff_of_false ?_ (fun hmod => hnumber (hexpected.mpr hmod)),
        fun _ => ⟨lost, hlost, rfl, hgrowth⟩⟩
      intro h
      cases h

/-- Four numbers: the largest one, the one after it, the same again and a jump. The duplicate loses
all other numbers and the jump six. -/
theorem totals_of_numbers_wrap_duplicate_jump :
    let packets : List (UInt32 × Nat) := [(0xFFFFFFFF, 3), (0, 4), (0, 5), (7, 1)]
    packets.length ≤ 2 ^ 32 ∧ (packets.map Prod.snd).sum < 2 ^ 64 ∧
      (((opened ⟨0⟩).recordAll packets).lost : Int) = 2 ^ 32 - 1 + 6 ∧
      (1 < packets.length ∧ ((opened ⟨0⟩).arrivals packets)[1]? = some .inOrder) ∧
      2 < packets.length ∧ ((opened ⟨0⟩).arrivals packets)[2]? = some (.gap 1 0 0xFFFFFFFF) := by
  have hcount : [((0xFFFFFFFF : UInt32), 3), (0, 4), (0, 5), (7, 1)].length ≤ 2 ^ 32 := by decide
  have hbytes : ([((0xFFFFFFFF : UInt32), 3), (0, 4), (0, 5), (7, 1)].map Prod.snd).sum
      < 2 ^ 64 := by
    decide
  obtain ⟨-, -, -, -, hlost, -⟩ :=
    totals_of_numbers ⟨0⟩ (0xFFFFFFFF, 3) [(0, 4), (0, 5), (7, 1)] hcount hbytes
  exact ⟨hcount, hbytes, hlost.trans (by decide), ⟨by decide, by decide⟩, by decide, by decide⟩

end LossAccount

end ToneLink
