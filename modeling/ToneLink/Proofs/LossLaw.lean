import Mathlib.Algebra.GroupWithZero.Nat
import Mathlib.Order.Interval.Finset.Nat
import Mathlib.Data.Finset.Card
import ToneLink.LossAccount
import ToneLink.Proofs.SentPackets

/-!
# What a loss account makes of a delivery

A receiver sees the sequence numbers of a stream in whatever order the network delivers them, some
of them never and some of them twice, and it sees them modulo 2³². What it counts as lost
nevertheless follows from the positions of the delivered packets in the stream:

- `LossAccount.lost_record`: from one position to the next, the packets between them count as lost,
  and a step that does not lead forward counts 2³² more;
- `LossAccount.lost_recordAll_positions`, `LossAccount.lost_recordAll`: the sum over a delivery
  telescopes;
- `LossAccount.lost_of_delivery`: the law from the encoded packets of a stream to the account.
-/

namespace ToneLink.LossAccount

/-! ## Hearing datagrams -/

/-- Decodes a datagram and enters its packet. -/
def hear (a : LossAccount) (datagram : Bytes) : Except Undersized LossAccount := do
  let p ← Packet.decode datagram
  return (a.record p.header.sequence p.payload.length).2

/-- Decodes datagrams and enters their packets, one after another. -/
def hearAll (a : LossAccount) (datagrams : List Bytes) : Except Undersized LossAccount :=
  datagrams.foldlM hear a

/-- Enters packets of which only sequence number and length of the audio are given. -/
def recordAll (a : LossAccount) (packets : List (UInt32 × Nat)) : LossAccount :=
  packets.foldl (fun a p => (a.record p.1 p.2).2) a

theorem hear_of_decode (a : LossAccount) {datagram : Bytes} {p : Packet}
    (h : Packet.decode datagram = .ok p) :
    a.hear datagram = .ok (a.record p.header.sequence p.payload.length).2 := by
  rw [hear, h]
  rfl

theorem recordAll_cons (a : LossAccount) (p : UInt32 × Nat) (rest : List (UInt32 × Nat)) :
    a.recordAll (p :: rest) = (a.record p.1 p.2).2.recordAll rest := rfl

theorem recordAll_concat (a : LossAccount) (packets : List (UInt32 × Nat)) (p : UInt32 × Nat) :
    a.recordAll (packets ++ [p]) = ((a.recordAll packets).record p.1 p.2).2 := by
  rw [recordAll, List.foldl_append]
  rfl

/-- Every packet entered is counted as received. -/
theorem received_recordAll (a : LossAccount) (packets : List (UInt32 × Nat)) :
    (a.recordAll packets).received = a.received + packets.length := by
  induction packets generalizing a with
  | nil => rfl
  | cons p rest ih =>
    rw [recordAll_cons, ih, List.length_cons]
    show a.received + 1 + rest.length = _
    omega

/-- Every byte of audio entered is counted. -/
theorem bytes_recordAll (a : LossAccount) (packets : List (UInt32 × Nat)) :
    (a.recordAll packets).bytes = a.bytes + (packets.map Prod.snd).sum := by
  induction packets generalizing a with
  | nil => rfl
  | cons p rest ih =>
    rw [recordAll_cons, ih, List.map_cons, List.sum_cons]
    show a.bytes + p.2 + _ = _
    omega

/-! ## One step of a delivery -/

/-- Whatever follows the last number counts as lost by its distance from the expected one. -/
theorem lost_arrival (a : LossAccount) {last : UInt32} (h : a.last = some last)
    (sequence : UInt32) : (a.arrival sequence).lost = (sequence - (last + 1)).toNat := by
  simp only [arrival, h]
  by_cases heq : sequence = last + 1
  · rw [if_pos heq, heq, UInt32.sub_self]
    rfl
  · rw [if_neg heq]
    rfl

/-- The distance between the numbers of two positions, modulo 2³² and counted from the expected
number on. -/
theorem distance_of_positions (base : UInt32) {i j : Nat} (hi : i < 2 ^ 32) (hj : j < 2 ^ 32) :
    (((base + UInt32.ofNat j) - (base + UInt32.ofNat i + 1)).toNat : Int)
      = (j - i - 1) + if j ≤ i then 2 ^ 32 else 0 := by
  have hbase := base.toNat_lt
  -- the base cancels, so wrapping of the numbers shows only where the step leads back
  simp only [UInt32.toNat_sub, UInt32.toNat_add, UInt32.toNat_ofNat', UInt32.toNat_one]
  by_cases hle : j ≤ i
  · rw [if_pos hle]
    omega
  · rw [if_neg hle]
    omega

/-- From one position to the next, the packets between them count as lost; 2³² more do if the step
does not lead forward. -/
theorem lost_record (a : LossAccount) {base : UInt32} {i j : Nat} (hi : i < 2 ^ 32)
    (hj : j < 2 ^ 32) (h : a.last = some (base + UInt32.ofNat i)) (length : Nat) :
    ((a.record (base + UInt32.ofNat j) length).2.lost : Int)
      = a.lost + (j - i - 1) + if j ≤ i then 2 ^ 32 else 0 := by
  have hdistance := distance_of_positions base hi hj
  show ((a.lost + (a.arrival _).lost : Nat) : Int) = _
  rw [a.lost_arrival h]
  omega

/-! ## A whole delivery -/

/-- Steps of a delivery that do not lead forward in the stream: from a packet to itself or to an
earlier one. -/
def backsteps (first : Nat) (rest : List Nat) : Nat :=
  ((first :: rest).zip rest).countP fun step => step.2 ≤ step.1

theorem backsteps_cons (first next : Nat) (rest : List Nat) :
    backsteps first (next :: rest) = backsteps next rest + if next ≤ first then 1 else 0 := by
  simp [backsteps, List.countP_cons]

theorem backsteps_le (first : Nat) (rest : List Nat) : backsteps first rest ≤ rest.length := by
  refine Nat.le_trans List.countP_le_length ?_
  rw [List.length_zip]
  exact Nat.min_le_right _ _

/-- The steps of a delivery telescope: what counts as lost depends on the first position, the last
one, their number and the steps that do not lead forward. -/
theorem lost_recordAll_positions {base : UInt32} {first : Nat} {rest : List (Nat × Nat)}
    (hfirst : first < 2 ^ 32) (hrest : ∀ p ∈ rest, p.1 < 2 ^ 32) (a : LossAccount)
    (h : a.last = some (base + UInt32.ofNat first)) :
    ((a.recordAll (rest.map fun p => (base + UInt32.ofNat p.1, p.2))).lost : Int)
      = a.lost + ((rest.map Prod.fst).getLastD first - first - rest.length)
        + 2 ^ 32 * backsteps first (rest.map Prod.fst) := by
  induction rest generalizing a first with
  | nil =>
    show (a.lost : Int) = a.lost + ((first : Int) - first - (0 : Nat)) + 2 ^ 32 * (0 : Nat)
    omega
  | cons next rest ih =>
    obtain ⟨hnext, hlater⟩ := List.forall_mem_cons.mp hrest
    -- the first step counts for itself, and the others start from the position it leads to
    have hstep := a.lost_record hfirst hnext h next.2
    rw [List.map_cons, recordAll_cons, ih hnext hlater _ rfl, hstep, List.map_cons, backsteps_cons,
      List.getLastD_cons, List.length_cons]
    by_cases hback : next.1 ≤ first
    · rw [if_pos hback, if_pos hback]
      omega
    · rw [if_neg hback, if_neg hback]
      omega

/-- The same for a delivery of which only the positions are given, since audio does not count. -/
theorem lost_recordAll {base : UInt32} {first : Nat} {rest : List Nat} (length : Nat → Nat)
    (hbound : ∀ i ∈ first :: rest, i < 2 ^ 32) (a : LossAccount)
    (h : a.last = some (base + UInt32.ofNat first)) :
    ((a.recordAll (rest.map fun i => (base + UInt32.ofNat i, length i))).lost : Int)
      = a.lost + (rest.getLastD first - first - rest.length) + 2 ^ 32 * backsteps first rest := by
  obtain ⟨hfirst, hrest⟩ := List.forall_mem_cons.mp hbound
  have hentries : ∀ p ∈ rest.map fun i => (i, length i), p.1 < 2 ^ 32 :=
    List.forall_mem_map.mpr hrest
  have hlost := lost_recordAll_positions hfirst hentries a h
  rw [List.map_map, List.map_map, List.length_map] at hlost
  rwa [show Prod.fst ∘ (fun i => (i, length i)) = id from rfl, List.map_id] at hlost

/-! ## Forward deliveries -/

section Increasing

variable {first : Nat} {rest : List Nat}

/-- If every step leads forward, there is none that does not. -/
theorem backsteps_of_increasing (h : (first :: rest).Pairwise (· < ·)) :
    backsteps first rest = 0 := by
  induction rest generalizing first with
  | nil => rfl
  | cons next rest ih =>
    obtain ⟨hfirst, hrest⟩ := List.pairwise_cons.mp h
    have hforward : ¬ next ≤ first := Nat.not_le_of_lt (hfirst next List.mem_cons_self)
    rw [backsteps_cons, ih hrest, if_neg hforward]

/-- If every step leads forward, the last position is the largest. -/
theorem le_getLastD_of_increasing (h : (first :: rest).Pairwise (· < ·)) :
    ∀ i ∈ first :: rest, i ≤ rest.getLastD first := by
  induction rest generalizing first with
  | nil =>
    intro i hi
    exact Nat.le_of_eq (List.mem_singleton.mp hi)
  | cons next rest ih =>
    obtain ⟨hfirst, hrest⟩ := List.pairwise_cons.mp h
    intro i hi
    rw [List.getLastD_cons]
    rcases List.mem_cons.mp hi with rfl | hi
    · have hnext : next ≤ rest.getLastD next := ih hrest next List.mem_cons_self
      exact Nat.le_trans (Nat.le_of_lt (hfirst next List.mem_cons_self)) hnext
    · exact ih hrest i hi

/-- The positions from the first to the last that were not delivered. -/
def missing (first : Nat) (rest : List Nat) : Finset Nat :=
  Finset.Icc first (rest.getLastD first) \ (first :: rest).toFinset

/-- If every step leads forward, all positions from the first to the last are delivered or
missing. -/
theorem card_missing (h : (first :: rest).Pairwise (· < ·)) :
    ((missing first rest).card : Int) = rest.getLastD first - first - rest.length := by
  have hnodup : (first :: rest).Nodup := h.imp Nat.ne_of_lt
  have hcard : (first :: rest).toFinset.card = rest.length + 1 := by
    rw [List.toFinset_card_of_nodup hnodup, List.length_cons]
  have hsubset : (first :: rest).toFinset ⊆ Finset.Icc first (rest.getLastD first) := by
    intro i hi
    have hi' : i ∈ first :: rest := List.mem_toFinset.mp hi
    refine Finset.mem_Icc.mpr ⟨?_, le_getLastD_of_increasing h i hi'⟩
    rcases List.mem_cons.mp hi' with rfl | hlater
    · exact Nat.le_refl _
    · exact Nat.le_of_lt ((List.pairwise_cons.mp h).1 i hlater)
  have hle := Finset.card_le_card hsubset
  rw [missing, Finset.card_sdiff_of_subset hsubset, hcard, Nat.card_Icc]
  rw [hcard, Nat.card_Icc] at hle
  omega

end Increasing

/-! ## From the stream to the account -/

/-- Delivered datagrams of a stream are entered with the numbers of their positions. -/
theorem hearAll_datagrams (a : LossAccount) (n : Numbering) {loads : List (UInt32 × Bytes)}
    (haudio : ∀ load ∈ loads, load.2 ≠ []) {positions : List Nat}
    (hpositions : ∀ i ∈ positions, i < loads.length) :
    a.hearAll (positions.map fun i => (n.datagrams loads).getD i [])
      = .ok (a.recordAll (positions.map fun i =>
          (n.sequence + UInt32.ofNat i, (loads.map fun load => load.2.length).getD i 0))) := by
  induction positions generalizing a with
  | nil => rfl
  | cons i rest ih =>
    have hi : i < loads.length := hpositions i List.mem_cons_self
    have hlength : (loads.map fun load => load.2.length).getD i 0 = (loads[i]).2.length := by
      rw [List.getD_eq_getElem?_getD, List.getElem?_map, List.getElem?_eq_getElem hi]
      rfl
    have hheard := a.hear_of_decode
      (n.decode_datagram loads hi (haudio _ (List.getElem_mem hi)))
    rw [List.map_cons, hearAll, List.foldlM_cons, hheard]
    show hearAll _ (rest.map _) = _
    rw [ih _ fun k hk => hpositions k (List.mem_cons_of_mem _ hk), List.map_cons, recordAll_cons,
      hlength]
    rfl

/-- **The loss law.** Of a stream of at most 2³² packets with audio, any packets are delivered, in
any order and any of them more than once. Every datagram is a packet to the receiver, and in the end
its account has lost so many packets as lie between the first and the last one delivered without
being matched by a delivery, and 2³² for every step that did not lead forward. If all of them did,
this is the number of missing packets. The counts stay below 2⁶⁴. -/
theorem lost_of_delivery (sequence sampleCounter : UInt32) (framesPerPacket : Nat)
    (loads : List (UInt32 × Bytes)) (startedAt : Instant) (first : Nat) (rest : List Nat)
    (hstream : loads.length ≤ 2 ^ 32) (haudio : ∀ load ∈ loads, load.2 ≠ [])
    (hpositions : ∀ i ∈ first :: rest, i < loads.length)
    (hdelivery : (first :: rest).length ≤ 2 ^ 32) :
    ∃ a, (opened startedAt).hearAll ((first :: rest).map fun i =>
        ((Numbering.startingAt sequence sampleCounter framesPerPacket).datagrams loads).getD i [])
          = .ok a ∧
      (a.lost : Int) = (rest.getLastD first - first - rest.length) + 2 ^ 32 *
        (((first :: rest).zip rest).countP fun step => step.2 ≤ step.1) ∧
      ((first :: rest).Pairwise (· < ·) → a.lost
        = (Finset.Icc first (rest.getLastD first) \ (first :: rest).toFinset).card) ∧
      a.received = rest.length + 1 ∧ a.lost < 2 ^ 64 ∧ a.received < 2 ^ 64 := by
  have hbound : ∀ i ∈ first :: rest, i < 2 ^ 32 := fun i hi =>
    Nat.lt_of_lt_of_le (hpositions i hi) hstream
  have hheard := hearAll_datagrams (opened startedAt)
    (Numbering.startingAt sequence sampleCounter framesPerPacket) haudio hpositions
  generalize ha : (opened startedAt).recordAll _ = a at hheard
  have hlost : (a.lost : Int) = (rest.getLastD first - first - rest.length)
      + 2 ^ 32 * backsteps first rest := by
    rw [← ha, List.map_cons, recordAll_cons, lost_recordAll _ hbound _ rfl]
    show ((0 : Nat) : Int) + _ + _ = _
    rw [Int.natCast_zero, Int.zero_add]
  have hreceived : a.received = rest.length + 1 := by
    rw [← ha, received_recordAll, List.length_map, List.length_cons]
    exact Nat.zero_add _
  have hlast : rest.getLastD first < 2 ^ 32 := hbound _ List.getLastD_mem_cons
  have hback := backsteps_le first rest
  rw [List.length_cons] at hdelivery
  refine ⟨a, hheard, hlost, fun hincreasing => ?_, hreceived, ?_, ?_⟩
  · have hcard := card_missing hincreasing
    rw [backsteps_of_increasing hincreasing] at hlost
    show a.lost = (missing first rest).card
    omega
  · omega
  · omega

/-- Four packets are numbered across the wrap-around. Delivered in the order 0, 3, 1 they make one
step forward that misses two packets, and one back; in the order 0, 2, 3 they miss one packet. -/
theorem lost_of_delivery_across_wrap :
    let loads : List (UInt32 × Bytes) := [(0, [1, 2]), (1, [3]), (2, [4]), (3, [5])]
    let datagrams := (Numbering.startingAt 0xFFFFFFFE 7 80).datagrams loads
    loads.length ≤ 2 ^ 32 ∧ (∀ load ∈ loads, load.2 ≠ []) ∧
      (∀ i ∈ [0, 3, 1], i < loads.length) ∧ (∀ i ∈ [0, 2, 3], i < loads.length) ∧
      (∃ a, (opened ⟨0⟩).hearAll ([0, 3, 1].map fun i => datagrams.getD i []) = .ok a ∧
        (a.lost : Int) = 2 + (2 ^ 32 - 3)) ∧
      ∃ a, (opened ⟨0⟩).hearAll ([0, 2, 3].map fun i => datagrams.getD i []) = .ok a ∧
        a.lost = 1 := by
  intro loads datagrams
  have hstream : loads.length ≤ 2 ^ 32 := by decide
  have haudio : ∀ load ∈ loads, load.2 ≠ [] := by decide
  have htwisted : ∀ i ∈ [0, 3, 1], i < loads.length := by decide
  have hincreasing : ∀ i ∈ [0, 2, 3], i < loads.length := by decide
  refine ⟨hstream, haudio, htwisted, hincreasing, ?_, ?_⟩
  · obtain ⟨a, hheard, hlost, -⟩ := lost_of_delivery 0xFFFFFFFE 7 80 loads ⟨0⟩ 0 [3, 1]
      hstream haudio htwisted (by decide)
    exact ⟨a, hheard, hlost.trans (by decide)⟩
  · obtain ⟨a, hheard, -, hmissing, -⟩ := lost_of_delivery 0xFFFFFFFE 7 80 loads ⟨0⟩ 0 [2, 3]
      hstream haudio hincreasing (by decide)
    exact ⟨a, hheard, (hmissing (by decide)).trans (by decide)⟩

end ToneLink.LossAccount
