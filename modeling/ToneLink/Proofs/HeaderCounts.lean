import Mathlib.Data.Int.ModEq
import Mathlib.Tactic.Ring
import ToneLink.Proofs.LossTotals

/-!
# The two counts of a header

Every header counts packets and frames, each modulo 2³², and the two counts wrap around at different
places. A receiver that sees only some headers of a stream can still tell from either count how far
apart two of them are:

- `Numbering.sequence_headerAt`, `Numbering.sampleCounter_headerAt`: both counts as exact numbers.
  Only the last 32 bits of the frames per packet are kept, and that changes no count;
- `Numbering.sampleCounter_sub_modEq`: between any two headers, the frames counted are the packets
  counted times the frames of a packet;
- `LossAccount.lost_of_positions`: between two headers that arrive one after the other, what counts
  as lost are the packets between them;
- `Numbering.counts_agree`: the law of both counts and of the loss account.
-/

namespace ToneLink

namespace Numbering

variable (sequence sampleCounter : UInt32) (framesPerPacket position : Nat) (timestamp : UInt32)

/-! ## Exact numbers -/

/-- The number of a packet is its position, counted from the first number on. -/
theorem sequence_headerAt :
    ((startingAt sequence sampleCounter framesPerPacket).headerAt position timestamp).sequence.toNat
      = (sequence.toNat + position) % 2 ^ 32 := by
  show (sequence + UInt32.ofNat position).toNat = _
  rw [UInt32.toNat_add, UInt32.toNat_ofNat', Nat.add_mod_mod]

/-- The frames before a packet are those of all packets before it, from the first count on. -/
theorem sampleCounter_headerAt :
    ((startingAt sequence sampleCounter framesPerPacket).headerAt position
        timestamp).sampleCounter.toNat
      = (sampleCounter.toNat + position * framesPerPacket) % 2 ^ 32 := by
  show (sampleCounter + UInt32.ofNat position * UInt32.ofNat framesPerPacket).toNat = _
  -- products may be cut to 32 bits before or after they are taken
  rw [UInt32.toNat_add, UInt32.toNat_mul, UInt32.toNat_ofNat', UInt32.toNat_ofNat', ← Nat.mul_mod,
    Nat.add_mod_mod]

/-- A stream has one header for each time stamp. -/
theorem length_headers (n : Numbering) (timestamps : List UInt32) :
    (n.headers timestamps).1.length = timestamps.length := by
  induction timestamps generalizing n with
  | nil => rfl
  | cons t rest ih => exact congrArg Nat.succ (ih (n.next t).2)

/-- A header of a stream stands at some position. -/
theorem eq_headerAt_of_getElem? {n : Numbering} {timestamps : List UInt32} {k : Nat} {h : Header}
    (hk : (n.headers timestamps).1[k]? = some h) : ∃ timestamp, h = n.headerAt k timestamp := by
  rw [headers_getElem?] at hk
  obtain ⟨timestamp, -, rfl⟩ := Option.map_eq_some_iff.mp hk
  exact ⟨timestamp, rfl⟩

/-! ## Differences -/

section Differences

variable {sequence sampleCounter : UInt32} {framesPerPacket : Nat}

theorem sequence_headerAt_modEq :
    (((startingAt sequence sampleCounter framesPerPacket).headerAt position
        timestamp).sequence.toNat : Int) ≡ sequence.toNat + position [ZMOD 2 ^ 32] := by
  rw [sequence_headerAt]
  exact_mod_cast Nat.mod_modEq _ _

theorem sampleCounter_headerAt_modEq :
    (((startingAt sequence sampleCounter framesPerPacket).headerAt position
        timestamp).sampleCounter.toNat : Int)
      ≡ sampleCounter.toNat + position * framesPerPacket [ZMOD 2 ^ 32] := by
  rw [sampleCounter_headerAt]
  exact_mod_cast Nat.mod_modEq _ _

/-- The frames counted between two positions, in either order. -/
theorem sampleCounter_sub_modEq_positions (i j : Nat) (s t : UInt32) :
    let n := startingAt sequence sampleCounter framesPerPacket
    ((n.headerAt j t).sampleCounter.toNat - (n.headerAt i s).sampleCounter.toNat : Int)
      ≡ framesPerPacket * (j - i) [ZMOD 2 ^ 32] := by
  intro n
  have hdifference : ((sampleCounter.toNat + j * framesPerPacket)
      - (sampleCounter.toNat + i * framesPerPacket) : Int) = framesPerPacket * (j - i) := by ring
  rw [← hdifference]
  exact (sampleCounter_headerAt_modEq j t).sub (sampleCounter_headerAt_modEq i s)

/-- The frames counted between two headers are the packets counted between them, each with its
frames, although both counts may have wrapped around. -/
theorem sampleCounter_sub_modEq (i j : Nat) (s t : UInt32) :
    let n := startingAt sequence sampleCounter framesPerPacket
    ((n.headerAt j t).sampleCounter.toNat - (n.headerAt i s).sampleCounter.toNat : Int)
      ≡ framesPerPacket * ((n.headerAt j t).sequence.toNat - (n.headerAt i s).sequence.toNat)
        [ZMOD 2 ^ 32] := by
  intro n
  have hpackets : ((n.headerAt j t).sequence.toNat - (n.headerAt i s).sequence.toNat : Int)
      ≡ (sequence.toNat + j) - (sequence.toNat + i) [ZMOD 2 ^ 32] :=
    (sequence_headerAt_modEq j t).sub (sequence_headerAt_modEq i s)
  rw [add_sub_add_left_eq_sub] at hpackets
  exact (sampleCounter_sub_modEq_positions i j s t).trans (hpackets.mul_left _).symm

end Differences

end Numbering

/-! ## What counts as lost -/

namespace LossAccount

/-- From one position to a later one, exactly the packets between them count as lost, as long as the
numbers have not come round again. -/
theorem lost_of_positions (a : LossAccount) {base : UInt32} {i j : Nat} (hij : i < j)
    (hround : j - i ≤ 2 ^ 32) (h : a.last = some (base + UInt32.ofNat i)) :
    (a.arrival (base + UInt32.ofNat j)).lost = j - i - 1 := by
  have hbase := base.toNat_lt
  rw [a.lost_arrival h]
  simp only [UInt32.toNat_sub, UInt32.toNat_add, UInt32.toNat_ofNat', UInt32.toNat_one]
  omega

/-- Nothing counts as lost only with the next number. -/
theorem lost_arrival_eq_zero_iff_inOrder (a : LossAccount) {last : UInt32} (h : a.last = some last)
    (sequence : UInt32) : (a.arrival sequence).lost = 0 ↔ a.arrival sequence = .inOrder := by
  rw [a.lost_arrival_eq_zero_iff h]
  rcases a.arrival_cases h sequence with ⟨hexpected, harrival⟩ | ⟨hexpected, lost, harrival, -⟩
  · exact iff_of_true hexpected harrival
  · refine iff_of_false hexpected ?_
    rw [harrival]
    exact Arrival.noConfusion

end LossAccount

/-! ## The law -/

/-- **Both counts of a header follow from its position, and so they agree.** However many frames a
packet has, the `k`-th header of a stream shows the first number plus `k`, the first sample counter
plus `k` times the frames of a packet, and the `k`-th time stamp. Between any two headers, in either
order, the sample counters therefore differ by the frames of as many packets as the numbers differ
by. If a loss account is given one header and then a later one, at most 2³² positions away, the
packets between them count as lost, none of them exactly if the header is in order, and the sample
counters differ by the frames of the lost packets and of one more. -/
theorem Numbering.counts_agree (sequence sampleCounter : UInt32) (framesPerPacket : Nat)
    (timestamps : List UInt32) :
    let headers := ((startingAt sequence sampleCounter framesPerPacket).headers timestamps).1
    headers.length = timestamps.length ∧
    (∀ (k : Nat) (hk : k < timestamps.length), ∃ h, headers[k]? = some h ∧
      h.sequence.toNat = (sequence.toNat + k) % 2 ^ 32 ∧
      h.sampleCounter.toNat = (sampleCounter.toNat + k * framesPerPacket) % 2 ^ 32 ∧
      h.timestamp = timestamps[k]) ∧
    (∀ a ∈ headers, ∀ b ∈ headers,
      (b.sampleCounter.toNat - a.sampleCounter.toNat : Int)
        ≡ framesPerPacket * (b.sequence.toNat - a.sequence.toNat) [ZMOD 2 ^ 32]) ∧
    ∀ (i j : Nat) (a b : Header), headers[i]? = some a → headers[j]? = some b → i < j →
      j - i ≤ 2 ^ 32 → ∀ (account : LossAccount) (length length' : Nat),
        let first := (account.record a.sequence length).2
        let (arrival, second) := first.record b.sequence length'
        arrival.lost = j - i - 1 ∧ (arrival.lost = 0 ↔ arrival = .inOrder) ∧
        second.lost = first.lost + arrival.lost ∧
        (b.sampleCounter.toNat - a.sampleCounter.toNat : Int)
          ≡ framesPerPacket * (arrival.lost + 1) [ZMOD 2 ^ 32] := by
  intro headers
  refine ⟨length_headers _ timestamps, ?_, ?_, ?_⟩
  · intro k hk
    refine ⟨_, ?_, sequence_headerAt sequence sampleCounter framesPerPacket k timestamps[k],
      sampleCounter_headerAt _ _ _ _ _, rfl⟩
    rw [headers_getElem?, List.getElem?_eq_getElem hk]
    rfl
  · intro a ha b hb
    obtain ⟨i, hi⟩ := List.mem_iff_getElem?.mp ha
    obtain ⟨j, hj⟩ := List.mem_iff_getElem?.mp hb
    obtain ⟨s, rfl⟩ := eq_headerAt_of_getElem? hi
    obtain ⟨t, rfl⟩ := eq_headerAt_of_getElem? hj
    exact sampleCounter_sub_modEq i j s t
  · intro i j a b hi hj hij hround account length length' first
    obtain ⟨s, rfl⟩ := eq_headerAt_of_getElem? hi
    obtain ⟨t, rfl⟩ := eq_headerAt_of_getElem? hj
    have hlast : first.last = some (sequence + UInt32.ofNat i) := rfl
    have hlost : (first.arrival (sequence + UInt32.ofNat j)).lost = j - i - 1 :=
      first.lost_of_positions hij hround hlast
    refine ⟨hlost, first.lost_arrival_eq_zero_iff_inOrder hlast _, rfl, ?_⟩
    -- one packet more than is lost lies between the two positions
    have hpackets : ((first.arrival (sequence + UInt32.ofNat j)).lost + 1 : Int) = j - i := by
      omega
    show _ ≡ framesPerPacket * ((first.arrival (sequence + UInt32.ofNat j)).lost + 1) [ZMOD 2 ^ 32]
    rw [hpackets]
    exact sampleCounter_sub_modEq_positions i j s t

/-- Five headers with more frames per packet than 32 bits hold. Both counts wrap around after the
second header; of the third and the fifth, given to an account, two packets were sent, one of them
lost. -/
theorem Numbering.counts_agree_across_wrap :
    let headers := ((startingAt 0xFFFFFFFE 0xFFFFFF00 (2 ^ 32 + 200)).headers [7, 8, 9, 10, 11]).1
    let first := ((LossAccount.opened ⟨0⟩).record 0 4).2
    headers[2]? = some ⟨0, 144, 9⟩ ∧ headers[4]? = some ⟨2, 544, 11⟩ ∧
      (first.record 2 4).1.lost = 1 ∧
      (544 - 144 : Int) ≡ (2 ^ 32 + 200 : Nat) * (1 + 1) [ZMOD 2 ^ 32] := by
  intro headers first
  have hthird : headers[2]? = some ⟨0, 144, 9⟩ := by decide
  have hfifth : headers[4]? = some ⟨2, 544, 11⟩ := by decide
  obtain ⟨-, -, -, hpairs⟩ := counts_agree 0xFFFFFFFE 0xFFFFFF00 (2 ^ 32 + 200) [7, 8, 9, 10, 11]
  obtain ⟨hlost, -, -, hframes⟩ := hpairs 2 4 _ _ hthird hfifth (by decide) (by decide)
    (.opened ⟨0⟩) 4 4
  refine ⟨hthird, hfifth, hlost, ?_⟩
  exact hframes

end ToneLink
