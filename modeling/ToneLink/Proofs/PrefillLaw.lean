import Mathlib.Algebra.Order.Floor.Div
import ToneLink.Proofs.SinkContents

/-!
# How much silence a prefill queues

A prefill ends at its target or when the queue is full, whichever comes first. Either way it has
queued silence and nothing else, as much as it reports.

- `JitterQueue.fillRoom_queued`: as many bytes are reached as fit into the free places, at most the
  target;
- `JitterQueue.fillRoom_flatten`: the chunks are silence of so many bytes;
- `JitterQueue.dvd_length_of_mem_prefill`: the chunks are whole frames if target and chunk size are;
- `JitterQueue.prefill_flatten`: the silence stands behind everything that waited before;
- `JitterQueue.prefill_flatten_of_fits`: a target that fits is reached exactly;
- `JitterQueue.pieceLength`: the pieces that a target is cut into;
- `JitterQueue.fillRoom_eq`: which of them a prefill has yet to queue at any point, and how it ends;
- `JitterQueue.fillRoom_of_fits`: whole chunks and a last one, if they fit;
- `JitterQueue.prefill_from_any_state`: the law for any queue, target and chunk size.
-/

namespace ToneLink.JitterQueue

variable (target chunkBytes : Nat)

/-- Every place takes one chunk, until the target is reached. -/
theorem fillRoom_queued : ∀ (room queued : Nat), queued ≤ target →
    (fillRoom target chunkBytes room queued).queued = min target (queued + room * chunkBytes)
  | 0, queued, hle => by
    by_cases h : queued < target
    · simp only [fillRoom, if_pos h]
      omega
    · simp only [fillRoom, if_neg h]
      omega
  | room + 1, queued, hle => by
    by_cases h : queued < target
    · simp only [fillRoom, if_pos h]
      rw [fillRoom_queued room _ (by omega), Nat.succ_mul]
      omega
    · simp only [fillRoom, if_neg h]
      omega

/-- A prefill never loses what was reached before. -/
theorem le_fillRoom_queued (room queued : Nat) (hle : queued ≤ target) :
    queued ≤ (fillRoom target chunkBytes room queued).queued := by
  rw [fillRoom_queued target chunkBytes room queued hle]
  omega

/-- The chunks are silence, as much as was added. -/
theorem fillRoom_flatten : ∀ (room queued : Nat), queued ≤ target →
    (fillRoom target chunkBytes room queued).chunks.flatten
      = silence ((fillRoom target chunkBytes room queued).queued - queued)
  | 0, queued, hle => by
    by_cases h : queued < target <;> simp [fillRoom, h, silence]
  | room + 1, queued, hle => by
    by_cases h : queued < target
    · -- the chunk makes up the difference between two stages of the target
      have hnext : queued + min chunkBytes (target - queued) ≤ target := by omega
      have hgrows := le_fillRoom_queued target chunkBytes room _ hnext
      simp only [fillRoom, if_pos h, List.flatten_cons]
      rw [fillRoom_flatten room _ hnext, silence_append]
      congr 1
      omega
    · simp [fillRoom, h, silence]

variable {target chunkBytes}

/-- With a chunk size, a prefill tries to reach its target in the free places. -/
theorem prefill_fst (q : JitterQueue) (target : Nat) (hchunk : chunkBytes ≠ 0) :
    (q.prefill target chunkBytes).1 = fillRoom target chunkBytes (q.capacity - q.depth) 0 := by
  rw [prefill, if_neg hchunk]

/-- If target and chunk size are whole frames, then so is every chunk: the last one is what the
others have left of the target. -/
theorem dvd_length_of_mem_fillRoom {frame : Nat} (htarget : frame ∣ target)
    (hchunk : frame ∣ chunkBytes) : ∀ (room queued : Nat), frame ∣ queued →
      ∀ chunk ∈ (fillRoom target chunkBytes room queued).chunks, frame ∣ chunk.length
  | 0, queued, _, chunk, hmem => by
    by_cases h : queued < target <;> simp [fillRoom, h] at hmem
  | room + 1, queued, hqueued, chunk, hmem => by
    by_cases h : queued < target
    · have hlength : frame ∣ min chunkBytes (target - queued) :=
        min_rec' (frame ∣ ·) hchunk (Nat.dvd_sub htarget hqueued)
      simp only [fillRoom, if_pos h, List.mem_cons] at hmem
      rcases hmem with rfl | hlater
      · rw [length_silence]
        exact hlength
      · exact dvd_length_of_mem_fillRoom htarget hchunk room _ (Nat.dvd_add hqueued hlength) _
          hlater
    · simp [fillRoom, h] at hmem

/-- The same for a prefill, also for one that is stopped short by a full queue. -/
theorem dvd_length_of_mem_prefill (q : JitterQueue) {frame : Nat} (htarget : frame ∣ target)
    (hchunk : frame ∣ chunkBytes) {chunk : Bytes}
    (hmem : chunk ∈ (q.prefill target chunkBytes).1.chunks) : frame ∣ chunk.length := by
  by_cases hzero : chunkBytes = 0
  · rw [prefill, if_pos hzero] at hmem
    exact absurd hmem List.not_mem_nil
  · rw [q.prefill_fst target hzero] at hmem
    exact dvd_length_of_mem_fillRoom htarget hchunk _ 0 (Nat.dvd_zero _) _ hmem

/-- A prefill leaves everything that waited before in its place, and behind it as much silence as it
says. -/
theorem prefill_flatten (q : JitterQueue) (target chunkBytes : Nat) :
    (q.prefill target chunkBytes).2.chunks.flatten
      = q.chunks.flatten ++ silence (q.prefill target chunkBytes).1.queued := by
  unfold prefill
  split
  · exact (List.append_nil _).symm
  · show (q.chunks ++ (fillRoom target chunkBytes _ 0).chunks).flatten = _
    rw [List.flatten_append, fillRoom_flatten _ _ _ _ (Nat.zero_le _), Nat.sub_zero]

/-- A target that fits into the free places is reached exactly. -/
theorem prefill_flatten_of_fits (q : JitterQueue) (hchunk : chunkBytes ≠ 0)
    (hfits : target ≤ (q.capacity - q.depth) * chunkBytes) :
    (q.prefill target chunkBytes).2.chunks.flatten = q.chunks.flatten ++ silence target := by
  have hqueued := fillRoom_queued target chunkBytes (q.capacity - q.depth) 0 (Nat.zero_le _)
  rw [Nat.zero_add, Nat.min_eq_left hfits] at hqueued
  rw [prefill_flatten, q.prefill_fst target hchunk, hqueued]

/-- At its target a prefill ends. -/
theorem fillRoom_self (room : Nat) :
    fillRoom target chunkBytes room target = ⟨[], target, 0, false⟩ := by
  cases room <;> simp [fillRoom]

/-! ## Any queue, any target -/

/-- The lengths of the pieces of a target: the last one is what the others leave. -/
def pieceLength (target chunkBytes i : Nat) : Nat := min chunkBytes (target - i * chunkBytes)

/-- There is another piece exactly if the pieces before it do not reach the target. -/
theorem lt_ceilDiv_iff (target : Nat) (hchunk : 0 < chunkBytes) (i : Nat) :
    i < target ⌈/⌉ chunkBytes ↔ i * chunkBytes < target := by
  rw [← not_le, ceilDiv_le_iff_le_mul hchunk, not_le, Nat.mul_comm]

/-- A piece is a whole chunk unless it is the last one, which is what the others leave. -/
theorem pieceLength_eq (hchunk : 0 < chunkBytes) {i : Nat} (hi : i < target ⌈/⌉ chunkBytes) :
    pieceLength target chunkBytes i = if i + 1 = target ⌈/⌉ chunkBytes
      then target - chunkBytes * (target ⌈/⌉ chunkBytes - 1) else chunkBytes := by
  have hnext := lt_ceilDiv_iff target hchunk (i + 1)
  rw [Nat.succ_mul] at hnext
  rw [pieceLength]
  by_cases hlast : i + 1 = target ⌈/⌉ chunkBytes
  · have hothers : target ⌈/⌉ chunkBytes - 1 = i := by omega
    rw [if_pos hlast, hothers, Nat.mul_comm chunkBytes]
    omega
  · rw [if_neg hlast]
    omega

/-- **The loop of a prefill.** After `i` pieces, `i` chunks are reached or the target is. From there
on every place takes the next piece until all pieces are queued; if the places run out first, there
is one attempt more. -/
theorem fillRoom_eq (hchunk : 0 < chunkBytes) : ∀ (room i : Nat),
    fillRoom target chunkBytes room (min target (i * chunkBytes))
      = { chunks := (List.range' i (min (target ⌈/⌉ chunkBytes - i) room)).map fun j =>
            silence (pieceLength target chunkBytes j)
          queued := min target ((i + room) * chunkBytes)
          attempts := min (target ⌈/⌉ chunkBytes - i) room
            + if room < target ⌈/⌉ chunkBytes - i then 1 else 0
          stoppedShort := decide (room < target ⌈/⌉ chunkBytes - i) }
  | 0, i => by
    have hpiece := lt_ceilDiv_iff target hchunk i
    by_cases h : i * chunkBytes < target
    · have hqueued : min target (i * chunkBytes) < target := by omega
      have hmore : 0 < target ⌈/⌉ chunkBytes - i := by omega
      simp [fillRoom, hqueued, hmore]
    · have hqueued : ¬ min target (i * chunkBytes) < target := by omega
      have hnone : target ⌈/⌉ chunkBytes - i = 0 := by omega
      simp [fillRoom, hqueued, hnone]
  | room + 1, i => by
    have hpiece := lt_ceilDiv_iff target hchunk i
    by_cases h : i * chunkBytes < target
    · have hqueued : min target (i * chunkBytes) = i * chunkBytes := by omega
      have hnext : i * chunkBytes + min chunkBytes (target - i * chunkBytes)
          = min target ((i + 1) * chunkBytes) := by
        rw [Nat.succ_mul]
        omega
      have hpieces : min (target ⌈/⌉ chunkBytes - i) (room + 1)
          = min (target ⌈/⌉ chunkBytes - (i + 1)) room + 1 := by omega
      have hshort : room + 1 < target ⌈/⌉ chunkBytes - i
          ↔ room < target ⌈/⌉ chunkBytes - (i + 1) := by omega
      have hroom : i + 1 + room = i + (room + 1) := by omega
      rw [hqueued, fillRoom, if_pos h]
      simp only [hnext]
      rw [fillRoom_eq hchunk room (i + 1)]
      simp only [hpieces, hshort, hroom, List.range'_succ, List.map_cons, pieceLength,
        Nat.add_right_comm]
    · have hqueued : min target (i * chunkBytes) = target := by omega
      have hlast : min target ((i + (room + 1)) * chunkBytes) = target := by
        rw [Nat.add_mul]
        omega
      have hnone : target ⌈/⌉ chunkBytes - i = 0 := by omega
      rw [hqueued, fillRoom_self]
      simp [hnone, hlast]

/-- A prefill queues the first pieces of its target, as many as there is room for. -/
theorem fillRoom_zero_eq (target : Nat) (hchunk : 0 < chunkBytes) (room : Nat) :
    fillRoom target chunkBytes room 0
      = { chunks := (List.range (min (target ⌈/⌉ chunkBytes) room)).map fun j =>
            silence (pieceLength target chunkBytes j)
          queued := min target (room * chunkBytes)
          attempts := min (target ⌈/⌉ chunkBytes) room
            + if room < target ⌈/⌉ chunkBytes then 1 else 0
          stoppedShort := decide (room < target ⌈/⌉ chunkBytes) } := by
  have hloop : fillRoom target chunkBytes room (min target (0 * chunkBytes)) = _ :=
    fillRoom_eq hchunk room 0
  rw [Nat.zero_mul, Nat.min_zero, Nat.sub_zero, Nat.zero_add, ← List.range_eq_range'] at hloop
  exact hloop

/-- A target of some whole chunks and a last one, which may be shorter, is reached by these chunks
if there are places for them. -/
theorem fillRoom_of_fits {full last room : Nat} (hpos : 0 < last) (hle : last ≤ chunkBytes)
    (hroom : full < room) (htarget : target = full * chunkBytes + last) :
    fillRoom target chunkBytes room 0
      = ⟨List.replicate full (silence chunkBytes) ++ [silence last], target, full + 1, false⟩ := by
  have hchunk : 0 < chunkBytes := Nat.lt_of_lt_of_le hpos hle
  have hpieces : target ⌈/⌉ chunkBytes = full + 1 := by
    have hlast := lt_ceilDiv_iff target hchunk full
    have hend := lt_ceilDiv_iff target hchunk (full + 1)
    rw [Nat.succ_mul] at hend
    omega
  have hall : min (full + 1) room = full + 1 := Nat.min_eq_left hroom
  have hreached : min target (room * chunkBytes) = target := by
    refine Nat.min_eq_left ((?_ : target ≤ (full + 1) * chunkBytes).trans
      (Nat.mul_le_mul_right _ hroom))
    rw [Nat.succ_mul]
    omega
  have hwhole : (List.range full).map (fun j => silence (pieceLength target chunkBytes j))
      = List.replicate full (silence chunkBytes) := by
    refine List.eq_replicate_iff.mpr ⟨by rw [List.length_map, List.length_range], ?_⟩
    refine List.forall_mem_map.mpr fun j hj => ?_
    have hbefore := List.mem_range.mp hj
    rw [pieceLength_eq hchunk (by omega), if_neg (by omega)]
  have hlength : pieceLength target chunkBytes full = last := by
    rw [pieceLength]
    omega
  rw [fillRoom_zero_eq target hchunk, hpieces, hall, hreached, List.range_succ, List.map_append,
    hwhole, List.map_singleton, hlength]
  simp [Nat.not_lt.mpr (Nat.succ_le_of_lt hroom)]

/-- A prefill stays within the free places. -/
theorem length_prefill_le (q : JitterQueue) (target chunkBytes : Nat) :
    (q.prefill target chunkBytes).1.chunks.length ≤ q.capacity - q.depth := by
  rcases Nat.eq_zero_or_pos chunkBytes with rfl | hchunk
  · exact Nat.zero_le _
  · rw [q.prefill_fst target (Nat.ne_of_gt hchunk), fillRoom_zero_eq target hchunk, List.length_map,
      List.length_range]
    exact Nat.min_le_right _ _

/-- **A prefill of any queue.** Whatever waits in the queue, and whatever target and chunk size are
asked for: without a chunk size nothing happens. Otherwise the target is cut into pieces of the
chunk size, the last of which is what the others leave, and the first of these are appended as
silence, as many as there is room for. What waited before stays as it is. So many bytes are reported
as were appended: the whole target exactly if there was room for all its pieces, and otherwise a
full chunk for every place. At no point are more bytes queued than the target, and after as many
attempts as there are places, and one more at most, it is over. -/
theorem prefill_from_any_state (q : JitterQueue) (target chunkBytes : Nat) :
    let done := (q.prefill target chunkBytes).1
    let later := (q.prefill target chunkBytes).2
    let pieces := target ⌈/⌉ chunkBytes
    let room := q.capacity - q.depth
    later = { q with chunks := q.chunks ++ done.chunks } ∧
    (chunkBytes = 0 → later = q ∧ done.queued = 0) ∧
    (chunkBytes ≠ 0 →
      done.chunks.length = min pieces room ∧
      (∀ (i : Nat) (hi : i < done.chunks.length), done.chunks[i] = silence
        (if i + 1 = pieces then target - chunkBytes * (pieces - 1) else chunkBytes)) ∧
      done.queued = done.chunks.flatten.length ∧
      (done.queued = target ↔ pieces ≤ room) ∧
      (room < pieces → done.queued = min pieces room * chunkBytes)) ∧
    (∀ count, (done.chunks.take count).flatten.length ≤ target) ∧
    done.attempts ≤ room + 1 := by
  intro done later pieces room
  rcases Nat.eq_zero_or_pos chunkBytes with rfl | hchunk
  · have hnothing : q.prefill target 0 = (⟨[], 0, 0, false⟩, q) := if_pos rfl
    refine ⟨q.prefill_snd target 0, fun _ => ?_, fun hne => absurd rfl hne, fun count => ?_, ?_⟩
    · exact ⟨congrArg Prod.snd hnothing, congrArg (fun p => p.1.queued) hnothing⟩
    · show ((q.prefill target 0).1.chunks.take count).flatten.length ≤ target
      rw [hnothing, List.take_nil]
      exact Nat.zero_le _
    · show (q.prefill target 0).1.attempts ≤ room + 1
      rw [hnothing]
      exact Nat.zero_le _
  · have hdone : done = _ :=
      (q.prefill_fst target (Nat.ne_of_gt hchunk)).trans (fillRoom_zero_eq target hchunk room)
    have hroom := lt_ceilDiv_iff target hchunk room
    have hlength : done.chunks.length = min pieces room := by
      rw [hdone, List.length_map, List.length_range]
    have hqueued : done.queued = min target (room * chunkBytes) := by rw [hdone]
    have hbytes : done.queued = done.chunks.flatten.length := by
      have hflatten := q.prefill_flatten target chunkBytes
      rw [q.prefill_snd, List.flatten_append] at hflatten
      have hsilence := congrArg List.length (List.append_cancel_left hflatten)
      rw [length_silence] at hsilence
      exact hsilence.symm
    refine ⟨q.prefill_snd target chunkBytes, fun hzero => absurd hzero (Nat.ne_of_gt hchunk),
      fun _ => ⟨hlength, ?_, hbytes, ?_, ?_⟩, ?_, ?_⟩
    · intro i hi
      have hpiece : i < pieces := by omega
      have hget : done.chunks[i] = silence (pieceLength target chunkBytes i) := by
        simp only [hdone, List.getElem_map, List.getElem_range]
      rw [hget, pieceLength_eq hchunk hpiece]
    · rw [hqueued]
      omega
    · intro hfull
      rw [hqueued, Nat.min_eq_right (Nat.le_of_lt hfull)]
      omega
    · intro count
      have hsplit := congrArg (fun chunks => chunks.flatten.length)
        (List.take_append_drop count done.chunks)
      simp only [List.flatten_append, List.length_append] at hsplit
      omega
    · have hattempts : done.attempts = min pieces room + if room < pieces then 1 else 0 := by
        rw [hdone]
      rw [hattempts]
      split <;> omega

/-- A queue with three free places is asked for eight bytes of silence in chunks of three: they take
all places, and the last chunk is shorter. With two free places there are six bytes and one vain
attempt, and a target of nearly 2⁶⁴ bytes changes nothing about that. -/
theorem prefill_from_any_state_short_last :
    let q : JitterQueue := { capacity := 4, chunks := [[7]] }
    let fuller : JitterQueue := { capacity := 4, chunks := [[7], [8, 8]] }
    (3 ≠ 0 ∧ (q.prefill 8 3).1.queued = 8) ∧
      (fuller.capacity - fuller.depth < 8 ⌈/⌉ 3 ∧ (fuller.prefill 8 3).1.queued = 6) ∧
      (fuller.prefill 0xFFFFFFFFFFFFFFFF 3).1.attempts ≤ 3 := by
  intro q fuller
  have hchunk : 3 ≠ 0 := by decide
  have hfits : 8 ⌈/⌉ 3 ≤ q.capacity - q.depth := by decide
  have hfull : fuller.capacity - fuller.depth < 8 ⌈/⌉ 3 := by decide
  obtain ⟨-, -, -, hwhole, -⟩ := (prefill_from_any_state q 8 3).2.2.1 hchunk
  obtain ⟨-, -, -, -, hcut⟩ := (prefill_from_any_state fuller 8 3).2.2.1 hchunk
  refine ⟨⟨hchunk, hwhole.mpr hfits⟩, ⟨hfull, (hcut hfull).trans (by decide)⟩, ?_⟩
  exact (prefill_from_any_state fuller 0xFFFFFFFFFFFFFFFF 3).2.2.2.2

end ToneLink.JitterQueue
