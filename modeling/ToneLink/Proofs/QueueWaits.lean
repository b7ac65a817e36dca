import ToneLink.Proofs.SinkContents

/-!
# What the wait of a producer comes to

A push that finds the queue full waits for the consumer, and an enqueue may wait twice. In the end
there is room or not, so each of them comes to a push that does not wait.

- `JitterQueue.awaited`: the queue at the end of a wait;
- `JitterQueue.push_eq_awaited`, `JitterQueue.enqueue_eq_push`: what is pushed into it;
- `JitterQueue.enqueue_undisturbed`: an enqueue while the consumer rests;
- `JitterQueue.enqueue_cases`: all that an enqueue on a bounded queue can come to.
-/

namespace ToneLink.JitterQueue

/-- The queue at the end of a wait. There is no wait if there is room. -/
def awaited (q : JitterQueue) (taken : Nat) : JitterQueue :=
  if q.hasRoom then q else (q.pullMany taken).2

theorem awaited_zero (q : JitterQueue) : q.awaited 0 = q := by
  by_cases hroom : q.hasRoom
  · rw [awaited, if_pos hroom]
  · rw [awaited, if_neg hroom]
    rfl

/-- A push while nothing is taken is queued exactly if there is room. -/
theorem push_zero (q : JitterQueue) (chunk : Bytes) :
    q.push chunk 0
      = if q.hasRoom then (.queued, { q with chunks := q.chunks ++ [chunk] })
        else (.dropped, q) := by
  have hpush := q.push_eq chunk 0
  have hwaited : (if q.hasRoom then q else (q.pullMany 0).2) = q := q.awaited_zero
  simp only [hwaited] at hpush
  exact hpush

/-- A push that waits comes to a push at the end of its wait. -/
theorem push_eq_awaited (q : JitterQueue) (chunk : Bytes) (taken : Nat) :
    q.push chunk taken = (q.awaited taken).push chunk 0 := by
  rw [push_zero]
  exact q.push_eq chunk taken

/-- Whoever waits with the producer, an enqueue comes to a push at the end of both waits. -/
theorem enqueue_eq_push (q : JitterQueue) (host : Host) (chunk : Bytes) (consumer : Interference) :
    q.enqueue host chunk consumer
      = ((q.awaited consumer.before).awaited consumer.during).push chunk 0 := by
  by_cases hroom : q.hasRoom
  · have hwaits : (q.awaited consumer.before).awaited consumer.during = q := by
      rw [awaited, awaited, if_pos hroom, if_pos hroom]
    rw [hwaits, push_zero, if_pos hroom]
    simp only [enqueue, offer_eq, if_pos hroom]
  · have hbefore : q.awaited consumer.before = (q.pullMany consumer.before).2 := if_neg hroom
    rw [hbefore, ← push_eq_awaited]
    simp only [enqueue, offer_eq, if_neg hroom, Host.wait_eq]

/-- A chunk that is queued while the consumer rests is queued exactly if there is room, whoever
waits with the producer. -/
theorem enqueue_undisturbed (q : JitterQueue) (host : Host) (chunk : Bytes) :
    q.enqueue host chunk {}
      = if q.hasRoom then (.queued, { q with chunks := q.chunks ++ [chunk] })
        else (.dropped, q) := by
  rw [enqueue_eq_push, awaited_zero, awaited_zero, push_zero]

/-! ## Bounded queues -/

/-- In a bounded queue, a wait during which anything is taken ends with room. -/
theorem awaited_hasRoom {q : JitterQueue} (hpos : 0 < q.capacity) (hle : q.depth ≤ q.capacity)
    {taken : Nat} (htaken : taken ≠ 0) : (q.awaited taken).hasRoom := by
  by_cases hroom : q.hasRoom
  · rw [awaited, if_pos hroom]
    exact hroom
  · rw [awaited, if_neg hroom]
    refine decide_eq_true ?_
    show (q.chunks.drop taken).length < q.capacity
    have hle' : q.chunks.length ≤ q.capacity := hle
    rw [List.length_drop]
    omega

/-- A wait takes chunks from the front. -/
theorem awaited_suffix (q : JitterQueue) (taken : Nat) :
    ∃ rest, q.awaited taken = { q with chunks := rest } ∧ rest <:+ q.chunks := by
  by_cases hroom : q.hasRoom
  · exact ⟨q.chunks, if_pos hroom, List.suffix_refl _⟩
  · exact ⟨q.chunks.drop taken, if_neg hroom, List.drop_suffix _ _⟩

/-- An enqueue on a bounded queue is dropped only if the queue is full and stays so; otherwise its
chunk comes behind what the consumer has left. -/
theorem enqueue_cases {q : JitterQueue} (hpos : 0 < q.capacity) (hle : q.depth ≤ q.capacity)
    (host : Host) (chunk : Bytes) (consumer : Interference) :
    (q.depth = q.capacity ∧ consumer = {} ∧ q.enqueue host chunk consumer = (.dropped, q)) ∨
      ∃ taken rest, q.chunks = taken ++ rest ∧ rest.length < q.capacity ∧
        q.enqueue host chunk consumer = (.queued, { q with chunks := rest ++ [chunk] }) := by
  rw [enqueue_eq_push, push_zero]
  obtain ⟨left, hleft, hsuffix⟩ := q.awaited_suffix consumer.before
  obtain ⟨rest, hrest, hsuffix'⟩ := (q.awaited consumer.before).awaited_suffix consumer.during
  rw [hleft] at hsuffix'
  have hwaited : (q.awaited consumer.before).awaited consumer.during
      = { q with chunks := rest } := by
    rw [hrest, hleft]
  by_cases hroom : ((q.awaited consumer.before).awaited consumer.during).hasRoom
  · right
    obtain ⟨taken, htaken⟩ := hsuffix'.trans hsuffix
    rw [if_pos hroom, hwaited]
    rw [hwaited] at hroom
    exact ⟨taken, rest, htaken.symm, of_decide_eq_true hroom, rfl⟩
  · left
    -- the queue was full all the time, so nothing was taken
    have hbefore : consumer.before = 0 := by
      refine Decidable.byContradiction fun hne => ?_
      have hfirst := awaited_hasRoom hpos hle hne
      rw [awaited, if_pos hfirst] at hroom
      exact hroom hfirst
    rw [hbefore, awaited_zero] at hroom
    have hduring : consumer.during = 0 :=
      Decidable.byContradiction fun hne => hroom (awaited_hasRoom hpos hle hne)
    rw [hduring, awaited_zero] at hroom
    rw [hbefore, hduring, awaited_zero, awaited_zero, if_neg hroom]
    have hfull : ¬ q.depth < q.capacity := fun hlt => hroom (decide_eq_true hlt)
    refine ⟨by omega, ?_, rfl⟩
    obtain ⟨before, during⟩ := consumer
    cases hbefore
    cases hduring
    rfl

end ToneLink.JitterQueue
