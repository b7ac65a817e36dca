import Mathlib.Algebra.Order.BigOperators.Group.List
import Mathlib.Data.List.MinMax
import Mathlib.Order.Bounds.Basic
import ToneLink.Proofs.PrefillLaw
import ToneLink.Proofs.SinkRun

/-!
# How much a sink holds

A request takes chunks from the queue only as long as it lacks bytes. What it leaves pending is
therefore less than the last chunk it took, and a sink never holds much more than its queue does.

- `Playout.reach`: the bytes that are pending once some chunks have been taken;
- `Playout.gather_of_isLeast`, `Playout.gather_of_short`: a request takes the fewest chunks that are
  enough, or all of them if they are not;
- `Playout.length_gather_lt`: of the last chunk it takes, it needs something;
- `Sink.Watched`: runs in which somebody reads the counters, which then start again from zero;
- `Sink.History.Bounded`: the invariant. The queue keeps to its places, and what is pending is
  shorter than some accepted chunk;
- `Sink.watchedRun_bounded`: every run keeps it;
- `Sink.takes_only_what_is_needed`: the law of a request, and what it means for every run.
-/

namespace ToneLink

/-! ## Gathering -/

namespace Playout

/-- The bytes that are pending once some chunks have been taken. -/
def reach (pending : Bytes) (chunks : List Bytes) (taken : Nat) : Nat :=
  pending.length + (chunks.take taken).flatten.length

theorem reach_cons_succ (pending chunk : Bytes) (rest : List Bytes) (taken : Nat) :
    reach pending (chunk :: rest) (taken + 1) = reach (pending ++ chunk) rest taken := by
  rw [reach, reach, List.take_succ_cons, List.flatten_cons, List.length_append, List.length_append,
    Nat.add_assoc]

variable {needed : Nat}

theorem gather_of_le {pending : Bytes} (h : needed ≤ pending.length) (chunks : List Bytes) :
    gather needed pending chunks = ⟨pending, chunks, false⟩ := by
  have henough : ¬ pending.length < needed := Nat.not_lt.mpr h
  cases chunks with
  | nil => rw [gather, if_neg henough]
  | cons chunk rest => rw [gather, if_neg henough]

/-- Gathering takes the fewest chunks that are enough. -/
theorem gather_of_isLeast {k : Nat} {chunks : List Bytes} {pending : Bytes}
    (hk : IsLeast {taken | needed ≤ reach pending chunks taken} k) :
    gather needed pending chunks
      = ⟨pending ++ (chunks.take k).flatten, chunks.drop k, false⟩ := by
  obtain ⟨henough, hleast⟩ := hk
  induction k generalizing chunks pending with
  | zero =>
    rw [gather_of_le henough, List.take_zero, List.flatten_nil, List.append_nil, List.drop_zero]
  | succ k ih =>
    -- without a chunk there is too little, so there is one to take
    have hlacking : pending.length < needed := by
      by_contra hnot
      have hnone : needed ≤ reach pending chunks 0 := Nat.not_lt.mp hnot
      exact absurd (hleast hnone) (Nat.not_succ_le_zero k)
    cases chunks with
    | nil =>
      have hshort : needed ≤ reach pending [] 0 := henough
      exact absurd hshort (Nat.not_le.mpr hlacking)
    | cons chunk rest =>
      have hrest : needed ≤ reach (pending ++ chunk) rest k := by
        rw [← reach_cons_succ]
        exact henough
      have hfewest : k ∈ lowerBounds {taken | needed ≤ reach (pending ++ chunk) rest taken} := by
        intro taken (htaken : needed ≤ reach (pending ++ chunk) rest taken)
        rw [← reach_cons_succ] at htaken
        exact Nat.le_of_succ_le_succ (hleast htaken)
      rw [gather, if_pos hlacking, ih hrest hfewest, List.take_succ_cons, List.flatten_cons,
        List.append_assoc, List.drop_succ_cons]

/-- If all chunks are not enough, gathering takes them all, and silence makes up for the rest. -/
theorem gather_of_short {chunks : List Bytes} {pending : Bytes}
    (h : pending.length + chunks.flatten.length < needed) :
    gather needed pending chunks = ⟨pending ++ chunks.flatten
      ++ silence (needed - (pending.length + chunks.flatten.length)), [], true⟩ := by
  have hlacking : pending.length < needed := by omega
  induction chunks generalizing pending with
  | nil =>
    rw [gather, if_pos hlacking, List.flatten_nil, List.append_nil]
    rfl
  | cons chunk rest ih =>
    rw [List.flatten_cons, List.length_append, ← Nat.add_assoc, ← List.length_append] at h
    rw [gather, if_pos hlacking, ih h (by omega), List.flatten_cons, List.length_append,
      List.length_append, List.append_assoc pending, Nat.add_assoc]

/-- If every chunk has at most so many bytes, fewer are left over when enough have been gathered; a
request that finds enough pending leaves no more than it found. -/
theorem length_gather_lt {longest : Nat} : ∀ (chunks : List Bytes) (pending : Bytes),
    (∀ chunk ∈ chunks, chunk.length ≤ longest) →
      (pending.length ≤ needed ∨ pending.length < needed + longest) →
        (gather needed pending chunks).pending.length ≤ needed ∨
          (gather needed pending chunks).pending.length < needed + longest
  | [], pending, _, hpending => by
    by_cases h : pending.length < needed
    · left
      simp only [gather, if_pos h, List.length_append, length_silence]
      omega
    · simp only [gather, if_neg h]
      exact hpending
  | chunk :: rest, pending, hchunks, hpending => by
    obtain ⟨hchunk, hrest⟩ := List.forall_mem_cons.mp hchunks
    by_cases h : pending.length < needed
    · simp only [gather, if_pos h]
      refine length_gather_lt rest _ hrest (Or.inr ?_)
      rw [List.length_append]
      omega
    · simp only [gather, if_neg h]
      exact hpending

end Playout

/-! ## Requests -/

namespace Sink

/-- The longest of some chunks, in bytes. -/
def longest (chunks : List Bytes) : Nat := (chunks.map List.length).foldr max 0

theorem length_le_longest {chunks : List Bytes} {chunk : Bytes} (h : chunk ∈ chunks) :
    chunk.length ≤ longest chunks :=
  List.le_max_of_le' 0 (List.mem_map_of_mem h) (Nat.le_refl _)

/-- With more chunks, the longest one is at least as long. -/
theorem longest_le_append (chunks more : List Bytes) :
    longest chunks ≤ longest (chunks ++ more) := by
  refine List.max_le_of_forall_le _ _ (List.forall_mem_map.mpr fun chunk hchunk => ?_)
  exact length_le_longest (List.mem_append_left more hchunk)

/-- Chunks have at most as many bytes as if all were the longest. -/
theorem length_flatten_le {chunks : List Bytes} {bound : Nat}
    (h : ∀ chunk ∈ chunks, chunk.length ≤ bound) :
    chunks.flatten.length ≤ chunks.length * bound := by
  have hsum := List.sum_le_card_nsmul (chunks.map List.length) bound (List.forall_mem_map.mpr h)
  rw [List.length_map, smul_eq_mul] at hsum
  rw [List.length_flatten]
  exact hsum

/-- A request takes the fewest chunks with which there is enough. -/
theorem fillInto_of_isLeast (s : Sink) (out : Bytes) {k : Nat}
    (hk : IsLeast {taken | out.length ≤ Playout.reach s.playout.pending s.queue.chunks taken} k) :
    (s.fillInto out).2.queue = { s.queue with chunks := s.queue.chunks.drop k } ∧
      (s.fillInto out).2.playout.pending
        = (s.playout.pending ++ (s.queue.chunks.take k).flatten).drop out.length := by
  have hgather := Playout.gather_of_isLeast hk
  exact ⟨congrArg (fun g => { s.queue with chunks := Playout.Gathered.chunks g }) hgather,
    congrArg (fun g => (Playout.Gathered.pending g).drop out.length) hgather⟩

/-- A request that asks for more than is held leaves nothing. -/
theorem fillInto_of_short (s : Sink) (out : Bytes) (h : s.held.length < out.length) :
    (s.fillInto out).2.queue = { s.queue with chunks := [] } ∧
      (s.fillInto out).2.playout.pending = [] := by
  rw [held, List.length_append] at h
  have hgather := Playout.gather_of_short h
  constructor
  · exact congrArg (fun g => { s.queue with chunks := Playout.Gathered.chunks g }) hgather
  · refine (congrArg (fun g => (Playout.Gathered.pending g).drop out.length) hgather).trans ?_
    refine List.drop_eq_nil_of_le ?_
    rw [List.length_append, List.length_append, length_silence]
    omega

/-! ## Runs in which the counters are read -/

/-- What can happen to a sink while somebody reads its counters. -/
inductive WatchedStep
  | step (s : Step)
  /-- The counters are read and start again from zero. -/
  | takeCounters
  deriving DecidableEq, Repr

/-- A sink with what has happened to it, and what was read from its counters. -/
structure Watched where
  history : History
  /-- The counters as they were read, oldest first. -/
  taken : List RenderCounters := []
  deriving DecidableEq, Repr

namespace Watched

/-- One step of a run. -/
def step (w : Watched) : WatchedStep → Watched
  | .step s => { w with history := w.history.step s }
  | .takeCounters =>
    let (seen, counters) := w.history.sink.counters.take
    { history := { w.history with sink := { w.history.sink with counters } }
      taken := w.taken ++ [seen] }

end Watched

/-- A run from an empty sink with fresh counters. -/
def watchedRun (maxChunks : Nat) (steps : List WatchedStep) : Watched :=
  steps.foldl Watched.step { history := .opened maxChunks {} }

/-! ## The invariant -/

namespace History

/-- The queue keeps to its places and holds accepted chunks, what is pending is shorter than the
longest of these, and no callback has seen more chunks than there are places. -/
structure Bounded (capacity : Nat) (h : History) : Prop where
  capacity_eq : h.sink.queue.capacity = capacity
  depth_le : h.sink.queue.depth ≤ capacity
  accepted : ∀ chunk ∈ h.sink.queue.chunks, chunk ∈ h.accepted
  pending_lt : h.sink.playout.pending = [] ∨
    h.sink.playout.pending.length < longest h.accepted
  maxDepth_le : h.sink.counters.maxDepth ≤ capacity

variable {capacity : Nat} {h later : History}

theorem opened_bounded (maxChunks : Nat) : (opened maxChunks {}).Bounded (max 1 maxChunks) where
  capacity_eq := rfl
  depth_le := Nat.zero_le _
  accepted := by
    intro chunk hchunk
    cases hchunk
  pending_lt := Or.inl rfl
  maxDepth_le := Nat.zero_le _

/-- To be supplied within the free places keeps the bounds. -/
theorem Supplied.bounded {chunks : List Bytes} (hs : h.Supplied later chunks)
    (hb : h.Bounded capacity) (hcapacity : later.sink.queue.capacity = h.sink.queue.capacity)
    (hroom : chunks.length ≤ h.sink.queue.capacity - h.sink.queue.depth) :
    later.Bounded capacity where
  capacity_eq := hcapacity.trans hb.capacity_eq
  depth_le := by
    have hdepth := hb.depth_le
    rw [hb.capacity_eq] at hroom
    rw [JitterQueue.depth] at hroom hdepth
    rw [JitterQueue.depth, hs.chunks_eq, List.length_append]
    omega
  accepted := by
    intro chunk hchunk
    rw [hs.chunks_eq] at hchunk
    rw [hs.accepted_eq]
    rcases List.mem_append.mp hchunk with hold | hnew
    · exact List.mem_append_left _ (hb.accepted chunk hold)
    · exact List.mem_append_right _ hnew
  pending_lt := by
    rw [hs.playout_eq, hs.accepted_eq]
    exact hb.pending_lt.imp id fun hlt => Nat.lt_of_lt_of_le hlt (longest_le_append _ _)
  maxDepth_le := by
    rw [hs.counters_eq]
    exact hb.maxDepth_le

/-- To offer a chunk keeps the bounds: it is queued only if there is a place. -/
theorem Bounded.offer (hb : h.Bounded capacity) (chunk : Bytes) :
    (h.offer chunk).Bounded capacity := by
  by_cases hroom : h.sink.queue.hasRoom
  · have hplace : h.sink.queue.depth < h.sink.queue.capacity := by
      simpa [JitterQueue.hasRoom] using hroom
    have hsupplied : h.Supplied (h.offer chunk) [chunk] := by
      constructor <;> simp [History.offer, JitterQueue.offer_eq, hroom]
    refine hsupplied.bounded hb ?_ ?_
    · simp [History.offer, JitterQueue.offer_eq, hroom]
    · show 1 ≤ _
      omega
  · have hsame : h.offer chunk = h := by simp [History.offer, JitterQueue.offer_eq, hroom]
    rw [hsame]
    exact hb

/-- To prefill keeps the bounds. -/
theorem Bounded.prefill (hb : h.Bounded capacity) (target chunkBytes : Nat) :
    (h.prefill target chunkBytes).Bounded capacity := by
  have hqueue := h.sink.queue.prefill_snd target chunkBytes
  have hcapacity : (h.sink.queue.prefill target chunkBytes).2.capacity = h.sink.queue.capacity := by
    rw [hqueue]
  have hsupplied : h.Supplied (h.prefill target chunkBytes)
      (h.sink.queue.prefill target chunkBytes).1.chunks :=
    ⟨rfl, congrArg JitterQueue.chunks hqueue, rfl, rfl, rfl⟩
  exact hsupplied.bounded hb hcapacity (h.sink.queue.length_prefill_le target chunkBytes)

/-- To answer a request keeps the bounds. -/
theorem Bounded.request (hb : h.Bounded capacity) (out : Bytes) :
    (h.request out).Bounded capacity where
  capacity_eq := hb.capacity_eq
  depth_le := (h.sink.fillInto_suffix out).length_le.trans hb.depth_le
  accepted := by
    intro chunk hchunk
    exact hb.accepted chunk ((h.sink.fillInto_suffix out).subset hchunk)
  pending_lt := by
    have hchunks : ∀ chunk ∈ h.sink.queue.chunks, chunk.length ≤ longest h.accepted :=
      fun chunk hchunk => length_le_longest (hb.accepted chunk hchunk)
    have hpending : h.sink.playout.pending.length ≤ out.length ∨
        h.sink.playout.pending.length < out.length + longest h.accepted := by
      rcases hb.pending_lt with hnil | hlt
      · rw [hnil]
        exact Or.inl (Nat.zero_le _)
      · exact Or.inr (Nat.lt_add_left _ hlt)
    show (Playout.gather _ _ _).pending.drop out.length = [] ∨
      ((Playout.gather _ _ _).pending.drop out.length).length < longest h.accepted
    rw [List.drop_eq_nil_iff, List.length_drop]
    refine (Playout.length_gather_lt _ _ hchunks hpending).imp id fun hlt => ?_
    have henough := Playout.le_length_gather out.length h.sink.queue.chunks h.sink.playout.pending
    omega
  maxDepth_le := by
    show max h.sink.counters.maxDepth (min RenderCounters.ceiling h.sink.queue.depth) ≤ capacity
    have hdepth := hb.depth_le
    have hmax := hb.maxDepth_le
    omega

/-- What is held fits into the queue and one chunk more. -/
theorem Bounded.held_lt (hb : h.Bounded capacity) :
    h.sink.held = [] ∨ h.sink.held.length < (capacity + 1) * longest h.accepted := by
  have hchunks := length_flatten_le fun chunk hchunk => length_le_longest (hb.accepted chunk hchunk)
  have hqueue : h.sink.queue.chunks.flatten.length ≤ capacity * longest h.accepted :=
    hchunks.trans (Nat.mul_le_mul_right _ hb.depth_le)
  have hlength : h.sink.held.length
      = h.sink.playout.pending.length + h.sink.queue.chunks.flatten.length := List.length_append
  rw [Nat.succ_mul]
  rcases hb.pending_lt with hnil | hlt
  · rw [hnil, List.length_nil, Nat.zero_add] at hlength
    rcases Nat.eq_zero_or_pos h.sink.held.length with hzero | hpos
    · exact Or.inl (List.eq_nil_of_length_eq_zero hzero)
    · -- bytes are held, so some chunk has been longer than nothing
      have hlongest : 0 < longest h.accepted := by
        refine Nat.pos_of_ne_zero fun hzero => ?_
        rw [hzero, Nat.mul_zero] at hqueue
        omega
      right
      omega
  · right
    omega

end History

/-- The bounds of a watched sink: those of its history, and nobody has read more chunks from its
counters than there are places. -/
structure Watched.Bounded (capacity : Nat) (w : Watched) : Prop where
  history : w.history.Bounded capacity
  taken_le : ∀ seen ∈ w.taken, seen.maxDepth ≤ capacity

/-- Every step keeps the bounds. To read the counters starts a new maximum, and what was read is the
old one. -/
theorem Watched.Bounded.step {capacity : Nat} {w : Watched} (hb : w.Bounded capacity)
    (s : WatchedStep) : (w.step s).Bounded capacity := by
  cases s with
  | step s =>
    refine { hb with history := ?_ }
    exact History.step_keeps_each (fun _ chunk hb => hb.offer chunk)
      (fun _ target chunkBytes hb => hb.prefill target chunkBytes)
      (fun _ out hb => hb.request out) hb.history s
  | takeCounters =>
    constructor
    · exact { hb.history with maxDepth_le := Nat.zero_le _ }
    · intro seen hseen
      rcases List.mem_append.mp hseen with hold | hnew
      · exact hb.taken_le seen hold
      · rw [List.mem_singleton.mp hnew]
        exact hb.history.maxDepth_le

/-- Every watched run keeps the bounds. -/
theorem watchedRun_bounded (maxChunks : Nat) (steps : List WatchedStep) :
    (watchedRun maxChunks steps).Bounded (max 1 maxChunks) := by
  refine List.foldlRecOn steps Watched.step ?_ fun _ hb s _ => hb.step s
  constructor
  · exact History.opened_bounded maxChunks
  · intro seen hseen
    cases hseen

/-! ## The law -/

/-- **A request takes only what it needs.** Whatever is pending and queued, a request takes the
fewest chunks from the front of the queue with which there is enough, and leaves pending what it has
no use for; if all chunks are not enough, it takes them all and leaves nothing. The depth that it
enters into the counters is the one it found. Hence, at every point of every run from an empty sink,
also while somebody reads the counters: what is pending is nothing or shorter than the longest chunk
that was ever accepted, what is held is nothing or shorter than such chunks in all places and one
more, and no depth was seen beyond the number of places. -/
theorem takes_only_what_is_needed :
    (∀ (s : Sink) (out : Bytes),
      let later := (s.fillInto out).2
      let reach := fun taken =>
        s.playout.pending.length + (s.queue.chunks.take taken).flatten.length
      (∀ k, IsLeast {taken | out.length ≤ reach taken} k →
        later.queue = { s.queue with chunks := s.queue.chunks.drop k } ∧
        later.playout.pending
          = (s.playout.pending ++ (s.queue.chunks.take k).flatten).drop out.length) ∧
      ((∀ taken, reach taken < out.length) →
        later.queue = { s.queue with chunks := [] } ∧ later.playout.pending = []) ∧
      later.counters.maxDepth
        = max s.counters.maxDepth (min RenderCounters.ceiling s.queue.depth)) ∧
    (∀ (maxChunks : Nat) (steps : List WatchedStep),
      let w := watchedRun maxChunks steps
      let sink := w.history.sink
      let capacity := max 1 maxChunks
      sink.queue.capacity = capacity ∧
      (sink.playout.pending = [] ∨ sink.playout.pending.length < longest w.history.accepted) ∧
      (sink.held = [] ∨ sink.held.length < (capacity + 1) * longest w.history.accepted) ∧
      sink.counters.maxDepth ≤ capacity ∧ ∀ seen ∈ w.taken, seen.maxDepth ≤ capacity) := by
  constructor
  · intro s out later reach
    refine ⟨fun k hk => s.fillInto_of_isLeast out hk, fun hshort => ?_, rfl⟩
    have hall := hshort s.queue.chunks.length
    refine s.fillInto_of_short out ?_
    rw [held, List.length_append]
    have hreach : reach s.queue.chunks.length
        = s.playout.pending.length + s.queue.chunks.flatten.length := by
      show _ + (s.queue.chunks.take s.queue.chunks.length).flatten.length = _
      rw [List.take_length]
    omega
  · intro maxChunks steps w sink capacity
    obtain ⟨hb, htaken⟩ := watchedRun_bounded maxChunks steps
    exact ⟨hb.capacity_eq, hb.pending_lt, hb.held_lt, hb.maxDepth_le, htaken⟩

/-- One byte is pending and three chunks are queued, the second of them empty. A request for three
bytes takes the first chunk alone, and a request for nine bytes takes all. In a run with a queue of
two places, nobody reads a depth of three. -/
theorem takes_only_what_is_needed_one_chunk :
    let s : Sink := { queue := ⟨4, [[2, 3], [], [4, 5]]⟩, playout := ⟨[1]⟩ }
    let reach := fun taken => s.playout.pending.length + (s.queue.chunks.take taken).flatten.length
    (IsLeast {taken | 3 ≤ reach taken} 1 ∧
      (s.fillInto [7, 7, 7]).2.queue.chunks = [[], [4, 5]]) ∧
    ((∀ taken, reach taken < 9) ∧ (s.fillInto (silence 9)).2.queue.chunks = []) ∧
    let w := watchedRun 2 [.step (.offer [1]), .step (.offer [2, 3]), .step (.offer [4]),
      .step (.pull 2), .takeCounters, .step (.pull 1)]
    w.taken.map RenderCounters.maxDepth = [2] ∧ w.history.sink.held.length < (2 + 1) * 2 := by
  intro s reach
  have hleast : IsLeast {taken | 3 ≤ reach taken} 1 := by
    refine ⟨show 3 ≤ reach 1 by decide, ?_⟩
    rintro (_ | taken) htaken
    · exact absurd htaken (show ¬ 3 ≤ reach 0 by decide)
    · exact Nat.succ_pos taken
  have hshort : ∀ taken, reach taken < (silence 9).length := by
    rintro (_ | _ | _ | taken)
    · decide
    · decide
    · decide
    · show 1 + (([2, 3] : Bytes) :: [] :: [4, 5] :: ([] : List Bytes).take taken).flatten.length < 9
      rw [List.take_nil]
      decide
  obtain ⟨hrequest, hrun⟩ := takes_only_what_is_needed
  refine ⟨⟨hleast, ?_⟩, ⟨hshort, ?_⟩, by decide, ?_⟩
  · exact congrArg JitterQueue.chunks ((hrequest s [7, 7, 7]).1 1 hleast).1
  · exact congrArg JitterQueue.chunks ((hrequest s (silence 9)).2.1 hshort).1
  · obtain ⟨-, -, hheld, -⟩ := hrun 2 [.step (.offer [1]), .step (.offer [2, 3]),
      .step (.offer [4]), .step (.pull 2), .takeCounters, .step (.pull 1)]
    rcases hheld with hnil | hlt
    · rw [hnil]
      decide
    · exact hlt

end Sink

end ToneLink
