import ToneLink.Proofs.QueueWaits

/-!
# Calls on a shared queue

Any number of threads may use one queue at the same time, each through a handle of its own. All
handles lead to the same queue, so a call does not depend on the handle it comes through. What
cannot be divided is one access: to offer a chunk, or to take the next one. Every call is a sequence
of accesses, and between two of them other calls may have theirs.

- `JitterQueue.Call`, `Phase`, `Phase.access`: calls, how far they have come, and what one access
  does;
- `JitterQueue.Traffic`: a queue with all calls on it, and what went in and out;
- `Traffic.Orderly`: the invariant. The queue is bounded, it returns the accepted chunks in order,
  and each call has put in or taken out what its caller is told, and nothing else;
- `Traffic.undisturbed_eq`: a call that nobody disturbs is the operation of that name;
- `calls_share_one_fifo`: the whole law.
-/

namespace ToneLink.JitterQueue

/-! ## Calls -/

/-- What a thread asks of a queue. -/
inductive Call
  | push (chunk : Bytes)
  | offer (chunk : Bytes)
  | enqueue (host : Host) (chunk : Bytes)
  | prefill (target chunkBytes : Nat)
  | pull

/-- What a call returns. -/
inductive Outcome
  /-- The fate of a chunk that was pushed or enqueued. -/
  | fate (fate : Fate)
  /-- The chunk that was offered, if it is handed back. -/
  | offered (back : Option Bytes)
  /-- The bytes of silence that were queued. -/
  | prefilled (queued : Nat)
  /-- The chunk that was taken, if there was one. -/
  | pulled (chunk : Option Bytes)
  deriving DecidableEq, Repr

/-- How far a call has come. -/
inductive Phase
  /-- A chunk is to be enqueued. -/
  | enqueueing (host : Host) (chunk : Bytes)
  /-- A chunk is being pushed. -/
  | pushing (chunk : Bytes)
  /-- A chunk that was to be enqueued is being pushed, by whoever waits for that. -/
  | waiting (host : Host) (chunk : Bytes)
  /-- A chunk is to be offered. -/
  | offering (chunk : Bytes)
  /-- Silence is being queued, and so many bytes of it are. -/
  | prefilling (target chunkBytes queued : Nat)
  /-- A chunk is to be taken. -/
  | pulling
  | returned (outcome : Outcome)

/-- A prefill that has queued so many bytes ends if its target is reached. -/
def Phase.prefill (target chunkBytes queued : Nat) : Phase :=
  if queued < target then .prefilling target chunkBytes queued else .returned (.prefilled queued)

/-- The phase in which a call begins. Without a chunk size a prefill is over at once. -/
def Call.start : Call → Phase
  | .push chunk => .pushing chunk
  | .offer chunk => .offering chunk
  | .enqueue host chunk => .enqueueing host chunk
  | .prefill target chunkBytes =>
    if chunkBytes = 0 then .returned (.prefilled 0) else .prefill target chunkBytes 0
  | .pull => .pulling

/-- What one access comes to. -/
structure Access where
  phase : Phase
  queue : JitterQueue
  /-- The chunk that was accepted, if one was. -/
  accepted : Option Bytes := none
  /-- The chunk that was taken, if one was. -/
  taken : Option Bytes := none

/-- Offers a chunk and goes on as its answer says. -/
def attempt (q : JitterQueue) (chunk : Bytes) (ifAccepted : Phase) (ifRefused : Bytes → Phase) :
    Access :=
  match q.offer chunk with
  | .ok later => { phase := ifAccepted, queue := later, accepted := some chunk }
  | .error back => { phase := ifRefused back, queue := q }

/-- One access of a call. A push that is refused tries again, unless its time is over. An enqueue
that is refused goes on as a push, and returns what its host makes of that push. -/
def Phase.access (q : JitterQueue) (timeIsOver : Bool) : Phase → Access
  | .enqueueing host chunk =>
    q.attempt chunk (.returned (.fate .queued)) (.waiting host)
  | .pushing chunk =>
    q.attempt chunk (.returned (.fate .queued)) fun back =>
      if timeIsOver then .returned (.fate .dropped) else .pushing back
  | .waiting host chunk =>
    q.attempt chunk (.returned (.fate (host.wait fun _ => .queued))) fun back =>
      if timeIsOver then .returned (.fate (host.wait fun _ => .dropped)) else .waiting host back
  | .offering chunk =>
    q.attempt chunk (.returned (.offered none)) fun back => .returned (.offered (some back))
  | .prefilling target chunkBytes queued =>
    let length := min chunkBytes (target - queued)
    q.attempt (silence length) (.prefill target chunkBytes (queued + length)) fun _ =>
      .returned (.prefilled queued)
  | .pulling =>
    let (chunk, later) := q.pull
    { phase := .returned (.pulled chunk), queue := later, taken := chunk }
  | .returned outcome => { phase := .returned outcome, queue := q }

/-- The chunk that the next access of a call offers to the queue, if it offers one. -/
def Phase.offer? : Phase → Option Bytes
  | .enqueueing _ chunk => some chunk
  | .pushing chunk => some chunk
  | .waiting _ chunk => some chunk
  | .offering chunk => some chunk
  | .prefilling target chunkBytes queued => some (silence (min chunkBytes (target - queued)))
  | .pulling => none
  | .returned _ => none

/-- What a call comes to when nobody disturbs it. -/
def Call.undisturbed (q : JitterQueue) : Call → Outcome × JitterQueue
  | .push chunk => ((q.push chunk 0).map .fate id)
  | .offer chunk =>
    match q.offer chunk with
    | .ok later => (.offered none, later)
    | .error back => (.offered (some back), q)
  | .enqueue host chunk => (q.enqueue host chunk {}).map .fate id
  | .prefill target chunkBytes => (q.prefill target chunkBytes).map (.prefilled ·.queued) id
  | .pull => q.pull.map .pulled id

/-! ## Traffic -/

/-- A queue with all calls that were made on it. -/
structure Traffic where
  queue : JitterQueue
  /-- The calls, oldest first, and how far each of them has come. -/
  calls : List (Call × Phase) := []
  /-- The accepted chunks, oldest first, each with the number of the call it came from. -/
  accepted : List (Nat × Bytes) := []
  /-- The chunks that were taken, oldest first, each with the number of the call that took it. -/
  taken : List (Nat × Bytes) := []

namespace Traffic

/-- What can happen next. -/
inductive Step
  /-- A thread makes a call. -/
  | call (c : Call)
  /-- A call has its next access; for a push it may be the last. -/
  | access (number : Nat) (timeIsOver : Bool)

/-- One step. -/
def step (t : Traffic) : Step → Traffic
  | .call c => { t with calls := t.calls ++ [(c, c.start)] }
  | .access number timeIsOver =>
    match t.calls[number]? with
    | none => t
    | some (c, phase) =>
      let a := phase.access t.queue timeIsOver
      { queue := a.queue
        calls := t.calls.set number (c, a.phase)
        accepted := t.accepted ++ (a.accepted.map (number, ·)).toList
        taken := t.taken ++ (a.taken.map (number, ·)).toList }

/-- Any order of calls and accesses. -/
def run (maxChunks : Nat) (steps : List Step) : Traffic :=
  steps.foldl step { queue := .empty maxChunks }

/-- The chunks that a record has for one call. -/
def chunksOf (number : Nat) (record : List (Nat × Bytes)) : List Bytes :=
  (record.filter (·.1 = number)).map Prod.snd

end Traffic

/-! ## What a call has done -/

/-- What a call in a phase has put into the queue, and what it has taken from it. -/
inductive Call.Explained : Call → Phase → List Bytes → List Bytes → Prop
  | pushing (chunk : Bytes) : Explained (.push chunk) (.pushing chunk) [] []
  | pushed (chunk : Bytes) : Explained (.push chunk) (.returned (.fate .queued)) [chunk] []
  | notPushed (chunk : Bytes) : Explained (.push chunk) (.returned (.fate .dropped)) [] []
  | offering (chunk : Bytes) : Explained (.offer chunk) (.offering chunk) [] []
  | offered (chunk : Bytes) : Explained (.offer chunk) (.returned (.offered none)) [chunk] []
  | handedBack (chunk : Bytes) :
    Explained (.offer chunk) (.returned (.offered (some chunk))) [] []
  | enqueueing (host : Host) (chunk : Bytes) :
    Explained (.enqueue host chunk) (.enqueueing host chunk) [] []
  | enqueueWaits (host : Host) (chunk : Bytes) :
    Explained (.enqueue host chunk) (.waiting host chunk) [] []
  | enqueued (host : Host) (chunk : Bytes) :
    Explained (.enqueue host chunk) (.returned (.fate .queued)) [chunk] []
  | notEnqueued (host : Host) (chunk : Bytes) :
    Explained (.enqueue host chunk) (.returned (.fate .dropped)) [] []
  | prefilling {target chunkBytes queued : Nat} {chunks : List Bytes} (hlt : queued < target)
      (hchunks : chunks.flatten = silence queued) :
    Explained (.prefill target chunkBytes) (.prefilling target chunkBytes queued) chunks []
  | prefilled {target chunkBytes queued : Nat} {chunks : List Bytes} (hle : queued ≤ target)
      (hchunks : chunks.flatten = silence queued) :
    Explained (.prefill target chunkBytes) (.returned (.prefilled queued)) chunks []
  | pulling : Explained .pull .pulling [] []
  | pulled (chunk : Option Bytes) :
    Explained .pull (.returned (.pulled chunk)) [] chunk.toList

/-! ## One access -/

theorem attempt_eq (q : JitterQueue) (chunk : Bytes) (ifAccepted : Phase)
    (ifRefused : Bytes → Phase) :
    q.attempt chunk ifAccepted ifRefused
      = if q.hasRoom then
          { phase := ifAccepted, queue := { q with chunks := q.chunks ++ [chunk] }
            accepted := some chunk }
        else { phase := ifRefused chunk, queue := q } := by
  by_cases hroom : q.hasRoom
  · simp only [attempt, offer_eq, if_pos hroom]
  · simp only [attempt, offer_eq, if_neg hroom]

/-- What every access does to the queue: it takes a chunk from the front, or adds one at the end if
there is room, or leaves it alone. -/
structure Access.Lawful (q : JitterQueue) (a : Access) : Prop where
  capacity_eq : a.queue.capacity = q.capacity
  bounded : q.depth ≤ q.capacity → a.queue.depth ≤ q.capacity
  conserved : a.taken.toList ++ a.queue.chunks = q.chunks ++ a.accepted.toList

theorem attempt_lawful (q : JitterQueue) (chunk : Bytes) (ifAccepted : Phase)
    (ifRefused : Bytes → Phase) : (q.attempt chunk ifAccepted ifRefused).Lawful q := by
  rw [attempt_eq]
  by_cases hroom : q.hasRoom
  · rw [if_pos hroom]
    refine { capacity_eq := rfl, bounded := fun _ => ?_, conserved := rfl }
    have hlt : q.chunks.length < q.capacity := of_decide_eq_true hroom
    show (q.chunks ++ [chunk]).length ≤ q.capacity
    rw [List.length_append, List.length_singleton]
    exact hlt
  · rw [if_neg hroom]
    exact { capacity_eq := rfl, bounded := id, conserved := (List.append_nil _).symm }

theorem Phase.access_lawful (q : JitterQueue) (timeIsOver : Bool) (phase : Phase) :
    (phase.access q timeIsOver).Lawful q := by
  cases phase with
  | enqueueing host chunk => exact q.attempt_lawful ..
  | pushing chunk => exact q.attempt_lawful ..
  | waiting host chunk => exact q.attempt_lawful ..
  | offering chunk => exact q.attempt_lawful ..
  | prefilling target chunkBytes queued => exact q.attempt_lawful ..
  | returned outcome =>
    exact { capacity_eq := rfl, bounded := id, conserved := (List.append_nil _).symm }
  | pulling =>
    obtain ⟨capacity, chunks⟩ := q
    cases chunks with
    | nil => exact { capacity_eq := rfl, bounded := id, conserved := rfl }
    | cons chunk rest =>
      refine { capacity_eq := rfl, bounded := fun hle => Nat.le_of_succ_le hle, conserved := ?_ }
      exact (List.append_nil _).symm

/-- A chunk that is offered is accepted exactly if there is room. -/
theorem Phase.access_accepted (q : JitterQueue) (timeIsOver : Bool) (phase : Phase) :
    (phase.access q timeIsOver).accepted = if q.hasRoom then phase.offer? else none := by
  have hattempt : ∀ (chunk : Bytes) (ifAccepted : Phase) (ifRefused : Bytes → Phase),
      (q.attempt chunk ifAccepted ifRefused).accepted = if q.hasRoom then some chunk else none := by
    intro chunk ifAccepted ifRefused
    rw [attempt_eq]
    split <;> rfl
  cases phase with
  | enqueueing host chunk => exact hattempt ..
  | pushing chunk => exact hattempt ..
  | waiting host chunk => exact hattempt ..
  | offering chunk => exact hattempt ..
  | prefilling target chunkBytes queued => exact hattempt ..
  | pulling => exact (ite_self _).symm
  | returned outcome => exact (ite_self _).symm

/-- A prefill goes on or ends, whichever is due. -/
theorem Call.explained_prefill {target chunkBytes queued : Nat} {chunks : List Bytes}
    (hle : queued ≤ target) (hchunks : chunks.flatten = silence queued) :
    (Call.prefill target chunkBytes).Explained (.prefill target chunkBytes queued) chunks [] := by
  by_cases hlt : queued < target
  · rw [Phase.prefill, if_pos hlt]
    exact .prefilling hlt hchunks
  · rw [Phase.prefill, if_neg hlt]
    exact .prefilled hle hchunks

/-- A call begins with nothing done. -/
theorem Call.start_explained (c : Call) : c.Explained c.start [] [] := by
  cases c with
  | push chunk => exact .pushing chunk
  | offer chunk => exact .offering chunk
  | enqueue host chunk => exact .enqueueing host chunk
  | prefill target chunkBytes =>
    by_cases hzero : chunkBytes = 0
    · rw [start, if_pos hzero]
      exact .prefilled (Nat.zero_le _) rfl
    · rw [start, if_neg hzero]
      exact explained_prefill (Nat.zero_le _) rfl
  | pull => exact .pulling

/-- What an access does is what the new phase says. -/
theorem Call.Explained.access {c : Call} {phase : Phase} {accepted taken : List Bytes}
    (h : c.Explained phase accepted taken) (q : JitterQueue) (timeIsOver : Bool) :
    c.Explained (phase.access q timeIsOver).phase
      (accepted ++ (phase.access q timeIsOver).accepted.toList)
      (taken ++ (phase.access q timeIsOver).taken.toList) := by
  cases h with
  | pushing chunk =>
    rw [Phase.access, attempt_eq]
    by_cases hroom : q.hasRoom
    · rw [if_pos hroom]
      exact .pushed chunk
    · rw [if_neg hroom]
      cases timeIsOver with
      | false => exact .pushing chunk
      | true => exact .notPushed chunk
  | offering chunk =>
    rw [Phase.access, attempt_eq]
    by_cases hroom : q.hasRoom
    · rw [if_pos hroom]
      exact .offered chunk
    · rw [if_neg hroom]
      exact .handedBack chunk
  | enqueueing host chunk =>
    rw [Phase.access, attempt_eq]
    by_cases hroom : q.hasRoom
    · rw [if_pos hroom]
      exact .enqueued host chunk
    · rw [if_neg hroom]
      exact .enqueueWaits host chunk
  | enqueueWaits host chunk =>
    rw [Phase.access, attempt_eq]
    simp only [Host.wait_eq]
    by_cases hroom : q.hasRoom
    · rw [if_pos hroom]
      exact .enqueued host chunk
    · rw [if_neg hroom]
      cases timeIsOver with
      | false => exact .enqueueWaits host chunk
      | true => exact .notEnqueued host chunk
  | @prefilling target chunkBytes queued chunks hlt hchunks =>
    rw [Phase.access, attempt_eq]
    by_cases hroom : q.hasRoom
    · rw [if_pos hroom]
      refine explained_prefill (by omega) ?_
      show (accepted ++ [silence _]).flatten = _
      rw [List.flatten_append, hchunks, List.flatten_singleton, silence_append]
    · rw [if_neg hroom]
      show Explained _ _ (accepted ++ []) _
      rw [List.append_nil]
      exact .prefilled (Nat.le_of_lt hlt) hchunks
  | pulling => exact .pulled q.pull.1
  -- a call that has returned does nothing any more
  | pushed chunk => exact .pushed chunk
  | notPushed chunk => exact .notPushed chunk
  | offered chunk => exact .offered chunk
  | handedBack chunk => exact .handedBack chunk
  | enqueued host chunk => exact .enqueued host chunk
  | notEnqueued host chunk => exact .notEnqueued host chunk
  | prefilled hle hchunks =>
    show Explained _ _ (accepted ++ []) _
    rw [List.append_nil]
    exact .prefilled hle hchunks
  | pulled chunk =>
    show Explained _ _ _ (chunk.toList ++ [])
    rw [List.append_nil]
    exact .pulled chunk

/-! ## The invariant -/

namespace Traffic

@[simp] theorem chunksOf_append (number : Nat) (record later : List (Nat × Bytes)) :
    chunksOf number (record ++ later) = chunksOf number record ++ chunksOf number later := by
  simp [chunksOf]

/-- An entry belongs to the call whose number it carries. -/
theorem chunksOf_entry (number other : Nat) (chunk : Option Bytes) :
    chunksOf number (chunk.map (other, ·)).toList
      = if other = number then chunk.toList else [] := by
  cases chunk with
  | none => simp [chunksOf]
  | some chunk => by_cases h : other = number <;> simp [chunksOf, h]

/-- A number that was not given yet has no entries. -/
theorem chunksOf_eq_nil {number : Nat} {record : List (Nat × Bytes)}
    (h : ∀ entry ∈ record, entry.1 < number) : chunksOf number record = [] := by
  rw [chunksOf, List.map_eq_nil_iff, List.filter_eq_nil_iff]
  intro entry hentry
  have := h entry hentry
  rw [decide_eq_true_iff]
  omega

theorem map_snd_entry (number : Nat) (chunk : Option Bytes) :
    ((chunk.map (number, ·)).toList).map Prod.snd = chunk.toList := by
  cases chunk <;> rfl

/-- All entries of a record carry numbers that were given. -/
def Numbered (t : Traffic) (record : List (Nat × Bytes)) : Prop :=
  ∀ entry ∈ record, entry.1 < t.calls.length

/-- The queue is bounded, returns the accepted chunks in order, and every call is explained. -/
structure Orderly (capacity : Nat) (t : Traffic) : Prop where
  capacity_eq : t.queue.capacity = capacity
  bounded : t.queue.depth ≤ capacity
  conserved : t.taken.map Prod.snd ++ t.queue.chunks = t.accepted.map Prod.snd
  accepted_numbered : t.Numbered t.accepted
  taken_numbered : t.Numbered t.taken
  explained : ∀ {number : Nat} {c : Call} {phase : Phase}, t.calls[number]? = some (c, phase) →
    c.Explained phase (chunksOf number t.accepted) (chunksOf number t.taken)

variable {capacity : Nat} {t : Traffic}

/-- To make a call changes nothing for the others. -/
theorem Orderly.call (h : Orderly capacity t) (c : Call) : Orderly capacity (t.step (.call c)) where
  capacity_eq := h.capacity_eq
  bounded := h.bounded
  conserved := h.conserved
  accepted_numbered := by
    intro entry hentry
    show entry.1 < (t.calls ++ [(c, c.start)]).length
    have := h.accepted_numbered entry hentry
    rw [List.length_append]
    omega
  taken_numbered := by
    intro entry hentry
    show entry.1 < (t.calls ++ [(c, c.start)]).length
    have := h.taken_numbered entry hentry
    rw [List.length_append]
    omega
  explained := by
    intro number c' phase hcall
    have hcall' : (t.calls ++ [(c, c.start)])[number]? = some (c', phase) := hcall
    by_cases hold : number < t.calls.length
    · rw [List.getElem?_append_left hold] at hcall'
      exact h.explained hcall'
    · -- the new call has done nothing yet
      have hnumber : number = t.calls.length := by
        have hlt := (List.getElem?_eq_some_iff.mp hcall').1
        rw [List.length_append, List.length_singleton] at hlt
        omega
      subst hnumber
      rw [List.getElem?_concat_length] at hcall'
      cases hcall'
      show Call.Explained c c.start (chunksOf _ t.accepted) (chunksOf _ t.taken)
      rw [chunksOf_eq_nil h.accepted_numbered, chunksOf_eq_nil h.taken_numbered]
      exact c.start_explained

/-- An access does to the queue what it tells its call. -/
theorem Orderly.access (h : Orderly capacity t) (number : Nat) (timeIsOver : Bool) :
    Orderly capacity (t.step (.access number timeIsOver)) := by
  cases hcall : t.calls[number]? with
  | none =>
    have hstep : t.step (.access number timeIsOver) = t := by
      simp only [step, hcall]
    rw [hstep]
    exact h
  | some call =>
    obtain ⟨c, phase⟩ := call
    have hlt : number < t.calls.length := (List.getElem?_eq_some_iff.mp hcall).1
    have hlawful := phase.access_lawful t.queue timeIsOver
    have hexplained := (h.explained hcall).access t.queue timeIsOver
    generalize ha : phase.access t.queue timeIsOver = a at hlawful hexplained
    have hstep : t.step (.access number timeIsOver)
        = { queue := a.queue
            calls := t.calls.set number (c, a.phase)
            accepted := t.accepted ++ (a.accepted.map (number, ·)).toList
            taken := t.taken ++ (a.taken.map (number, ·)).toList } := by
      simp only [step, hcall, ha]
    -- both records stay numbered for the same reason
    have hnumbered : ∀ (record : List (Nat × Bytes)) (chunk : Option Bytes), t.Numbered record →
        ∀ entry ∈ record ++ (chunk.map (number, ·)).toList,
          entry.1 < (t.calls.set number (c, a.phase)).length := by
      intro record chunk hrecord entry hentry
      rw [List.length_set]
      rcases List.mem_append.mp hentry with hold | hnew
      · exact hrecord entry hold
      · obtain ⟨chunk', -, rfl⟩ := Option.map_eq_some_iff.mp (Option.mem_toList.mp hnew)
        exact hlt
    rw [hstep]
    refine { capacity_eq := hlawful.capacity_eq.trans h.capacity_eq
             bounded := ?_
             conserved := ?_
             accepted_numbered := hnumbered t.accepted a.accepted h.accepted_numbered
             taken_numbered := hnumbered t.taken a.taken h.taken_numbered
             explained := ?_ }
    · have hbounded := hlawful.bounded
      rw [h.capacity_eq] at hbounded
      exact hbounded h.bounded
    · show (t.taken ++ _).map Prod.snd ++ a.queue.chunks = (t.accepted ++ _).map Prod.snd
      rw [List.map_append, List.map_append, map_snd_entry, map_snd_entry, List.append_assoc,
        hlawful.conserved, ← List.append_assoc, h.conserved]
    · intro other c' phase' hother
      show Call.Explained c' phase' (chunksOf other (t.accepted ++ _))
        (chunksOf other (t.taken ++ _))
      rw [chunksOf_append, chunksOf_append, chunksOf_entry, chunksOf_entry]
      have hother' : (t.calls.set number (c, a.phase))[other]? = some (c', phase') := hother
      by_cases hsame : number = other
      · subst hsame
        rw [List.getElem?_set_self hlt] at hother'
        cases hother'
        rw [if_pos rfl, if_pos rfl]
        exact hexplained
      · rw [List.getElem?_set_ne hsame] at hother'
        rw [if_neg hsame, if_neg hsame, List.append_nil, List.append_nil]
        exact h.explained hother'

/-- Every run is orderly. -/
theorem run_orderly (maxChunks : Nat) (steps : List Step) :
    Orderly (max 1 maxChunks) (run maxChunks steps) := by
  have hsteps : ∀ (steps : List Step) (t : Traffic), Orderly (max 1 maxChunks) t →
      Orderly (max 1 maxChunks) (steps.foldl step t) := by
    intro steps
    induction steps with
    | nil => exact fun t h => h
    | cons s rest ih =>
      intro t h
      cases s with
      | call c => exact ih _ (h.call c)
      | access number timeIsOver => exact ih _ (h.access number timeIsOver)
  refine hsteps steps _ ?_
  refine { capacity_eq := rfl, bounded := Nat.zero_le _, conserved := rfl
           accepted_numbered := ?_, taken_numbered := ?_, explained := ?_ }
  · intro entry hentry
    cases hentry
  · intro entry hentry
    cases hentry
  · intro number c phase hcall
    cases hcall

/-- What has been accepted stays accepted. -/
theorem step_accepted (t : Traffic) (s : Step) : t.accepted <+: (t.step s).accepted := by
  cases s with
  | call c => exact List.prefix_refl _
  | access number timeIsOver =>
    cases hcall : t.calls[number]? with
    | none =>
      simp only [step, hcall]
      exact List.prefix_refl _
    | some call =>
      simp only [step, hcall]
      exact List.prefix_append _ _

theorem steps_accepted (t : Traffic) (steps : List Step) :
    t.accepted <+: (steps.foldl step t).accepted := by
  induction steps generalizing t with
  | nil => exact List.prefix_refl _
  | cons s rest ih => exact (step_accepted t s).trans (ih (t.step s))

/-- A full queue from which nothing is taken accepts nothing, whoever tries. -/
theorem Orderly.full_stays {later : Traffic} (h : Orderly capacity t) (hl : Orderly capacity later)
    (haccepted : t.accepted <+: later.accepted) (hfull : t.queue.depth = t.queue.capacity)
    (htaken : later.taken = t.taken) :
    later.queue = t.queue ∧ later.accepted = t.accepted := by
  -- what was accepted since stands behind a full queue, for which there is no place
  obtain ⟨more, hmore⟩ := haccepted
  have hchunks : later.queue.chunks = t.queue.chunks ++ more.map Prod.snd := by
    have hconserved := hl.conserved
    rw [htaken, ← hmore, List.map_append, ← h.conserved, List.append_assoc] at hconserved
    exact List.append_cancel_left hconserved
  have hbounded := hl.bounded
  rw [depth, hchunks, List.length_append, List.length_map, ← h.capacity_eq, ← hfull] at hbounded
  have hnone : more = [] := by
    refine List.length_eq_zero_iff.mp ?_
    have hdepth : t.queue.chunks.length + more.length ≤ t.queue.chunks.length := hbounded
    omega
  rw [hnone] at hchunks hmore
  rw [List.map_nil, List.append_nil] at hchunks
  rw [List.append_nil] at hmore
  refine ⟨?_, hmore.symm⟩
  have hcapacity := hl.capacity_eq.trans h.capacity_eq.symm
  generalize later.queue = last at hchunks hcapacity
  obtain ⟨capacity', chunks'⟩ := last
  cases hcapacity
  cases hchunks
  rfl

/-- An access that offers a chunk has it accepted exactly if there is room. -/
theorem access_accepted {number : Nat} {c : Call} {phase : Phase} {chunk : Bytes}
    (hcall : t.calls[number]? = some (c, phase)) (hoffer : phase.offer? = some chunk)
    (timeIsOver : Bool) :
    (t.step (.access number timeIsOver)).accepted
      = if t.queue.hasRoom then t.accepted ++ [(number, chunk)] else t.accepted := by
  simp only [step, hcall, Phase.access_accepted, hoffer]
  by_cases hroom : t.queue.hasRoom
  · rw [if_pos hroom, if_pos hroom]
    rfl
  · rw [if_neg hroom, if_neg hroom]
    exact List.append_nil _

/-- A call that has returned stays as it is. -/
theorem step_returned {number : Nat} {c : Call} {outcome : Outcome}
    (h : t.calls[number]? = some (c, .returned outcome)) (s : Step) :
    (t.step s).calls[number]? = some (c, .returned outcome) := by
  have hlt : number < t.calls.length := (List.getElem?_eq_some_iff.mp h).1
  cases s with
  | call c' =>
    show (t.calls ++ [(c', c'.start)])[number]? = _
    rw [List.getElem?_append_left hlt]
    exact h
  | access other timeIsOver =>
    cases hother : t.calls[other]? with
    | none =>
      simp only [step, hother]
      exact h
    | some call =>
      simp only [step, hother]
      by_cases hsame : other = number
      · subst hsame
        rw [h] at hother
        cases hother
        exact List.getElem?_set_self hlt
      · rw [List.getElem?_set_ne hsame]
        exact h

theorem steps_returned {number : Nat} {c : Call} {outcome : Outcome}
    (h : t.calls[number]? = some (c, .returned outcome)) (steps : List Step) :
    (steps.foldl step t).calls[number]? = some (c, .returned outcome) := by
  induction steps generalizing t with
  | nil => exact h
  | cons s rest ih => exact ih (step_returned h s)

end Traffic

/-! ## Undisturbed calls -/

/-- A phase and a queue after some accesses of one call and of no other, with no time to wait. -/
def Phase.alone (q : JitterQueue) (phase : Phase) : Nat → Phase × JitterQueue
  | 0 => (phase, q)
  | count + 1 => (phase.access q true).phase.alone (phase.access q true).queue count

/-- Silence that nobody disturbs is queued as far as there is room for it. -/
theorem Phase.alone_prefill (target chunkBytes : Nat) : ∀ (room queued : Nat) (q : JitterQueue),
    q.capacity - q.depth = room → ∃ count,
      (Phase.prefill target chunkBytes queued).alone q count
        = (.returned (.prefilled (fillRoom target chunkBytes room queued).queued),
            { q with chunks := q.chunks ++ (fillRoom target chunkBytes room queued).chunks }) := by
  intro room
  induction room with
  | zero =>
    intro queued q hq
    have hfull : ¬ q.hasRoom := by
      intro hroom
      have hlt : q.depth < q.capacity := of_decide_eq_true hroom
      omega
    by_cases hlt : queued < target
    · refine ⟨1, ?_⟩
      rw [Phase.prefill, if_pos hlt]
      simp only [alone, access, attempt_eq, if_neg hfull, fillRoom, if_pos hlt, List.append_nil]
    · refine ⟨0, ?_⟩
      rw [Phase.prefill, if_neg hlt]
      simp only [alone, fillRoom, if_neg hlt, List.append_nil]
  | succ room ih =>
    intro queued q hq
    have hroom : q.hasRoom := decide_eq_true (by omega)
    by_cases hlt : queued < target
    · let length := min chunkBytes (target - queued)
      obtain ⟨count, hcount⟩ := ih (queued + length)
        { q with chunks := q.chunks ++ [silence length] } (by
          show q.capacity - (q.chunks ++ [silence length]).length = room
          rw [List.length_append, List.length_singleton]
          have hdepth : q.capacity - q.chunks.length = room + 1 := hq
          omega)
      refine ⟨count + 1, ?_⟩
      rw [Phase.prefill, if_pos hlt]
      simp only [alone, access, attempt_eq, if_pos hroom, fillRoom, if_pos hlt]
      rw [hcount]
      simp only [length, List.append_assoc, List.singleton_append]
    · refine ⟨0, ?_⟩
      rw [Phase.prefill, if_neg hlt]
      simp only [alone, fillRoom, if_neg hlt, List.append_nil]

/-- Alone, every call comes to the operation of its name. -/
theorem Call.alone_eq (q : JitterQueue) (c : Call) : ∃ count,
    c.start.alone q count = (.returned (c.undisturbed q).1, (c.undisturbed q).2) := by
  cases c with
  | push chunk =>
    refine ⟨1, ?_⟩
    by_cases hroom : q.hasRoom <;>
      simp [start, Phase.alone, Phase.access, attempt_eq, undisturbed, push_zero, hroom]
  | offer chunk =>
    refine ⟨1, ?_⟩
    by_cases hroom : q.hasRoom <;>
      simp [start, Phase.alone, Phase.access, attempt_eq, undisturbed, offer_eq, hroom]
  | enqueue host chunk =>
    have hpush : q.enqueue host chunk {} = q.push chunk 0 := by
      rw [enqueue_eq_push, awaited_zero, awaited_zero]
    refine ⟨2, ?_⟩
    by_cases hroom : q.hasRoom <;>
      simp [start, Phase.alone, Phase.access, attempt_eq, undisturbed, hpush, push_zero,
        Host.wait_eq, hroom]
  | prefill target chunkBytes =>
    by_cases hzero : chunkBytes = 0
    · exact ⟨0, by simp [start, Phase.alone, undisturbed, JitterQueue.prefill, hzero]⟩
    · obtain ⟨count, hcount⟩ := Phase.alone_prefill target chunkBytes _ 0 q rfl
      refine ⟨count, ?_⟩
      rw [start, if_neg hzero, hcount, undisturbed, JitterQueue.prefill, if_neg hzero]
      rfl
  | pull => exact ⟨1, rfl⟩

namespace Traffic

/-- The last call has some accesses, one after another. -/
theorem foldl_access_last (calls : List (Call × Phase)) (c : Call) (count : Nat) :
    ∀ (t : Traffic) (phase : Phase), t.calls = calls ++ [(c, phase)] →
      ((List.replicate count (.access calls.length true)).foldl step t).queue
          = (phase.alone t.queue count).2 ∧
        ((List.replicate count (.access calls.length true)).foldl step t).calls
          = calls ++ [(c, (phase.alone t.queue count).1)] := by
  induction count with
  | zero => exact fun t phase hcalls => ⟨rfl, hcalls⟩
  | succ count ih =>
    intro t phase hcalls
    have hcall : t.calls[calls.length]? = some (c, phase) := by
      rw [hcalls, List.getElem?_concat_length]
    have hstep := ih (t.step (.access calls.length true)) (phase.access t.queue true).phase (by
      simp only [step, hcall]
      rw [hcalls, List.set_append_right _ _ (Nat.le_refl _), Nat.sub_self, List.set_cons_zero])
    have hqueue : (t.step (.access calls.length true)).queue
        = (phase.access t.queue true).queue := by
      simp only [step, hcall]
    rw [hqueue] at hstep
    exact hstep

/-- A call that nobody disturbs returns what the operation of its name returns, and leaves the queue
that it leaves. -/
theorem undisturbed_eq (t : Traffic) (c : Call) : ∃ count,
    let later := (.call c :: List.replicate count (.access t.calls.length true)).foldl step t
    later.queue = (c.undisturbed t.queue).2 ∧
      later.calls = t.calls ++ [(c, .returned (c.undisturbed t.queue).1)] := by
  obtain ⟨count, hcount⟩ := c.alone_eq t.queue
  refine ⟨count, ?_⟩
  have hlast := foldl_access_last t.calls c count (t.step (.call c)) c.start rfl
  have hqueue : (t.step (.call c)).queue = t.queue := rfl
  rw [hqueue, hcount] at hlast
  exact hlast

end Traffic

/-! ## The law -/

/-- **Whatever the handles, a queue is one bounded FIFO that loses nothing unsaid.** In any order of
calls and of their accesses, the queue never holds more than its capacity, and the chunks that were
taken and those that still wait are the accepted ones, in the order in which they were accepted.
Each call has put into the queue exactly what it reports: its chunk once if it reports it as queued,
nothing if it hands it back, reports it as dropped or still tries, and as much silence as it counts;
and what it has reported never changes. An access that offers a chunk has it accepted exactly if
there is room, and a full queue stays as it is until something is taken. A call that nobody disturbs
is the operation of its name: a push or an offer succeeds exactly if there is room, and an enqueue
is a push on any host. With a consumer, an enqueue drops its chunk exactly if the queue is full and
nothing is taken. -/
theorem calls_share_one_fifo (maxChunks : Nat) (steps : List Traffic.Step) :
    let t := Traffic.run maxChunks steps
    let q := t.queue
    q.capacity = max 1 maxChunks ∧ q.depth ≤ q.capacity ∧
      t.taken.map Prod.snd ++ q.chunks = t.accepted.map Prod.snd ∧
      (∀ (number : Nat) (c : Call) (phase : Phase), t.calls[number]? = some (c, phase) →
        c.Explained phase (Traffic.chunksOf number t.accepted)
          (Traffic.chunksOf number t.taken)) ∧
      (∀ (number : Nat) (c : Call) (outcome : Outcome) (later : List Traffic.Step),
        t.calls[number]? = some (c, .returned outcome) →
        (Traffic.run maxChunks (steps ++ later)).calls[number]? = some (c, .returned outcome)) ∧
      (∀ (number : Nat) (c : Call) (phase : Phase) (chunk : Bytes) (timeIsOver : Bool),
        t.calls[number]? = some (c, phase) → phase.offer? = some chunk →
        (Traffic.run maxChunks (steps ++ [.access number timeIsOver])).accepted
          = if q.depth < q.capacity then t.accepted ++ [(number, chunk)] else t.accepted) ∧
      (∀ later : List Traffic.Step, q.depth = q.capacity →
        (Traffic.run maxChunks (steps ++ later)).taken = t.taken →
        (Traffic.run maxChunks (steps ++ later)).queue = q ∧
          (Traffic.run maxChunks (steps ++ later)).accepted = t.accepted) ∧
      (∀ c : Call, ∃ count,
        let later := Traffic.run maxChunks
          (steps ++ .call c :: List.replicate count (.access t.calls.length true))
        later.queue = (c.undisturbed q).2 ∧
          later.calls = t.calls ++ [(c, .returned (c.undisturbed q).1)]) ∧
      (∀ chunk, q.push chunk 0 = if q.depth < q.capacity
        then (.queued, { q with chunks := q.chunks ++ [chunk] }) else (.dropped, q)) ∧
      (∀ chunk, q.offer chunk = if q.depth < q.capacity
        then .ok { q with chunks := q.chunks ++ [chunk] } else .error chunk) ∧
      (∀ host chunk taken, q.enqueue host chunk { during := taken } = q.push chunk taken) ∧
      ∀ host chunk consumer,
        (q.depth = q.capacity ∧ consumer = {} ∧ q.enqueue host chunk consumer = (.dropped, q)) ∨
          ∃ taken rest, q.chunks = taken ++ rest ∧ rest.length < q.capacity ∧
            q.enqueue host chunk consumer = (.queued, { q with chunks := rest ++ [chunk] }) := by
  intro t q
  have h : t.Orderly (max 1 maxChunks) := Traffic.run_orderly maxChunks steps
  have hle : q.depth ≤ q.capacity := Nat.le_trans h.bounded (Nat.le_of_eq h.capacity_eq.symm)
  have hpos : 0 < q.capacity := by
    rw [h.capacity_eq]
    omega
  have hroom : ∀ {α : Type} (a b : α), (if q.hasRoom then a else b)
      = if q.depth < q.capacity then a else b := by
    intro α a b
    simp only [hasRoom, decide_eq_true_eq]
  refine ⟨h.capacity_eq, hle, h.conserved, fun number c phase => h.explained,
    fun number c outcome later hreturned => ?_,
    fun number c phase chunk timeIsOver hcall hoffer => ?_,
    fun later hfull htaken => ?_, fun c => ?_, fun chunk => ?_, fun chunk => ?_,
    fun host chunk taken => ?_,
    fun host chunk consumer => enqueue_cases hpos hle host chunk consumer⟩
  · rw [Traffic.run, List.foldl_append]
    exact Traffic.steps_returned hreturned later
  · rw [Traffic.run, List.foldl_append, ← hroom]
    exact Traffic.access_accepted hcall hoffer timeIsOver
  · refine h.full_stays (Traffic.run_orderly maxChunks (steps ++ later)) ?_ hfull htaken
    rw [Traffic.run, List.foldl_append]
    exact Traffic.steps_accepted t later
  · obtain ⟨count, hqueue, hcalls⟩ := t.undisturbed_eq c
    refine ⟨count, ?_⟩
    rw [Traffic.run, List.foldl_append]
    exact ⟨hqueue, hcalls⟩
  · rw [push_zero, hroom]
  · rw [offer_eq, hroom]
  · rw [enqueue_eq_push, awaited_zero, ← push_eq_awaited]

/-- A queue of one place is full when two producers come. While the first of them waits, the second
is refused and a consumer takes the chunk, and then the first is queued. -/
theorem calls_share_one_fifo_contended :
    let steps : List Traffic.Step :=
      [.call (.offer [1]), .access 0 false, .call (.enqueue .manyWorkers [2]), .access 1 false,
       .call (.offer [3]), .access 2 false, .call .pull, .access 3 false, .access 1 true]
    let t := Traffic.run 0 steps
    t.calls[1]? = some (.enqueue .manyWorkers [2], .returned (.fate .queued)) ∧
      t.calls[2]? = some (.offer [3], .returned (.offered (some [3]))) ∧
      (Call.enqueue .manyWorkers [2]).Explained (.returned (.fate .queued))
        (Traffic.chunksOf 1 t.accepted) (Traffic.chunksOf 1 t.taken) ∧
      t.taken.map Prod.snd ++ t.queue.chunks = [[1], [2]] := by
  intro steps t
  have hcall : t.calls[1]? = some (.enqueue .manyWorkers [2], .returned (.fate .queued)) := rfl
  have hlaw := calls_share_one_fifo 0 steps
  exact ⟨hcall, rfl, hlaw.2.2.2.1 1 _ _ hcall, hlaw.2.2.1.trans (by decide)⟩

end ToneLink.JitterQueue
