import ToneLink.Proofs.SinkContents

/-!
# Runs of a sink

A run is any order of producers' operations and requests. All handles on a queue lead to the same
queue, so it plays no part through which of them an operation comes. A push that finds the queue
full waits, and the requests that are answered while it waits belong to it. Since a push comes to an
offer at the end of its wait, one that waits while other producers act is an offer that comes after
them. A waiting push is accepted between whole requests: one that would be accepted as soon as a
request has taken its first chunk comes here after the last chunk that the request takes.

- `Sink.Step`, `Sink.History`: what can happen, and a sink together with what a run is judged by:
  the chunks accepted so far and the answers given so far;
- `Sink.History.request`, `push`, `offer`, `prefill`: the steps, each through the operation of the
  queue or the sink of that name;
- `Sink.History.push_eq_offer`: what a push with its wait comes to;
- `Sink.History.Balanced`: the invariant. No accepted byte is lost, repeated or moved, and each
  answer is as long as it can be before silence takes over;
- `Sink.run_refines_byteFifo`: hence queue and playout together are one string of bytes, which
  accepted chunks make longer at the end and answers make shorter at the front.
-/

namespace ToneLink

/-! ## Records of a run -/

/-- Every entry of a record stands in a relation to the entries before it. -/
def EachAfter {α : Type} (P : List α → α → Prop) (entries : List α) : Prop :=
  ∀ (j : Nat) (hj : j < entries.length), P (entries.take j) entries[j]

theorem EachAfter.nil {α : Type} (P : List α → α → Prop) : EachAfter P [] :=
  fun j hj => absurd hj (Nat.not_lt_zero j)

theorem EachAfter.concat {α : Type} {P : List α → α → Prop} {entries : List α} {entry : α}
    (h : EachAfter P entries) (hentry : P entries entry) : EachAfter P (entries ++ [entry]) := by
  intro j hj
  by_cases hold : j < entries.length
  · rw [List.getElem_append_left hold, List.take_append_of_le_length (Nat.le_of_lt hold)]
    exact h j hold
  · -- only the last entry is new
    have hlast : j = entries.length := by
      rw [List.length_append, List.length_singleton] at hj
      omega
    subst hlast
    rw [List.getElem_concat_length rfl, List.take_left]
    exact hentry

theorem EachAfter.of_concat {α : Type} {P : List α → α → Prop} {entries : List α} {entry : α}
    (h : EachAfter P (entries ++ [entry])) : EachAfter P entries ∧ P entries entry := by
  constructor
  · intro j hj
    have hearlier := h j (by rw [List.length_append]; omega)
    rw [List.getElem_append_left hj, List.take_append_of_le_length (Nat.le_of_lt hj)] at hearlier
    exact hearlier
  · have hlast := h entries.length (by rw [List.length_append, List.length_singleton]; omega)
    rw [List.getElem_concat_length rfl, List.take_left] at hlast
    exact hlast

namespace Sink

/-! ## Steps -/

/-- What can happen to a sink. -/
inductive Step
  /-- A chunk is pushed. If the queue is full, these buffers are filled while the push waits. -/
  | push (chunk : Bytes) (meanwhile : List Bytes)
  /-- A chunk is offered, and handed back if the queue is full. -/
  | offer (chunk : Bytes)
  /-- Silence is queued. -/
  | prefill (target chunkBytes : Nat)
  /-- A buffer is filled. -/
  | fill (out : Bytes)
  /-- A number of bytes is asked for. -/
  | pull (needed : Nat)
  deriving DecidableEq, Repr

/-- A request as it was answered. -/
structure Answer where
  asked : Nat
  /-- Bytes of all chunks accepted before. -/
  supplied : Nat
  bytes : Bytes
  /-- Bytes that were handed out or kept without having been held before. -/
  padding : Nat
  ranDry : Bool
  /-- The counters that the callback found. -/
  before : RenderCounters
  /-- The counters that the callback left. -/
  after : RenderCounters
  deriving DecidableEq, Repr

namespace Answer

/-- The answer without its padding. -/
def audio (a : Answer) : Bytes := a.bytes.take (a.bytes.length - a.padding)

/-- What the answers have brought to the listener, padding left out. -/
def heard (answers : List Answer) : Bytes := (answers.map audio).flatten

@[simp] theorem heard_nil : heard [] = [] := rfl

@[simp] theorem heard_concat (answers : List Answer) (a : Answer) :
    heard (answers ++ [a]) = heard answers ++ a.audio := by
  simp [heard]

/-- What is known of an answer before which `given` bytes of audio have been heard. -/
structure Exact (given : Nat) (a : Answer) : Prop where
  bytes_eq : a.bytes = a.audio ++ silence a.padding
  length_eq : a.audio.length + a.padding = a.asked
  given_le : given ≤ a.supplied
  audio_length : a.audio.length = min a.asked (a.supplied - given)
  ranDry_iff : a.ranDry = true ↔ a.audio.length < a.asked
  underflows_eq : a.after.underflows
    = if a.ranDry then min RenderCounters.ceiling (a.before.underflows + 1) else a.before.underflows

/-- Every answer is exact, given those before it. -/
def AllExact (answers : List Answer) : Prop :=
  EachAfter (fun before a => a.Exact (heard before).length) answers

end Answer

/-- A sink, and what has happened to it. -/
structure History where
  sink : Sink
  /-- The accepted chunks, oldest first. -/
  accepted : List Bytes := []
  /-- The answers, oldest first. -/
  answers : List Answer := []
  deriving DecidableEq, Repr

namespace History

/-- The answer that a request gets. -/
def answer (h : History) (out : Bytes) : Answer where
  asked := out.length
  supplied := h.accepted.flatten.length
  bytes := (h.sink.fillInto out).1
  padding := (h.sink.fillInto out).1.length + (h.sink.fillInto out).2.held.length
    - h.sink.held.length
  ranDry := h.sink.runsDry out.length
  before := h.sink.counters
  after := (h.sink.fillInto out).2.counters

/-- Fills a buffer. -/
def request (h : History) (out : Bytes) : History :=
  { h with sink := (h.sink.fillInto out).2, answers := h.answers ++ [h.answer out] }

/-- Offers a chunk. -/
def offer (h : History) (chunk : Bytes) : History :=
  match h.sink.queue.offer chunk with
  | .ok queue => { h with sink := { h.sink with queue }, accepted := h.accepted ++ [chunk] }
  | .error _ => h

/-- What a push finds at the end of its wait. With room in the queue it does not wait. -/
def waited (h : History) (meanwhile : List Bytes) : History :=
  if h.sink.queue.hasRoom then h else meanwhile.foldl request h

/-- Pushes a chunk. The consumer during the wait is the playout of this very sink, and it takes as
many chunks as its requests need before the chunk is accepted. -/
def push (h : History) (chunk : Bytes) (meanwhile : List Bytes) : History :=
  let later := h.waited meanwhile
  let (fate, queue) := h.sink.queue.push chunk (h.sink.queue.depth - later.sink.queue.depth)
  { later with
    sink := { later.sink with queue }
    accepted := later.accepted ++ if fate = .queued then [chunk] else [] }

/-- Queues silence. -/
def prefill (h : History) (target chunkBytes : Nat) : History :=
  let (done, queue) := h.sink.queue.prefill target chunkBytes
  { h with sink := { h.sink with queue }, accepted := h.accepted ++ done.chunks }

/-- One step of a run. -/
def step (h : History) : Step → History
  | .push chunk meanwhile => h.push chunk meanwhile
  | .offer chunk => h.offer chunk
  | .prefill target chunkBytes => h.prefill target chunkBytes
  | .fill out => h.request out
  | .pull needed => h.request (silence needed)

/-- Nothing has happened yet. -/
def opened (maxChunks : Nat) (counters : RenderCounters) : History where
  sink := { queue := .empty maxChunks, counters }

end History

/-- A run from an empty sink. -/
def run (maxChunks : Nat) (counters : RenderCounters) (steps : List Step) : History :=
  steps.foldl History.step (.opened maxChunks counters)

/-! ## One step -/

namespace History

/-- A later history that has only been supplied: these chunks were accepted and queued at the end,
and nothing was answered. -/
structure Supplied (h later : History) (chunks : List Bytes) : Prop where
  playout_eq : later.sink.playout = h.sink.playout
  chunks_eq : later.sink.queue.chunks = h.sink.queue.chunks ++ chunks
  counters_eq : later.sink.counters = h.sink.counters
  accepted_eq : later.accepted = h.accepted ++ chunks
  answers_eq : later.answers = h.answers

theorem Supplied.held_eq {h later : History} {chunks : List Bytes} (hs : h.Supplied later chunks) :
    later.sink.held = h.sink.held ++ chunks.flatten := by
  rw [held, held, hs.playout_eq, hs.chunks_eq, List.flatten_append, List.append_assoc]

theorem offer_supplied (h : History) (chunk : Bytes) :
    ∃ chunks, h.Supplied (h.offer chunk) chunks := by
  by_cases hroom : h.sink.queue.hasRoom
  · refine ⟨[chunk], ?_, ?_, ?_, ?_, ?_⟩ <;> simp [offer, JitterQueue.offer_eq, hroom]
  · refine ⟨[], ?_, ?_, ?_, ?_, ?_⟩ <;> simp [offer, JitterQueue.offer_eq, hroom]

theorem prefill_supplied (h : History) (target chunkBytes : Nat) :
    ∃ chunks, h.Supplied (h.prefill target chunkBytes) chunks := by
  refine ⟨(h.sink.queue.prefill target chunkBytes).1.chunks, rfl, ?_, rfl, rfl, rfl⟩
  show (h.sink.queue.prefill target chunkBytes).2.chunks = _
  rw [JitterQueue.prefill_snd]

/-- Requests take some chunks from the front of the queue, and nothing else. -/
theorem requests_queue (h : History) (outs : List Bytes) :
    (outs.foldl request h).sink.queue = (h.sink.queue.pullMany
      (h.sink.queue.depth - (outs.foldl request h).sink.queue.depth)).2 := by
  have hboth : (outs.foldl request h).sink.queue.capacity = h.sink.queue.capacity ∧
      (outs.foldl request h).sink.queue.chunks <:+ h.sink.queue.chunks := by
    induction outs generalizing h with
    | nil => exact ⟨rfl, List.suffix_refl _⟩
    | cons out rest ih =>
      obtain ⟨hcapacity, hsuffix⟩ := ih (h.request out)
      exact ⟨hcapacity, hsuffix.trans (h.sink.fillInto_suffix out)⟩
  obtain ⟨hcapacity, hsuffix⟩ := hboth
  rw [JitterQueue.pullMany, ← hcapacity]
  exact congrArg (JitterQueue.mk _) (List.suffix_iff_eq_drop.mp hsuffix)

/-- A push comes to an offer at the end of its wait. -/
theorem push_eq_offer (h : History) (chunk : Bytes) (meanwhile : List Bytes) :
    h.push chunk meanwhile = (h.waited meanwhile).offer chunk := by
  have hwaited : (if h.sink.queue.hasRoom then h.sink.queue else (h.sink.queue.pullMany
      (h.sink.queue.depth - (h.waited meanwhile).sink.queue.depth)).2)
      = (h.waited meanwhile).sink.queue := by
    by_cases hroom : h.sink.queue.hasRoom
    · rw [if_pos hroom, waited, if_pos hroom]
    · rw [if_neg hroom, waited, if_neg hroom]
      exact (requests_queue h meanwhile).symm
  rw [push, offer]
  simp only [JitterQueue.push_eq, hwaited, JitterQueue.offer_eq]
  by_cases hroom : (h.waited meanwhile).sink.queue.hasRoom
  · simp [hroom]
  · simp [hroom]

/-- Offers, prefills and requests are all that can happen: what each of them keeps, every step
keeps. -/
theorem step_keeps_each {P : History → Prop}
    (hoffer : ∀ (h : History) (chunk : Bytes), P h → P (h.offer chunk))
    (hprefill : ∀ (h : History) (target chunkBytes : Nat), P h → P (h.prefill target chunkBytes))
    (hrequest : ∀ (h : History) (out : Bytes), P h → P (h.request out))
    {h : History} (hp : P h) (s : Step) : P (h.step s) := by
  have hrequests : ∀ outs : List Bytes, P (outs.foldl request h) := by
    intro outs
    induction outs generalizing h with
    | nil => exact hp
    | cons out rest ih => exact ih (hrequest h out hp)
  cases s with
  | push chunk meanwhile =>
    -- the requests of the wait come first, then the chunk
    show P (h.push chunk meanwhile)
    rw [push_eq_offer]
    refine hoffer _ chunk ?_
    by_cases hroom : h.sink.queue.hasRoom
    · rw [waited, if_pos hroom]
      exact hp
    · rw [waited, if_neg hroom]
      exact hrequests meanwhile
  | offer chunk => exact hoffer h chunk hp
  | prefill target chunkBytes => exact hprefill h target chunkBytes hp
  | fill out => exact hrequest h out hp
  | pull needed => exact hrequest h (silence needed) hp

/-- What supplying keeps and what requests keep, every step keeps. -/
theorem step_keeps {P : History → Prop}
    (hsupply : ∀ {h later : History} {chunks : List Bytes}, h.Supplied later chunks → P h → P later)
    (hrequest : ∀ (h : History) (out : Bytes), P h → P (h.request out))
    {h : History} (hp : P h) (s : Step) : P (h.step s) := by
  refine step_keeps_each ?_ ?_ hrequest hp s
  · intro h chunk hp
    obtain ⟨chunks, hs⟩ := h.offer_supplied chunk
    exact hsupply hs hp
  · intro h target chunkBytes hp
    obtain ⟨chunks, hs⟩ := h.prefill_supplied target chunkBytes
    exact hsupply hs hp

end History

/-- What supplying keeps and what requests keep holds in every run, if it holds at the start. -/
theorem run_keeps {P : History → Prop}
    (hsupply : ∀ {h later : History} {chunks : List Bytes}, h.Supplied later chunks → P h → P later)
    (hrequest : ∀ (h : History) (out : Bytes), P h → P (h.request out))
    {maxChunks : Nat} {counters : RenderCounters} (hopened : P (.opened maxChunks counters))
    (steps : List Step) : P (run maxChunks counters steps) := by
  -- every step leads to another history, so the start has to vary
  have hsteps : ∀ (steps : List Step) (h : History), P h → P (steps.foldl History.step h) := by
    intro steps
    induction steps with
    | nil => exact fun h hp => hp
    | cons s rest ih => exact fun h hp => ih (h.step s) (History.step_keeps hsupply hrequest hp s)
  exact hsteps steps _ hopened

/-! ## The invariant -/

namespace History

/-- Every accepted byte has been heard or is still held, in order, and every answer is exact. -/
structure Balanced (h : History) : Prop where
  conserved : Answer.heard h.answers ++ h.sink.held = h.accepted.flatten
  exact : Answer.AllExact h.answers

/-- Every answer is audio, and then silence. -/
theorem Balanced.bytes_eq {h : History} (hb : h.Balanced) {a : Answer} (ha : a ∈ h.answers) :
    a.bytes = a.audio ++ silence a.padding := by
  obtain ⟨j, hj, rfl⟩ := List.mem_iff_getElem.mp ha
  exact (hb.exact j hj).bytes_eq

theorem opened_balanced (maxChunks : Nat) (counters : RenderCounters) :
    (opened maxChunks counters).Balanced where
  conserved := rfl
  exact := EachAfter.nil _

/-- To be supplied keeps the balance. -/
theorem Supplied.balanced {h later : History} {chunks : List Bytes}
    (hs : h.Supplied later chunks) (hb : h.Balanced) : later.Balanced where
  conserved := by
    rw [hs.answers_eq, hs.held_eq, hs.accepted_eq, List.flatten_append, ← List.append_assoc,
      hb.conserved]
  exact := by
    rw [hs.answers_eq]
    exact hb.exact

/-- Padded is what was asked for beyond what was held. -/
theorem answer_padding (h : History) (out : Bytes) :
    (h.answer out).padding = out.length - h.sink.held.length := by
  show (h.sink.fillInto out).1.length + (h.sink.fillInto out).2.held.length - _ = _
  rw [fillInto_bytes, held_fillInto, length_resized, List.length_drop]
  omega

/-- The audio of an answer is what was held, as far as it goes. -/
theorem answer_audio (h : History) (out : Bytes) :
    (h.answer out).audio = h.sink.held.take out.length := by
  have hbytes : (h.answer out).bytes = h.sink.held.take out.length
      ++ silence (out.length - h.sink.held.length) := h.sink.fillInto_bytes out
  have hcut : (h.answer out).bytes.length - (h.answer out).padding
      = (h.sink.held.take out.length).length := by
    rw [answer_padding, hbytes, List.length_append, length_silence]
    omega
  rw [Answer.audio, hcut, hbytes]
  exact List.take_left

/-- A request is answered exactly. -/
theorem answer_exact {h : History} (hb : h.Balanced) (out : Bytes) :
    (h.answer out).Exact (Answer.heard h.answers).length := by
  -- by the balance, what was accepted and not yet heard is what is held
  have hsupplied : (h.answer out).supplied
      = (Answer.heard h.answers).length + h.sink.held.length := by
    show h.accepted.flatten.length = _
    rw [← hb.conserved, List.length_append]
  have hlength : (h.answer out).audio.length = min out.length h.sink.held.length := by
    rw [answer_audio, List.length_take]
  refine { bytes_eq := ?_, length_eq := ?_, given_le := ?_, audio_length := ?_,
           ranDry_iff := ?_, underflows_eq := rfl }
  · rw [answer_audio, answer_padding]
    exact h.sink.fillInto_bytes out
  · show _ = out.length
    rw [hlength, answer_padding]
    omega
  · omega
  · show _ = min out.length _
    omega
  · show h.sink.runsDry out.length = true ↔ _ < out.length
    rw [runsDry_iff, hlength]
    omega

/-- To answer a request keeps the balance. -/
theorem request_balanced {h : History} (hb : h.Balanced) (out : Bytes) :
    (h.request out).Balanced := by
  refine ⟨?_, ?_⟩
  · show Answer.heard (h.answers ++ [h.answer out]) ++ (h.sink.fillInto out).2.held = _
    rw [Answer.heard_concat, answer_audio, held_fillInto, List.append_assoc,
      List.take_append_drop]
    exact hb.conserved
  · exact EachAfter.concat hb.exact (answer_exact hb out)

end History

/-- Every run is balanced. -/
theorem run_balanced (maxChunks : Nat) (counters : RenderCounters) (steps : List Step) :
    (run maxChunks counters steps).Balanced :=
  run_keeps (fun hs hb => hs.balanced hb) (fun _ out hb => History.request_balanced hb out)
    (History.opened_balanced maxChunks counters) steps

/-! ## Whole runs -/

/-- **Queue and playout are one byte FIFO.** At every point of every run, what has been heard, what
is pending and what is queued make up exactly the bytes of the accepted chunks, in order. Each
answer has the length asked for: first all the audio that was accepted before and not yet heard, as
far as it is asked for, then silence. The underflow counter goes up by one, until it is full,
exactly if there is any silence, however long. -/
theorem run_refines_byteFifo (maxChunks : Nat) (counters : RenderCounters) (steps : List Step) :
    let h := run maxChunks counters steps
    (h.answers.map Answer.audio).flatten ++ h.sink.playout.pending ++ h.sink.queue.chunks.flatten
        = h.accepted.flatten ∧
      ∀ (j : Nat) (hj : j < h.answers.length),
        let a := h.answers[j]
        let heard := ((h.answers.take j).map Answer.audio).flatten
        a.bytes.length = a.asked ∧
        a.bytes = a.audio ++ silence (a.asked - a.audio.length) ∧
        heard.length ≤ a.supplied ∧
        a.audio.length = min a.asked (a.supplied - heard.length) ∧
        a.after.underflows = if a.audio.length < a.asked
          then min RenderCounters.ceiling (a.before.underflows + 1) else a.before.underflows := by
  intro h
  have hb : h.Balanced := run_balanced maxChunks counters steps
  refine ⟨?_, fun j hj => ?_⟩
  · rw [List.append_assoc]
    exact hb.conserved
  · intro a heard
    have hexact : a.Exact heard.length := hb.exact j hj
    have hpadding : a.asked - a.audio.length = a.padding := by
      have := hexact.length_eq
      omega
    refine ⟨?_, ?_, hexact.given_le, hexact.audio_length, ?_⟩
    · rw [hexact.bytes_eq, List.length_append, length_silence]
      exact hexact.length_eq
    · rw [hpadding]
      exact hexact.bytes_eq
    · rw [hexact.underflows_eq]
      by_cases hdry : a.ranDry = true
      · rw [if_pos hdry, if_pos (hexact.ranDry_iff.mp hdry)]
      · rw [if_neg hdry, if_neg fun hlt => hdry (hexact.ranDry_iff.mpr hlt)]

/-- A push that waits for a request: the request finds three bytes of the four it asks for, and the
pushed chunk is left for the next one. -/
theorem run_refines_byteFifo_waiting_push :
    let h := run 1 {} [.push [1, 2, 3] [], .push [4, 5] [[9, 9, 9, 9]], .pull 4]
    h.accepted = [[1, 2, 3], [4, 5]] ∧ h.answers.map Answer.bytes = [[1, 2, 3, 0], [4, 5, 0, 0]] ∧
      ∃ hj : 1 < h.answers.length, (h.answers[1]).audio.length
        = min (h.answers[1]).asked ((h.answers[1]).supplied
            - ((h.answers.take 1).map Answer.audio).flatten.length) := by
  have hj : 1 < (run 1 {}
      [.push [1, 2, 3] [], .push [4, 5] [[9, 9, 9, 9]], .pull 4]).answers.length := by decide
  exact ⟨by decide, by decide, hj, ((run_refines_byteFifo 1 {} _).2 1 hj).2.2.2.1⟩

end Sink

end ToneLink
