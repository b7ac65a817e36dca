import ToneLink.Bytes
import ToneLink.ListenPlan
import ToneLink.Log

/-!
# The jitter queue

Between the receive loop and the render callback waits a bounded queue of audio chunks. Chunks leave
in the order in which they came; nothing is reordered. A producer that finds the queue full may wait
a moment for the consumer; the consumer never waits.

- `JitterQueue.offer`: queues a chunk or hands it back;
- `JitterQueue.push`: queues a chunk or drops it; how many chunks the consumer takes while the
  producer waits is an argument;
- `JitterQueue.enqueue`: first the one, then the other, as the receive loop does;
- `JitterQueue.prefill`: queues silence;
- `JitterQueue.pull`: takes the next chunk.
-/

namespace ToneLink

/-- What became of a chunk. -/
inductive Fate
  | queued
  | dropped
  deriving DecidableEq, Repr

/-- A bounded first-in first-out queue of chunks. -/
structure JitterQueue where
  capacity : Nat
  chunks : List Bytes := []
  deriving DecidableEq, Repr

namespace JitterQueue

/-- An empty queue of `maxChunks` places, of one place at least. -/
def empty (maxChunks : Nat) : JitterQueue := { capacity := max 1 maxChunks }

/-- The queue of a receiver. -/
def standard : JitterQueue := empty queueCapacity

/-- Chunks that wait. -/
def depth (q : JitterQueue) : Nat := q.chunks.length

/-- Whether a chunk can be queued now. -/
def hasRoom (q : JitterQueue) : Bool := q.depth < q.capacity

/-! ### Consuming -/

/-- Takes the next chunk, if one waits. -/
def pull (q : JitterQueue) : Option Bytes × JitterQueue :=
  match q.chunks with
  | [] => (none, q)
  | chunk :: rest => (some chunk, { q with chunks := rest })

/-- Takes up to `count` chunks, one after another. -/
def pullMany (q : JitterQueue) (count : Nat) : List Bytes × JitterQueue :=
  (q.chunks.take count, { q with chunks := q.chunks.drop count })

/-! ### Producing -/

/-- Queues a chunk if there is room now, and otherwise hands it back. -/
def offer (q : JitterQueue) (chunk : Bytes) : Except Bytes JitterQueue :=
  if q.hasRoom then .ok { q with chunks := q.chunks ++ [chunk] } else .error chunk

/-- Queues a chunk, waiting a while for room. `taken` is the number of chunks that the consumer
takes during the wait; if there is still no room then, the chunk is dropped. A chunk that finds room
does not wait. -/
def push (q : JitterQueue) (chunk : Bytes) (taken : Nat) : Fate × JitterQueue :=
  match q.offer chunk with
  | .ok q => (.queued, q)
  | .error chunk =>
    let q := (q.pullMany taken).2
    match q.offer chunk with
    | .ok q => (.queued, q)
    | .error _ => (.dropped, q)

/-- The kinds of schedulers. -/
inductive Flavour
  /-- One worker: everything waits with it. -/
  | currentThread
  /-- Several workers: one that waits can hand over what it would keep from running. -/
  | multiThread
  deriving DecidableEq, Repr

/-- What a producer runs on. It decides who waits with it for room in the queue. -/
structure Host where
  /-- The scheduler, if there is one. -/
  flavour : Option Flavour
  /-- Runs a job that may take its time, once the worker has handed over everything else. -/
  blockInPlace : {α : Type} → (Unit → α) → α
  /-- On one of several workers the result is that of the job. Nothing is promised elsewhere. -/
  blockInPlace_eq : flavour = some .multiThread →
    ∀ {α : Type} (job : Unit → α), blockInPlace job = job ()

namespace Host

/-- Runs a wait: in place, or handed over if there are several workers. -/
def wait {α : Type} (host : Host) (job : Unit → α) : α :=
  if host.flavour = some .multiThread then host.blockInPlace job else job ()

/-- Whoever waits, the result of a wait is that of its job. -/
theorem wait_eq {α : Type} (host : Host) (job : Unit → α) : host.wait job = job () := by
  by_cases hmany : host.flavour = some .multiThread
  · rw [wait, if_pos hmany]
    exact host.blockInPlace_eq hmany job
  · rw [wait, if_neg hmany]

/-- No scheduler at all. -/
def bare : Host := ⟨none, fun job => job (), fun _ _ _ => rfl⟩

/-- A scheduler with one worker. -/
def oneWorker : Host := ⟨some .currentThread, fun job => job (), fun _ _ _ => rfl⟩

/-- A scheduler with several workers, one of which is spare. -/
def manyWorkers : Host := ⟨some .multiThread, fun job => (Task.spawn job).get, fun _ _ _ => rfl⟩

end Host

/-- What a consumer takes from a full queue while a chunk is being queued. -/
structure Interference where
  /-- Chunks taken after the first attempt and before the push. -/
  before : Nat := 0
  /-- Chunks taken while the push waits. -/
  during : Nat := 0
  deriving DecidableEq, Repr

/-- Queues a chunk as the receive loop does: at once if there is room, and otherwise by a push. -/
def enqueue (q : JitterQueue) (host : Host) (chunk : Bytes) (consumer : Interference) :
    Fate × JitterQueue :=
  match q.offer chunk with
  | .ok q => (.queued, q)
  | .error chunk =>
    host.wait fun _ => (q.pullMany consumer.before).2.push chunk consumer.during

/-! ### Prefilling -/

/-- What a prefill did. -/
structure Prefill where
  /-- The chunks of silence that were queued. -/
  chunks : List Bytes
  /-- Their bytes. -/
  queued : Nat
  /-- Attempts to queue a chunk. -/
  attempts : Nat
  /-- Whether the queue was full before the target was reached. -/
  stoppedShort : Bool
  deriving DecidableEq, Repr

/-- Queues silence into `room` free places until `target` bytes are reached; `queued` is what was
reached before. -/
def fillRoom (target chunkBytes : Nat) : (room : Nat) → (queued : Nat) → Prefill
  | room, queued =>
    if queued < target then
      match room with
      | 0 => ⟨[], queued, 1, true⟩
      | room + 1 =>
        let length := min chunkBytes (target - queued)
        let later := fillRoom target chunkBytes room (queued + length)
        { later with
          chunks := silence length :: later.chunks
          attempts := later.attempts + 1 }
    else ⟨[], queued, 0, false⟩

/-- Queues `target` bytes of silence in chunks of `chunkBytes`, the last one shorter if need be. A
full queue ends it early. Without a chunk size there is nothing to queue. -/
def prefill (q : JitterQueue) (target chunkBytes : Nat) : Prefill × JitterQueue :=
  if chunkBytes = 0 then (⟨[], 0, 0, false⟩, q)
  else
    let done := fillRoom target chunkBytes (q.capacity - q.depth) 0
    (done, { q with chunks := q.chunks ++ done.chunks })

/-- What is logged about a prefill, unless it had no chunk size. -/
def Prefill.log (p : Prefill) (target chunkBytes : Nat) : List Log.Entry :=
  if chunkBytes = 0 then []
  else
    let warning : List Log.Entry := if p.stoppedShort then
        [⟨.warn, .jitterQueue, s!"Jitter queue full after {p.queued} of {target} prefill bytes"⟩]
      else []
    warning ++ [⟨.debug, .jitterQueue, s!"Prefilled {p.queued} bytes of silence"⟩]

end JitterQueue

end ToneLink
