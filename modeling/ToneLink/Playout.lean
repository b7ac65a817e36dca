import ToneLink.JitterQueue
import ToneLink.Report

/-!
# Playing out the queue

The sound device asks for any number of bytes at a time, and chunks never line up with what it asks
for. A `Playout` keeps the bytes that are left over. Each request is answered in full: what the
queue cannot deliver is padded with silence, and the request counts as one underflow.

- `Playout.gather`: collects chunks until enough bytes are pending;
- `Playout.fill`: answers one request;
- `Sink.fillInto`, `Sink.fill`: the same, for a sink, into a buffer or as a new one;
- `Sink.renderInto`, `Sink.render`: the same in samples, as the sound device asks for them.
-/

namespace ToneLink

/-- Bytes taken from the queue that no request has been answered with yet. -/
structure Playout where
  pending : Bytes := []
  deriving DecidableEq, Repr

/-- An answered request and what it left behind. -/
structure Fill where
  bytes : Bytes
  playout : Playout
  queue : JitterQueue
  counters : RenderCounters
  deriving DecidableEq, Repr

namespace Playout

/-- Bytes carried over, chunks still queued, and whether the chunks ran out too early. -/
structure Gathered where
  pending : Bytes
  chunks : List Bytes
  ranDry : Bool
  deriving DecidableEq, Repr

/-- Appends chunks to the pending bytes until `needed` of them are there; if the chunks run out
first, silence makes up for the rest. -/
def gather (needed : Nat) (pending : Bytes) : List Bytes → Gathered
  | [] =>
    if pending.length < needed then
      ⟨pending ++ silence (needed - pending.length), [], true⟩
    else ⟨pending, [], false⟩
  | chunk :: rest =>
    if pending.length < needed then gather needed (pending ++ chunk) rest
    else ⟨pending, chunk :: rest, false⟩

/-- Answers a request for `needed` bytes. The depth that is counted is that before any chunk is
taken. -/
def fill (p : Playout) (queue : JitterQueue) (counters : RenderCounters) (needed : Nat) : Fill :=
  let g := gather needed p.pending queue.chunks
  { bytes := g.pending.take needed
    playout := ⟨g.pending.drop needed⟩
    queue := { queue with chunks := g.chunks }
    counters := counters.record queue.depth g.ranDry }

end Playout

/-! ### A queue with its consumer -/

/-- A queue, the playout that consumes it and the counters that watch them. -/
structure Sink where
  queue : JitterQueue
  playout : Playout := {}
  counters : RenderCounters := {}
  deriving DecidableEq, Repr

namespace Sink

/-- Fills a buffer of the caller completely, whatever it held before. -/
def fillInto (s : Sink) (out : Bytes) : Bytes × Sink :=
  let f := s.playout.fill s.queue s.counters out.length
  (overwrite out f.bytes, ⟨f.queue, f.playout, f.counters⟩)

/-- Answers a request for `needed` bytes. -/
def fill (s : Sink) (needed : Nat) : Bytes × Sink := s.fillInto (silence needed)

/-- What a render callback leaves behind. -/
structure Rendered where
  /-- The device's buffer, as it is played. -/
  samples : List Int16
  /-- The bytes that the samples were read from; the next callback uses the buffer again. -/
  scratch : Bytes
  sink : Sink
  deriving DecidableEq, Repr

/-- The render callback. The device hands over a buffer of samples, all channels counted; the bytes
for it are collected in a scratch buffer that is kept from callback to callback. -/
def renderInto (s : Sink) (scratch : Bytes) (device : List Int16) : Rendered :=
  let (scratch, s) := s.fillInto (resized scratch (device.length * sampleWidth))
  ⟨overwrite device (samplesOfBytes scratch), scratch, s⟩

/-- Answers a request of the sound device for `count` samples. -/
def render (s : Sink) (count : Nat) : List Int16 × Sink :=
  let r := s.renderInto [] (List.replicate count 0)
  (r.samples, r.sink)

end Sink

end ToneLink
