import ToneLink.Proofs.CheckedPlans
import ToneLink.Proofs.DeviceChoice
import ToneLink.Proofs.SinkRun

/-!
# Playback through handles

A receiver and its sound device share a queue and counters without knowing of each other: the
receive loop holds a handle on the queue, the reporter one on the counters, and the feeder in the
render callback one on each. Here the handles are explicit, and so is what they lead to.

- `Audio.Handle`, `Audio.Store`: handles, and the values that are reached through them;
- `Audio.Wiring`, `Audio.wire`: who holds which handle once it is decided how audio is played;
- `Audio.Wiring.use`: what each holder does through its handle alone;
- `Audio.Wiring.Shares`: the invariant. All handles lead to the parts of one sink;
- `Audio.Session.Quiet`: the invariant of that sink. What was prefilled is heard first, and it is
  silent;
- `Audio.Playback.resolve_all_or_nothing`: the law of the decision.
-/

namespace ToneLink

/-! ## Silence at the front -/

/-- Samples read from silence are zeros. -/
theorem samplesOfBytes_silence_append (count : Nat) (rest : Bytes) :
    samplesOfBytes (silence (count * sampleWidth) ++ rest)
      = List.replicate count 0 ++ samplesOfBytes rest := by
  induction count with
  | zero => simp [silence]
  | succ count ih =>
    have hsplit : silence ((count + 1) * sampleWidth) ++ rest
        = 0 :: 0 :: (silence (count * sampleWidth) ++ rest) := by
      rw [Nat.succ_mul, ← Nat.add_comm sampleWidth, ← silence_append]
      rfl
    rw [hsplit, samplesOfBytes, ih, List.replicate_succ, List.cons_append]
    rfl

/-- To bring bytes to a length that begin with silence. -/
theorem resized_silence_append (count length : Nat) (rest : Bytes) :
    resized (silence count ++ rest) length
      = silence (min count length) ++ resized rest (length - count) := by
  have hmissing : length - (count + rest.length) = length - count - rest.length := by omega
  rw [resized, resized, List.take_append, List.length_append, length_silence, hmissing,
    List.append_assoc]
  congr 1
  rw [silence, List.take_replicate, Nat.min_comm, silence]

namespace Sink

variable {s : Sink} {count : Nat}

/-- A callback fills the buffer of the device. -/
theorem length_renderInto_samples (s : Sink) (scratch : Bytes) (device : List Int16) :
    (s.renderInto scratch device).samples.length = device.length := by
  rw [renderInto_eq]
  show (samplesOfBytes (s.fill (device.length * sampleWidth)).1).length = device.length
  rw [fill, fillInto_bytes, length_samplesOfBytes, length_resized, length_silence, sampleWidth]
  omega

/-- A callback of a sink that begins with silent samples hears these first. -/
theorem take_renderInto_samples (h : silence (count * sampleWidth) <+: s.held) (scratch : Bytes)
    (device : List Int16) :
    (s.renderInto scratch device).samples.take count
      = List.replicate (min count device.length) 0 := by
  obtain ⟨rest, hheld⟩ := h
  have hsamples : (s.renderInto scratch device).samples = List.replicate (min count device.length) 0
      ++ samplesOfBytes (resized rest (device.length * sampleWidth - count * sampleWidth)) := by
    rw [renderInto_eq]
    show samplesOfBytes (s.fill (device.length * sampleWidth)).1 = _
    rw [fill, fillInto_bytes, length_silence, ← hheld, resized_silence_append,
      Nat.mul_min_mul_right, samplesOfBytes_silence_append]
  rcases Nat.le_total count device.length with hlong | hshort
  · rw [hsamples, Nat.min_eq_left hlong]
    exact List.take_left' List.length_replicate
  · -- nothing but silence was heard
    have hlength := s.length_renderInto_samples scratch device
    have hnone : samplesOfBytes
        (resized rest (device.length * sampleWidth - count * sampleWidth)) = [] := by
      rw [hsamples, List.length_append, List.length_replicate, Nat.min_eq_right hshort] at hlength
      exact List.eq_nil_of_length_eq_zero (Nat.left_eq_add.mp hlength.symm)
    rw [List.take_of_length_le (hlength.trans_le hshort), hsamples, hnone, List.append_nil]

/-- The silence that a callback has not used is still at the front. -/
theorem silence_prefix_held_renderInto (h : silence (count * sampleWidth) <+: s.held)
    (scratch : Bytes) (device : List Int16) :
    silence ((count - device.length) * sampleWidth)
      <+: (s.renderInto scratch device).sink.held := by
  obtain ⟨rest, hheld⟩ := h
  rw [renderInto_eq]
  show _ <+: (s.fill (device.length * sampleWidth)).2.held
  rw [fill, held_fillInto, length_silence, ← hheld, List.drop_append, silence, silence,
    List.drop_replicate, ← Nat.sub_mul]
  exact List.prefix_append _ _

/-- A callback that asks for no more than the silence at the front finds enough. -/
theorem runsDry_of_silence (h : silence (count * sampleWidth) <+: s.held) {asked : Nat}
    (hle : asked ≤ count) : s.runsDry (asked * sampleWidth) = false := by
  have hlength := h.length_le
  rw [length_silence] at hlength
  have hbytes : asked * sampleWidth ≤ count * sampleWidth := Nat.mul_le_mul_right _ hle
  rw [← Bool.not_eq_true, runsDry_iff]
  omega

end Sink

namespace JitterQueue

/-- A queue that was offered a chunk, whether there was room for it or not. -/
def offered (q : JitterQueue) (chunk : Bytes) : JitterQueue :=
  match q.offer chunk with
  | .ok later => later
  | .error _ => q

theorem chunks_prefix_offered (q : JitterQueue) (chunk : Bytes) :
    q.chunks <+: (q.offered chunk).chunks := by
  unfold offered
  rw [offer_eq]
  by_cases hroom : q.hasRoom
  · rw [if_pos hroom]
    exact List.prefix_append _ _
  · rw [if_neg hroom]

theorem chunks_prefix_prefill (q : JitterQueue) (target chunkBytes : Nat) :
    q.chunks <+: (q.prefill target chunkBytes).2.chunks := by
  rw [prefill_snd]
  exact List.prefix_append _ _

end JitterQueue

namespace Audio

/-! ## Handles -/

/-- A place in a store. Whoever holds the handle reaches what is there. -/
structure Handle (α : Type) where
  place : Nat
  deriving DecidableEq, Repr

/-- Values that are reached through handles. -/
structure Store (α : Type) where
  values : List α := []
  deriving DecidableEq, Repr

namespace Store

variable {α : Type}

/-- Keeps a new value, under a handle of its own. -/
def new (s : Store α) (value : α) : Handle α × Store α :=
  (⟨s.values.length⟩, ⟨s.values ++ [value]⟩)

/-- What a handle leads to. -/
def read? (s : Store α) (h : Handle α) : Option α := s.values[h.place]?

/-- Changes what a handle leads to. -/
def update (s : Store α) (h : Handle α) (change : α → α) : Store α :=
  ⟨s.values.modify h.place change⟩

/-- A new handle leads to the new value. -/
@[simp] theorem read?_new (s : Store α) (value : α) :
    (s.new value).2.read? (s.new value).1 = some value := by
  simp [new, read?]

/-- Whoever holds the handle sees the change. -/
theorem read?_update {s : Store α} {h : Handle α} {value : α} (hread : s.read? h = some value)
    (change : α → α) : (s.update h change).read? h = some (change value) := by
  rw [read?] at hread
  simp [update, read?, hread]

end Store

/-- All queues and counters there are. -/
structure Memory where
  queues : Store JitterQueue := {}
  counters : Store RenderCounters := {}
  deriving DecidableEq, Repr

/-! ## Who holds what -/

/-- What the receiver holds of its playback. -/
inductive Mode
  | playing (stream : Stream) (buffer : Handle JitterQueue) (counters : Handle RenderCounters)
  | statsOnly
  deriving DecidableEq

namespace Mode

/-- The queue that the receive loop shall feed, if any. -/
def buffer : Mode → Option (Handle JitterQueue)
  | .playing _ buffer _ => some buffer
  | .statsOnly => none

/-- The counters that the reporter shall read, if any. -/
def counters : Mode → Option (Handle RenderCounters)
  | .playing _ _ counters => some counters
  | .statsOnly => none

end Mode

/-- What the render callback holds. -/
structure Feeder where
  buffer : Handle JitterQueue
  counters : Handle RenderCounters
  playout : Playout := {}
  scratch : Bytes := []
  deriving DecidableEq, Repr

/-- The queue and the counters that a feeder reaches by its handles, and what it holds itself. -/
def Feeder.sink? (f : Feeder) (memory : Memory) : Option Sink :=
  match memory.queues.read? f.buffer, memory.counters.read? f.counters with
  | some queue, some counters => some ⟨queue, f.playout, counters⟩
  | _, _ => none

/-- A render callback as the device sees it. -/
structure Callback where
  /-- Samples that the device asked for. -/
  asked : Nat
  samples : List Int16
  /-- Whether the samples had to be padded. -/
  ranDry : Bool
  deriving DecidableEq, Repr

namespace Callback

/-- Samples that callbacks asked for. -/
def total (callbacks : List Callback) : Nat := (callbacks.map asked).sum

/-- What the device has heard. -/
def heard (callbacks : List Callback) : List Int16 := callbacks.flatMap samples

@[simp] theorem total_concat (callbacks : List Callback) (c : Callback) :
    total (callbacks ++ [c]) = total callbacks + c.asked := by
  simp [total]

@[simp] theorem heard_concat (callbacks : List Callback) (c : Callback) :
    heard (callbacks ++ [c]) = heard callbacks ++ c.samples := by
  simp [heard]

/-- What a callback of a sink brings the device. -/
def of (s : Sink) (device : List Int16) (rendered : Sink.Rendered) : Callback where
  asked := device.length
  samples := rendered.samples
  ranDry := s.runsDry (device.length * sampleWidth)

end Callback

/-- A receiver, its sound device and what they share. -/
structure Wiring where
  mode : Mode
  /-- The feeder of the running stream. -/
  feeder : Option Feeder := none
  memory : Memory
  /-- The callbacks of the stream, oldest first. -/
  callbacks : List Callback := []
  deriving DecidableEq

/-- Decides how audio is played. The queue is made and prefilled before the device is asked for, and
the feeder is handed to the stream; if no stream starts, it is gone with it. A device that is late
still has it when the receiver gives up. -/
def wire (memory : Memory) (plan : ListenPlan) (noAudio : Bool) (query : Option Query)
    (system : System) : Wiring :=
  if noAudio then { mode := .statsOnly, memory }
  else
    let (buffer, queues) := memory.queues.new .standard
    let queues := queues.update buffer fun queue =>
      (queue.prefill plan.prefillBytes plan.silenceChunkBytes).2
    let (counters, allCounters) := memory.counters.new {}
    let memory : Memory := ⟨queues, allCounters⟩
    match (Playback.startStream plan query system).1 with
    | .error .notInTime => { mode := .statsOnly, feeder := some { buffer, counters }, memory }
    | .error _ => { mode := .statsOnly, memory }
    | .ok stream =>
      { mode := .playing stream buffer counters, feeder := some { buffer, counters }, memory }

/-! ## What the holders do -/

/-- What can be done with playback. A push that finds the queue full waits, and comes to an offer at
the end of its wait. -/
inductive Use
  /-- The receive loop offers a chunk; it comes back if the queue is full. -/
  | offer (chunk : Bytes)
  /-- Silence is queued once more. -/
  | prefill (target chunkBytes : Nat)
  /-- The reporter takes the counters, which start again from nothing. -/
  | take
  /-- The device asks for samples. Its buffer may hold anything. -/
  | render (device : List Int16)
  deriving DecidableEq, Repr

namespace Wiring

/-- Whoever has a handle on the queue changes it. -/
def onBuffer (w : Wiring) (change : JitterQueue → JitterQueue) : Wiring :=
  match w.mode.buffer with
  | none => w
  | some buffer => { w with memory.queues := w.memory.queues.update buffer change }

/-- Whoever has a handle on the counters changes them. -/
def onCounters (w : Wiring) (change : RenderCounters → RenderCounters) : Wiring :=
  match w.mode.counters with
  | none => w
  | some counters => { w with memory.counters := w.memory.counters.update counters change }

/-- The device calls the feeder, which knows nothing but its own handles. -/
def render (w : Wiring) (device : List Int16) : Wiring :=
  match w.feeder with
  | none => w
  | some feeder =>
    match feeder.sink? w.memory with
    | none => w
    | some sink =>
      let r := sink.renderInto feeder.scratch device
      { w with
        feeder := some { feeder with playout := r.sink.playout, scratch := r.scratch }
        memory := ⟨w.memory.queues.update feeder.buffer fun _ => r.sink.queue,
          w.memory.counters.update feeder.counters fun _ => r.sink.counters⟩
        callbacks := w.callbacks ++ [.of sink device r] }

/-- One use. -/
def use (w : Wiring) : Use → Wiring
  | .offer chunk => w.onBuffer (·.offered chunk)
  | .prefill target chunkBytes => w.onBuffer fun queue => (queue.prefill target chunkBytes).2
  | .take => w.onCounters fun counters => counters.take.2
  | .render device => w.render device

/-- Uses, one after another. -/
def run (w : Wiring) (uses : List Use) : Wiring := uses.foldl use w

end Wiring

/-- One sink, and what a device has heard of it. -/
structure Session where
  sink : Sink
  callbacks : List Callback := []
  deriving DecidableEq, Repr

namespace Session

/-- The same use of a single sink. -/
def use (s : Session) : Use → Session
  | .offer chunk => { s with sink.queue := s.sink.queue.offered chunk }
  | .prefill target chunkBytes =>
    { s with sink.queue := (s.sink.queue.prefill target chunkBytes).2 }
  | .take => { s with sink.counters := s.sink.counters.take.2 }
  | .render device =>
    let r := s.sink.renderInto [] device
    ⟨r.sink, s.callbacks ++ [.of s.sink device r]⟩

def run (s : Session) (uses : List Use) : Session := uses.foldl use s

end Session

/-! ## One sink -/

namespace Wiring

/-- The receiver's handles are those of the feeder in the render callback, and what they lead to are
the parts of one sink. -/
structure Shares (w : Wiring) (stream : Stream) (buffer : Handle JitterQueue)
    (counters : Handle RenderCounters) (s : Session) : Prop where
  mode_eq : w.mode = .playing stream buffer counters
  feeder_eq : ∃ scratch, w.feeder = some ⟨buffer, counters, s.sink.playout, scratch⟩
  queue_eq : w.memory.queues.read? buffer = some s.sink.queue
  counters_eq : w.memory.counters.read? counters = some s.sink.counters
  callbacks_eq : w.callbacks = s.callbacks

namespace Shares

variable {w : Wiring} {stream : Stream} {buffer : Handle JitterQueue}
  {counters : Handle RenderCounters} {s : Session}

theorem onBuffer (h : w.Shares stream buffer counters s) (change : JitterQueue → JitterQueue) :
    (w.onBuffer change).Shares stream buffer counters
      { s with sink.queue := change s.sink.queue } := by
  have hbuffer : w.mode.buffer = some buffer := congrArg Mode.buffer h.mode_eq
  simp only [Wiring.onBuffer, hbuffer]
  exact { h with queue_eq := Store.read?_update h.queue_eq change }

theorem onCounters (h : w.Shares stream buffer counters s)
    (change : RenderCounters → RenderCounters) :
    (w.onCounters change).Shares stream buffer counters
      { s with sink.counters := change s.sink.counters } := by
  have hcounters : w.mode.counters = some counters := congrArg Mode.counters h.mode_eq
  simp only [Wiring.onCounters, hcounters]
  exact { h with counters_eq := Store.read?_update h.counters_eq change }

theorem render (h : w.Shares stream buffer counters s) (device : List Int16) :
    (w.render device).Shares stream buffer counters (s.use (.render device)) := by
  obtain ⟨scratch, hfeeder⟩ := h.feeder_eq
  have hsink : (Feeder.mk buffer counters s.sink.playout scratch).sink? w.memory = some s.sink := by
    simp only [Feeder.sink?, h.queue_eq, h.counters_eq]
  -- the callback is the same with any scratch buffer, and leaves the one it filled
  have hrender : s.sink.renderInto scratch device = s.sink.renderInto [] device := by
    rw [Sink.renderInto_eq, Sink.renderInto_eq]
  simp only [Wiring.render, hfeeder, hsink, hrender]
  refine { mode_eq := h.mode_eq, feeder_eq := ⟨_, rfl⟩, queue_eq := ?_, counters_eq := ?_,
           callbacks_eq := ?_ }
  · exact Store.read?_update h.queue_eq _
  · exact Store.read?_update h.counters_eq _
  · rw [h.callbacks_eq]
    rfl

/-- What is done through one handle, all the others see: each use is one of the single sink. -/
theorem use (h : w.Shares stream buffer counters s) (u : Use) :
    (w.use u).Shares stream buffer counters (s.use u) := by
  cases u with
  | offer chunk => exact h.onBuffer _
  | prefill target chunkBytes => exact h.onBuffer _
  | take => exact h.onCounters _
  | render device => exact h.render device

theorem run (h : w.Shares stream buffer counters s) (uses : List Use) :
    (w.run uses).Shares stream buffer counters (s.run uses) := by
  induction uses generalizing w s with
  | nil => exact h
  | cons u rest ih => exact ih (h.use u)

end Shares

/-- Without playback there is nothing to use. -/
theorem run_of_statsOnly {w : Wiring} (hmode : w.mode = .statsOnly) (hfeeder : w.feeder = none)
    (uses : List Use) : w.run uses = w := by
  induction uses with
  | nil => rfl
  | cons u rest ih =>
    have hidle : w.use u = w := by
      cases u <;>
        simp [use, onBuffer, onCounters, render, hmode, hfeeder, Mode.buffer, Mode.counters]
    show (w.use u).run rest = w
    rw [hidle, ih]

end Wiring

/-! ## The silence of a start -/

namespace Session

/-- The first `count` samples of a session are silent: those that have been heard were, those that
have not are still at the front of the sink, and no callback that needed nothing else was padded or
counted as an underflow. -/
structure Quiet (count : Nat) (s : Session) : Prop where
  waiting : silence ((count - Callback.total s.callbacks) * sampleWidth) <+: s.sink.held
  length_heard : (Callback.heard s.callbacks).length = Callback.total s.callbacks
  silent : ∀ x ∈ (Callback.heard s.callbacks).take count, x = 0
  served : EachAfter (fun before c => Callback.total before + c.asked ≤ count →
    c.ranDry = false ∧ c.samples = List.replicate c.asked 0) s.callbacks
  uncounted : Callback.total s.callbacks ≤ count → s.sink.counters.underflows = 0

namespace Quiet

variable {count : Nat} {s : Session}

/-- A producer only appends. -/
theorem supply (h : s.Quiet count) {queue : JitterQueue}
    (hqueue : s.sink.queue.chunks <+: queue.chunks) :
    ({ s with sink.queue := queue } : Session).Quiet count := by
  obtain ⟨later, hlater⟩ := hqueue
  have hheld : ({ s.sink with queue } : Sink).held = s.sink.held ++ later.flatten := by
    rw [Sink.held, Sink.held, ← hlater, List.flatten_append, List.append_assoc]
  refine { h with waiting := ?_ }
  rw [hheld]
  exact h.waiting.trans (List.prefix_append _ _)

theorem render (h : s.Quiet count) (device : List Int16) :
    (s.use (.render device)).Quiet count := by
  have hlength := s.sink.length_renderInto_samples [] device
  have htake := Sink.take_renderInto_samples h.waiting [] device
  have hdry : Callback.total s.callbacks + device.length ≤ count →
      s.sink.runsDry (device.length * sampleWidth) = false :=
    fun hle => Sink.runsDry_of_silence h.waiting (by omega)
  refine { waiting := ?_, length_heard := ?_, silent := ?_, served := ?_, uncounted := ?_ }
  · have hrest := Sink.silence_prefix_held_renderInto h.waiting [] device
    rw [Nat.sub_sub] at hrest
    show silence ((count - Callback.total (s.callbacks ++ [_])) * sampleWidth) <+: _
    rw [Callback.total_concat]
    exact hrest
  · show (Callback.heard (s.callbacks ++ [_])).length = Callback.total (s.callbacks ++ [_])
    rw [Callback.heard_concat, Callback.total_concat, List.length_append, h.length_heard]
    exact congrArg _ hlength
  · show ∀ x ∈ (Callback.heard (s.callbacks ++ [_])).take count, x = 0
    intro x hx
    rw [Callback.heard_concat, List.take_append, h.length_heard] at hx
    rcases List.mem_append.mp hx with hold | hnew
    · exact h.silent x hold
    · exact List.eq_of_mem_replicate (htake ▸ hnew)
  · refine h.served.concat fun hle => ⟨hdry hle, ?_⟩
    have hwhole : device.length ≤ count - Callback.total s.callbacks := Nat.le_sub_of_add_le' hle
    rw [List.take_of_length_le (hlength.trans_le hwhole), Nat.min_eq_right hwhole] at htake
    exact htake
  · show Callback.total (s.callbacks ++ [_]) ≤ count → _
    rw [Callback.total_concat]
    intro hle
    show (s.sink.renderInto [] device).sink.counters.underflows = 0
    rw [Sink.renderInto_eq]
    show (s.sink.fill (device.length * sampleWidth)).2.counters.underflows = 0
    rw [Sink.fill, Sink.fillInto_counters, length_silence, hdry hle,
      RenderCounters.underflows_record]
    exact h.uncounted (Nat.le_of_add_right_le hle)

theorem use (h : s.Quiet count) (u : Use) : (s.use u).Quiet count := by
  cases u with
  | offer chunk => exact h.supply (s.sink.queue.chunks_prefix_offered chunk)
  | prefill target chunkBytes =>
    exact h.supply (s.sink.queue.chunks_prefix_prefill target chunkBytes)
  | take => exact { h with uncounted := fun _ => rfl }
  | render device => exact h.render device

theorem run (h : s.Quiet count) (uses : List Use) : (s.run uses).Quiet count := by
  induction uses generalizing s with
  | nil => exact h
  | cons u rest ih => exact ih (h.use u)

end Quiet

/-- Before the first callback, all the silence of a plan is waiting, and that is whole samples. -/
theorem quiet_of_checked {plan : ListenPlan} (h : plan.Checked) :
    ({ sink := { queue := (Playback.prefilled plan).2 } } : Session).Quiet
      (plan.prefillBytes / sampleWidth) where
  waiting := by
    have hheld : Sink.held { queue := (Playback.prefilled plan).2 }
        = silence plan.prefillBytes := by
      rw [plan.prefillBytes_eq, ← bytesOfSamples_replicate_zero, ← h.prefilled_flatten]
      rfl
    have hwhole : plan.prefillBytes / sampleWidth * sampleWidth = plan.prefillBytes :=
      Nat.div_mul_cancel (plan.prefillBytes_eq ▸ Nat.dvd_mul_left _ _)
    show silence (plan.prefillBytes / sampleWidth * sampleWidth) <+: _
    rw [hwhole, hheld]
  length_heard := rfl
  silent := fun x hx => absurd hx (by simp [Callback.heard])
  served := EachAfter.nil _
  uncounted := fun _ => rfl

end Session

/-! ## The decision -/

namespace Playback

/-- What is decided, in one line: the stream has to start. -/
theorem resolve_eq_playing_iff (plan : ListenPlan) (noAudio : Bool) (query : Option Query)
    (system : System) (stream : Stream) (sink : Sink) :
    (resolve plan noAudio query system).1 = .playing stream sink ↔
      noAudio = false ∧ (startStream plan query system).1 = .ok stream ∧
        sink = { queue := (prefilled plan).2 } := by
  cases noAudio with
  | true => simp [resolve]
  | false =>
    unfold resolve
    rcases hstart : startStream plan query system with ⟨_ | started, log⟩
    · simp
    · simp [eq_comm]

/-- Once a stream runs, all handles are on the prefilled queue and on counters that start from
nothing. -/
theorem wire_shares {plan : ListenPlan} {noAudio : Bool} {query : Option Query} {system : System}
    {stream : Stream} {sink : Sink}
    (h : (resolve plan noAudio query system).1 = .playing stream sink) (memory : Memory) :
    ∃ buffer counters,
      (wire memory plan noAudio query system).Shares stream buffer counters { sink } := by
  obtain ⟨rfl, hstart, rfl⟩ := (resolve_eq_playing_iff ..).mp h
  refine ⟨(memory.queues.new .standard).1, (memory.counters.new {}).1, ?_⟩
  simp only [wire, hstart]
  exact { mode_eq := rfl, feeder_eq := ⟨[], rfl⟩,
          queue_eq := Store.read?_update (Store.read?_new _ _) _,
          counters_eq := Store.read?_new _ _, callbacks_eq := rfl }

/-- Without a stream the receiver holds no handle, although a queue has been made and prefilled, and
nobody else does if the device was not late. -/
theorem wire_of_statsOnly {plan : ListenPlan} {noAudio : Bool} {query : Option Query}
    {system : System} (h : (resolve plan noAudio query system).1 = .statsOnly) (memory : Memory) :
    (wire memory plan noAudio query system).mode = .statsOnly ∧
      ((∀ d, system.Selects query d → d.late = false) →
        (wire memory plan noAudio query system).feeder = none) := by
  cases noAudio with
  | true => exact ⟨rfl, fun _ => rfl⟩
  | false =>
    cases hstart : (startStream plan query system).1 with
    | ok stream =>
      rw [(resolve_eq_playing_iff ..).mpr ⟨rfl, hstart, rfl⟩] at h
      cases h
    | error e =>
      by_cases hlate : e = .notInTime
      · subst hlate
        refine ⟨by simp [wire, hstart], fun hnone => ?_⟩
        obtain ⟨d, hselects, hlate⟩ := late_of_notInTime hstart
        exact absurd hlate (by simp [hnone d hselects])
      · cases e <;> simp_all [wire]

/-- **Playback is all or nothing.** For every checked plan, audio is played exactly if it is wanted,
there is a thread for it, and the device that the query stands for exists, can be opened and can be
started, all in time. Names are compared in lowercase; for names without a capital sigma and a
capital I with a dot that is to say that some stretch of the name is the text up to case.

If audio is played, it is played on that device and with the format of the plan. The receiver's
handles on the queue and on the counters are those of the feeder in the render callback, and stay so
whatever is done through any of them: all act on one sink, which starts with the prefilled queue.
Until as many bytes have been rendered as were prefilled, the device hears zeros, and no callback is
padded or counted as an underflow, whatever the sizes of the callbacks.

In every other case the receiver has neither a queue nor counters. Nobody else has, either, and
nothing is ever played, unless the device was late: it still has its feeder when the receiver goes
on without it. -/
theorem resolve_all_or_nothing {port : UInt16} {sampleRate channels : Int} {jitterMillis : Float}
    {plan : ListenPlan} (hplan : ListenPlan.check port sampleRate channels jitterMillis = .ok plan)
    (noAudio : Bool) (query : Option Query) (system : System) (memory : Memory) :
    let playback := (resolve plan noAudio query system).1
    let wiring := wire memory plan noAudio query system
    let possible := noAudio = false ∧ system.threadError = none ∧
      ∃ d, system.Selects query d ∧ d.openError = none ∧ d.startError = none ∧ d.late = false
    ((∃ stream sink, playback = .playing stream sink) ↔ possible) ∧
    (∀ name part : String, Text.Plain name.toList → (Contains name part ↔
      ∃ stretch, stretch <:+: name.toList ∧
        Text.lowercase (.ofList stretch) = Text.lowercase part)) ∧
    (∀ stream sink, playback = .playing stream sink →
      (∃ d, system.Selects query d ∧ stream = ⟨d.displayName, plan.format⟩) ∧
      sink = { queue := (prefilled plan).2 } ∧
      ∃ buffer counters, ∀ uses : List Use,
        let later := wiring.run uses
        later.Shares stream buffer counters (({ sink } : Session).run uses) ∧
        (Callback.heard later.callbacks).length = Callback.total later.callbacks ∧
        (∀ x ∈ (Callback.heard later.callbacks).take (plan.prefillBytes / sampleWidth), x = 0) ∧
        EachAfter (fun before c =>
          (Callback.total before + c.asked) * sampleWidth ≤ plan.prefillBytes →
            c.ranDry = false ∧ c.samples = List.replicate c.asked 0) later.callbacks ∧
        (Callback.total later.callbacks * sampleWidth ≤ plan.prefillBytes →
          ∃ seen, later.memory.counters.read? counters = some seen ∧ seen.underflows = 0)) ∧
    (¬ possible → playback = .statsOnly ∧ wiring.mode.buffer = none ∧ wiring.mode.counters = none ∧
      ((∀ d, system.Selects query d → d.late = false) →
        wiring.feeder = none ∧ ∀ uses, wiring.run uses = wiring)) := by
  intro playback wiring possible
  have hstart : ∀ stream sink, playback = .playing stream sink →
      system.threadError = none ∧ ∃ d, system.Selects query d ∧ d.openError = none ∧
        d.startError = none ∧ d.late = false ∧ stream = ⟨d.displayName, plan.format⟩ :=
    fun stream sink h =>
    (startStream_eq_ok_iff ..).mp ((resolve_eq_playing_iff ..).mp h).2.1
  have hpossible : (∃ stream sink, playback = .playing stream sink) ↔ possible := by
    constructor
    · rintro ⟨stream, sink, h⟩
      obtain ⟨hthread, d, hselects, hopen, hplay, hlate, -⟩ := hstart stream sink h
      exact ⟨((resolve_eq_playing_iff ..).mp h).1, hthread, d, hselects, hopen, hplay, hlate⟩
    · rintro ⟨haudio, hthread, d, hselects, hopen, hplay, hlate⟩
      have hstream := (startStream_eq_ok_iff plan query system _).mpr
        ⟨hthread, d, hselects, hopen, hplay, hlate, rfl⟩
      exact ⟨_, _, (resolve_eq_playing_iff ..).mpr ⟨haudio, hstream, rfl⟩⟩
  refine ⟨hpossible, fun name part hplain => contains_iff_of_plain hplain part, ?_, ?_⟩
  · intro stream sink h
    obtain ⟨-, d, hselects, -, -, -, hstream⟩ := hstart stream sink h
    obtain ⟨-, -, hsink⟩ := (resolve_eq_playing_iff ..).mp h
    obtain ⟨buffer, counters, hshares⟩ := wire_shares h memory
    refine ⟨⟨d, hselects, hstream⟩, hsink, buffer, counters, fun uses => ?_⟩
    have hquiet : (({ sink } : Session).run uses).Quiet (plan.prefillBytes / sampleWidth) := by
      rw [hsink]
      exact (Session.quiet_of_checked (ListenPlan.checked_of_ok hplan)).run uses
    have hle : ∀ total : Nat, total * sampleWidth ≤ plan.prefillBytes ↔
        total ≤ plan.prefillBytes / sampleWidth :=
      fun total => (Nat.le_div_iff_mul_le (by decide)).symm
    have hlater := hshares.run uses
    intro later
    simp only [hle]
    rw [hlater.callbacks_eq]
    exact ⟨hlater, hquiet.length_heard, hquiet.silent, hquiet.served,
      fun htotal => ⟨_, hlater.counters_eq, hquiet.uncounted htotal⟩⟩
  · intro himpossible
    have hstats : playback = .statsOnly := by
      cases hplayback : playback with
      | playing stream sink => exact absurd (hpossible.mp ⟨stream, sink, hplayback⟩) himpossible
      | statsOnly => rfl
    obtain ⟨hmode, hfeeder⟩ := wire_of_statsOnly hstats memory
    exact ⟨hstats, congrArg Mode.buffer hmode, congrArg Mode.counters hmode, fun hlate =>
      ⟨hfeeder hlate, Wiring.run_of_statsOnly hmode (hfeeder hlate)⟩⟩

/-- Among devices one of which does not tell its name, the first whose name contains the text is
played on. Two callbacks use up the 160 silent samples of the plan; in between the counters are
taken, which are those that the callbacks count in, and a chunk of three bytes is queued. -/
theorem resolve_all_or_nothing_by_name :
    let device : Device := { name := some "USB Audio CODEC" }
    let system : System := { default := none, devices :=
      [{ name := none }, { name := some "HDA Intel PCH" }, device, { name := some "usb headset" }] }
    let uses : List Use :=
      [.render (List.replicate 100 7), .offer [1, 2, 3], .take, .render (List.replicate 60 9)]
    ∃ plan, ListenPlan.check 0 8000 1 20 = .ok plan ∧ plan.prefillBytes = 320 ∧
      ∃ stream sink, (resolve plan false (some (.named "usb")) system).1 = .playing stream sink ∧
        stream.device = "USB Audio CODEC" ∧
        let later := (wire {} plan false (some (.named "usb")) system).run uses
        ∀ x ∈ (Callback.heard later.callbacks).take 160, x = 0 := by
  intro device system uses
  have hbytes : (ListenPlan.check 0 8000 1 20).toOption.map ListenPlan.prefillBytes = some 320 := by
    decide +kernel
  have hfound : system.devices.find? (·.answersTo "usb") = some device := by decide +kernel
  have hselects : system.Selects (some (.named "usb")) device := by
    have hlisted : system.listError = none := rfl
    refine (System.select_eq_ok_iff ..).mp ?_
    simp only [System.select, hlisted, hfound]
    rfl
  obtain ⟨plan, hplan, hprefill⟩ := exists_ok_of_toOption_map hbytes
  obtain ⟨hpossible, -, hplaying, -⟩ :=
    resolve_all_or_nothing hplan false (some (.named "usb")) system {}
  obtain ⟨stream, sink, h⟩ := hpossible.mpr ⟨rfl, rfl, device, hselects, rfl, rfl, rfl⟩
  obtain ⟨⟨d, hd, hstream⟩, -, buffer, counters, hlater⟩ := hplaying stream sink h
  obtain ⟨-, -, hsilent, -⟩ := hlater uses
  rw [hprefill] at hsilent
  refine ⟨plan, hplan, hprefill, stream, sink, h, ?_, hsilent⟩
  rw [hstream, hd.unique hselects]
  rfl

end Playback

end Audio

end ToneLink
