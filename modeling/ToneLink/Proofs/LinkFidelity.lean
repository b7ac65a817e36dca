import ToneLink.Link
import ToneLink.Proofs.CheckedPlans
import ToneLink.Proofs.HeaderCounts
import ToneLink.Proofs.SinkRun
import ToneLink.Proofs.StationAudio

/-!
# What a listener hears of a link

A sender repeats one tone, the network delivers its packets in any order, some of them never and
some of them twice, the queue drops what it has no room for, and the sound device asks for any
number of samples at a time. What is heard is nevertheless a plain stream: the silence that the
queue started with, and then one whole tone for every packet that was queued.

- `Link.Step`, `Link.History`: what can happen to a link, and a link together with what its listener
  was played;
- `Link.delivered`: how many packets steps deliver;
- `Link.stream`: the stream that is to be heard;
- `Link.History.deliver_link`: packets of a run are delivered as the link delivers them;
- `Link.History.Faithful`: the invariant. What was heard and what still waits make up the stream;
- `Link.History.steps_delivered`: every delivered packet was queued or dropped;
- `Link.heard_is_stream`: hence every callback continues the stream where the last one ended, and
  zeros are appended only once all of it has been heard.
-/

namespace ToneLink.Link

/-- What can happen to a link. -/
inductive Step
  /-- Packets are sent, one per time stamp. -/
  | send (timestamps : List UInt32)
  /-- The datagrams at some positions of those sent are delivered. -/
  | deliver (positions : List Nat)
  /-- The receiver makes a report. -/
  | report (now : Instant)
  /-- The sound device hands over a buffer to be filled. -/
  | render (device : List Int16)
  deriving DecidableEq, Repr

/-- The number of samples that a step asks for, if it is a callback. -/
def Step.asked? : Step → Option Nat
  | .render device => some device.length
  | _ => none

/-- A render callback as it was answered. -/
structure Callback where
  asked : Nat
  samples : List Int16
  /-- Samples that were handed out or kept without having been held before. -/
  padding : Nat
  ranDry : Bool
  /-- Packets queued for playback before. -/
  queued : Nat
  deriving DecidableEq, Repr

namespace Callback

/-- The samples without the padding. -/
def audio (c : Callback) : List Int16 := c.samples.take (c.asked - c.padding)

/-- What callbacks have played, padding left out. -/
def heard (callbacks : List Callback) : List Int16 := (callbacks.map audio).flatten

@[simp] theorem heard_nil : heard [] = [] := rfl

@[simp] theorem heard_concat (callbacks : List Callback) (c : Callback) :
    heard (callbacks ++ [c]) = heard callbacks ++ c.audio := by
  simp [heard]

/-- What is known of a callback before which some samples have been heard: it continues the stream,
and pads only at its end. -/
structure Exact (stream : Nat → List Int16) (before : List Int16) (c : Callback) : Prop where
  samples_eq : c.samples = c.audio ++ List.replicate c.padding 0
  length_eq : c.audio.length + c.padding = c.asked
  ranDry_iff : c.ranDry = true ↔ 0 < c.padding
  heard_prefix : before ++ c.audio <+: stream c.queued
  used_up : 0 < c.padding → before ++ c.audio = stream c.queued

end Callback

/-- How many packets steps deliver, with `sent` of them sent before: what is delivered at a position
is a packet if one has been sent there by then. -/
def delivered : (sent : Nat) → List Step → Nat
  | _, [] => 0
  | sent, .send timestamps :: rest => delivered (sent + timestamps.length) rest
  | sent, .deliver positions :: rest =>
    positions.countP (fun position => position < sent) + delivered sent rest
  | sent, .report _ :: rest => delivered sent rest
  | sent, .render _ :: rest => delivered sent rest

variable {lib : Wave.Library}

/-- A link, and what has happened to it. -/
structure History (lib : Wave.Library) where
  link : Link lib
  /-- The scratch buffer of the render callback. -/
  scratch : Bytes
  /-- Delivered packets that were not dropped. -/
  queued : Nat := 0
  /-- Delivered packets that were dropped. -/
  dropped : Nat := 0
  /-- The callbacks, oldest first. -/
  callbacks : List Callback := []

namespace History

variable (host : JitterQueue.Host)

/-- Delivers the whole datagram at one position. If one was sent, it counts as dropped or as queued,
by whether the station counts another drop. -/
def deliverOne (h : History lib) (position : Nat) : History lib :=
  let d := h.link.deliver host (h.link.sent.getD position []) none
  let wasSent := decide (position < h.link.sent.size)
  let wasDropped := d.link.station.drops != h.link.station.drops
  { h with
    link := d.link
    queued := h.queued + (wasSent && !wasDropped).toNat
    dropped := h.dropped + (wasSent && wasDropped).toNat }

/-- A callback that was answered with these samples and left this station. -/
def callback (h : History lib) (device samples : List Int16) (later : Station lib) : Callback where
  asked := device.length
  samples := samples
  padding := (samples.length * sampleWidth + (later.held?.getD []).length
    - (h.link.station.held?.getD []).length) / sampleWidth
  ranDry := h.link.station.sink?.any (·.runsDry (device.length * sampleWidth))
  queued := h.queued

/-- Answers a render callback, if anything is played. -/
def render (h : History lib) (device : List Int16) : History lib :=
  match h.link.station.renderInto h.scratch device with
  | (none, _) => h
  | (some (samples, scratch), later) =>
    { h with
      link := { h.link with station := later }
      scratch
      callbacks := h.callbacks ++ [h.callback device samples later] }

/-- One step of a run. -/
def step (h : History lib) : Step → History lib
  | .send timestamps => { h with link := (h.link.send timestamps).2 }
  | .deliver positions => positions.foldl (deliverOne host) h
  | .report now => { h with link := { h.link with station := (h.link.station.report now).2 } }
  | .render device => h.render device

/-- To deliver datagrams one after another is to deliver them all. -/
theorem deliver_link (h : History lib) (positions : List Nat) :
    (positions.foldl (deliverOne host) h).link = (h.link.deliverAll host none positions).link := by
  induction positions generalizing h with
  | nil => rfl
  | cons position rest ih =>
    rw [List.foldl_cons, ih]
    rfl

end History

/-- A link at its start: nothing has been sent, and the receiver's queue holds its silence. -/
def started (plan : SendPlan) (sequence sampleCounter : UInt32) (listen : ListenPlan)
    (start : Instant) (period : Duration) (watchesPlayback : Bool)
    (recording : Option (Recording lib)) : Link lib :=
  .opened plan sequence sampleCounter
    (.opened listen start period watchesPlayback (some (Audio.Playback.prefilled listen).2)
      recording)

/-- A run of a link. The scratch buffer may hold anything at the start. -/
def run (host : JitterQueue.Host) (l : Link lib) (scratch : Bytes) (steps : List Step) :
    History lib :=
  steps.foldl (History.step host) { link := l, scratch }

/-- What a listener is to hear once some packets have been queued: all of the silence, then the tone
of every packet. -/
def stream (listen : ListenPlan) (plan : SendPlan) (queued : Nat) : List Int16 :=
  List.replicate (listen.jitterFrames * listen.format.channels.toNat) 0
    ++ (List.replicate queued plan.tone).flatten

/-- One more packet makes the stream longer by its tone. -/
theorem stream_succ (listen : ListenPlan) (plan : SendPlan) (queued : Nat) :
    stream listen plan (queued + 1) = stream listen plan queued ++ plan.tone := by
  rw [stream, stream, List.replicate_succ', List.flatten_append, List.flatten_singleton,
    List.append_assoc]

/-! ## The invariant -/

namespace History

variable (listen : ListenPlan) (plan : SendPlan)

/-- Everything sent carries the tone, what was heard and what waits make up the stream, and every
callback was exact. -/
structure Faithful (h : History lib) : Prop where
  payload_eq : h.link.payload = plan.payload
  sent_eq : ∀ datagram ∈ h.link.sent, ∃ header, datagram = Packet.encode ⟨header, plan.payload⟩
  safe : h.link.station.RecordsSafely
  held : ∃ waiting, h.link.station.held? = some (bytesOfSamples waiting) ∧
    Callback.heard h.callbacks ++ waiting = stream listen plan h.queued
  drops_eq : h.link.station.drops = h.dropped.toUInt64
  exact : EachAfter (fun before c => c.Exact (stream listen plan) (Callback.heard before))
    h.callbacks

variable {listen plan} {h : History lib}

/-- Packets that are sent carry the tone. -/
theorem Faithful.send (hf : h.Faithful listen plan) (host : JitterQueue.Host)
    (timestamps : List UInt32) : (h.step host (.send timestamps)).Faithful listen plan where
  payload_eq := hf.payload_eq
  sent_eq := by
    intro datagram hmem
    rcases Array.mem_append.mp hmem with hold | hnew
    · exact hf.sent_eq datagram hold
    · obtain ⟨header, -, rfl⟩ := List.mem_map.mp (List.mem_toArray.mp hnew)
      exact ⟨header, by rw [hf.payload_eq]⟩
  safe := hf.safe
  held := hf.held
  drops_eq := hf.drops_eq
  exact := hf.exact

/-- A delivered packet brings the tone, or is dropped; anything else brings nothing. -/
theorem Faithful.deliverOne (hf : h.Faithful listen plan) (hplan : plan.payload ≠ [])
    (host : JitterQueue.Host) (position : Nat) :
    (h.deliverOne host position).Faithful listen plan := by
  obtain ⟨waiting, hwaiting, hstream⟩ := hf.held
  by_cases hposition : position < h.link.sent.size
  · obtain ⟨header, hdatagram⟩ := hf.sent_eq _ (Array.getElem_mem hposition)
    have hdeliver : h.link.deliver host (h.link.sent.getD position []) none
        = ⟨{ h.link with
              station := (h.link.station.receive host ⟨header, plan.payload⟩).station },
            (h.link.station.receive host ⟨header, plan.payload⟩).log, none⟩ := by
      rw [Array.getD, dif_pos hposition]
      show h.link.deliver host h.link.sent[position] none = _
      have hdecode := Packet.decode_encode ⟨header, plan.payload⟩ hplan
      simp only [hdatagram, deliver, hdecode]
    obtain ⟨hsafe, hreceived⟩ := Station.receive_held hwaiting hf.safe host ⟨header, plan.payload⟩
    rcases hreceived with ⟨hdrops, hheld⟩ | ⟨hdrops, hheld⟩
    -- the packet was queued
    · have hlater : h.deliverOne host position
          = { h with
              link := { h.link with
                station := (h.link.station.receive host ⟨header, plan.payload⟩).station }
              queued := h.queued + 1 } := by
        simp only [History.deliverOne, hdeliver, hdrops, bne_self_eq_false]
        simp [hposition]
      rw [hlater]
      refine ⟨hf.payload_eq, hf.sent_eq, hsafe, ⟨waiting ++ plan.tone, ?_, ?_⟩,
        hdrops.trans hf.drops_eq, hf.exact⟩
      · rw [bytesOfSamples_append, ← plan.payload_eq]
        exact hheld
      · show Callback.heard h.callbacks ++ (waiting ++ plan.tone)
          = stream listen plan (h.queued + 1)
        rw [stream_succ, ← hstream, List.append_assoc]
    -- the packet was dropped
    · have hgrew : (h.link.station.drops + 1 != h.link.station.drops) = true := by
        rw [bne_iff_ne, ne_eq, UInt64.add_eq_left]
        decide
      have hlater : h.deliverOne host position
          = { h with
              link := { h.link with
                station := (h.link.station.receive host ⟨header, plan.payload⟩).station }
              dropped := h.dropped + 1 } := by
        simp only [History.deliverOne, hdeliver, hdrops, hgrew]
        simp [hposition]
      rw [hlater]
      refine ⟨hf.payload_eq, hf.sent_eq, hsafe, ⟨waiting, hheld, hstream⟩, ?_, hf.exact⟩
      show _ = UInt64.ofNat (h.dropped + 1)
      rw [UInt64.ofNat_add]
      exact hdrops.trans (congrArg (· + 1) hf.drops_eq)
  -- where nothing was sent, nothing arrives
  · have hnothing : h.deliverOne host position = h := by
      have hempty : h.link.sent.getD position [] = [] := by
        rw [Array.getD, dif_neg hposition]
      simp [History.deliverOne, hempty, deliver, Packet.decode, hposition]
    rw [hnothing]
    exact hf

/-- Reports bring and take nothing. -/
theorem Faithful.report (hf : h.Faithful listen plan) (host : JitterQueue.Host) (now : Instant) :
    (h.step host (.report now)).Faithful listen plan where
  payload_eq := hf.payload_eq
  sent_eq := hf.sent_eq
  safe := hf.safe
  held := by
    obtain ⟨waiting, hwaiting, hstream⟩ := hf.held
    exact ⟨waiting, (h.link.station.report_held now).trans hwaiting, hstream⟩
  drops_eq := (Station.get_publish _ _ (by decide)).trans hf.drops_eq
  exact := hf.exact

/-- What a callback finds waiting decides how it is answered. -/
theorem callback_exact {waiting : List Int16}
    (hwaiting : h.link.station.held? = some (bytesOfSamples waiting))
    (hstream : Callback.heard h.callbacks ++ waiting = stream listen plan h.queued)
    {device : List Int16} {later : Station lib}
    (hlater : later.held? = some (bytesOfSamples (waiting.drop device.length))) :
    let c := h.callback device
      (waiting.take device.length ++ List.replicate (device.length - waiting.length) 0) later
    c.audio = waiting.take device.length ∧
      c.Exact (stream listen plan) (Callback.heard h.callbacks) := by
  intro c
  -- nothing arrives during a callback, so what it gains is padding
  have hpadding : c.padding = device.length - waiting.length := by
    show (_ * sampleWidth + (later.held?.getD []).length
      - (h.link.station.held?.getD []).length) / sampleWidth = _
    rw [hlater, hwaiting, Option.getD_some, Option.getD_some, length_bytesOfSamples,
      length_bytesOfSamples, List.length_append, List.length_take, List.length_replicate,
      List.length_drop, sampleWidth]
    omega
  have haudio : c.audio = waiting.take device.length := by
    have hcut : c.asked - c.padding = (waiting.take device.length).length := by
      rw [hpadding, List.length_take]
      show device.length - _ = _
      omega
    rw [Callback.audio, hcut]
    exact List.take_left
  refine ⟨haudio, { samples_eq := ?_, length_eq := ?_, ranDry_iff := ?_, heard_prefix := ?_,
                    used_up := ?_ }⟩
  · rw [haudio, hpadding]
    rfl
  · rw [haudio, hpadding, List.length_take]
    show _ = device.length
    omega
  · obtain ⟨sink, hsink, hheld⟩ := Option.map_eq_some_iff.mp hwaiting
    rw [hpadding]
    show h.link.station.sink?.any (·.runsDry (device.length * sampleWidth)) = true ↔ _
    rw [hsink, Option.any_some, Sink.runsDry_iff, hheld, length_bytesOfSamples, sampleWidth]
    omega
  · rw [haudio]
    show _ <+: stream listen plan h.queued
    rw [← hstream]
    exact (List.prefix_append_right_inj _).mpr (List.take_prefix _ _)
  · intro hpos
    have hshort : waiting.length ≤ device.length := by omega
    rw [haudio, List.take_of_length_le hshort]
    exact hstream

/-- Callbacks play what waits, in order. -/
theorem Faithful.render (hf : h.Faithful listen plan) (device : List Int16) :
    (h.render device).Faithful listen plan := by
  obtain ⟨waiting, hwaiting, hstream⟩ := hf.held
  obtain ⟨left, later, hboth, hlater, hrecording, hdrops⟩ :=
    Station.renderInto_held hwaiting h.scratch device
  obtain ⟨haudio, hexact⟩ := callback_exact hwaiting hstream hlater
  rw [History.render, hboth]
  refine ⟨hf.payload_eq, hf.sent_eq, ?_, ⟨waiting.drop device.length, hlater, ?_⟩,
    hdrops.trans hf.drops_eq, hf.exact.concat hexact⟩
  · show later.RecordsSafely
    rw [Station.RecordsSafely, hrecording]
    exact hf.safe
  · show Callback.heard (h.callbacks ++ [_]) ++ _ = stream listen plan h.queued
    rw [Callback.heard_concat, haudio, List.append_assoc, List.take_append_drop]
    exact hstream

/-- Every step keeps a link faithful. -/
theorem Faithful.step (hf : h.Faithful listen plan) (hplan : plan.payload ≠ [])
    (host : JitterQueue.Host) (s : Step) : (h.step host s).Faithful listen plan := by
  cases s with
  | send timestamps => exact hf.send host timestamps
  | deliver positions =>
    show (positions.foldl (History.deliverOne host) h).Faithful listen plan
    induction positions generalizing h with
    | nil => exact hf
    | cons position rest ih => exact ih (hf.deliverOne hplan host position)
  | report now => exact hf.report host now
  | render device => exact hf.render device

theorem deliver_callbacks (host : JitterQueue.Host) (h : History lib) (positions : List Nat) :
    (positions.foldl (History.deliverOne host) h).callbacks = h.callbacks := by
  induction positions generalizing h with
  | nil => rfl
  | cons position rest ih =>
    rw [List.foldl_cons, ih]
    rfl

/-- Every callback is answered, and nothing else is. -/
theorem Faithful.step_asked (hf : h.Faithful listen plan) (host : JitterQueue.Host) (s : Step) :
    (h.step host s).callbacks.map Callback.asked
      = h.callbacks.map Callback.asked ++ s.asked?.toList := by
  cases s with
  | send timestamps => exact (List.append_nil _).symm
  | deliver positions =>
    show (positions.foldl (History.deliverOne host) h).callbacks.map Callback.asked = _
    rw [deliver_callbacks]
    exact (List.append_nil _).symm
  | report now => exact (List.append_nil _).symm
  | render device =>
    obtain ⟨waiting, hwaiting, -⟩ := hf.held
    obtain ⟨left, later, hboth, -⟩ := Station.renderInto_held hwaiting h.scratch device
    show (h.render device).callbacks.map Callback.asked = _
    rw [History.render, hboth]
    exact List.map_append

/-- A faithful link stays faithful, and answers every callback. -/
theorem Faithful.steps (hf : h.Faithful listen plan) (hplan : plan.payload ≠ [])
    (host : JitterQueue.Host) (steps : List Step) :
    (steps.foldl (History.step host) h).Faithful listen plan ∧
      (steps.foldl (History.step host) h).callbacks.map Callback.asked
        = h.callbacks.map Callback.asked ++ steps.filterMap Step.asked? := by
  induction steps generalizing h with
  | nil => exact ⟨hf, (List.append_nil _).symm⟩
  | cons s rest ih =>
    obtain ⟨hfaithful, hasked⟩ := ih (hf.step hplan host s)
    refine ⟨hfaithful, hasked.trans ?_⟩
    rw [hf.step_asked host s, List.append_assoc]
    congr 1
    cases s <;> rfl

/-- A link starts faithful: the silence waits, and nothing was queued or heard. -/
theorem started_faithful (hlisten : listen.Checked) {recording : Option (Recording lib)}
    (hrecording : ∀ r ∈ recording, lib.Takes r.writer) (sequence sampleCounter : UInt32)
    (start : Instant) (period : Duration) (watchesPlayback : Bool) (scratch : Bytes) :
    ({ link := started plan sequence sampleCounter listen start period watchesPlayback recording
       scratch } : History lib).Faithful listen plan where
  payload_eq := rfl
  sent_eq := by
    intro datagram hmem
    exact absurd hmem (Array.not_mem_empty datagram)
  safe := hrecording
  held := by
    refine ⟨List.replicate (listen.jitterFrames * listen.format.channels.toNat) 0, ?_, ?_⟩
    · show some ([] ++ (Audio.Playback.prefilled listen).2.chunks.flatten) = _
      rw [List.nil_append, hlisten.prefilled_flatten]
    · exact (List.append_nil _).symm
  drops_eq := rfl
  exact := EachAfter.nil _

/-! ## What was delivered -/

theorem sent_deliver (host : JitterQueue.Host) (l : Link lib) (datagram : Bytes) :
    (l.deliver host datagram none).link.sent = l.sent := by
  simp only [deliver]
  split <;> rfl

/-- A position at which a packet was sent counts once, as queued or as dropped. -/
theorem deliverOne_delivered (host : JitterQueue.Host) (h : History lib) (position : Nat) :
    (h.deliverOne host position).queued + (h.deliverOne host position).dropped
      = h.queued + h.dropped + (decide (position < h.link.sent.size)).toNat := by
  have hsplit : ∀ wasSent wasDropped : Bool,
      (wasSent && !wasDropped).toNat + (wasSent && wasDropped).toNat = wasSent.toNat := by decide
  exact (Nat.add_add_add_comm _ _ _ _).trans (congrArg (h.queued + h.dropped + ·) (hsplit _ _))

/-- So does each of many positions; what was sent stays as it is. -/
theorem deliver_delivered (host : JitterQueue.Host) (h : History lib) (positions : List Nat) :
    let later := positions.foldl (History.deliverOne host) h
    later.link.sent = h.link.sent ∧
      later.queued + later.dropped = h.queued + h.dropped
        + positions.countP (fun position => position < h.link.sent.size) := by
  induction positions generalizing h with
  | nil => exact ⟨rfl, rfl⟩
  | cons position rest ih =>
    have hsent : (h.deliverOne host position).link.sent = h.link.sent := sent_deliver host h.link _
    have hone := h.deliverOne_delivered host position
    obtain ⟨hkept, hrest⟩ := ih (h.deliverOne host position)
    rw [hsent, hone] at hrest
    refine ⟨hkept.trans hsent, hrest.trans ?_⟩
    rw [List.countP_cons]
    by_cases hposition : position < h.link.sent.size
    · simp only [hposition, decide_true, Bool.toNat_true, if_true]
      omega
    · simp only [hposition, decide_false, Bool.toNat_false, Bool.false_eq_true, if_false]
      omega

/-- What is queued or dropped in steps is what they deliver. -/
theorem steps_delivered (host : JitterQueue.Host) (h : History lib) (steps : List Step) :
    let later := steps.foldl (History.step host) h
    later.queued + later.dropped
      = h.queued + h.dropped + delivered h.link.sent.size steps := by
  induction steps generalizing h with
  | nil => rfl
  | cons s rest ih =>
    refine (ih (h.step host s)).trans ?_
    cases s with
    | send timestamps =>
      have hsize : (h.step host (.send timestamps)).link.sent.size
          = h.link.sent.size + timestamps.length := by
        refine Array.size_append.trans (congrArg (h.link.sent.size + ·) ?_)
        show ((h.link.numbering.headers timestamps).1.map _).length = _
        rw [List.length_map, Numbering.length_headers]
      rw [hsize]
      rfl
    | deliver positions =>
      obtain ⟨hsent, hcount⟩ := deliver_delivered host h positions
      show _ + _ + delivered (positions.foldl (History.deliverOne host) h).link.sent.size rest = _
      rw [hsent, delivered, ← Nat.add_assoc]
      exact congrArg (· + _) hcount
    | report now => rfl
    | render device =>
      have hrender : (h.render device).queued = h.queued ∧ (h.render device).dropped = h.dropped ∧
          (h.render device).link.sent = h.link.sent := by
        unfold History.render
        split <;> exact ⟨rfl, rfl, rfl⟩
      obtain ⟨hqueued, hdropped, hsent⟩ := hrender
      show (h.render device).queued + (h.render device).dropped
        + delivered (h.render device).link.sent.size rest = _
      rw [hqueued, hdropped, hsent]
      rfl

/-! ## The scratch buffer -/

/-- Delivering does not look at the scratch buffer. -/
theorem deliver_scratch (host : JitterQueue.Host) (h : History lib) (scratch : Bytes)
    (positions : List Nat) :
    positions.foldl (History.deliverOne host) { h with scratch }
      = { positions.foldl (History.deliverOne host) h with scratch } := by
  induction positions generalizing h with
  | nil => rfl
  | cons position rest ih => exact ih (h.deliverOne host position)

/-- Another scratch buffer makes no difference but to itself. -/
theorem step_scratch (host : JitterQueue.Host) (h : History lib) (scratch : Bytes) (s : Step) :
    ∃ left, History.step host { h with scratch } s = { h.step host s with scratch := left } := by
  cases s with
  | send timestamps => exact ⟨scratch, rfl⟩
  | deliver positions => exact ⟨scratch, deliver_scratch host h scratch positions⟩
  | report now => exact ⟨scratch, rfl⟩
  | render device =>
    -- a callback leaves the same scratch buffer behind whatever it found
    have hsame := h.link.station.renderInto_scratch scratch h.scratch device
    show ∃ left, History.render { h with scratch } device = { h.render device with scratch := left }
    simp only [History.render, hsame]
    split
    · exact ⟨scratch, rfl⟩
    · exact ⟨_, rfl⟩

theorem steps_scratch (host : JitterQueue.Host) (h : History lib) (scratch : Bytes)
    (steps : List Step) :
    ∃ left, steps.foldl (History.step host) { h with scratch }
      = { steps.foldl (History.step host) h with scratch := left } := by
  induction steps generalizing h scratch with
  | nil => exact ⟨scratch, rfl⟩
  | cons s rest ih =>
    obtain ⟨left, hstep⟩ := step_scratch host h scratch s
    rw [List.foldl_cons, List.foldl_cons, hstep]
    exact ih (h.step host s) left

end History

/-! ## Whole runs -/

/-- **A listener hears a plain stream.** Every packet that is delivered is queued or dropped, and
those that are dropped are counted by the station. Padding left out, what is heard is the silence
that the queue started with and then whole tones, one for every packet that was queued, in order and
without a gap, up to where the callbacks have come. Each callback gets as many samples as it asks
for, and is padded with zeros only once the whole stream has been heard. What the scratch buffer
held at the start makes no difference. -/
theorem heard_is_stream {frequency amplitude packetMillis jitterMillis : Float}
    {sendRate sendChannels listenRate listenChannels : Int} {port : UInt16}
    {plan : SendPlan} {listen : ListenPlan} {recording : Option (Recording lib)}
    (hplan : SendPlan.check frequency amplitude sendRate sendChannels packetMillis = .ok plan)
    (hlisten : ListenPlan.check port listenRate listenChannels jitterMillis = .ok listen)
    (hrecording : ∀ r ∈ recording, lib.Takes r.writer)
    (sequence sampleCounter : UInt32) (start : Instant) (period : Duration)
    (watchesPlayback : Bool) (host : JitterQueue.Host) (scratch : Bytes) (steps : List Step) :
    let l := started plan sequence sampleCounter listen start period watchesPlayback recording
    let h := run host l scratch steps
    h.queued + h.dropped = delivered 0 steps ∧ h.link.station.drops = h.dropped.toUInt64 ∧
      (h.callbacks.map Callback.audio).flatten <+: stream listen plan h.queued ∧
      h.callbacks.map Callback.asked = steps.filterMap Step.asked? ∧
      (∀ (j : Nat) (hj : j < h.callbacks.length),
        let c := h.callbacks[j]
        let heard := ((h.callbacks.take (j + 1)).map Callback.audio).flatten
        c.samples.length = c.asked ∧
        c.samples = c.audio ++ List.replicate c.padding 0 ∧
        (c.ranDry = true ↔ 0 < c.padding) ∧
        heard <+: stream listen plan c.queued ∧
        (0 < c.padding → heard = stream listen plan c.queued)) ∧
      ∀ scratch', (run host l scratch' steps).callbacks = h.callbacks := by
  intro l h
  have hopened : ({ link := l, scratch } : History lib).Faithful listen plan :=
    History.started_faithful (ListenPlan.checked_of_ok hlisten) hrecording sequence sampleCounter
      start period watchesPlayback scratch
  obtain ⟨hf, hasked⟩ :=
    hopened.steps (SendPlan.checked_of_ok hplan).payload_ne_nil host steps
  have hdelivered : h.queued + h.dropped = delivered 0 steps := by
    have hcount := History.steps_delivered host { link := l, scratch } steps
    exact hcount.trans (Nat.zero_add _)
  refine ⟨hdelivered, hf.drops_eq, ?_, hasked, fun j hj => ?_, fun scratch' => ?_⟩
  · obtain ⟨waiting, -, hstream⟩ := hf.held
    exact ⟨waiting, hstream⟩
  · intro c heard
    have hexact : c.Exact (stream listen plan) (Callback.heard (h.callbacks.take j)) :=
      hf.exact j hj
    have hheard : heard = Callback.heard (h.callbacks.take j) ++ c.audio := by
      show Callback.heard (h.callbacks.take (j + 1)) = _
      rw [← List.take_concat_get hj, List.concat_eq_append, Callback.heard_concat]
    refine ⟨?_, hexact.samples_eq, hexact.ranDry_iff, ?_, ?_⟩
    · rw [hexact.samples_eq, List.length_append, List.length_replicate]
      exact hexact.length_eq
    · rw [hheard]
      exact hexact.heard_prefix
    · rw [hheard]
      exact hexact.used_up
  · obtain ⟨left, hsame⟩ := History.steps_scratch host { link := l, scratch } scratch' steps
    have hcallbacks := congrArg History.callbacks hsame
    exact hcallbacks

/-- Two packets that arrive three times, in another order, and callbacks that cut them anywhere. The
second callback comes to the end of the third tone. -/
theorem heard_is_stream_twisted :
    let lib := Wave.onDisk fun _ => .ok .file
    ∃ (plan : SendPlan) (listen : ListenPlan) (recording : Recording lib) (log : List Log.Entry),
      SendPlan.check 440 0.5 8000 1 10 = .ok plan ∧ ListenPlan.check 0 8000 1 20 = .ok listen ∧
      Recording.create lib "tone.wav" ⟨8000, 1⟩ [] = .ok (recording, log) ∧
      (∀ r ∈ some recording, lib.Takes r.writer) ∧
      let steps := [.send [0, 1], .deliver [1, 0, 1], .render (List.replicate 200 7), .report ⟨0⟩,
        .render (List.replicate 333 7)]
      let h := run .bare (started plan 4294967295 0 listen ⟨0⟩ reportPeriod true (some recording))
        [1, 2, 3] steps
      h.queued = 3 ∧ h.dropped = 0 ∧ plan.tone.length = 80 ∧
        (h.callbacks.map Callback.audio).flatten
          = List.replicate 160 0 ++ (plan.tone ++ plan.tone ++ plan.tone) ∧
        (h.callbacks.map Callback.audio).flatten <+: stream listen plan h.queued ∧
        h.callbacks.map Callback.asked = [200, 333] ∧
        h.callbacks.map Callback.padding = [0, 133] := by
  have htone : (SendPlan.check 440 0.5 8000 1 10).toOption.map (fun plan => plan.tone.length)
      = some 80 := by decide +kernel
  have hsilence : (ListenPlan.check 0 8000 1 20).toOption.map (fun listen =>
      listen.jitterFrames * listen.format.channels.toNat) = some 160 := by decide +kernel
  -- how much is played and queued does not depend on the samples
  have hcounts : (SendPlan.check 440 0.5 8000 1 10).toOption.map (fun plan =>
      (ListenPlan.check 0 8000 1 20).toOption.map fun listen =>
        (Recording.create (Wave.onDisk fun _ => .ok .file) "tone.wav" ⟨8000, 1⟩ []).toOption.map
          fun created =>
            let h := run .bare
              (started plan 4294967295 0 listen ⟨0⟩ reportPeriod true (some created.1)) [1, 2, 3]
              [.send [0, 1], .deliver [1, 0, 1], .render (List.replicate 200 7), .report ⟨0⟩,
                .render (List.replicate 333 7)]
            (h.dropped, h.callbacks.map fun c => (c.padding, c.queued)))
      = some (some (some (0, [(0, 3), (133, 3)]))) := by decide +kernel
  intro lib
  obtain ⟨plan, hplan, htone⟩ := exists_ok_of_toOption_map htone
  obtain ⟨listen, hlisten, hsilence⟩ := exists_ok_of_toOption_map hsilence
  rw [hplan, hlisten] at hcounts
  obtain ⟨⟨recording, log⟩, hcreate, hcounts⟩ :=
    exists_ok_of_toOption_map (Option.some.inj (Option.some.inj hcounts))
  obtain ⟨hdropped, hcallbacks⟩ := Prod.mk.inj hcounts
  have htakes : ∀ r ∈ some recording, lib.Takes r.writer := by
    rintro r ⟨⟩
    cases hcreate
    exact (Wave.onDisk_documented _).takes rfl rfl rfl
  refine ⟨plan, listen, recording, log, hplan, hlisten, hcreate, htakes, ?_⟩
  intro steps
  obtain ⟨hdelivered, -, hprefix, hasked, hcallback, -⟩ :=
    heard_is_stream hplan hlisten htakes 4294967295 0 ⟨0⟩ reportPeriod true .bare [1, 2, 3] steps
  generalize run _ _ _ _ = h at hdropped hcallbacks hdelivered hprefix hasked hcallback ⊢
  have hqueued : h.queued = 3 := by
    rw [hdropped] at hdelivered
    exact hdelivered
  have hpadding : h.callbacks.map Callback.padding = [0, 133] := by
    have hfirst := congrArg (List.map Prod.fst) hcallbacks
    rw [List.map_map] at hfirst
    exact hfirst
  have hheard : (h.callbacks.map Callback.audio).flatten = stream listen plan 3 := by
    obtain ⟨first, second, hboth⟩ : ∃ first second, h.callbacks = [first, second] :=
      List.length_eq_two.mp (by simpa using congrArg List.length hcallbacks)
    rw [hboth] at hcallbacks
    obtain ⟨-, hlast⟩ := List.cons.inj hcallbacks
    obtain ⟨hpads, hbefore⟩ := Prod.mk.inj (List.cons.inj hlast).1
    obtain ⟨-, -, -, -, hused⟩ := hcallback 1 (by rw [hboth]; exact Nat.lt_succ_self 1)
    simp only [hboth, List.getElem_cons_succ, List.getElem_cons_zero] at hused
    rw [hboth, ← hbefore]
    exact hused (by rw [hpads]; decide)
  refine ⟨hqueued, hdropped, htone, hheard.trans ?_, hprefix, hasked.trans ?_, hpadding⟩
  · rw [stream, hsilence]
    simp [List.replicate]
  · simp only [steps, List.filterMap_cons, List.filterMap_nil, Step.asked?, List.length_replicate]

end ToneLink.Link
