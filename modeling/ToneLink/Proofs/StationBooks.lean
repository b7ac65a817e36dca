import Mathlib.Algebra.GroupWithZero.Nat
import ToneLink.Proofs.LossLaw
import ToneLink.Proofs.StationRun

/-!
# The books of a station

A station counts everything twice: its loss account counts for the reports, and its metrics count
for the world outside. Whatever happens, the two agree, and what became of the packets adds up.

- `Station.History.Booked`: the account is that of the packets alone, and the metrics show its
  totals;
- `Station.History.Conserved`: with a queue, each packet was queued, dropped or not recorded, and
  what was queued has been taken or still waits;
- `Station.History.Unplayed`: without a queue, nothing was dropped;
- `Station.books_agree`: the law of a run.
-/

namespace ToneLink

/-! ## Accounts -/

namespace LossAccount

/-- What an account sees of a packet. -/
def entry (p : Packet) : UInt32 × Nat := (p.header.sequence, p.payload.length)

end LossAccount

namespace Station

variable {lib : Wave.Library}

open LossAccount (entry)

/-! ## Account and metrics -/

/-- The invariant of account and metrics. Only the window of the account depends on anything but the
packets. -/
structure History.Booked (start : Instant) (h : History lib) : Prop where
  losses_eq : ∃ window, h.station.ledger.losses
    = { (LossAccount.opened start).recordAll (h.packets.map entry) with window }
  received_eq : h.station.metrics.packetsReceived = h.station.ledger.losses.received.toUInt64
  lost_eq : h.station.metrics.packetsLost = h.station.ledger.losses.lost.toUInt64
  bytes_eq : h.station.metrics.bytesReceived = h.station.ledger.losses.bytes.toUInt64
  drops_eq : h.station.drops = (h.events.countP Event.dropped).toUInt64

namespace History.Booked

variable {start : Instant} {h later : History lib}

/-- What brings no packet keeps the books, except that it may open a new window and count
underflows. -/
theorem frame (hb : h.Booked start) {e : Event} (hevents : later.events = h.events ++ [e])
    (hpacket : e.packet? = none) (hdropped : e.dropped = false)
    (hlosses : ∃ window, later.station.ledger.losses = { h.station.ledger.losses with window })
    (hmetrics : ∀ c, c ≠ .playbackUnderflows →
      later.station.metrics.get c = h.station.metrics.get c) : later.Booked start := by
  obtain ⟨window, hlosses⟩ := hlosses
  obtain ⟨window', hlosses'⟩ := hb.losses_eq
  have hpackets : later.packets = h.packets := by
    rw [packets_concat hevents, hpacket]
    exact List.append_nil _
  refine { losses_eq := ⟨window, ?_⟩, received_eq := ?_, lost_eq := ?_, bytes_eq := ?_
           drops_eq := ?_ }
  · rw [hlosses, hlosses', hpackets]
  · rw [hlosses]
    exact (hmetrics .packetsReceived (by decide)).trans hb.received_eq
  · rw [hlosses]
    exact (hmetrics .packetsLost (by decide)).trans hb.lost_eq
  · rw [hlosses]
    exact (hmetrics .bytesReceived (by decide)).trans hb.bytes_eq
  · rw [hevents, List.countP_append, List.countP_singleton, hdropped]
    exact (hmetrics .backpressureDrops (by decide)).trans hb.drops_eq

/-- A packet is entered into both books. -/
theorem packet (hb : h.Booked start) {e : Event} {p : Packet}
    (hevents : later.events = h.events ++ [e]) (hpacket : e.packet? = some p)
    (hlosses : later.station.ledger.losses
      = (h.station.ledger.losses.record p.header.sequence p.payload.length).2)
    (hmetrics : ∀ c, c ≠ .backpressureDrops →
      later.station.metrics.get c = (h.station.account p).1.metrics.get c)
    (hdrops : later.station.drops = h.station.drops + (if e.dropped then 1 else 0 : Nat).toUInt64) :
    later.Booked start := by
  have hget : ∀ c, c ≠ .backpressureDrops → later.station.metrics.get c
      = h.station.metrics.get c + (h.station.amount p c).toUInt64 := fun c hc =>
    (hmetrics c hc).trans (h.station.get_account p c)
  have hsum : ∀ {m n : UInt64} {a b : Nat}, m = n + b.toUInt64 → n = a.toUInt64 →
      m = (a + b).toUInt64 := by
    rintro m n a b rfl rfl
    exact (UInt64.ofNat_add a b).symm
  have hpackets : later.packets = h.packets ++ [p] := by
    rw [packets_concat hevents, hpacket]
    rfl
  obtain ⟨window, hlosses'⟩ := hb.losses_eq
  refine { losses_eq := ⟨window + 1, ?_⟩, received_eq := ?_, lost_eq := ?_, bytes_eq := ?_
           drops_eq := ?_ }
  · rw [hlosses, hlosses', hpackets, List.map_append, List.map_singleton,
      LossAccount.recordAll_concat]
    rfl
  · rw [hlosses]
    exact hsum (hget .packetsReceived (by decide)) hb.received_eq
  · rw [hlosses]
    exact hsum (hget .packetsLost (by decide)) hb.lost_eq
  · rw [hlosses]
    exact hsum (hget .bytesReceived (by decide)) hb.bytes_eq
  · rw [hevents, List.countP_append, List.countP_singleton]
    exact hsum hdrops hb.drops_eq

/-- Every change keeps the books. -/
theorem change (hb : h.Booked start) (hchange : Change h later) : later.Booked start := by
  have hsame : ∀ p : Packet, (h.station.account p).1.drops = h.station.drops + (0 : Nat).toUInt64 :=
    fun p => h.station.get_account p .backpressureDrops
  cases hchange with
  | played hqueue hsplit playout underflowed =>
    exact hb.frame rfl rfl rfl ⟨_, rfl⟩ fun c hc => rfl
  | counted depth underflowed => exact hb.frame rfl rfl rfl ⟨_, rfl⟩ fun c hc => rfl
  | failed p e hrecord => exact hb.packet rfl rfl rfl (fun c hc => rfl) (hsame p)
  | unplayed p hrecord hqueue => exact hb.packet rfl rfl rfl (fun c hc => rfl) (hsame p)
  | queued p hrecord hqueue hroom => exact hb.packet rfl rfl rfl (fun c hc => rfl) (hsame p)
  | dropped p hrecord hqueue hfull =>
    refine hb.packet rfl rfl rfl (fun c hc => ?_) ?_
    · show ((h.station.account p).1.metrics.add .backpressureDrops 1).get c = _
      rw [Metrics.get_add, if_neg (Ne.symm hc)]
    · show ((h.station.account p).1.metrics.add .backpressureDrops 1).get .backpressureDrops = _
      rw [Metrics.get_add, if_pos rfl]
      exact congrArg (· + 1) (h.station.drops_account p)
  | reported now => exact hb.frame rfl rfl rfl ⟨0, rfl⟩ fun c hc => get_publish _ _ hc

/-- The totals of the account are those of the packets alone. -/
theorem totals (hb : h.Booked start) :
    let entered := (LossAccount.opened start).recordAll (h.packets.map entry)
    h.station.ledger.losses.last = entered.last ∧ h.station.ledger.losses.lost = entered.lost ∧
      h.station.ledger.losses.received = h.packets.length ∧
      h.station.ledger.losses.bytes = (h.packets.map fun p => p.payload.length).sum := by
  intro entered
  obtain ⟨window, hlosses⟩ := hb.losses_eq
  rw [hlosses]
  refine ⟨rfl, rfl, ?_, ?_⟩
  · show entered.received = _
    rw [LossAccount.received_recordAll, List.length_map]
    exact Nat.zero_add _
  · show entered.bytes = _
    rw [LossAccount.bytes_recordAll, List.map_map]
    exact Nat.zero_add _

end History.Booked

/-! ## What becomes of packets -/

/-- The invariant of a station with a queue that held `initial` at the start. -/
structure History.Conserved (initial : List Bytes) (h : History lib) : Prop where
  playing : h.station.queue ≠ none
  fifo : initial ++ h.events.filterMap Event.queued?
    = h.events.flatMap Event.taken ++ h.station.waiting
  partition : (h.events.filterMap Event.queued?).length + h.events.countP Event.dropped
    + h.events.countP Event.failed = h.packets.length

/-- The invariant of a station without a queue. -/
structure History.Unplayed (h : History lib) : Prop where
  queue_eq : h.station.queue = none
  dropped_eq : h.events.countP Event.dropped = 0

namespace History

variable {initial : List Bytes} {h later : History lib}

/-- One event more keeps the balance if it is balanced itself. -/
theorem Conserved.extend (hc : h.Conserved initial) {e : Event}
    (hevents : later.events = h.events ++ [e]) (hplaying : later.station.queue ≠ none)
    (hfifo : h.station.waiting ++ e.queued?.toList = e.taken ++ later.station.waiting)
    (hpartition : e.queued?.toList.length + (if e.dropped then 1 else 0)
      + (if e.failed then 1 else 0) = e.packet?.toList.length) : later.Conserved initial := by
  refine { playing := hplaying, fifo := ?_, partition := ?_ }
  · calc initial ++ later.events.filterMap Event.queued?
        = initial ++ h.events.filterMap Event.queued? ++ e.queued?.toList := by
          rw [hevents, filterMap_concat, List.append_assoc]
      _ = h.events.flatMap Event.taken ++ (h.station.waiting ++ e.queued?.toList) := by
          rw [hc.fifo, List.append_assoc]
      _ = later.events.flatMap Event.taken ++ later.station.waiting := by
          rw [hfifo, hevents, List.flatMap_append, List.flatMap_singleton, List.append_assoc]
  · have hbefore := hc.partition
    rw [packets_concat hevents, hevents, filterMap_concat, List.countP_append, List.countP_append,
      List.countP_singleton, List.countP_singleton, List.length_append, List.length_append]
    omega

theorem Conserved.change (hc : h.Conserved initial) (hchange : Change h later) :
    later.Conserved initial := by
  cases hchange with
  | played hqueue hsplit playout underflowed =>
    refine hc.extend rfl (Option.some_ne_none _) ?_ rfl
    rw [waiting, hqueue]
    exact (List.append_nil _).trans hsplit
  | counted depth underflowed => exact hc.extend rfl hc.playing (List.append_nil _) rfl
  | failed p e hrecord => exact hc.extend rfl hc.playing (List.append_nil _) rfl
  | unplayed p hrecord hqueue => exact absurd hqueue hc.playing
  | queued p hrecord hqueue hroom =>
    refine hc.extend rfl (Option.some_ne_none _) ?_ rfl
    rw [waiting, hqueue]
    rfl
  | dropped p hrecord hqueue hfull =>
    refine hc.extend rfl (Option.some_ne_none _) ?_ rfl
    rw [waiting, hqueue]
    exact List.append_nil _
  | reported now => exact hc.extend rfl hc.playing (List.append_nil _) rfl

theorem Unplayed.change (hu : h.Unplayed) (hchange : Change h later) : later.Unplayed := by
  have hcount : ∀ e : Event, ¬ e.dropped = true → (h.events ++ [e]).countP Event.dropped = 0 := by
    intro e he
    rw [List.countP_append, hu.dropped_eq, List.countP_singleton, if_neg he]
  have hnone : ∀ {queue : JitterQueue}, h.station.queue ≠ some queue := by
    intro queue hqueue
    rw [hu.queue_eq] at hqueue
    cases hqueue
  cases hchange with
  | played hqueue hsplit playout underflowed => exact absurd hqueue hnone
  | counted depth underflowed => exact ⟨hu.queue_eq, hcount _ Bool.false_ne_true⟩
  | failed p e hrecord => exact ⟨hu.queue_eq, hcount _ Bool.false_ne_true⟩
  | unplayed p hrecord hqueue => exact ⟨hu.queue_eq, hcount _ Bool.false_ne_true⟩
  | queued p hrecord hqueue hroom => exact absurd hqueue hnone
  | dropped p hrecord hqueue hfull => exact absurd hqueue hnone
  | reported now => exact ⟨hu.queue_eq, hcount _ Bool.false_ne_true⟩

end History

/-- What was queued came in packets, and in their order. -/
theorem queued_sublist (events : List Event) :
    (events.filterMap Event.queued?).Sublist
      ((events.filterMap Event.packet?).map Packet.payload) := by
  have hevent : ∀ e : Event,
      e.queued?.toList.Sublist (e.packet?.toList.map Packet.payload) := by
    intro e
    unfold Event.queued?
    split
    · exact List.Sublist.refl _
    · exact List.nil_sublist _
  induction events with
  | nil => exact List.Sublist.refl _
  | cons e rest ih =>
    have hcons : ∀ {β : Type} (f : Event → Option β),
        (e :: rest).filterMap f = (f e).toList ++ rest.filterMap f := by
      intro β f
      rw [List.filterMap_cons]
      cases f e <;> rfl
    rw [hcons, hcons, List.map_append]
    exact (hevent e).append ih

/-! ## The law -/

/-- Fresh books are kept in every run. -/
theorem run_booked {s : Station lib} {start : Instant} (hlosses : s.ledger.losses = .opened start)
    (hmetrics : s.metrics = {}) (steps : List Step) : (s.run steps).Booked start := by
  refine s.run_induction steps ?_ History.Booked.change
  exact {
    losses_eq := ⟨0, hlosses⟩
    received_eq := by
      rw [hlosses, hmetrics]
      rfl
    lost_eq := by
      rw [hlosses, hmetrics]
      rfl
    bytes_eq := by
      rw [hlosses, hmetrics]
      rfl
    drops_eq := by
      rw [drops, hmetrics]
      rfl }

/-- A queue conserves its chunks in every run. -/
theorem run_conserved {s : Station lib} {queue : JitterQueue} (hqueue : s.queue = some queue)
    (steps : List Step) : (s.run steps).Conserved queue.chunks := by
  refine s.run_induction steps ?_ History.Conserved.change
  refine { playing := ?_, fifo := ?_, partition := rfl }
  · rw [hqueue]
    exact Option.some_ne_none _
  · rw [waiting, hqueue]
    exact List.append_nil _

/-- A packet that cannot be recorded is entered into the books, and that is all. -/
theorem receiveAmid_of_error {s : Station lib} {host : JitterQueue.Host} {p : Packet}
    {consumer : JitterQueue.Interference} {e : RecordingError}
    (h : (s.receiveAmid host p consumer).result = .error e) :
    (s.receiveAmid host p consumer).station = s.accounted p := by
  obtain ⟨hresult, hstation⟩ := s.receiveAmid_eq host p consumer
  rw [h] at hresult
  rw [← hresult] at hstation
  exact hstation

/-- **The books of a station agree, and no packet is lost between them.** In any run of a station
with fresh books, whatever its queue, its counters and its recording, of which any samples may fail
to be written and any may succeed afterwards, the account is that of the packets alone, and the
metrics show its totals as long as these fit in 64 bits. With a queue, every packet was queued,
dropped and counted as dropped, or not recorded, and what was queued is what was taken and what
still waits, in the order of the packets; without one nothing is counted as dropped. A packet that
cannot be recorded is entered into both books like any other, but leaves queue and drops alone. -/
theorem books_agree (s : Station lib) (start : Instant) (steps : List Step)
    (hlosses : s.ledger.losses = .opened start) (hmetrics : s.metrics = {}) :
    let packets := steps.filterMap Step.packet?
    let h := s.run steps
    let a := h.station.ledger.losses
    let entered := (LossAccount.opened start).recordAll (packets.map LossAccount.entry)
    h.events.filterMap Event.packet? = packets ∧
      a.last = entered.last ∧ a.lost = entered.lost ∧
      a.received = packets.length ∧ a.bytes = (packets.map fun p => p.payload.length).sum ∧
      (a.received < 2 ^ 64 → h.station.metrics.packetsReceived.toNat = a.received) ∧
      (a.lost < 2 ^ 64 → h.station.metrics.packetsLost.toNat = a.lost) ∧
      (a.bytes < 2 ^ 64 → h.station.metrics.bytesReceived.toNat = a.bytes) ∧
      (∀ queue, s.queue = some queue →
        (h.events.filterMap Event.queued?).Sublist (packets.map Packet.payload) ∧
        (∃ later, h.station.queue = some later ∧
          queue.chunks ++ h.events.filterMap Event.queued?
            = h.events.flatMap Event.taken ++ later.chunks) ∧
        (packets.length < 2 ^ 64 →
          (h.events.filterMap Event.queued?).length + h.station.drops.toNat
            + h.events.countP Event.failed = packets.length)) ∧
      (s.queue = none → h.station.drops = 0) ∧
      ∀ host p consumer e, (h.station.receiveAmid host p consumer).result = .error e →
        let later := (h.station.receiveAmid host p consumer).station
        later.ledger.losses = (a.record p.header.sequence p.payload.length).2 ∧
          later.metrics.packetsReceived = h.station.metrics.packetsReceived + 1 ∧
          later.queue = h.station.queue ∧ later.drops = h.station.drops := by
  intro packets h a entered
  have hpackets : h.packets = packets := s.run_packets steps
  have hbooked : h.Booked start := run_booked hlosses hmetrics steps
  have htotals := hbooked.totals
  rw [hpackets] at htotals
  obtain ⟨hlast, hlost, hreceived, hbytes⟩ := htotals
  refine ⟨hpackets, hlast, hlost, hreceived, hbytes, fun hlt => ?_, fun hlt => ?_, fun hlt => ?_,
    fun queue hqueue => ?_, fun hqueue => ?_, fun host p consumer e herror => ?_⟩
  · rw [hbooked.received_eq]
    exact UInt64.toNat_ofNat_of_lt hlt
  · rw [hbooked.lost_eq]
    exact UInt64.toNat_ofNat_of_lt hlt
  · rw [hbooked.bytes_eq]
    exact UInt64.toNat_ofNat_of_lt hlt
  · have hconserved : h.Conserved queue.chunks := run_conserved hqueue steps
    refine ⟨?_, ?_, fun hlt => ?_⟩
    · rw [← hpackets]
      exact queued_sublist h.events
    · obtain ⟨later, hlater⟩ := Option.ne_none_iff_exists'.mp hconserved.playing
      have hfifo := hconserved.fifo
      rw [waiting, hlater] at hfifo
      exact ⟨later, hlater, hfifo⟩
    · have hpartition := hconserved.partition
      rw [hpackets] at hpartition
      have hdropped : h.events.countP Event.dropped < 2 ^ 64 := by omega
      have hdrops : h.station.drops.toNat = h.events.countP Event.dropped := by
        rw [hbooked.drops_eq]
        exact UInt64.toNat_ofNat_of_lt hdropped
      rw [hdrops]
      exact hpartition
  · have hunplayed : h.Unplayed :=
      s.run_induction steps ⟨hqueue, rfl⟩ History.Unplayed.change
    rw [hbooked.drops_eq, hunplayed.dropped_eq]
    rfl
  · rw [receiveAmid_of_error herror]
    exact ⟨rfl, h.station.get_account p .packetsReceived, rfl, h.station.drops_account p⟩

/-- A library whose writes succeed and fail as is written down beforehand; those of which nothing is
written down succeed. -/
def scripted : Wave.Library where
  Writer := List Bool
  create _ _ _ := .ok []
  writeSample
    | [], _ => (.ok (), [])
    | succeeds :: rest, _ =>
      (if succeeds then .ok () else .error (.system "No space left on device"), rest)
  finalize _ := (.ok (), [])
  drop _ := []

/-- A queue of one place and a recording whose second sample cannot be written, but all others can.
Of four packets, the first is queued, the second comes after a gap and is dropped, the third has the
sample that fails, and the fourth can be recorded again and is dropped. -/
theorem books_agree_gap_drop_failure :
    let s : Station scripted :=
      { ledger := .opened ⟨0⟩ reportPeriod 20 true
        queue := some { capacity := 1 }
        recording := some { path := "r.wav", channels := 1, writer := [true, false, true] } }
    let steps : List Step :=
      [.packet .bare ⟨{ sequence := 7 }, [1]⟩ [] [],
       .packet .oneWorker ⟨{ sequence := 9 }, [2, 0]⟩ [] [], .report ⟨5⟩,
       .packet .manyWorkers ⟨{ sequence := 10 }, [3, 0, 4, 0]⟩ [] [],
       .packet .manyWorkers ⟨{ sequence := 11 }, [5, 0]⟩ [] []]
    let h := s.run steps
    s.ledger.losses = .opened ⟨0⟩ ∧ s.metrics = {} ∧
      h.station.ledger.losses.received = 4 ∧ h.station.metrics.packetsLost.toNat = 1 ∧
      h.station.metrics.bytesReceived.toNat = 9 ∧ h.events.filterMap Event.queued? = [[1]] ∧
      h.station.drops.toNat = 2 ∧
      h.events.map Event.failed = [false, false, false, true, false] := by
  intro s steps h
  obtain ⟨-, -, hlost, hreceived, hbytes, -, hlost', hbytes', hqueue, -⟩ :=
    books_agree s ⟨0⟩ steps rfl rfl
  have hrun : h.events.filterMap Event.queued? = [[1]] ∧
      h.events.map Event.failed = [false, false, false, true, false] := by
    decide +kernel
  have hfailed : h.events.countP Event.failed = 1 := by
    have hcount := List.countP_map (p := id) (f := Event.failed) (l := h.events)
    rw [hrun.2] at hcount
    exact hcount.symm
  have hfour : (steps.filterMap Step.packet?).length < 2 ^ 64 := by decide
  have hpartition : 1 + h.station.drops.toNat + 1 = 4 := by
    have hall := (hqueue _ rfl).2.2 hfour
    rw [hrun.1, hfailed] at hall
    exact hall
  refine ⟨rfl, rfl, hreceived, (hlost' ?_).trans hlost, (hbytes' ?_).trans hbytes, hrun.1, ?_,
    hrun.2⟩
  · rw [hlost]
    decide
  · rw [hbytes]
    decide
  · omega

end Station

end ToneLink
