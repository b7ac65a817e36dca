import ToneLink.Link
import ToneLink.Listening
import ToneLink.Proofs.FrameAlignment
import ToneLink.Proofs.SentPackets
import ToneLink.Proofs.WireCodec
import ToneLink.Wave.FileWriter

/-!
# How much of a packet arrives

A sender makes its packets as long as a datagram can be, and a receiver looks at as many bytes of a
datagram as it has buffer for. The two are sized by different rules. Since both count in frames of
the same format, what is cut off is whole frames, and what is left is a packet.

- `Packet.decode_take`: what is left of a packet that is cut anywhere;
- `Link.send_at`: what was sent at a position;
- `SendPlan.Checked.decode_cut`: what a receiver of the same format sees of a packet;
- `Listening.PassesBy`: what is not longer than a header passes by;
- `Link.sizes_agree`: the law from two checked plans to what arrives.
-/

namespace ToneLink

open Net

variable {lib : Wave.Library}

/-! ## Cut datagrams -/

/-- A packet that is cut behind its header loses the end of its audio; one that is cut before is
refused. -/
theorem Packet.decode_take (p : Packet) {length : Nat} (h : length < p.encode.length) :
    decode (p.encode.take length) = if length ≤ 12 then .error ⟨length⟩
      else .ok ⟨p.header, p.payload.take (length - 12)⟩ := by
  have hlength : (p.encode.take length).length = length := by
    rw [List.length_take]
    exact Nat.min_eq_left (Nat.le_of_lt h)
  rcases Nat.lt_or_ge 12 length with hlong | hshort
  · have hsplit : length = Header.size + (length - 12) := by
      rw [Header.size]
      omega
    have haudio : p.payload.take (length - 12) ≠ [] := by
      refine List.ne_nil_of_length_pos ?_
      rw [length_encode, Header.size] at h
      rw [List.length_take]
      omega
    rw [if_neg (Nat.not_le.mpr hlong)]
    conv => lhs; rw [hsplit, encode_take]
    exact decode_encode _ haudio
  · rw [if_pos hshort, decode_of_length_le (hlength.trans_le hshort), hlength]

/-! ## What was sent -/

/-- The header and the datagram at a position of a new link. -/
theorem Link.send_at (plan : SendPlan) (sequence sampleCounter : UInt32) (station : Station lib)
    {timestamps : List UInt32} {k : Nat} (hk : k < timestamps.length) :
    let n := Numbering.startingAt sequence sampleCounter plan.framesPerPacket
    let sent := (Link.opened plan sequence sampleCounter station).send timestamps
    sent.1[k]? = some (n.headerAt k timestamps[k]) ∧
      sent.2.sent[k]? = some (Packet.encode ⟨n.headerAt k timestamps[k], plan.payload⟩) := by
  intro n sent
  have hheaders : (n.headers timestamps).1[k]? = some (n.headerAt k timestamps[k]) := by
    rw [n.headers_getElem?, List.getElem?_eq_getElem hk]
    rfl
  refine ⟨hheaders, ?_⟩
  show (#[] ++ ((n.headers timestamps).1.map fun h =>
    Packet.encode ⟨h, plan.payload⟩).toArray)[k]? = _
  rw [Array.empty_append, List.getElem?_toArray, List.getElem?_map, hheaders]
  rfl

/-! ## What a receiver sees -/

namespace SendPlan

/-- The first frames of a packet's audio, as many as it has of them. -/
def firstFrames (p : SendPlan) (frames : Nat) : Bytes :=
  p.payload.take (p.format.bytesForFrames frames)

/-- There are no more frames than the packet has. -/
theorem firstFrames_eq_min (p : SendPlan) (frames : Nat) :
    p.firstFrames frames = p.firstFrames (min p.framesPerPacket frames) := by
  rcases Nat.le_total frames p.framesPerPacket with hle | hge
  · rw [Nat.min_eq_right hle]
  · have hwhole : p.payload.length = p.format.bytesForFrames p.framesPerPacket := p.length_payload
    rw [Nat.min_eq_left hge, firstFrames, firstFrames, ← hwhole, List.take_length]
    refine List.take_of_length_le ?_
    rw [hwhole]
    exact Nat.mul_le_mul_right _ hge

/-- The first frames are all of them exactly if there are no more. -/
theorem firstFrames_eq_payload_iff {p : SendPlan} (h : p.Checked) (frames : Nat) :
    p.firstFrames frames = p.payload ↔ p.framesPerPacket ≤ frames := by
  have hframe : 0 < p.format.bytesPerFrame := Nat.mul_pos (by decide) h.format.channels_pos
  have hwhole : p.payload.length = p.framesPerPacket * p.format.bytesPerFrame := p.length_payload
  rw [firstFrames, List.take_eq_self_iff, hwhole, PcmFormat.bytesForFrames]
  exact Nat.mul_le_mul_right_iff hframe

/-- What a receiver of the same format sees of a packet: its header and its first frames. -/
theorem Checked.decode_cut {p : SendPlan} (h : p.Checked) {listen : ListenPlan}
    (hformat : listen.format = p.format) (header : Header) :
    Packet.decode ((Packet.encode ⟨header, p.payload⟩).take listen.maxDatagram)
      = .ok ⟨header, p.firstFrames (min p.framesPerPacket maxPayloadFrames)⟩ := by
  rw [ListenPlan.maxDatagram, hformat, ← firstFrames_eq_min]
  exact (h.decode_take header maxPayloadFrames (by decide)).1

end SendPlan

/-- The buffer of a checked receiver takes what its plan says. -/
theorem ListenPlan.Checked.bufferSize_eq {p : ListenPlan} (h : p.Checked) :
    (ReceiveSocket.listening p.maxDatagram).bufferSize = p.maxDatagram := by
  have hchannels := h.format.channels_pos
  show max (12 + 2048 * (2 * p.format.channels.toNat)) 13
    = 12 + 2048 * (2 * p.format.channels.toNat)
  omega

/-- A check whether a report is due concerns the books alone. -/
theorem Station.reportIfDue_frame (s : Station lib) (now : Instant) :
    (s.reportIfDue now).2.ledger = (s.ledger.reportIfDue now).2 ∧
      (s.reportIfDue now).2.queue = s.queue ∧ (s.reportIfDue now).2.playout = s.playout ∧
      (s.reportIfDue now).2.recording = s.recording := by
  by_cases hdue : s.ledger.reporter.isDue now
  · simp [reportIfDue, Ledger.reportIfDue, hdue]
  · simp [reportIfDue, Ledger.reportIfDue, hdue]

namespace Listening

/-- A datagram that is taken for no packet: whatever wait it ends, queue, playout and recording
stay, and the books change by nothing but a report that may be due. -/
structure PassesBy (l : Listening lib) (datagram : Bytes) : Prop where
  event_eq : ∀ source,
    (l.socket.take (.datagram datagram source)).1 = .undersized datagram.length
  ledger_eq : ∀ host source now,
    (l.step host (.datagram datagram source) now).state.station.ledger
      = (l.station.ledger.reportIfDue now).2
  queue_eq : ∀ host source now,
    (l.step host (.datagram datagram source) now).state.station.queue = l.station.queue
  playout_eq : ∀ host source now,
    (l.step host (.datagram datagram source) now).state.station.playout = l.station.playout
  recording_eq : ∀ host source now,
    (l.step host (.datagram datagram source) now).state.station.recording = l.station.recording

/-- What is not longer than a header passes by, if the buffer has room for it. -/
theorem passesBy_of_length_le (l : Listening lib) {datagram : Bytes} (hshort : datagram.length ≤ 12)
    (hbuffer : 12 ≤ l.socket.bufferSize) : l.PassesBy datagram := by
  have hseen : datagram.take l.socket.bufferSize = datagram :=
    List.take_of_length_le (hshort.trans hbuffer)
  have herror := Packet.decode_of_length_le hshort
  have hstation : ∀ host source now,
      (l.step host (.datagram datagram source) now).state.station
        = (l.station.rejectUndersized.reportIfDue now).2 := by
    intro host source now
    simp only [step, ReceiveSocket.take, hseen, herror]
  have hframe := l.station.rejectUndersized.reportIfDue_frame
  constructor
  · intro source
    simp only [ReceiveSocket.take, hseen, herror]
  · intro host source now
    rw [hstation, (hframe now).1]
    rfl
  · intro host source now
    rw [hstation, (hframe now).2.1]
    rfl
  · intro host source now
    rw [hstation, (hframe now).2.2.1]
    rfl
  · intro host source now
    rw [hstation, (hframe now).2.2.2]
    rfl

end Listening

/-! ## The law -/

/-- **Sender and receiver agree on sizes.** Both are checked for one sample rate and one number of
channels. Every packet of the stream, whatever its first header, is exactly as long as planned and
fits into a datagram. The receiver's buffer makes a packet of it with the same header and the tone's
first frames: all of them if there are at most 2048, and otherwise the first 2048. Any other cut
either leaves more than a header, and then a packet with the same header and the audio up to the
cut, or nothing that is a packet. In that case the station is not called, and the datagram passes
by. -/
theorem Link.sizes_agree {frequency amplitude packetMillis jitterMillis : Float}
    {sampleRate channels : Int} {port : UInt16} {send : SendPlan} {listen : ListenPlan}
    (hsend : SendPlan.check frequency amplitude sampleRate channels packetMillis = .ok send)
    (hlisten : ListenPlan.check port sampleRate channels jitterMillis = .ok listen)
    (sequence sampleCounter : UInt32) (station : Station lib) (timestamps : List UInt32) :
    let headers := ((Link.opened send sequence sampleCounter station).send timestamps).1
    let link := ((Link.opened send sequence sampleCounter station).send timestamps).2
    let seen := send.firstFrames (min send.framesPerPacket 2048)
    let bufferSize := (ReceiveSocket.listening listen.maxDatagram).bufferSize
    bufferSize = listen.maxDatagram ∧ send.datagramLength ≤ 65507 ∧
    (seen = send.payload ↔ send.framesPerPacket ≤ 2048) ∧
    ∀ k < timestamps.length, ∃ header datagram,
      headers[k]? = some header ∧ link.sent[k]? = some datagram ∧
      datagram.length = send.datagramLength ∧
      Packet.decode (datagram.take listen.maxDatagram) = .ok ⟨header, seen⟩ ∧
      (∀ (socket : ReceiveSocket) (source : Endpoint), socket.bufferSize = bufferSize →
        (socket.take (.datagram datagram source)).1 = .packet ⟨header, seen⟩) ∧
      ∀ length < datagram.length,
        (12 < length → Packet.decode (datagram.take length)
          = .ok ⟨header, send.payload.take (length - 12)⟩) ∧
        (length ≤ 12 → Packet.decode (datagram.take length) = .error ⟨length⟩ ∧
          (∀ host, link.deliver host datagram (some length) = ⟨link, [], some ⟨length⟩⟩) ∧
          ∀ l : Listening lib, l.socket.bufferSize = bufferSize →
            l.PassesBy (datagram.take length)) := by
  intro headers link seen bufferSize
  have hchecked := SendPlan.checked_of_ok hsend
  have hlistening := ListenPlan.checked_of_ok hlisten
  have hformat : listen.format = send.format :=
    Except.ok.inj ((ListenPlan.format_of_ok hlisten).symm.trans (SendPlan.format_of_ok hsend))
  have hbuffer : bufferSize = listen.maxDatagram := hlistening.bufferSize_eq
  have hwhole : seen = send.payload ↔ send.framesPerPacket ≤ 2048 := by
    rw [← SendPlan.firstFrames_eq_payload_iff hchecked, SendPlan.firstFrames_eq_min]
  refine ⟨hbuffer, hchecked.datagramLength_le, hwhole, ?_⟩
  intro k hk
  obtain ⟨hheader, hdatagram⟩ := Link.send_at send sequence sampleCounter station hk
  generalize Numbering.headerAt _ k timestamps[k] = header at hheader hdatagram
  let packet : Packet := ⟨header, send.payload⟩
  have hlength : packet.encode.length = send.datagramLength := by
    rw [Packet.length_encode]
    exact congrArg (Header.size + ·) send.length_payload
  have hcut : Packet.decode (packet.encode.take listen.maxDatagram) = .ok ⟨header, seen⟩ :=
    hchecked.decode_cut hformat header
  refine ⟨header, packet.encode, hheader, hdatagram, hlength, hcut, ?_, ?_⟩
  · intro socket source hsocket
    rw [← hbuffer, ← hsocket] at hcut
    simp only [ReceiveSocket.take, hcut]
  · intro length hlt
    have hdecode := packet.decode_take hlt
    constructor
    · intro hlong
      rw [hdecode, if_neg (Nat.not_le.mpr hlong)]
    · intro hshort
      rw [if_pos hshort] at hdecode
      refine ⟨hdecode, fun host => ?_, fun l hl => l.passesBy_of_length_le ?_ ?_⟩
      · simp only [Link.deliver, hdecode]
      · rw [List.length_take]
        exact (Nat.min_le_left _ _).trans hshort
      · rw [hl, hbuffer, ListenPlan.maxDatagram]
        exact Nat.le_add_right _ _

/-- Packets of 2400 frames, the second of which wraps its number around. The receiver sees 2048 of
its frames; behind twelve bytes nothing is left of it, behind one more a packet with one byte. -/
theorem Link.sizes_agree_longer_than_buffer :
    ∃ send listen header datagram,
      SendPlan.check 440 1 8000 2 300 = .ok send ∧ ListenPlan.check 0 8000 2 20 = .ok listen ∧
      let station : Station (Wave.onDisk fun _ => .ok .file) :=
        .opened listen ⟨0⟩ ⟨1⟩ false none none
      ((Link.opened send 0xFFFFFFFF 7 station).send [5, 6]).2.sent[1]? = some datagram ∧
      datagram.length = 9612 ∧ send.firstFrames (min send.framesPerPacket 2048) ≠ send.payload ∧
      Packet.decode (datagram.take 12) = .error ⟨12⟩ ∧
      Packet.decode (datagram.take 13) = .ok ⟨header, send.payload.take 1⟩ := by
  have hsizes : (SendPlan.check 440 1 8000 2 300).toOption.map
      (fun send => (send.framesPerPacket, send.datagramLength)) = some (2400, 9612) := by
    decide +kernel
  have hlistens : (ListenPlan.check 0 8000 2 20).isOk = true := by decide +kernel
  cases hlisten : ListenPlan.check 0 8000 2 20 with
  | error e =>
    rw [hlisten] at hlistens
    cases hlistens
  | ok listen =>
    cases hsend : SendPlan.check 440 1 8000 2 300 with
    | error e =>
      rw [hsend] at hsizes
      cases hsizes
    | ok send =>
      rw [hsend] at hsizes
      obtain ⟨hframes, hlength⟩ := Prod.mk.inj (Option.some.inj hsizes)
      obtain ⟨-, -, hwhole, hpackets⟩ :=
        Link.sizes_agree hsend hlisten 0xFFFFFFFF 7
          (.opened listen ⟨0⟩ ⟨1⟩ false none none) [5, 6]
      obtain ⟨header, datagram, -, hdatagram, hplanned, -, -, hcut⟩ := hpackets 1 (by decide)
      have hlong : datagram.length = 9612 := hplanned.trans hlength
      refine ⟨send, listen, header, datagram, rfl, rfl, hdatagram, hlong, ?_, ?_, ?_⟩
      · intro hall
        have hfew := hwhole.mp hall
        omega
      · exact ((hcut 12 (by omega)).2 (by decide)).1
      · exact (hcut 13 (by omega)).1 (by decide)

end ToneLink
