import Std.Async.Select
import Std.Async.Signal
import Std.Async.Timer
import Std.Async.UDP
import ToneLink.Log.TimeStamp
import ToneLink.Program.Receiver
import ToneLink.Program.Sender
import ToneLink.Schedule
import ToneLink.Wave.FileWriter

/-!
# The command line

`tonelink sender …` streams a tone and `tonelink receiver …` receives one. This module asks the host
for what the programs take as arguments (clock, environment, files, sockets, the user's interrupt)
and shows what they answer. It decides nothing itself.

A host has no sound system as far as this module knows, so the receiver counts and records.
-/

namespace ToneLink.Host

open Std.Async CommandLine Program Net

/-! ### Clock, files and lines -/

/-- The present moment, in microseconds from the start of 1970. -/
def wallClock : IO Nat := do
  return ((← Std.Time.Timestamp.now).toNanosecondsSinceUnixEpoch.val / 1000).toNat

/-- The present instant of the monotonic clock. -/
def now : IO Instant := return ⟨← IO.monoNanosNow⟩

/-- What opening a path for writing comes to. -/
def probe (path : String) : IO (String × Except Disk.Error Disk.Target) := do
  try
    IO.FS.withFile path .append fun _ => pure ()
    return (path, .ok .file)
  catch e =>
    let code : Nat := match e with
      | .noFileOrDirectory _ code _ => code.toNat
      | .inappropriateType _ code _ => code.toNat
      | .invalidArgument _ code _ => code.toNat
      | _ => 0
    return (path, .error ((Disk.Error.ofCode? code).getD .notFound))

/-- What a program finds around it, as far as the paths that it is going to open are concerned. -/
def surroundings (paths : List String) : IO Surroundings := do
  let forbidding ← Log.ColorChoice.disablingVariables.filterM fun name =>
    return (← IO.getEnv name).isSome
  let opened ← paths.mapM probe
  return {
    filter := ← IO.getEnv "RUST_LOG"
    colorForbidden := !forbidding.isEmpty
    isTerminal := ← (← IO.getStderr).isTty
    openFile := fun path => (opened.lookup path).getD (.error .notFound) }

/-- Shows log lines, and copies them to the log file. -/
def emit (logging : Logging) (log : List Log.Entry) : IO Unit := do
  let time := Log.timeStamp (← wallClock)
  for line in logging.console time log do
    IO.eprintln line
  if let some path := logging.filePath then
    IO.FS.withFile path .append fun file => do
      for line in logging.file time log do
        file.putStrLn line

/-- Writes a recording to its file. -/
def save (recording : Recording.Ended) : IO Unit :=
  IO.FS.writeBinFile recording.path ⟨recording.file.toArray⟩

/-- Shows the end of a program of which `shown` log lines have been shown before. -/
def finish (o : Program.Outcome) (shown : Nat) : IO UInt32 := do
  IO.print o.output
  if let some logging := o.logging then
    emit logging (o.log.drop shown)
  o.lastLines.forM fun line => IO.eprintln line
  o.recording.forM save
  return o.exitCode.toUInt32

/-! ### Addresses -/

/-- An endpoint as the socket library has it. -/
def socketAddress (e : Endpoint) : Std.Net.SocketAddress :=
  match e.address with
  | .v4 a b c d => .v4 ⟨.ofParts a b c d, e.port⟩
  | .v6 groups =>
    let g (i : Nat) := groups.getD i 0
    .v6 ⟨.ofParts (g 0) (g 1) (g 2) (g 3) (g 4) (g 5) (g 6) (g 7), e.port⟩

/-- An endpoint of the socket library. -/
def endpoint : Std.Net.SocketAddress → Endpoint
  | .v4 a =>
    let o := a.addr.octets
    { address := .v4 o[0] o[1] o[2] o[3], port := a.port }
  | .v6 a => { address := .v6 a.addr.segments.toList, port := a.port }

/-- Every interface of the host, in the version of an address. -/
def anyAddressFor (e : Endpoint) : Endpoint :=
  match e.address with
  | .v4 .. => Receiver.anyAddress 0
  | .v6 _ => { address := .v6 (List.replicate 8 0), port := 0 }

/-- A socket at an address, and the address that it got. -/
def openSocket (address : Endpoint) : IO (UDP.Socket × Endpoint) := do
  let socket ← UDP.Socket.mk
  socket.bind (socketAddress address)
  return (socket, endpoint (← socket.getSockName))

/-! ### Sending -/

/-- Waits for a deadline; whether the user interrupts first. -/
def waitUntil (deadline : Instant) (interrupt : Signal.Waiter) : Async Bool := do
  let millis := ((deadline.since (← now)).nanos + 999999) / 1_000_000
  Selectable.one #[
    .case interrupt.selector fun _ => pure true,
    .case (← Selector.sleep (.ofNat millis)) fun _ => pure false]

/-- Sends datagrams as they fall due, until the user interrupts or the clock ends. -/
partial def stream (logging : Logging) (socket : UDP.Socket) (interrupt : Signal.Waiter)
    (schedule : Schedule) (s : Streaming) : Async Streaming := do
  if ← waitUntil schedule.next interrupt then return s
  let time := UInt32.ofNat (← wallClock)
  let datagram := s.datagram time
  let reply : Reply ←
    try
      socket.send ⟨datagram.toArray⟩ (some (socketAddress s.socket.destination))
      pure (.took datagram.length)
    catch e => pure (.refused (.other (toString e)))
  let (s, log) := s.sendNext (fun _ _ => reply) time
  emit logging log
  match schedule.advance with
  | .error _ => return s
  | .ok (_, schedule) => stream logging socket interrupt schedule s

/-- Runs the sender. -/
def sender (words : List String) : IO UInt32 := do
  let around ← surroundings []
  let destination := match SenderOptions.command.parse words with
    | .ok o => o.destination
    | .error _ => { address := .v4 0 0 0 0, port := 0 }
  let (socket, own) ← openSocket (anyAddressFor destination)
  match Sender.launch around own.text words with
  | .error o => finish o 0
  | .ok ready =>
    emit ready.logging ready.log
    let interrupt ← Signal.Waiter.mk .sigint true
    let interval := ready.streaming.plan.interval?.getD ⟨0⟩
    let s ← (stream ready.logging socket interrupt (.startingAt interval (← now))
      ready.streaming).block
    emit ready.logging (Sender.close s)
    return 0

/-! ### Receiving -/

/-- Waits for a datagram; nothing, if the user interrupts. -/
def wait (socket : UDP.Socket) (size : Nat) (interrupt : Signal.Waiter) :
    Async (Option Incoming) := do
  try
    Selectable.one #[
      .case interrupt.selector fun _ => pure none,
      .case (socket.recvSelector size.toUInt64) fun (bytes, source) =>
        let source := (source.map endpoint).getD (Receiver.anyAddress 0)
        pure (some (.datagram bytes.toList source)),
      .case (← Selector.sleep (.ofNat (receiveTimeout.nanos / 1_000_000))) fun _ =>
        pure (some .nothing)]
  catch e => pure (some (.failed (toString e)))

/-- Takes in datagrams until the user interrupts or the recording fails. -/
partial def listen (logging : Logging) (socket : UDP.Socket) (interrupt : Signal.Waiter)
    {lib : Wave.Library} (l : Listening lib) : Async (Listening.Progress lib) := do
  match ← wait socket l.socket.bufferSize interrupt with
  | none =>
    let (l, log) := l.stop (← now)
    return ⟨l, StopSignals.interruptEntry :: log, .ok ()⟩
  | some incoming =>
    let p := l.step .oneWorker incoming (← now)
    match p.result with
    | .error _ => return p
    | .ok () =>
      emit logging p.log
      listen logging socket interrupt p.state

/-- Runs the receiver. -/
def receiver (words : List String) : IO UInt32 := do
  let options := (ReceiverOptions.command.parse words).toOption
  let paths := options.toList.flatMap fun o => o.logPath.toList ++ o.recordingPath.toList
  let around ← surroundings paths
  let opened : Except String (UDP.Socket × Endpoint) ←
    try
      pure (.ok (← openSocket (Receiver.anyAddress ((options.map (·.port)).getD 0))))
    catch e => pure (.error (toString e))
  let own := fun _ => opened.map fun (_, own) => own.text
  let lib := Wave.onDisk around.openFile
  match Receiver.launch lib around { default := none, devices := [] } own (← now) words, opened with
  | .error o, _ => finish o 0
  | .ok _, .error report => throw (.userError report)
  | .ok ready, .ok (socket, _) =>
    emit ready.logging ready.log
    let interrupt ← Signal.Waiter.mk .sigint true
    let p ← (listen ready.logging socket interrupt ready.listening).block
    finish (Receiver.finish ready p.log p.state p.result) ready.log.length

end ToneLink.Host

/-- Runs one of the two programs. -/
def main (words : List String) : IO UInt32 :=
  match words with
  | "sender" :: words => ToneLink.Host.sender words
  | "receiver" :: words => ToneLink.Host.receiver words
  | _ => do
    IO.eprintln "usage: tonelink sender | receiver [OPTIONS]"
    return 2
