import ToneLink.CommandLine.Sender
import ToneLink.Program.Outcome
import ToneLink.StopSignal
import ToneLink.Streaming

/-!
# The sender

The program reads its command line, checks it, and streams the tone until it is interrupted. What
the network answers and when packets are due are arguments.

- `Sender.launch`: everything before the first packet;
- `Sender.close`: everything after the last one;
- `Sender.run`: a whole run.
-/

namespace ToneLink.Program.Sender

open CommandLine Net Number

/-- A sender that is about to send. -/
structure Ready where
  logging : Logging
  log : List Log.Entry
  streaming : Streaming

/-- What is logged about a checked configuration. -/
def planEntries (o : SenderOptions) (plan : SendPlan) : List Log.Entry :=
  let format := plan.format
  [⟨.info, .sender, "Starting tone sender v" ++ version⟩,
   ⟨.info, .sender,
     "Destination " ++ o.destination.text ++ " | " ++ fixedText 1 plan.frequency
       ++ " Hz at amplitude " ++ fixedText 2 plan.amplitude
       ++ s!" | {format.sampleRate} Hz x{format.channels} | " ++ fixedText 1 plan.packetMillis
       ++ s!" ms packets ({plan.payloadLength} byte payload)"⟩]
  ++ o.metricsAddress.toList.map fun e => ⟨.info, .sender, "Metrics bind: " ++ e.text⟩

/-- Reads and checks a command line; `ownAddress` is the address that the socket gets. -/
def launch (around : Surroundings) (ownAddress : String) (words : List String) :
    Except Outcome Ready :=
  match SenderOptions.command.parse words with
  | .error stop => .error (.ofStop SenderOptions.command stop)
  | .ok o =>
    let logging := Logging.configure around o.logging none
    let log := Logging.complaint o.logging
    match o.plan with
    | .error e =>
      .error (.failed logging (log ++ [⟨.error, .sender, e.message⟩]) (.configuration e))
    | .ok plan =>
      let streaming := Streaming.start plan o.destination
      .ok ⟨logging,
        log ++ planEntries o plan ++ [SendSocket.openedEntry ownAddress, streaming.startEntry],
        streaming⟩

/-- What is logged once the sender has been interrupted. -/
def close (s : Streaming) : List Log.Entry :=
  [StopSignals.interruptEntry, s.stopEntry,
   ⟨.info, .sender,
     s!"Transmission complete: {s.totals.packets} packets, {s.totals.bytes} bytes"⟩]

/-- A run that sends one packet at each of the given times, in microseconds, and is interrupted
after the last one. -/
def run (around : Surroundings) (network : Network) (ownAddress : String)
    (sendingTimes : List UInt32) (words : List String) : Outcome :=
  match launch around ownAddress words with
  | .error o => o
  | .ok ready =>
    let (streaming, log) := ready.streaming.sendAll network sendingTimes
    { logging := some ready.logging, log := ready.log ++ log ++ close streaming }

end ToneLink.Program.Sender
