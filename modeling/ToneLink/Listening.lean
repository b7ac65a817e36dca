import ToneLink.Net.ReceiveSocket
import ToneLink.Station

/-!
# Listening

The receiving side at work: it waits for datagrams, hands packets to the station, and looks after
each wait whether a report is due. That a socket fails is logged and nothing else. When it is told
to stop it makes a last report.

- `Listening.step`, `Listening.steps`: what one wait comes to, and many;
- `Listening.stop`: the end of a run;
- `Listening.run`: a whole run.
-/

namespace ToneLink

open Net

/-- The state of a running receiver: its socket and its station. -/
structure Listening (lib : Wave.Library) where
  socket : ReceiveSocket
  station : Station lib

namespace Listening

variable {lib : Wave.Library}

/-- What a step or a run came to. A recording that fails ends the run. -/
structure Progress (lib : Wave.Library) where
  state : Listening lib
  log : List Log.Entry
  result : Except RecordingError Unit

/-- Takes in what a wait ended with, at an instant that decides whether a report is due. -/
def step (l : Listening lib) (host : JitterQueue.Host) (incoming : Incoming) (now : Instant) :
    Progress lib :=
  let (event, socket, log) := l.socket.take incoming
  let (station, stationLog, result) : Station lib × List Log.Entry × Except RecordingError Unit :=
    match event with
    | .timedOut => (l.station, [], .ok ())
    | .undersized _ => (l.station.rejectUndersized, [], .ok ())
    | .failed message => (l.station, [⟨.warn, .receiver, message⟩], .ok ())
    | .packet p =>
      let r := l.station.receive host p
      (r.station, r.log, r.result)
  match result with
  | .error e => ⟨⟨socket, station⟩, log ++ stationLog, .error e⟩
  | .ok () =>
    let (report, station) := station.reportIfDue now
    ⟨⟨socket, station⟩, log ++ stationLog ++ report.toList.map Report.entry, .ok ()⟩

/-- Takes in what waits end with, one after another, up to the first that cannot be recorded. -/
def steps (l : Listening lib) (host : JitterQueue.Host) : List (Incoming × Instant) → Progress lib
  | [] => ⟨l, [], .ok ()⟩
  | (incoming, now) :: rest =>
    let p := l.step host incoming now
    match p.result with
    | .error _ => p
    | .ok () =>
      let later := p.state.steps host rest
      { later with log := p.log ++ later.log }

/-- Ends a run with a last report. -/
def stop (l : Listening lib) (now : Instant) : Listening lib × List Log.Entry :=
  let (report, station) := l.station.report now
  ({ l with station }, [⟨.info, .receiver, "Receive loop stopped"⟩, report.entry])

/-- A whole run: the waits, and the last report unless the recording failed. -/
def run (l : Listening lib) (host : JitterQueue.Host) (waits : List (Incoming × Instant))
    (stopAt : Instant) : Progress lib :=
  let p := l.steps host waits
  match p.result with
  | .error _ => p
  | .ok () =>
    let (state, log) := p.state.stop stopAt
    ⟨state, p.log ++ log, .ok ()⟩

end Listening

end ToneLink
