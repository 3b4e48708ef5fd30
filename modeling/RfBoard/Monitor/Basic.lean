import RfBoard.Monitor.Options
import RfBoard.Monitor.Report
import RfBoard.Station.Live
import RfBoard.Text.Quoted
import RfBoard.Waveform.Pulse

namespace RfBoard.Monitor

inductive Failure where
  | station (e : StationError)
  | cannotOpen (path : String) (e : StationError)
  | notAnAssignment (text : String)
  | notANumber (name value : String)

def whyNotANumber (value : String) : String :=
  if value.isEmpty then "cannot parse float from empty string" else "invalid float literal"

def Failure.message : Failure → String
  | station e => ": ".intercalate e.chain
  | cannotOpen path e => "failed to open " ++ path ++ ": " ++ ": ".intercalate e.chain
  | notAnAssignment text => "expected NAME=VALUE, got " ++ Text.quoted text
  | notANumber name value =>
    "invalid value for " ++ name ++ ": " ++ Text.quoted value ++ ": " ++ whyNotANumber value

/-- A character in the log. Those that could drive a terminal are written by their codes. -/
def logged (c : Char) : List Char :=
  if c == '\x07' || c == '\x08' || c == '\x0c' || c == '\x1b' || c == '\x7f' then
    '\\' :: 'x' :: (Number.hexOfBytes [c.toUInt8]).toList
  else if '\x80' ≤ c && c ≤ '\x9f' then Text.byCodePoint c
  else [c]

def Failure.logLine (e : Failure) : String := String.ofList (e.message.toList.flatMap logged)

def readValue (text : List Char) : Option ParamValue :=
  ((integer? (String.ofList text)).map .int).or ((Number.real? text).map .real)

def readAssignment (text : String) : Except Failure (String × ParamValue) :=
  match splitEquals text.toList with
  | (_, none) => .error (.notAnAssignment text)
  | (name, some value) =>
    match readValue (Text.trim value) with
    | some v => .ok (String.ofList (Text.trim name), v)
    | none => .error (.notANumber (String.ofList name) (String.ofList (Text.trim value)))

def refresh (handshake : Bool) (cycle : UInt64) (board : SimBoard) : SimBoard :=
  let board := board.loadWaveform (.pulse cycle)
  if handshake then board.poke Station.readyOffset 1 else board

end Monitor

structure Monitor where
  options : Monitor.Options
  handshake : Bool
  queue : Nat
  live : LiveStation

namespace Monitor

def queueCapacity : Nat := 4

def link (o : Options) (c : Config) (opened : Except FileError Unit) : Except TransportError Link :=
  if o.simulate then .ok (.simulated (refresh c.plan.handshake 0 (SimBoard.ofSize SimBoard.windowSize)))
  else (CharDevice.ofOpened c.device opened).map .device

def openFailure (o : Options) (c : Config) (e : StationError) : Failure :=
  if o.simulate then .station e else .cannotOpen c.device e

def connect (o : Options) (c : Config) (opened : Except FileError Unit) : Except Failure Monitor :=
  match LiveStation.connect c.plan c.calibration .standard c.probeIndex (link o c opened) with
  | .error e => .error (openFailure o c e)
  | .ok ⟨setup, plan, station⟩ =>
    .ok {
      options := o
      handshake := c.plan.handshake
      queue := station.listeners.all.size
      live := ⟨setup, plan, { station with
        listeners := station.listeners.attach (.queue { capacity := queueCapacity }) }⟩ }

def onLive {α : Type} (f : LiveStation → α × LiveStation) : Monitor → α × Monitor
  | ⟨options, handshake, queue, live⟩ =>
    let (a, live) := f live
    (a, ⟨options, handshake, queue, live⟩)

def advance (m : Monitor) : List String × Monitor :=
  m.onLive fun live =>
    match live.advance with
    | (.ok _, live) => ([], live)
    | (.error e, live) => (["Acquisition cycle dropped: " ++ e.message], live)

def assign : List String → Monitor → Except Failure Unit × Monitor
  | [], m => (.ok (), m)
  | text :: rest, m =>
    match readAssignment text with
    | .error e => (.error e, m)
    | .ok (name, v) =>
      match m.onLive fun live => live.write name v with
      | (.ok _, m) => assign rest m
      | (.error e, m) => (.error (.station e), m)

def dump (m : Monitor) : List String :=
  (m.live.readAll).1.map registerLine

def receive (m : Monitor) : Option Frame × Monitor :=
  m.onLive <| LiveStation.onStation fun station =>
    match station.listeners.queue? m.queue with
    | none => (none, station)
    | some q =>
      let (frame, q) := q.receive
      (frame, { station with listeners := station.listeners.setQueue m.queue q })

def report (m : Monitor) : List String :=
  match m.live.station.store.probe with
  | none => []
  | some p => if m.options.json then [(probeJson p).print] else probeLines p

def hear (m : Monitor) : List String × Monitor :=
  match m.receive with
  | (none, m) => ([], m)
  | (some frame, m) =>
    let (_, m) := m.onLive fun live => ((), live.changeBoard (refresh m.handshake frame.cycle))
    (if frame.cycle % m.options.interval = 0 then m.report else [], m)

inductive Start where
  | failed (reason : Failure)
  | printed (lines : List String)
  | watching (m : Monitor)

def Start.status : Start → UInt32
  | failed _ => 1
  | _ => 0

def start (o : Options) (file : Option (Except ConfigError Config)) (open? : Config → Except FileError Unit) :
    List String × Start :=
  match o.configure file with
  | .error e => ([], .failed (.station (.config e)))
  | .ok c =>
    match connect o c (open? c) with
    | .error e => ([], .failed e)
    | .ok m =>
      let (log, m) := m.advance
      match assign o.settings m with
      | (.error e, _) => (log, .failed e)
      | (.ok _, m) => (log, if o.dump then .printed m.dump else .watching m)

end Monitor

end RfBoard
