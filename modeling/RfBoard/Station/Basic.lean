import RfBoard.Conversion
import RfBoard.Listener
import RfBoard.Metrics
import RfBoard.Register.Standard
import RfBoard.Telemetry.Store
import RfBoard.Transport
import RfBoard.Waveform.Derive

namespace RfBoard

inductive ParamValue where
  | int (v : Int64)
  | real (x : Float)
deriving Repr

namespace ParamValue

def toReal : ParamValue → Float
  | int v => Float.ofInt v.toInt
  | real x => x

def toInt64 : ParamValue → Int64
  | int v => v
  | real x => Number.truncate x

def ofKind : Kind → Float → ParamValue
  | .int, x => int (Number.truncate x)
  | .real, x => real x

def text : ParamValue → String
  | int v => toString v.toInt
  | real x => Number.text x

end ParamValue

inductive Phase where
  | idle
  | fetching
  | converting
  | publishing
deriving DecidableEq, Repr

namespace Phase

def code : Phase → UInt8
  | idle => 0
  | fetching => 1
  | converting => 2
  | publishing => 3

def ofCode (code : UInt8) : Phase :=
  if code = 1 then fetching else if code = 2 then converting else if code = 3 then publishing else idle

def isBusy (p : Phase) : Bool := p != idle

def name : Phase → String
  | idle => "Idle"
  | fetching => "Fetching"
  | converting => "Converting"
  | publishing => "Publishing"

end Phase

structure Plan where
  periodMs : UInt64 := 1000
  waveformOffset : UInt32 := Waveform.offset
  handshake : Bool := false
deriving DecidableEq, Repr

structure Buffers where
  bytes : Bytes
  raw : RawWaveform
  spare : Frame
  size_bytes : bytes.size = 114688

def Buffers.empty : Buffers where
  bytes := Array.replicate 114688 0
  raw := .zero
  spare := .zero
  size_bytes := Array.size_replicate

structure Setup where
  registers : RegisterMap := .standard
  conversions : ConversionTable := .standard .standard
  calibration : Calibration := .standard

structure Station (σ : Type) where
  bus : σ
  cache : NameTable ParamValue := []
  store : TelemetryStore := {}
  listeners : Listeners := {}
  metrics : Metrics := {}
  buffers : Buffers := .empty
  /-- The stages entered since the last rest, the latest first. -/
  trail : List Phase := []

abbrev StationM (σ : Type) := EStateM StationError (Station σ)

namespace Station

variable {σ : Type}

def phase (s : Station σ) : Phase := s.trail.headD .idle

def enter (p : Phase) : StationM σ Unit :=
  modify fun s => { s with trail := if p = .idle then [] else p :: s.trail }

def access {α : Type} (f : AccessM σ α) : StationM σ α :=
  fun ⟨bus, cache, store, listeners, metrics, buffers, trail⟩ =>
    match f bus with
    | .ok a bus => .ok a ⟨bus, cache, store, listeners, metrics, buffers, trail⟩
    | .error e bus => .error (.transport e) ⟨bus, cache, store, listeners, metrics, buffers, trail⟩

def convert {α : Type} : Except DomainError α → StationM σ α
  | .ok a => pure a
  | .error e => throw (.domain e)

def perform {α : Type} (f : StationM σ α) (s : Station σ) : Except StationError α × Station σ :=
  match f s with
  | .ok a s => (.ok a, s)
  | .error e s => (.error e, s)

def onBus {α : Type} (f : σ → α × σ) : Station σ → α × Station σ
  | ⟨bus, cache, store, listeners, metrics, buffers, trail⟩ =>
    let (a, bus) := f bus
    (a, ⟨bus, cache, store, listeners, metrics, buffers, trail⟩)

end Station

end RfBoard
