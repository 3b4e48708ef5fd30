import RfBoard.Link
import RfBoard.Station.Acquisition
import RfBoard.Station.Parameters

namespace RfBoard

structure LiveStation where
  setup : Setup
  plan : Plan
  station : Station Link

namespace LiveStation

def check (plan : Plan) (cal : Calibration) : Except ConfigError Unit :=
  if !cal.isValid then .error .calibrationInvalid
  else if plan.periodMs = 0 then .error .stationPeriodZero
  else .ok ()

def connect (plan : Plan) (cal : Calibration) (registers : RegisterMap) (probeIndex : Int64)
    (link : Except TransportError Link) : Except StationError LiveStation := do
  (check plan cal).mapError .config
  let bus ← link.mapError .transport
  return {
    setup := { registers, conversions := .standard cal, calibration := cal }
    plan
    station := { bus, store := { probeIndex } } }

def onStation {α : Type} (f : Station Link → α × Station Link) : LiveStation → α × LiveStation
  | ⟨setup, plan, station⟩ =>
    let (a, station) := f station
    (a, ⟨setup, plan, station⟩)

def advance (s : LiveStation) : Except StationError CycleOutcome × LiveStation :=
  s.onStation (Station.iterate s.plan s.setup.calibration)

def perform {α : Type} (f : StationM Link α) : LiveStation → Except StationError α × LiveStation :=
  onStation (Station.perform f)

def access {α : Type} (f : AccessM Link α) : LiveStation → Except TransportError α × LiveStation :=
  onStation (Station.onBus f.perform)

def changeBoard (f : SimBoard → SimBoard) (s : LiveStation) : LiveStation :=
  (s.onStation (Station.onBus fun bus => ((), bus.changeBoard f))).2

def read (s : LiveStation) (name : String) : Except StationError ParamValue × LiveStation :=
  s.perform (Station.readParameter s.setup name)

def write (s : LiveStation) (name : String) (v : ParamValue) : Except StationError Unit × LiveStation :=
  s.perform (Station.writeParameter s.setup name v)

def readAll (s : LiveStation) : List (String × Except StationError ParamValue) × LiveStation :=
  s.onStation (Station.readAll s.setup)

def setProbeIndex (s : LiveStation) (index : Int64) : LiveStation :=
  (s.perform (Station.setProbeIndex index)).2

def frame (s : LiveStation) : Frame := s.station.store.frame

def awaited (s : LiveStation) (cycle : UInt64) : Except StationError Frame :=
  if s.frame.cycle ≥ cycle then .ok s.frame else .error .timeout

end LiveStation

end RfBoard
