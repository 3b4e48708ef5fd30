import RfBoard.Telemetry.Frame

namespace RfBoard

structure TelemetryStore where
  frame : Frame := .zero
  probe : Option Probe := none
  probeIndex : Int64 := 0
  /-- How many frames were published, which tells equal frames apart. -/
  publications : Nat := 0

namespace TelemetryStore

def setProbeIndex (s : TelemetryStore) (index : Int64) : TelemetryStore := { s with probeIndex := index }

def projection (frame : Frame) (index : Int64) : Option Probe :=
  if index < 0 then none else frame.project index.toInt.toNat

def publish (s : TelemetryStore) (frame : Frame) : TelemetryStore × Frame :=
  match s with
  | ⟨previous, probe, index, count⟩ =>
    (⟨frame, (projection frame index).or probe, index, count + 1⟩, previous)

def probeValue (s : TelemetryStore) (c : DerivedChannel) : Float := (s.probe.map (·.value c)).getD 0

end TelemetryStore

end RfBoard
