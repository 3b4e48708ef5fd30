import RfBoard.Json.Printing
import RfBoard.Number.Fixed
import RfBoard.Station.Basic

namespace RfBoard.Monitor

def padRight (width : Nat) (s : String) : String := s.pushn ' ' (width - s.length)

def padLeft (width : Nat) (s : String) : String := "".pushn ' ' (width - s.length) ++ s

def probeLines (p : Probe) : List String :=
  s!"cycle {p.cycle} @ point {p.index}" ::
    p.named.map fun (name, x) => "  " ++ padRight 40 name ++ " " ++ padLeft 16 (Number.fixed 6 x)

def probeJson (p : Probe) : Json :=
  .obj [
    ("cycle", .ofNat p.cycle.toNat),
    ("index", .ofNat p.index),
    ("values", .obj ((p.named.mergeSort fun a b => a.1 ≤ b.1).map fun (name, x) => (name, .ofReal x)))]

def registerLine : String × Except StationError ParamValue → String
  | (name, .ok v) => padRight 32 name ++ " " ++ v.text
  | (name, .error e) => padRight 32 name ++ " <" ++ e.message ++ ">"

end RfBoard.Monitor
