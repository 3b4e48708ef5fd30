import RfBoard.Telemetry.Frame

namespace RfBoard

def sampleKey (x : Float) : UInt64 := if x.isNaN then 0x7FF8000000000000 else x.toBits

def addToRuns (x : Float) : List (Nat × Float) → List (Nat × Float)
  | [] => [(1, x)]
  | (n, y) :: runs => if sampleKey x = sampleKey y then (n + 1, x) :: runs else (1, x) :: (n, y) :: runs

def runs (xs : List Float) : List (Nat × Float) := xs.foldr addToRuns []

namespace Frame

def channelSamples (f : Frame) (c : DerivedChannel) : List Float := (List.finRange 4096).map (f.sample c)

def channelRuns (f : Frame) (c : DerivedChannel) : List (Nat × Float) := runs (f.channelSamples c)

end Frame

end RfBoard
