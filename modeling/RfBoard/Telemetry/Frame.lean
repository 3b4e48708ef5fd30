import RfBoard.Telemetry.Channel

namespace RfBoard

structure Frame where
  cycle : UInt64
  samples : Vector Float 94208
  faults : Vector UInt32 23

structure Probe where
  index : Nat
  cycle : UInt64
  values : Vector Float 23

namespace Probe

def value (p : Probe) (c : DerivedChannel) : Float := p.values[c.index]

def named (p : Probe) : List (String × Float) := DerivedChannel.all.map fun c => (c.probeName, p.value c)

end Probe

namespace Frame

def zero : Frame := ⟨0, Vector.replicate 94208 0, Vector.replicate 23 0⟩

def place (c : Fin 23) (i : Fin 4096) : Fin 94208 := ⟨c * 4096 + i, by omega⟩

def sample (f : Frame) (c : DerivedChannel) (i : Fin 4096) : Float := f.samples[place c.index i]

def setSample (f : Frame) (c : DerivedChannel) (i : Fin 4096) (x : Float) : Frame :=
  match f with
  | ⟨cycle, samples, faults⟩ => ⟨cycle, samples.set (place c.index i) x, faults⟩

def setRange (f : Frame) (c : DerivedChannel) (start stop : Nat) (g : Nat → Float) : Frame :=
  (List.range' start (stop - start)).foldl (fun f i => f.setSample c ⟨i % 4096, Nat.mod_lt i (by decide)⟩ (g i)) f

def setRamp (f : Frame) (c : DerivedChannel) (start stop : Nat) (value step : Float) : Frame :=
  f.setRange c start (min stop 4096) fun i => value + step * Float.ofNat (i - start)

def faultsOf (f : Frame) (c : DerivedChannel) : UInt32 := f.faults[c.index]

def totalFaults (f : Frame) : UInt32 := f.faults.toList.foldl (· + ·) 0

def isPublished (f : Frame) : Bool := f.cycle > 0

def project (f : Frame) (index : Nat) : Option Probe :=
  if h : index < 4096 then
    some ⟨index, f.cycle, Vector.ofFn fun c => f.samples[place c ⟨index, h⟩]⟩
  else none

end Frame

end RfBoard
