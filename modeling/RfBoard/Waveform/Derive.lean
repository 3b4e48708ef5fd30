import RfBoard.Calibration
import RfBoard.Fault
import RfBoard.Telemetry.Frame
import RfBoard.Waveform.Raw

namespace RfBoard

namespace Signal

def amplitude (i q : Float) : Float := (i * i + q * q).sqrt

def pi : Float := Float.ofBits 0x400921FB54442D18

def phase [Elementary] (i q : Float) : Float := Elementary.atan2 q i * 180 / pi

def wordAngle (raw : Float) : Float := raw / 32768 * 180

def vswr (fwd rfl : Float) : Except DomainError Float :=
  if fwd == rfl then .error (.divisionByZero "VSWR")
  else
    let f := fwd.sqrt
    let r := rfl.sqrt
    let ratio := (f + r) / (f - r)
    if ratio.isFinite then .ok ratio else .error (.notFinite "VSWR")

end Signal

structure DerivedPoint where
  values : Vector Float 23
  undefined1 : Bool
  undefined2 : Bool

namespace DerivedPoint

def nan : Float := 0.0 / 0.0

def ratioOrNaN : Except DomainError Float → Float
  | .ok r => r
  | .error _ => nan

def isError : Except DomainError Float → Bool
  | .ok _ => false
  | .error _ => true

def ofSamples [Elementary] (cal : Calibration) (s : RawChannel → Float) : DerivedPoint :=
  let fwd1 := cal.forward1.power (s .fwd1I) (s .fwd1Q)
  let rfl1 := cal.reflected1.power (s .rfl1I) (s .rfl1Q)
  let fwd2 := cal.forward2.power (s .fwd2I) (s .fwd2Q)
  let rfl2 := cal.reflected2.power (s .rfl2I) (s .rfl2Q)
  let vswr1 := Signal.vswr fwd1 rfl1
  let vswr2 := Signal.vswr fwd2 rfl2
  { values := #v[
      s .pickup2I, Signal.wordAngle (s .pickup2Q), s .pickup1I, Signal.wordAngle (s .pickup1Q),
      Signal.amplitude (s .fwd1I) (s .fwd1Q), Signal.phase (s .fwd1I) (s .fwd1Q), fwd1,
      Signal.amplitude (s .rfl1I) (s .rfl1Q), Signal.phase (s .rfl1I) (s .rfl1Q), rfl1,
      ratioOrNaN vswr1,
      Signal.amplitude (s .fwd2I) (s .fwd2Q), Signal.phase (s .fwd2I) (s .fwd2Q), fwd2,
      Signal.amplitude (s .rfl2I) (s .rfl2Q), Signal.phase (s .rfl2I) (s .rfl2Q), rfl2,
      ratioOrNaN vswr2,
      fwd1 + fwd2 - rfl1 - rfl2, fwd1 + fwd2, rfl1 + rfl2,
      s .dacI, Signal.wordAngle (s .dacQ)]
    undefined1 := isError vswr1
    undefined2 := isError vswr2 }

end DerivedPoint

structure DerivedPart where
  samples : Vector Float 94208
  faults1 : UInt32
  faults2 : UInt32

namespace DerivedPart

def setPoint (samples : Vector Float 94208) (i : Fin 4096) (values : Vector Float 23) : Vector Float 94208 :=
  Nat.fold 23 (fun c h samples => samples.set (Frame.place ⟨c, h⟩ i) values[c]) samples

def count (n : UInt32) (undefined : Bool) : UInt32 := if undefined then n + 1 else n

def step [Elementary] (cal : Calibration) (raw : RawWaveform) (i : Fin 4096) : DerivedPart → DerivedPart
  | ⟨samples, faults1, faults2⟩ =>
    let point := DerivedPoint.ofSamples cal fun c => Number.ofSample (raw.sample c i)
    ⟨setPoint samples i point.values, count faults1 point.undefined1, count faults2 point.undefined2⟩

end DerivedPart

def Frame.ratioFaults (faults1 faults2 : UInt32) : Vector UInt32 23 :=
  ((Vector.replicate 23 0).set DerivedChannel.vswr1.index faults1).set DerivedChannel.vswr2.index faults2

def RawWaveform.derive [Elementary] (raw : RawWaveform) (cal : Calibration) : Frame → Frame
  | ⟨cycle, samples, _⟩ =>
    let part := Nat.fold 4096 (fun i h part => DerivedPart.step cal raw ⟨i, h⟩ part) ⟨samples, 0, 0⟩
    ⟨cycle, part.samples, Frame.ratioFaults part.faults1 part.faults2⟩

end RfBoard
