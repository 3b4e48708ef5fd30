import RfBoard.Calibration
import RfBoard.Fault
import RfBoard.NameTable

namespace RfBoard

inductive Conversion where
  | identity
  /-- `raw * numerator / denominator + offset` -/
  | scale (numerator denominator offset : Float) (signed : Bool)
  | reflection (pair : Nat)
  | vswrHold
deriving Repr

namespace Conversion

def ratio (numerator denominator : Float) : Conversion := scale numerator denominator 0 true

def phase : Conversion := ratio 180 32768

def gain : Conversion := ratio 1 4096

def rampTime : Conversion := ratio (20 * 65536) 1e9

def prtCount : Conversion := ratio 6.25 1000

def setFrequency : Conversion := scale 480000000 4294967296 (-180000000) false

def measuredFrequency : Conversion := scale 480 4294967296 0 false

def isIdentity : Conversion → Bool
  | identity => true
  | _ => false

def checkFinite (quantity : String) (x : Float) : Except DomainError Float :=
  if x.isFinite then .ok x else .error (.notFinite quantity)

def wordRange (signed : Bool) : Int × Int := if signed then (-2147483648, 2147483647) else (0, 4294967295)

def toWord (quantity : String) (signed : Bool) (x : Float) : Except DomainError UInt32 :=
  (checkFinite quantity x).bind fun x =>
    let n := Number.nearest x
    if n < (wordRange signed).1 ∨ n > (wordRange signed).2 then .error (.outOfRange quantity x)
    else .ok (UInt32.ofInt n)

def chain (quantity : String) (cal : Calibration) (pair : Nat) :
    Except DomainError (ChannelCalibration × ChannelCalibration) :=
  match cal.pair? pair with
  | some c => .ok c
  | none => .error (.outOfRange quantity (Float.ofNat pair))

def holdScale (cal : Calibration) : Float := cal.forward1.scale

def value (quantity : String) (cal : Calibration) (raw : UInt32) : Conversion → Except DomainError Float
  | identity => .ok (Number.ofWord true raw)
  | scale numerator denominator offset signed =>
    .ok (Number.ofWord signed raw * numerator / denominator + offset)
  | reflection pair => do
    let (f, r) ← chain quantity cal pair
    let t := (Number.ofWord true raw / 1024 * f.k / r.k).sqrt
    if t == 1 then .error (.divisionByZero quantity) else .ok ((t + 1) / (t - 1))
  | vswrHold => .ok (Number.ofWord true raw * 8192 * holdScale cal)

def forward (quantity : String) (cal : Calibration) (c : Conversion) (raw : UInt32) : Except DomainError Float :=
  (c.value quantity cal raw).bind (checkFinite quantity)

def word (quantity : String) (cal : Calibration) (x : Float) : Conversion → Except DomainError UInt32
  | identity => toWord quantity true x
  | scale numerator denominator offset signed =>
    toWord quantity signed ((x - offset) * denominator / numerator)
  | reflection pair => do
    let (f, r) ← chain quantity cal pair
    if x == 1 then .error (.divisionByZero quantity)
    else
      let t := (x + 1) / (x - 1)
      toWord quantity true (t * t * r.k / f.k * 1024)
  | vswrHold => toWord quantity true (x / holdScale cal / 8192)

def inverse (quantity : String) (cal : Calibration) (c : Conversion) (x : Float) : Except DomainError UInt32 :=
  (checkFinite quantity x).bind fun x => c.word quantity cal x

end Conversion

structure ConversionTable where
  entries : NameTable Conversion
  calibration : Calibration

namespace ConversionTable

def identity (cal : Calibration) : ConversionTable := ⟨[], cal⟩

def insert (t : ConversionTable) (name : String) (c : Conversion) : ConversionTable :=
  { t with entries := t.entries.insert name c }

def find (t : ConversionTable) (name : String) : Conversion := (t.entries.find name).getD .identity

def names (t : ConversionTable) : List String := t.entries.map (·.1)

def forward (t : ConversionTable) (name : String) (raw : UInt32) : Except DomainError Float :=
  (t.find name).forward name t.calibration raw

def inverse (t : ConversionTable) (name : String) (x : Float) : Except DomainError UInt32 :=
  (t.find name).inverse name t.calibration x

def standardEntries : NameTable Conversion := [
  ("sp_freq", .setFrequency),
  ("Qset", .ratio 1 1000),
  ("powup_time", .rampTime),
  ("powdown_time", .rampTime),
  ("powup_hold_time", .rampTime),
  ("powdown_hold_time", .rampTime),
  ("PRT_Start_count", .prtCount),
  ("PRT_End_count", .prtCount),
  ("sp_phase", .phase),
  ("beam_phase", .phase),
  ("ad_adj_imag", .phase),
  ("da_adj_imag", .phase),
  ("da_adj_imag2", .phase),
  ("sp_phase_state", .phase),
  ("ad_adj_real", .gain),
  ("da_adj_real", .gain),
  ("da_adj_real2", .gain),
  ("Overdrive", .ratio 1 100000),
  ("SP_P", .reflection 0),
  ("SP_P_1", .reflection 1),
  ("SP_P_2", .reflection 2),
  ("SP_P_3", .reflection 3),
  ("Ch_VSWR_Hold", .vswrHold),
  ("freq_cal_state", .measuredFrequency)]

def standard (cal : Calibration) : ConversionTable := ⟨standardEntries, cal⟩

end ConversionTable

end RfBoard
