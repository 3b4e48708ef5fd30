namespace RfBoard.Number

inductive Exact where
  | nan
  | infinite (negative : Bool)
  | finite (negative : Bool) (mantissa : Nat) (exponent : Int)
deriving DecidableEq, Repr

def exact (x : Float) : Exact :=
  match x.toModel.unpack with
  | .notANumber => .nan
  | .infinity s => .infinite (s == .negative)
  | .zero s => .finite (s == .negative) 0 0
  | .finite s m e _ => .finite (s == .negative) m e

def withSign (negative : Bool) (n : Nat) : Int := if negative then -n else n

def floorScaled (m : Nat) (e : Int) : Nat :=
  if 0 ≤ e then m <<< e.toNat else m >>> (-e).toNat

def nearestScaled (m : Nat) (e : Int) : Nat :=
  if 0 ≤ e then m <<< e.toNat else ((2 * m) >>> (-e).toNat + 1) / 2

def nearest (x : Float) : Int :=
  match exact x with
  | .finite s m e => withSign s (nearestScaled m e)
  | _ => 0

def clampInt64 (n : Int) : Int64 :=
  Int64.ofInt (max (-9223372036854775808) (min n 9223372036854775807))

/-- The integer part of a double, held at the ends of the 64-bit range; zero for NaN. -/
def truncate (x : Float) : Int64 :=
  match exact x with
  | .nan => 0
  | .infinite s => if s then Int64.minValue else Int64.maxValue
  | .finite s m e => clampInt64 (withSign s (floorScaled m e))

def ofWord (signed : Bool) (raw : UInt32) : Float :=
  if signed && raw ≥ 0x80000000 then -(0 - raw).toFloat else raw.toFloat

def ofSample (s : Int16) : Float := ofWord true s.toInt32.toUInt32

end RfBoard.Number
