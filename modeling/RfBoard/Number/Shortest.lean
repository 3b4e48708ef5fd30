import RfBoard.Number.Exact

/-!
The shortest decimal that reads back to a double, and the nearest of these.
-/

namespace RfBoard.Number

structure Decimal where
  digits : Nat
  exponent : Int
deriving DecidableEq, Repr

def compareScaled (a : Nat) (k : Int) (b : Nat) (e : Int) : Ordering :=
  compare ((a * Nat.pow 10 k.toNat) <<< (-e).toNat) (b <<< e.toNat * Nat.pow 10 (-k).toNat)

def narrowBelow (m : Nat) (e : Int) : Bool := m == 0x10000000000000 && e > -1074

/-- `d` lies among the reals that round to `m * 2 ^ e`, ties going to the even mantissa. -/
def readsBack (m : Nat) (e : Int) (d : Decimal) : Bool :=
  let low := compareScaled d.digits d.exponent (if narrowBelow m e then 4 * m - 1 else 4 * m - 2) (e - 2)
  let high := compareScaled d.digits d.exponent (4 * m + 2) (e - 2)
  if m % 2 = 0 then low.isGE && high.isLE else low == .gt && high == .lt

def quotient (m : Nat) (e k : Int) : Nat :=
  m <<< e.toNat * Nat.pow 10 (-k).toNat / (Nat.pow 10 k.toNat <<< (-e).toNat)

def magnitude (m : Nat) (e : Int) : Int :=
  let guess := ((m.log2 : Int) + e) * 30103 / 100000
  if compareScaled 1 guess m e == .gt then guess
  else if compareScaled 1 (guess + 1) m e == .gt then guess + 1
  else guess + 2

def onGrid (m : Nat) (e k : Int) : Option Decimal :=
  let below : Decimal := ⟨quotient m e k, k⟩
  let above : Decimal := ⟨below.digits + 1, k⟩
  match readsBack m e below, readsBack m e above with
  | true, true => some (if compareScaled (2 * below.digits + 1) k (2 * m) e == .gt then below else above)
  | true, false => some below
  | false, true => some above
  | false, false => none

def stripZeros : Nat → Decimal → Decimal
  | 0, d => d
  | n + 1, d => if d.digits % 10 = 0 then stripZeros n ⟨d.digits / 10, d.exponent + 1⟩ else d

def exactDecimal (m : Nat) (e : Int) : Decimal :=
  if 0 ≤ e then ⟨m <<< e.toNat, 0⟩ else ⟨m * Nat.pow 5 (-e).toNat, e⟩

def select (m : Nat) (e : Int) : Decimal :=
  let top := magnitude m e
  let found := (List.range 17).findSome? fun (n : Nat) => onGrid m e (top - n - 1)
  stripZeros 18 (found.getD (exactDecimal m e))

def digitChars (n : Nat) : List Char := Nat.toDigits 10 n

def Decimal.positional (d : Decimal) : List Char :=
  let ds := digitChars d.digits
  if 0 ≤ d.exponent then ds ++ List.replicate d.exponent.toNat '0'
  else
    let places := (-d.exponent).toNat
    if places < ds.length then
      ds.take (ds.length - places) ++ '.' :: ds.drop (ds.length - places)
    else '0' :: '.' :: List.replicate (places - ds.length) '0' ++ ds

def signed (negative : Bool) (cs : List Char) : List Char := if negative then '-' :: cs else cs

/-- The text of a double: the shortest digits that read back, never an exponent, no point in an
integer, the sign of a negative zero kept. -/
def text (x : Float) : String :=
  String.ofList <| match exact x with
    | .nan => ['N', 'a', 'N']
    | .infinite s => signed s ['i', 'n', 'f']
    | .finite s 0 _ => signed s ['0']
    | .finite s m e => signed s (select m e).positional

def pointText (x : Float) : String :=
  let t := text x
  if t.contains '.' || !x.isFinite then t else t ++ ".0"

end RfBoard.Number
