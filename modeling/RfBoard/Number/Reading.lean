import RfBoard.Number.Exact

namespace RfBoard.Number

def digitValue (c : Char) : Nat := c.toNat - 48

def natOfDigits (ds : List Char) : Nat := ds.foldl (fun n c => 10 * n + digitValue c) 0

/-- The double nearest to `m * 10 ^ e`. Beyond the range of doubles the answer is reached without
the power: ten to the 400 is infinite for them, and its inverse zero. -/
def ofScaled (m : Nat) (e : Int) : Float :=
  if m = 0 then 0
  else if e > 400 then Float.ofScientific 1 false 400
  else if e + (digits m : Int) < -400 then 0
  else Float.ofScientific m (e < 0) e.natAbs
where
  digits (m : Nat) : Nat := m.log2 / 3 + 1

def splitSign : List Char → Bool × List Char
  | '-' :: cs => (true, cs)
  | '+' :: cs => (false, cs)
  | cs => (false, cs)

def applySign (negative : Bool) (x : Float) : Float := if negative then -x else x

def allDigits (cs : List Char) : Bool := !cs.isEmpty && cs.all Char.isDigit

def integer? (cs : List Char) : Option Int :=
  let (negative, ds) := splitSign cs
  if allDigits ds then some (withSign negative (natOfDigits ds)) else none

def exponent? : List Char → Option Int
  | [] => some 0
  | c :: cs => if c == 'e' || c == 'E' then integer? cs else none

def decimal? (cs : List Char) : Option Float :=
  let whole := cs.takeWhile Char.isDigit
  let (fraction, rest) := match cs.dropWhile Char.isDigit with
    | '.' :: cs => (cs.takeWhile Char.isDigit, cs.dropWhile Char.isDigit)
    | cs => ([], cs)
  if whole.isEmpty && fraction.isEmpty then none
  else (exponent? rest).map fun e => ofScaled (natOfDigits (whole ++ fraction)) (e - fraction.length)

def special? (cs : List Char) : Option Float :=
  let word := String.ofList (cs.map Char.toLower)
  if word == "inf" || word == "infinity" then some (1.0 / 0.0)
  else if word == "nan" then some (0.0 / 0.0)
  else none

def real? (cs : List Char) : Option Float :=
  let (negative, cs) := splitSign cs
  ((special? cs).or (decimal? cs)).map (applySign negative)

end RfBoard.Number
