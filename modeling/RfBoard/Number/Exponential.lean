import RfBoard.Number.Shortest

namespace RfBoard.Number

def Decimal.exponential (d : Decimal) : List Char :=
  let ds := digitChars d.digits
  let fraction := ds.drop 1
  ds.take 1 ++ (if fraction.isEmpty then [] else '.' :: fraction) ++
    'e' :: (toString (d.exponent + fraction.length)).toList

def Decimal.pointPlace (d : Decimal) : Int := (digitChars d.digits).length + d.exponent

def exponentialText (x : Float) : Option String :=
  match exact x with
  | .finite s m e =>
    let d := select m e
    if m ≠ 0 ∧ ¬(-5 < d.pointPlace ∧ d.pointPlace ≤ 16) then some (String.ofList (signed s d.exponential))
    else some (pointText x)
  | _ => none

end RfBoard.Number
