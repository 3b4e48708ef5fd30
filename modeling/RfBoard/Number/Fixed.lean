import RfBoard.Number.Shortest

namespace RfBoard.Number

/-- The integer nearest to `a / b`, a tie going to the even one. -/
def roundDiv (a b : Nat) : Nat :=
  let q := a / b
  match compare (2 * (a % b)) b with
  | .lt => q
  | .gt => q + 1
  | .eq => q + q % 2

def pointBefore (places : Nat) (ds : List Char) : List Char :=
  let ds := List.replicate (places + 1 - ds.length) '0' ++ ds
  ds.take (ds.length - places) ++ '.' :: ds.drop (ds.length - places)

def fixed (places : Nat) (x : Float) : String :=
  String.ofList <| match exact x with
    | .nan => ['N', 'a', 'N']
    | .infinite s => signed s ['i', 'n', 'f']
    | .finite s m e =>
      let n := roundDiv (m <<< e.toNat * Nat.pow 10 places) (1 <<< (-e).toNat)
      signed s (pointBefore places (digitChars n))

end RfBoard.Number
