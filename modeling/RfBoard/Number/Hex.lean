namespace RfBoard.Number

def hexChars (n : Nat) : List Char := (Nat.toDigits 16 n).map Char.toUpper

def hex (n : Nat) : String := String.ofList (hexChars n)

def hexPadded (width n : Nat) : String :=
  String.ofList (List.replicate (width - (hexChars n).length) '0' ++ hexChars n)

def hexDigit? (c : Char) : Option Nat :=
  if c.isDigit then some (c.toNat - 48)
  else if 'a' ≤ c.toLower && c.toLower ≤ 'f' then some (c.toLower.toNat - 87)
  else none

def hexOfBytes (bs : List UInt8) : String :=
  String.ofList (bs.flatMap fun b => [Nat.digitChar (b.toNat / 16), Nat.digitChar (b.toNat % 16)])

def bytesOfHex? : List Char → Option (List UInt8)
  | [] => some []
  | a :: b :: cs => do
    let high ← hexDigit? a
    let low ← hexDigit? b
    return UInt8.ofNat (16 * high + low) :: (← bytesOfHex? cs)
  | _ => none

end RfBoard.Number
