import RfBoard.Json.Basic
import RfBoard.Number.Hex

namespace RfBoard.Json

def skipBlanks (cs : List Char) : List Char := cs.dropWhile Char.isWhitespace

def hexNumber? (cs : List Char) : Option Nat :=
  cs.foldlM (fun n c => (Number.hexDigit? c).map (16 * n + ·)) 0

def unescape : Char → Char
  | 'n' => '\n'
  | 't' => '\t'
  | 'r' => '\r'
  | 'b' => '\x08'
  | 'f' => '\x0c'
  | c => c

def isHighSurrogate (n : Nat) : Bool := 0xD800 ≤ n && n < 0xDC00

def joinSurrogates (high low : Nat) : Char := Char.ofNat (0x10000 + (high - 0xD800) * 0x400 + (low - 0xDC00))

/-- The characters of a string after its opening quote, and the rest. A high surrogate waits in
`high` for the low one. -/
def readString (high : Option Nat) (seen : List Char) : List Char → Option (String × List Char)
  | [] => none
  | '"' :: cs => some (String.ofList seen.reverse, cs)
  | '\\' :: 'u' :: a :: b :: c :: d :: cs =>
    match hexNumber? [a, b, c, d], high with
    | none, _ => none
    | some n, some m => readString none (joinSurrogates m n :: seen) cs
    | some n, none =>
      if isHighSurrogate n then readString (some n) seen cs else readString none (Char.ofNat n :: seen) cs
  | '\\' :: c :: cs => readString none (unescape c :: seen) cs
  | c :: cs => readString none (c :: seen) cs

def isNumberChar (c : Char) : Bool := c.isDigit || c == '-' || c == '+' || c == '.' || c == 'e' || c == 'E'

mutual

def readValue : (fuel : Nat) → List Char → Option (Json × List Char)
  | 0, _ => none
  | fuel + 1, cs =>
    match skipBlanks cs with
    | 'n' :: 'u' :: 'l' :: 'l' :: cs => some (null, cs)
    | 't' :: 'r' :: 'u' :: 'e' :: cs => some (bool true, cs)
    | 'f' :: 'a' :: 'l' :: 's' :: 'e' :: cs => some (bool false, cs)
    | '"' :: cs => (readString none [] cs).map fun (s, cs) => (str s, cs)
    | '[' :: cs =>
      match skipBlanks cs with
      | ']' :: cs => some (arr [], cs)
      | cs => readItems fuel [] cs
    | '\x7b' :: cs =>
      match skipBlanks cs with
      | '\x7d' :: cs => some (obj [], cs)
      | cs => readMembers fuel [] cs
    | cs => some (num (String.ofList (cs.takeWhile isNumberChar)), cs.dropWhile isNumberChar)

def readItems : (fuel : Nat) → List Json → List Char → Option (Json × List Char)
  | 0, _, _ => none
  | fuel + 1, seen, cs => do
    let (v, cs) ← readValue fuel cs
    match skipBlanks cs with
    | ',' :: cs => readItems fuel (v :: seen) cs
    | ']' :: cs => some (arr (v :: seen).reverse, cs)
    | _ => none

def readMembers : (fuel : Nat) → List (String × Json) → List Char → Option (Json × List Char)
  | 0, _, _ => none
  | fuel + 1, seen, cs => do
    let '"' :: cs := skipBlanks cs | none
    let (name, cs) ← readString none [] cs
    let ':' :: cs := skipBlanks cs | none
    let (v, cs) ← readValue fuel cs
    match skipBlanks cs with
    | ',' :: cs => readMembers fuel ((name, v) :: seen) cs
    | '\x7d' :: cs => some (obj ((name, v) :: seen).reverse, cs)
    | _ => none

end

def read? (text : String) : Option Json :=
  let cs := text.toList
  (readValue (cs.length + 1) cs).bind fun (v, rest) => if (skipBlanks rest).isEmpty then some v else none

end RfBoard.Json
