import RfBoard.Number.Reading
import RfBoard.Toml.Value

namespace RfBoard.Toml

def hexValue (c : Char) : Nat :=
  if c.isDigit then c.toNat - 48 else if 'a' ≤ c && c ≤ 'f' then c.toNat - 87 else c.toNat - 55

def isHexDigit (c : Char) : Bool := c.isDigit || ('a' ≤ c && c ≤ 'f') || ('A' ≤ c && c ≤ 'F')

def isDigitIn (base : Nat) (c : Char) : Bool := isHexDigit c && hexValue c < base

def natInBase (base : Nat) (ds : List Char) : Nat := ds.foldl (fun n c => base * n + hexValue c) 0

def joined? (isDigit : Char → Bool) : (before : Bool) → List Char → Option (List Char)
  | _, [] => some []
  | before, '_' :: cs => if before && cs.head?.any isDigit then joined? isDigit false cs else none
  | _, c :: cs => (joined? isDigit (isDigit c) cs).map (c :: ·)

def withoutUnderscores? (isDigit : Char → Bool) : List Char → Option (List Char)
  | '+' :: cs => joined? isDigit false cs
  | '-' :: cs => (joined? isDigit false cs).map ('-' :: ·)
  | cs => joined? isDigit false cs

def integerInBase? (base : Nat) (cs : List Char) : Option Int :=
  let (negative, ds) := Number.splitSign cs
  if !ds.isEmpty && ds.all (isDigitIn base) then
    let n := Number.withSign negative (natInBase base ds)
    if -0x80000000000000000000000000000000 ≤ n && n < 0x100000000000000000000000000000000 then some n else none
  else none

def integerValue (base : Nat) (text cs : List Char) : Value :=
  ((integerInBase? base cs).map Value.integer).getD (.badNumber (String.ofList text))

def prefixed? (base : Nat) (text ds : List Char) : Option Value :=
  if ds.all fun c => c == '_' || isDigitIn base c then
    (joined? isHexDigit false ds).map (integerValue base text)
  else none

def isExponentMark (c : Char) : Bool := c == 'e' || c == 'E'

def decimal? (cs : List Char) : Option Float :=
  let pointed := match cs.dropWhile (· != '.') with
    | _ :: cs => cs.head?.any Char.isDigit
    | [] => true
  if pointed && cs.head?.any Char.isDigit then Number.decimal? cs else none

def realValue? (text cs : List Char) : Option Value :=
  let (negative, cs) := Number.splitSign cs
  (decimal? cs).map fun x =>
    if x.isFinite then .real (Number.applySign negative x) else .badNumber (String.ofList text)

def hasLeadingZero : List Char → Bool
  | '0' :: cs => (cs.takeWhile fun c => c.isDigit || c == '_').any Char.isDigit
  | _ => false

def field? (length : Nat) (cs : List Char) : Option Nat :=
  if cs.length = length && cs.all Char.isDigit then some (natInBase 10 cs) else none

def isLeap (year : Nat) : Bool := year % 4 = 0 && (year % 100 ≠ 0 || year % 400 = 0)

def daysInMonth (year month : Nat) : Nat :=
  if month = 2 then if isLeap year then 29 else 28
  else if month = 4 || month = 6 || month = 9 || month = 11 then 30
  else 31

def isDate (cs : List Char) : Bool :=
  match cs with
  | [a, b, c, d, '-', e, f, '-', g, h] =>
    match field? 4 [a, b, c, d], field? 2 [e, f], field? 2 [g, h] with
    | some year, some month, some day =>
      1 ≤ month && month ≤ 12 && 1 ≤ day && day ≤ daysInMonth year month
    | _, _, _ => false
  | _ => false

def isHourMinute : List Char → Bool
  | [a, b, ':', c, d] => ((field? 2 [a, b]).any (· ≤ 23)) && ((field? 2 [c, d]).any (· ≤ 59))
  | _ => false

def isSeconds : List Char → Bool
  | [] => true
  | [':', a, b] => (field? 2 [a, b]).any (· ≤ 60)
  | ':' :: a :: b :: '.' :: cs => (field? 2 [a, b]).any (· ≤ 60) && !cs.isEmpty && cs.all Char.isDigit
  | _ => false

def isTime (cs : List Char) : Bool := isHourMinute (cs.take 5) && isSeconds (cs.drop 5)

def isZonedTime (cs : List Char) : Bool :=
  let time := cs.takeWhile fun c => c.isDigit || c == ':' || c == '.'
  let zone := cs.dropWhile fun c => c.isDigit || c == ':' || c == '.'
  isTime time && match zone with
    | [] => true
    | [c] => c == 'Z' || c == 'z'
    | c :: offset => (c == '+' || c == '-') && isHourMinute offset

def isDateTime (cs : List Char) : Bool :=
  isTime cs || isDate (cs.take 10) && match cs.drop 10 with
    | [] => true
    | c :: time => (c == 'T' || c == 't' || c == ' ') && isZonedTime time

def number? (text value : List Char) : Option Value :=
  let rest := value.dropWhile Char.isDigit
  if rest.head? == some '-' || rest.head? == some ':' then
    if isDateTime text then some (.dateTime (String.ofList text)) else none
  else if rest.any fun c => c == ' ' || c == '\t' then none
  else if rest.any fun c => c == '.' || isExponentMark c then
    if hasLeadingZero value then none else (withoutUnderscores? Char.isDigit text).bind (realValue? text)
  else if rest.isEmpty || rest.head? == some '_' then
    if value.head? == some '0' then none
    else (withoutUnderscores? isHexDigit text).map (integerValue 10 text)
  else none

def numeral? (text value : List Char) : Option Value :=
  match value with
  | ['0'] => some (.integer 0)
  | c :: _ => if c.isDigit then number? text value else none
  | [] => none

def signed? (text value : List Char) : Option Value :=
  let (negative, _) := Number.splitSign text
  if value = ['i', 'n', 'f'] then some (.real (Number.applySign negative (1.0 / 0.0)))
  else if value = ['n', 'a', 'n'] then some (.real (Number.applySign negative (0.0 / 0.0)))
  else numeral? text value

def scalar? (text : List Char) : Option Value :=
  match text with
  | ['t', 'r', 'u', 'e'] => some (.boolean true)
  | ['f', 'a', 'l', 's', 'e'] => some (.boolean false)
  | '+' :: value => signed? text value
  | '-' :: value => signed? text value
  | '0' :: 'x' :: ds => prefixed? 16 text ds
  | '0' :: 'o' :: ds => prefixed? 8 text ds
  | '0' :: 'b' :: ds => prefixed? 2 text ds
  | _ => signed? text text

end RfBoard.Toml
