import RfBoard.Toml.Quoted

/-!
A TOML document as it is written, with brackets understood and names and scalars still in the words of the text.
-/

namespace RfBoard.Toml

inductive Draft where
  | scalar (text : List Char)
  | array (items : List Draft)
  | table (entries : List (List (List Char) × Draft))

inductive Line where
  | entry (key : List (List Char)) (value : Draft)
  | header (key : List (List Char))
  | element (key : List (List Char))

def depthLimit : Nat := 80

def skipComment : List Char → List Char
  | '#' :: cs => cs.dropWhile isPlain
  | cs => cs

def skipSpace (inComment : Bool) : List Char → List Char
  | [] => []
  | c :: cs =>
    if (lineEnd? (c :: cs)).isSome then skipSpace false cs
    else if inComment then if isPlain c then skipSpace true cs else c :: cs
    else if c == '#' then skipSpace true cs
    else if isBlank c then skipSpace false cs
    else c :: cs

def skip (cs : List Char) : List Char := skipSpace false cs

def isMark (c : Char) : Bool := isBlank c || "=,[]{}#\r\n".toList.contains c

def startsWord (cs : List Char) : Bool :=
  cs.head?.any fun c => !isMark c && c != '.' && c != '"' && c != '\''

/-- A word may go on after blanks, for the sake of a date and the time after it. -/
def wordToken : List Char → List Char × List Char
  | [] => ([], [])
  | c :: cs =>
    if !isMark c || isBlank c && startsWord (skipBlanks cs) then
      let (word, rest) := wordToken cs
      (c :: word, rest)
    else ([], c :: cs)

def scalarToken : Reader (List Char) := fun cs =>
  match quotedToken? cs with
  | some token => some token
  | none =>
    let (word, rest) := wordToken cs
    if word.isEmpty then none else some (word, rest)

def keyToken (cs : List Char) : List Char × List Char :=
  match quotedToken? cs with
  | some token => token
  | none =>
    let word := cs.takeWhile fun c => !isMark c && c != '.'
    (word, cs.drop word.length)

def keyTokens : (fuel : Nat) → List Char → List (List Char) × List Char
  | 0, cs => ([], cs)
  | fuel + 1, cs =>
    let (part, cs) := keyToken (skipBlanks cs)
    match skipBlanks cs with
    | '.' :: cs =>
      let (parts, cs) := keyTokens fuel cs
      (part :: parts, cs)
    | cs => ([part], cs)

def key (cs : List Char) : List (List Char) × List Char := keyTokens (cs.length + 1) cs

mutual

def draft : (fuel depth : Nat) → Reader Draft
  | 0, _, _ => none
  | fuel + 1, depth, cs =>
    match cs, depth with
    | '[' :: cs, depth + 1 => (items fuel depth (skip cs)).map fun (ds, cs) => (.array ds, cs)
    | '\x7b' :: cs, depth + 1 => (pairs fuel depth (skip cs)).map fun (es, cs) => (.table es, cs)
    | cs, _ => (scalarToken cs).map fun (text, cs) => (.scalar text, cs)

def items : (fuel depth : Nat) → Reader (List Draft)
  | 0, _, _ => none
  | _, _, ']' :: cs => some ([], cs)
  | fuel + 1, depth, cs => do
    let (d, cs) ← draft fuel depth cs
    match skip cs with
    | ']' :: cs => some ([d], cs)
    | ',' :: cs => (items fuel depth (skip cs)).map fun (ds, cs) => (d :: ds, cs)
    | _ => none

def pairs : (fuel depth : Nat) → Reader (List (List (List Char) × Draft))
  | 0, _, _ => none
  | _, _, '\x7d' :: cs => some ([], cs)
  | fuel + 1, depth, cs =>
    let (k, cs) := key cs
    match skip cs with
    | '\x7d' :: cs => some ([(k, .scalar [])], cs)
    | '=' :: cs =>
      match skip cs with
      | '\x7d' :: cs => some ([(k, .scalar [])], cs)
      | cs => do
        let (d, cs) ← draft fuel depth cs
        match skip cs with
        | '\x7d' :: cs => some ([(k, d)], cs)
        | ',' :: cs => (pairs fuel depth (skip cs)).map fun (es, cs) => ((k, d) :: es, cs)
        | _ => none
    | _ => none

end

def endOfLine (cs : List Char) : Option (List Char) :=
  match skipComment (skipBlanks cs) with
  | [] => some []
  | cs => lineEnd? cs

def headerKey (close : List Char) : Reader (List (List Char)) := fun cs =>
  let (k, cs) := key cs
  let rest :=
    if close.isPrefixOf cs then endOfLine (cs.drop close.length)
    else if k.getLast? == some [] && cs.head? != some ']' then
      endOfLine (cs.dropWhile fun c => c != '#' && c != '\r' && c != '\n')
    else none
  rest.map (k, ·)

def line : Reader Line
  | '[' :: '[' :: cs => (headerKey [']', ']'] cs).map fun (k, cs) => (.element k, cs)
  | '[' :: cs => (headerKey [']'] cs).map fun (k, cs) => (.header k, cs)
  | cs =>
    match key cs with
    | (k, '=' :: cs) =>
      let cs := skipBlanks cs
      let (d, cs) := (draft (cs.length + 1) depthLimit cs).getD (.scalar [], cs)
      (endOfLine cs).map (.entry k d, ·)
    | _ => none

def readLines : (fuel : Nat) → List Char → Option (List Line)
  | 0, _ => none
  | fuel + 1, cs =>
    match skip cs with
    | [] => some []
    | cs => do
      let (l, cs) ← line cs
      return l :: (← readLines fuel cs)

def withoutMark : List Char → List Char
  | '\ufeff' :: cs => cs
  | cs => cs

def Line.ofText? (text : String) : Option (List Line) :=
  let cs := withoutMark text.toList
  readLines (cs.length + 1) cs

end RfBoard.Toml
