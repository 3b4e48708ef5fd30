import RfBoard.Number.Hex
import RfBoard.Number.Shortest
import RfBoard.Toml.Quoted

namespace RfBoard.Toml

def needsEscape (c : Char) : Bool := !isPlain c && c ≠ '\n'

def longestRun (quote : Char) (cs : List Char) : Nat :=
  (cs.foldl (fun (run, longest) c =>
    if c == quote then (run + 1, max longest (run + 1)) else (0, longest)) (0, 0)).2

inductive Form where
  | basic
  | literal
  | basicLines
  | literalLines

def formOf (cs : List Char) : Form :=
  let escapes := cs.any needsEscape
  let backslash := cs.contains '\\'
  let lineEnd := cs.contains '\n'
  if !escapes && !backslash && longestRun '"' cs = 0 && !lineEnd then .basic
  else if !escapes && longestRun '\'' cs = 0 && !lineEnd then .literal
  else if !escapes && !backslash && longestRun '"' cs ≤ 2 then .basicLines
  else if !escapes && longestRun '\'' cs ≤ 2 then .literalLines
  else if lineEnd then .basicLines
  else .basic

def escapeOf (inLines : Bool) (c : Char) : List Char :=
  if c == '\x08' then ['\\', 'b']
  else if c == '\t' then ['\\', 't']
  else if c == '\n' then if inLines then ['\n'] else ['\\', 'n']
  else if c == '\x0c' then ['\\', 'f']
  else if c == '\r' then ['\\', 'r']
  else if c == '\\' then ['\\', '\\']
  else if isPlain c then [c]
  else '\\' :: 'u' :: (Number.hexPadded 4 c.toNat).toList

def escaped (inLines : Bool) (allowed : Nat) : (run : Nat) → List Char → List Char
  | _, [] => []
  | run, '"' :: cs =>
    if run < allowed then '"' :: escaped inLines allowed (run + 1) cs
    else '\\' :: '"' :: escaped inLines allowed 0 cs
  | _, c :: cs => escapeOf inLines c ++ escaped inLines allowed 0 cs

def lead (cs : List Char) : List Char := if cs.contains '\n' then ['\n'] else []

def printChars (cs : List Char) : List Char :=
  let triple (quote : Char) := List.replicate 3 quote
  match formOf cs with
  | .basic => '"' :: escaped false 0 0 cs ++ ['"']
  | .literal => '\'' :: cs ++ ['\'']
  | .basicLines => triple '"' ++ lead cs ++ escaped true 2 0 cs ++ triple '"'
  | .literalLines => triple '\'' ++ lead cs ++ cs ++ triple '\''

def printString (s : String) : String := String.ofList (printChars s.toList)

def printKey (k : String) : String :=
  if !k.isEmpty && k.toList.all isBareKeyChar then k else printString k

def printPath (path : List String) : String := ".".intercalate (path.map printKey)

def printReal (x : Float) : String :=
  if x.isNaN then "nan" else Number.pointText x

mutual

def Value.print : Value → String
  | .string s => printString s
  | .integer n => toString n
  | .real x => printReal x
  | .badNumber text => text
  | .boolean b => if b then "true" else "false"
  | .dateTime text => text
  | .array vs => "[" ++ ", ".intercalate (printItems vs) ++ "]"
  | .table es => "\x7b " ++ ", ".intercalate (printPairs es) ++ " \x7d"

def printItems : List Value → List String
  | [] => []
  | v :: vs => v.print :: printItems vs

def printPairs : List (String × Value) → List String
  | [] => []
  | (k, v) :: es => (printKey k ++ " = " ++ v.print) :: printPairs es

end

def Value.isBlock : Value → Bool
  | .table _ => true
  | .array (.table _ :: vs) => vs.all fun | .table _ => true | _ => false
  | _ => false

def ownLines : Table → List String
  | [] => []
  | (k, v) :: es => if v.isBlock then ownLines es else (printKey k ++ " = " ++ v.print) :: ownLines es

def block (head : String) (lines : List String) : List (List String) := [head :: lines]

mutual

def Value.blocks (path : List String) : Value → List (List String)
  | .table es =>
    let own := ownLines es
    let inner := blocksOf path es
    if own.isEmpty && !inner.isEmpty then inner
    else block ("[" ++ printPath path ++ "]") own ++ inner
  | .array vs => elementBlocks path vs
  | _ => []

def elementBlocks (path : List String) : List Value → List (List String)
  | .table es :: vs =>
    block ("[[" ++ printPath path ++ "]]") (ownLines es) ++ blocksOf path es ++ elementBlocks path vs
  | _ => []

def blocksOf (path : List String) : List (String × Value) → List (List String)
  | [] => []
  | (k, v) :: es => (if v.isBlock then v.blocks (path ++ [k]) else []) ++ blocksOf path es

end

def print (t : Table) : String :=
  let own := ownLines t
  let blocks := (if own.isEmpty then [] else [own]) ++ blocksOf [] t
  String.join ((blocks.intersperse [""]).flatten.map (· ++ "\n"))

end RfBoard.Toml
