import RfBoard.Toml.Document
import RfBoard.Toml.Draft

namespace RfBoard.Toml

inductive ReadError where
  | malformed
  | keyTooLong
deriving DecidableEq, Repr

def wellFormed {α : Type} (a : Option α) : Except ReadError α := a.elim (.error .malformed) .ok

def keyLimit : Nat := 80

def readKey (parts : List (List Char)) : Except ReadError (List String) := do
  let names ← wellFormed (parts.mapM keyPart?)
  if names.length ≤ keyLimit then .ok names else .error .keyTooLong

def readScalar (text : List Char) : Except ReadError Value :=
  wellFormed <| match text with
    | '"' :: _ | '\'' :: _ => (unquoted? text).map fun cs => .string (String.ofList cs)
    | _ => scalar? text

namespace Draft

mutual

def read : Draft → Except ReadError Value
  | scalar text => readScalar text
  | array items => return .array (← readItems items)
  | table entries => return .table (Item.closeEntries (← readEntries entries []))

def readItems : List Draft → Except ReadError (List Value)
  | [] => .ok []
  | d :: ds => do
    let v ← d.read
    return v :: (← readItems ds)

def readEntries : List (List (List Char) × Draft) → Entries → Except ReadError Entries
  | [], entries => .ok entries
  | (k, d) :: rest, entries => do
    let k ← readKey k
    let v ← d.read
    readEntries rest (← wellFormed (entries.define k v))

end

end Draft

def readInto (here : List String) (root : Entries) : List Line → Except ReadError Entries
  | [] => .ok root
  | .header k :: ls => do
    let k ← readKey k
    readInto k (← wellFormed (root.openTable k)) ls
  | .element k :: ls => do
    let k ← readKey k
    readInto k (← wellFormed (root.openElement k)) ls
  | .entry k d :: ls => do
    let k ← readKey k
    let v ← d.read
    readInto here (← wellFormed (root.descend false here (·.define k v))) ls

def read (text : String) : Except ReadError Table := do
  let lines ← wellFormed (Line.ofText? text)
  return Item.closeEntries (← readInto [] [] lines)

end RfBoard.Toml
