import RfBoard.Number.Exponential
import RfBoard.Number.Reading

namespace RfBoard

inductive Json where
  | null
  | bool (b : Bool)
  | num (text : String)
  | str (s : String)
  | arr (items : List Json)
  | obj (members : List (String × Json))
deriving Inhabited

namespace Json

def ofInt (n : Int) : Json := num (toString n)

def ofNat (n : Nat) : Json := num (toString n)

def ofReal (x : Float) : Json := ((Number.exponentialText x).map num).getD null

def member? (name : String) : Json → Option Json
  | obj members => members.lookup name
  | _ => none

def toInt? (low high : Int) : Json → Option Int
  | num text => (Number.integer? text.toList).filter fun n => low ≤ n ∧ n ≤ high
  | _ => none

def toReal? : Json → Option Float
  | num text | str text => Number.real? text.toList
  | _ => none

def toBool? : Json → Option Bool
  | bool b => some b
  | _ => none

def toText? : Json → Option String
  | str s => some s
  | _ => none

def toList? {α : Type} (item : Json → Option α) : Json → Option (List α)
  | arr items => items.mapM item
  | _ => none

end Json

end RfBoard
