namespace RfBoard.Toml

inductive Value where
  | string (s : String)
  | integer (n : Int)
  | real (x : Float)
  | badNumber (text : String)
  | boolean (b : Bool)
  | dateTime (text : String)
  | array (items : List Value)
  | table (entries : List (String × Value))
deriving Inhabited

abbrev Table := List (String × Value)

namespace Value

mutual

def isSound : Value → Bool
  | badNumber _ => false
  | array vs => areSound vs
  | table es => entriesSound es
  | _ => true

def areSound : List Value → Bool
  | [] => true
  | v :: vs => v.isSound && areSound vs

def entriesSound : List (String × Value) → Bool
  | [] => true
  | (_, v) :: es => v.isSound && entriesSound es

end

end Value

end RfBoard.Toml
