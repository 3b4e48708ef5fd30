import RfBoard.Json.Basic

namespace RfBoard.Json

def escape (c : Char) : List Char :=
  if c == '"' then ['\\', '"']
  else if c == '\\' then ['\\', '\\']
  else if c.toNat < 32 then
    '\\' :: 'u' :: '0' :: '0' :: [Nat.digitChar (c.toNat / 16), Nat.digitChar (c.toNat % 16)]
  else [c]

def printString (out s : String) : String :=
  (s.foldl (fun out c => (escape c).foldl String.push out) (out.push '"')).push '"'

mutual

def printTo (out : String) : Json → String
  | null => out ++ "null"
  | bool b => out ++ (if b then "true" else "false")
  | num text => out ++ text
  | str s => printString out s
  | arr [] => out ++ "[]"
  | arr (v :: vs) => (printItems (printTo (out.push '[') v) vs).push ']'
  | obj [] => out ++ "\x7b\x7d"
  | obj ((name, v) :: es) =>
    (printMembers (printTo ((printString (out.push '\x7b') name).push ':') v) es).push '\x7d'

def printItems (out : String) : List Json → String
  | [] => out
  | v :: vs => printItems (printTo (out.push ',') v) vs

def printMembers (out : String) : List (String × Json) → String
  | [] => out
  | (name, v) :: es => printMembers (printTo ((printString (out.push ',') name).push ':') v) es

end

def print (j : Json) : String := printTo "" j

end RfBoard.Json
