import RfBoard.Toml.Value

namespace RfBoard.Toml

inductive Origin where
  | header
  | implied
  | dotted
deriving DecidableEq

inductive Item where
  | value (v : Value)
  | table (origin : Origin) (entries : List (String × Item))
  | tables (elements : List (List (String × Item)))

abbrev Entries := List (String × Item)

namespace Item

mutual

def close : Item → Value
  | value v => v
  | table _ entries => .table (closeEntries entries)
  | tables elements => .array (closeAll elements)

def closeEntries : List (String × Item) → Table
  | [] => []
  | (k, item) :: entries => (k, close item) :: closeEntries entries

def closeAll : List (List (String × Item)) → List Value
  | [] => []
  | entries :: elements => .table (closeEntries entries) :: closeAll elements

end

end Item

namespace Entries

def alter (name : String) (f : Option Item → Option Item) : Entries → Option Entries
  | [] => (f none).map fun item => [(name, item)]
  | (k, item) :: entries =>
    if k = name then (f (some item)).map fun item => (k, item) :: entries
    else (alter name f entries).map ((k, item) :: ·)

def allowsDotted (last : Bool) : Origin → Bool
  | .header => false
  | .implied => !last
  | .dotted => true

/-- Changes the entries at a path. Missing tables are made on the way; `dotted` says whether the path
is a key with points or the name of a header. -/
def descend (dotted : Bool) : List String → (Entries → Option Entries) → Entries → Option Entries
  | [], f, entries => f entries
  | k :: path, f, entries => alter k (fun
      | none =>
        (descend dotted path f []).map (.table (if dotted then .dotted else .implied))
      | some (.table origin inner) =>
        if dotted && !allowsDotted path.isEmpty origin then none
        else (descend dotted path f inner).map (.table origin)
      | some (.tables elements) =>
        if dotted && path.isEmpty then none
        else match elements.getLast? with
          | none => none
          | some inner => (descend dotted path f inner).map fun inner =>
            .tables (elements.dropLast ++ [inner])
      | some (.value _) => none) entries

def splitLast (key : List String) : List String × String := (key.dropLast, key.getLastD "")

def openTable (key : List String) : Entries → Option Entries :=
  let (path, name) := splitLast key
  descend false path <| alter name fun
    | none => some (.table .header [])
    | some (.table .implied entries) => some (.table .header entries)
    | some _ => none

def openElement (key : List String) : Entries → Option Entries :=
  let (path, name) := splitLast key
  descend false path <| alter name fun
    | none => some (.tables [[]])
    | some (.tables elements) => some (.tables (elements ++ [[]]))
    | some _ => none

def define (key : List String) (v : Value) : Entries → Option Entries :=
  let (path, name) := splitLast key
  descend true path <| alter name fun
    | none => some (.value v)
    | some _ => none

end Entries

end RfBoard.Toml
