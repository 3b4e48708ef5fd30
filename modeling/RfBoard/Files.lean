import RfBoard.Fault

namespace RfBoard

inductive Node where
  | directory (entries : List (String × Node))
  | text (content : String)
  | nullDevice

def Node.addText (name content : String) : Node → Node
  | .directory entries => .directory ((name, .text content) :: entries)
  | node => node

namespace Files

def nameLimit : Nat := 255

def pathLimit : Nat := 4095

def follow : List String → List Node → Node → Except FileError Node
  | [], _, node => .ok node
  | name :: rest, seen, node =>
    match node with
    | .directory entries =>
      if name.isEmpty || name == "." then follow rest seen node
      else if name == ".." then
        match seen with
        | [] => follow rest [] node
        | above :: seen => follow rest seen above
      else if name.utf8ByteSize > nameLimit then .error .nameTooLong
      else match entries.lookup name with
        | some next => follow rest (node :: seen) next
        | none => .error .notFound
    | _ => .error .notADirectory

def names (path : String) : Except FileError (List String) :=
  if path.contains '\x00' then .error .nulInName
  else if path.isEmpty then .error .notFound
  else if path.utf8ByteSize > pathLimit then .error .nameTooLong
  else .ok (path.splitOn "/")

def find (root : Node) (path : String) : Except FileError Node :=
  (names path).bind fun names => follow names [] root

def read (root : Node) (path : String) : Except FileError String :=
  (find root path).bind fun
    | .directory _ => .error .isADirectory
    | .text content => .ok content
    | .nullDevice => .ok ""

def checkOpen (root : Node) (path : String) : Except FileError Unit :=
  (find root path).bind fun
    | .directory _ => .error .isADirectory
    | _ => .ok ()

def isStanding (name : String) : Bool := name.isEmpty || name == "." || name == ".."

/-- Whether a text can be written to a path: to a file that is there, or to a new one in a directory.
A slash after a name says that it is a directory, whatever it is. -/
def checkWrite (root : Node) (path : String) : Except FileError Unit := do
  let names ← names path
  let last := (names.reverse.dropWhile String.isEmpty).headD ""
  if isStanding last then
    discard (follow names [] root)
    .error .isADirectory
  else
    let above := names.reverse.dropWhile String.isEmpty |>.tail.reverse
    match ← follow above [] root with
    | .directory entries =>
      if names.getLast? == some "" then .error .isADirectory
      else if last.utf8ByteSize > nameLimit then .error .nameTooLong
      else match entries.lookup last with
        | some (.directory _) => .error .isADirectory
        | _ => .ok ()
    | _ => .error .notADirectory

def bareHost : Node :=
  .directory <| ("dev", .directory [("null", .nullDevice), ("zero", .nullDevice)]) ::
    ["bin", "boot", "etc", "home", "lib", "media", "mnt", "opt", "proc", "root", "run", "sbin", "srv", "sys",
      "tmp", "usr", "var"].map fun name => (name, .directory [])

end Files

end RfBoard
