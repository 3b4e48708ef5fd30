import RfBoard.Toml.Scalar

namespace RfBoard.Toml

def isPlain (c : Char) : Bool := c == '\t' || (' ' ≤ c && c ≠ '\x7f')

def isBlank (c : Char) : Bool := c == ' ' || c == '\t'

def skipBlanks (cs : List Char) : List Char := cs.dropWhile isBlank

def lineEnd? : List Char → Option (List Char)
  | '\n' :: cs => some cs
  | '\r' :: '\n' :: cs => some cs
  | _ => none

def isHidden (c : Char) : Bool := c == '"' || c == '\\'

def lineToken (quote : Char) : List Char → List Char × List Char
  | [] => ([], [])
  | c :: cs =>
    if c == quote then ([c], cs)
    else if c == '\n' then ([], c :: cs)
    else match cs with
      | d :: ds =>
        if c == '\\' && quote == '"' && isHidden d then
          let (token, rest) := lineToken quote ds
          (c :: d :: token, rest)
        else
          let (token, rest) := lineToken quote (d :: ds)
          (c :: token, rest)
      | [] => ([c], [])

/-- The rest of a string over many lines after its opening quotes, and what follows it. Up to two quotes
before the closing three are its own. -/
def linesToken (quote : Char) : List Char → List Char × List Char
  | [] => ([], [])
  | c :: cs =>
    if c == quote && cs.take 2 == [quote, quote] then
      let own := ((cs.drop 2).take 2).takeWhile (· == quote)
      (c :: quote :: quote :: own, cs.drop (2 + own.length))
    else match cs with
      | d :: ds =>
        if c == '\\' && quote == '"' && isHidden d then
          let (token, rest) := linesToken quote ds
          (c :: d :: token, rest)
        else
          let (token, rest) := linesToken quote (d :: ds)
          (c :: token, rest)
      | [] => ([c], [])

def quotedToken? : List Char → Option (List Char × List Char)
  | c :: cs =>
    if c == '"' || c == '\'' then
      if cs.take 2 == [c, c] then
        let (token, rest) := linesToken c (cs.drop 2)
        some (c :: c :: c :: token, rest)
      else
        let (token, rest) := lineToken c cs
        some (c :: token, rest)
    else none
  | [] => none

abbrev Reader (α : Type) := List Char → Option (α × List Char)

def codePoint (digits : Nat) : Reader Char := fun cs =>
  let ds := cs.take digits
  let n := natInBase 16 ds
  if ds.length = digits && ds.all isHexDigit && n.isValidChar then some (Char.ofNat n, cs.drop digits) else none

def escape : Reader Char
  | 'b' :: cs => some ('\x08', cs)
  | 't' :: cs => some ('\t', cs)
  | 'n' :: cs => some ('\n', cs)
  | 'f' :: cs => some ('\x0c', cs)
  | 'r' :: cs => some ('\r', cs)
  | 'e' :: cs => some ('\x1b', cs)
  | '"' :: cs => some ('"', cs)
  | '\\' :: cs => some ('\\', cs)
  | 'x' :: cs => codePoint 2 cs
  | 'u' :: cs => codePoint 4 cs
  | 'U' :: cs => codePoint 8 cs
  | _ => none

def skipLines : (fuel : Nat) → List Char → List Char
  | 0, cs => cs
  | fuel + 1, cs =>
    match lineEnd? (skipBlanks cs) with
    | some cs => skipLines fuel cs
    | none => skipBlanks cs

def continuation? (cs : List Char) : Option (List Char) :=
  (lineEnd? (skipBlanks cs)).map (skipLines cs.length)

def characters? (quote : Char) (inLines : Bool) : (fuel : Nat) → List Char → Option (List Char)
  | 0, _ => none
  | _, [] => some []
  | fuel + 1, c :: cs =>
    if c == '\\' && quote == '"' then
      match if inLines then continuation? cs else none with
      | some cs => characters? quote inLines fuel cs
      | none => (escape cs).bind fun (c, cs) => (characters? quote inLines fuel cs).map (c :: ·)
    else if isPlain c || inLines && (lineEnd? (c :: cs)).isSome then
      (characters? quote inLines fuel cs).map (c :: ·)
    else none

def closed? (quotes cs : List Char) : Option (List Char) :=
  if quotes.isSuffixOf cs then some (cs.take (cs.length - quotes.length)) else none

def unquoted? : List Char → Option (List Char)
  | [] => none
  | quote :: cs =>
    if cs.take 2 == [quote, quote] then
      let cs := cs.drop 2
      (closed? [quote, quote, quote] ((lineEnd? cs).getD cs)).bind (characters? quote true (cs.length + 1))
    else (closed? [quote] cs).bind (characters? quote false (cs.length + 1))

def isBareKeyChar (c : Char) : Bool := c.isAlphanum || c == '_' || c == '-'

def keyPart? (text : List Char) : Option String :=
  match text with
  | '"' :: '"' :: '"' :: _ | '\'' :: '\'' :: '\'' :: _ => none
  | '"' :: _ | '\'' :: _ => (unquoted? text).map String.ofList
  | [] => none
  | _ => if text.all isBareKeyChar then some (String.ofList text) else none

end RfBoard.Toml
