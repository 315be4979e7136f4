import RepoAtlas.Toml.Moment
import RepoAtlas.Toml.Node

/-! # TOML documents -/

namespace RepoAtlas.Toml

/-! ## Blanks and keys -/

def dropBlanks (t : Text) : Text :=
  t.dropWhile fun c => c == ' ' || c == '\t'

/-- The text after spaces, line breaks and comments, which an array may hold between its items; a comment
must end with its line. -/
def dropTrivia (inComment : Bool) : Text → Option Text
  | [] => if inComment then none else some []
  | '\n' :: rest => dropTrivia false rest
  | '\r' :: '\n' :: rest => dropTrivia false rest
  | c :: rest =>
    if inComment then if isPlain c then dropTrivia true rest else none
    else if c == ' ' || c == '\t' then dropTrivia false rest
    else if c == '#' then dropTrivia true rest
    else some (c :: rest)

def lineEnd (t : Text) : Option Text :=
  let t := dropBlanks t
  let t := if t.head? = some '#' then t.dropWhile isPlain else t
  match t with
  | [] => some []
  | '\n' :: rest => some rest
  | '\r' :: '\n' :: rest => some rest
  | _ => none

def isBareKeyChar (c : Char) : Bool :=
  c.isAlphanum || c == '_' || c == '-'

def simpleKey (t : Text) : Option (Text × Text) :=
  match t with
  | '"' :: rest => basicString rest
  | '\'' :: rest => literalString rest
  | _ =>
    let key := t.takeWhile isBareKeyChar
    if key.isEmpty then none else some (key, t.dropWhile isBareKeyChar)

/-- The parts of a key between dots, with blanks around each; `steps` bounds their number. -/
def keyParts : Nat → Text → Option (List Text × Text)
  | 0, _ => none
  | steps + 1, t => do
    let (key, t) ← simpleKey (dropBlanks t)
    match dropBlanks t with
    | '.' :: rest =>
      let (keys, rest) ← keyParts steps rest
      return (key :: keys, rest)
    | rest => return ([key], rest)

def maxDepth : Nat := 79

def key (t : Text) : Option ((List Text × Text) × Text) := do
  let (parts, rest) ← keyParts maxDepth t
  let last ← parts.getLast?
  return ((parts.dropLast, last), rest)

/-! ## Values -/

def keyword (word : String) (value : Node) (t : Text) : Option (Node × Text) :=
  (Text.dropLead? word.toList t).map fun rest => (value, rest)

def signedNumber (t : Text) : Option (Node × Text) :=
  match t with
  | '+' :: rest => unsigned false rest
  | '-' :: rest => unsigned true rest
  | _ => unsigned false t
where
  unsigned (negative : Bool) (t : Text) : Option (Node × Text) :=
    match t with
    | 'i' :: _ => keyword "inf" .float t
    | 'n' :: _ => keyword "nan" .float t
    | _ => do
      let (m, rest) ← magnitude t
      match m with
      | .whole n =>
        let n ← integer64? (if negative then -n else n)
        return (.integer n, rest)
      | .float overflows => if overflows && !negative then none else return (.float, rest)

def numberOrMoment (t : Text) : Option (Node × Text) :=
  if startsDate t || startsTime t then (moment t).map fun rest => (.moment, rest)
  else match t with
    | '0' :: 'x' :: rest => (basedInteger 16 isHexDigit rest).map fun (n, rest) => (.integer n, rest)
    | '0' :: 'o' :: rest =>
      (basedInteger 8 (fun c => '0' ≤ c && c ≤ '7') rest).map fun (n, rest) => (.integer n, rest)
    | '0' :: 'b' :: rest =>
      (basedInteger 2 (fun c => c == '0' || c == '1') rest).map fun (n, rest) => (.integer n, rest)
    | _ => signedNumber t

def scalar (t : Text) : Option (Node × Text) :=
  let asText (read : Option (Text × Text)) := read.map fun (content, rest) => (Node.text content, rest)
  match t with
  | '"' :: '"' :: '"' :: rest => asText (basicLines false (dropBreak rest))
  | '"' :: rest => asText (basicString rest)
  | '\'' :: '\'' :: '\'' :: rest => asText (literalLines (dropBreak rest))
  | '\'' :: rest => asText (literalString rest)
  | 't' :: _ => keyword "true" (.boolean true) t
  | 'f' :: _ => keyword "false" (.boolean false) t
  | _ => numberOrMoment t

abbrev ReadValue := Text → Option (Node × Text)

def arrayItems (value : ReadValue) : Nat → Text → Option (List Node × Text)
  | 0, _ => none
  | steps + 1, t => do
    match ← dropTrivia false t with
    | ']' :: rest => return ([], rest)
    | t =>
      let (item, t) ← value t
      match ← dropTrivia false t with
      | ']' :: rest => return ([item], rest)
      | ',' :: rest =>
        let (items, rest) ← arrayItems value steps rest
        return (item :: items, rest)
      | _ => none

def keyValue (value : ReadValue) (t : Text) : Option ((List Text × Text) × Node × Text) := do
  let (key, t) ← key t
  let t ← skip '=' t
  let (v, t) ← value (dropBlanks t)
  return (key, v, t)

/-- The entries of an inline table after its brace or after a comma, added to those before. -/
def inlineEntries (value : ReadValue) : Nat → Entries → Text → Option (Entries × Text)
  | 0, _, _ => none
  | steps + 1, es, t => do
    let ((path, last), v, t) ← keyValue value t
    let es ← es.assign last v path
    match dropBlanks t with
    | '\x7d' :: rest => return (es, rest)
    | ',' :: rest => inlineEntries value steps es rest
    | _ => none

def valueWithin : Nat → ReadValue
  | 0, t => scalar t
  | depth + 1, t =>
    match t with
    | '[' :: rest => do
      let (items, rest) ← arrayItems (valueWithin depth) (rest.length + 1) rest
      return (.array items, rest)
    | '\x7b' :: rest =>
      match dropBlanks rest with
      | '\x7d' :: rest => some (.table .inline [], rest)
      | _ => do
        let (es, rest) ← inlineEntries (valueWithin depth) (rest.length + 1) [] rest
        return (.table .inline es, rest)
    | _ => scalar t

def value : ReadValue :=
  valueWithin maxDepth

/-! ## Statements -/

inductive Statement
  | entry (path : List Text) (key : Text) (value : Node)
  | table (path : List Text) (key : Text)
  | element (path : List Text) (key : Text)

def statement (t : Text) : Option (Statement × Text) :=
  match t with
  | '[' :: '[' :: rest => do
    let ((path, last), t) ← key rest
    let t ← lineEnd (← skip ']' (← skip ']' t))
    return (.element path last, t)
  | '[' :: rest => do
    let ((path, last), t) ← key rest
    let t ← lineEnd (← skip ']' t)
    return (.table path last, t)
  | _ => do
    let ((path, last), v, t) ← keyValue value t
    return (.entry path last v, ← lineEnd t)

def statements : Nat → Text → Option (List Statement)
  | 0, _ => none
  | steps + 1, t =>
    let t := dropBlanks t
    match t with
    | [] => some []
    | '#' :: _ => (lineEnd t).bind (statements steps)
    | '\n' :: _ => (lineEnd t).bind (statements steps)
    | '\r' :: _ => (lineEnd t).bind (statements steps)
    | _ => do
      let (s, rest) ← statement t
      return s :: (← statements steps rest)

/-! ## The document -/

/-- The table read so far, and the header that further entries belong to. -/
structure Draft where
  root : Entries := []
  header : List Text := []

def Draft.add (d : Draft) : Statement → Option Draft
  | .entry path key v => do
    return { d with root := ← d.root.atPath d.header (·.assign key v path) }
  | .table path key => do
    return ⟨← d.root.atPath path (·.openTable key), path ++ [key]⟩
  | .element path key => do
    return ⟨← d.root.atPath path (·.openElement key), path ++ [key]⟩

/-- The table that a document describes. A byte order mark at its beginning is passed over. -/
def document (t : Text) : Option Entries := do
  let t := (Text.dropLead? [Char.ofNat 0xFEFF] t).getD t
  let ss ← statements (t.length + 1) t
  let d ← ss.foldlM Draft.add {}
  return d.root

end RepoAtlas.Toml
