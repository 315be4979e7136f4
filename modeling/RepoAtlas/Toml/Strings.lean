import RepoAtlas.Text.Basic

/-! # Strings of TOML -/

namespace RepoAtlas.Toml

/-- A character that a comment may hold: no control character but the tab. -/
def isPlain (c : Char) : Bool :=
  c = '\t' || (0x20 ≤ c.toNat && c.toNat != 0x7F)

def hexNumber? (digits : Text) : Option Nat :=
  digits.foldl (fun n c => do
    let n ← n
    if '0' ≤ c ∧ c ≤ '9' then some (16 * n + (c.toNat - '0'.toNat))
    else if 'a' ≤ c ∧ c ≤ 'f' then some (16 * n + (c.toNat - 'a'.toNat + 10))
    else if 'A' ≤ c ∧ c ≤ 'F' then some (16 * n + (c.toNat - 'A'.toNat + 10))
    else none) (some 0)

def codePoint? (digits : Text) : Option Char := do
  let n ← hexNumber? digits
  if n.isValidChar then some (Char.ofNat n) else none

def escaped? : Char → Option Char
  | 'b' => some '\x08'
  | 't' => some '\t'
  | 'n' => some '\n'
  | 'f' => some '\x0c'
  | 'r' => some '\r'
  | '"' => some '"'
  | '\\' => some '\\'
  | _ => none

def before (c : Char) (read : Option (Text × Text)) : Option (Text × Text) :=
  read.map fun (content, rest) => (c :: content, rest)

def basicString : Text → Option (Text × Text)
  | [] => none
  | '"' :: rest => some ([], rest)
  | '\\' :: 'u' :: a :: b :: c :: d :: rest => do
    let e ← codePoint? [a, b, c, d]
    before e (basicString rest)
  | '\\' :: 'U' :: a :: b :: c :: d :: e :: f :: g :: h :: rest => do
    let e ← codePoint? [a, b, c, d, e, f, g, h]
    before e (basicString rest)
  | '\\' :: c :: rest => do
    let e ← escaped? c
    before e (basicString rest)
  | c :: rest => if c != '\\' && isPlain c then before c (basicString rest) else none

def literalString : Text → Option (Text × Text)
  | [] => none
  | '\'' :: rest => some ([], rest)
  | c :: rest => if isPlain c then before c (literalString rest) else none

def dropBreak : Text → Text
  | '\n' :: rest => rest
  | '\r' :: '\n' :: rest => rest
  | t => t

def isLineEnd (t : Text) : Bool :=
  match t.dropWhile fun c => c == ' ' || c == '\t' with
  | '\n' :: _ => true
  | '\r' :: '\n' :: _ => true
  | _ => false

/-- What remains after three closing quotes, of which up to two more may stand before and belong to the
content. -/
def closed (quote : Char) : Text → Text × Text
  | c :: d :: rest =>
    if c = quote then if d = quote then ([quote, quote], rest) else ([quote], d :: rest)
    else ([], c :: d :: rest)
  | [c] => if c = quote then ([quote], []) else ([], [c])
  | [] => ([], [])

/-- A basic string on several lines; after a backslash at the end of a line, `skipping` passes over
spaces and line breaks. -/
def basicLines (skipping : Bool) : Text → Option (Text × Text)
  | [] => none
  | '"' :: '"' :: '"' :: rest => some (closed '"' rest)
  | '\\' :: 'u' :: a :: b :: c :: d :: rest => do
    let e ← codePoint? [a, b, c, d]
    before e (basicLines false rest)
  | '\\' :: 'U' :: a :: b :: c :: d :: e :: f :: g :: h :: rest => do
    let e ← codePoint? [a, b, c, d, e, f, g, h]
    before e (basicLines false rest)
  | '\\' :: c :: rest =>
    match escaped? c with
    | some e => before e (basicLines false rest)
    | none => if isLineEnd (c :: rest) then basicLines true (c :: rest) else none
  | '\r' :: '\n' :: rest =>
    if skipping then basicLines true rest else before '\n' (basicLines false rest)
  | c :: rest =>
    if skipping && (c == ' ' || c == '\t' || c == '\n') then basicLines true rest
    else if c != '\\' && (c == '\n' || isPlain c) then before c (basicLines false rest)
    else none

def literalLines : Text → Option (Text × Text)
  | [] => none
  | '\'' :: '\'' :: '\'' :: rest => some (closed '\'' rest)
  | '\r' :: '\n' :: rest => before '\n' (literalLines rest)
  | c :: rest => if c == '\n' || isPlain c then before c (literalLines rest) else none

end RepoAtlas.Toml
