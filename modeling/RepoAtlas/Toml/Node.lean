import RepoAtlas.Text.Basic

/-! # Values and tables of TOML -/

namespace RepoAtlas.Toml

inductive Origin
  | inline
  | header
  /-- Passed through by a longer header. -/
  | implied
  /-- Passed through by a dotted key. -/
  | dotted
  deriving DecidableEq

/-- A value. Of floats, dates and times it is only known that they are such. -/
inductive Node where
  | text (t : Text)
  | integer (n : Int)
  | float
  | boolean (b : Bool)
  | moment
  | array (items : List Node)
  | table (origin : Origin) (entries : List (Text × Node))
  | tables (elements : List (List (Text × Node)))

/-- The entries of a table; no key appears twice. -/
abbrev Entries := List (Text × Node)

namespace Entries

def get? (es : Entries) (key : Text) : Option Node :=
  es.lookup key

def set (es : Entries) (key : Text) (value : Node) : Entries :=
  if (es.get? key).isSome then es.map fun (k, v) => if k = key then (k, value) else (k, v)
  else es ++ [(key, value)]

/-- Enters a value under a dotted key, whose last part is `key`. The tables on the way are opened if they
are missing; those that are there must not have been named by a header, and the last one must have been
opened by a dotted key. -/
def assign (key : Text) (value : Node) : List Text → Entries → Option Entries
  | [], es => if (es.get? key).isSome then none else some (es ++ [(key, value)])
  | k :: path, es =>
    match es.get? k with
    | none => (assign key value path []).map fun inner => es.set k (.table .dotted inner)
    | some (.table origin inner) =>
      if origin = .dotted ∨ origin = .implied ∧ path ≠ [] then
        (assign key value path inner).map fun inner => es.set k (.table origin inner)
      else none
    | some (.tables elements) =>
      match elements.getLast?, path with
      | some element, _ :: _ =>
        (assign key value path element).map fun element =>
          es.set k (.tables (elements.dropLast ++ [element]))
      | _, _ => none
    | some _ => none

/-- Changes the table under a key, which is passed through on the way to a header: the last element of an
array of tables, or a new table if there is none. -/
def within (k : Text) (change : Entries → Option Entries) (es : Entries) : Option Entries :=
  match es.get? k with
  | none => (change []).map fun inner => es.set k (.table .implied inner)
  | some (.table .inline _) => none
  | some (.table origin inner) => (change inner).map fun inner => es.set k (.table origin inner)
  | some (.tables elements) =>
    elements.getLast?.bind fun element =>
      (change element).map fun element => es.set k (.tables (elements.dropLast ++ [element]))
  | some _ => none

def atPath : List Text → (Entries → Option Entries) → Entries → Option Entries
  | [], change, es => change es
  | k :: path, change, es => es.within k (atPath path change)

/-- Opens the table of a header with the last part `key`; it must not be there, unless it was passed
through by another header. -/
def openTable (key : Text) (es : Entries) : Option Entries :=
  match es.get? key with
  | none => some (es.set key (.table .header []))
  | some (.table .implied inner) => some (es.set key (.table .header inner))
  | some _ => none

def openElement (key : Text) (es : Entries) : Option Entries :=
  match es.get? key with
  | none => some (es.set key (.tables [[]]))
  | some (.tables elements) => some (es.set key (.tables (elements ++ [[]])))
  | some _ => none

end Entries

end RepoAtlas.Toml
