import RepoAtlas.Text.Basic
import RepoAtlas.Unicode.Word

/-! # Scans -/

namespace RepoAtlas.Code

/-- A position in a line: the character before it, and the rest of the line. -/
structure Cursor where
  before : Option Char
  rest : Text
  deriving DecidableEq

def Cursor.advance (c : Cursor) (taken rest : Text) : Cursor :=
  ⟨taken.getLast?.or c.before, rest⟩

/-- The readings from a position on, the preferred one first, each with the position after it. -/
def Scan (α : Type) := Cursor → List (α × Cursor)

namespace Scan

open Unicode

instance : Monad Scan where
  pure a := fun c => [(a, c)]
  bind s f := fun c => (s c).flatMap fun (a, c) => f a c

instance : OrElse (Scan α) where
  orElse s t := fun c => s c ++ t () c

theorem bind_apply (s : Scan α) (f : α → Scan β) (c : Cursor) :
    (s >>= f) c = (s c).flatMap fun (a, c) => f a c := rfl

theorem orElse_apply (s t : Scan α) (c : Cursor) : (s <|> t) c = s c ++ t c := rfl

def one (kind : Char → Bool) : Scan Char := fun c =>
  match c.rest with
  | [] => []
  | d :: rest => if kind d then [(d, ⟨some d, rest⟩)] else []

def literal (t : Text) : Scan Unit := fun c =>
  match Text.dropLead? t c.rest with
  | some rest => [((), c.advance t rest)]
  | none => []

def word (s : String) : Scan Unit :=
  literal s.toList

def run (kind : Char → Bool) : Scan Text := fun c =>
  let taken := c.rest.takeWhile kind
  [(taken, c.advance taken (c.rest.dropWhile kind))]

def run1 (kind : Char → Bool) : Scan Text := fun c =>
  if (c.rest.takeWhile kind).isEmpty then [] else run kind c

/-- Characters of a kind, perhaps none, longest reading first. -/
def anyRun (kind : Char → Bool) : Scan Unit := fun c =>
  go c.rest [((), c)]
where
  go : Text → List (Unit × Cursor) → List (Unit × Cursor)
  | [], shorter => shorter
  | d :: rest, shorter => if kind d then go rest (((), ⟨some d, rest⟩) :: shorter) else shorter

/-- An edge of a word: a word character on exactly one side. -/
def edge : Scan Unit := fun c =>
  if c.before.any isWordChar != c.rest.head?.any isWordChar then [((), c)] else []

def reject : Scan α := fun _ => []

def ending : Scan Unit := fun c =>
  if c.rest.isEmpty then [((), c)] else []

def optional (s : Scan α) : Scan (Option α) :=
  (some <$> s) <|> pure none

def oneOf : List String → Scan Unit
  | [] => reject
  | w :: ws => word w <|> oneOf ws

def first? (s : Scan α) (line : Text) : Option α :=
  (s ⟨none, line⟩).head?.map Prod.fst

/-- The preferred readings at the first position that has one, then from the end of that reading on. -/
def allWithin (s : Scan α) : Nat → Cursor → List α
  | 0, _ => []
  | steps + 1, c =>
    match s c with
    | (a, after) :: _ => a :: allWithin s steps after
    | [] =>
      match c.rest with
      | [] => []
      | d :: rest => allWithin s steps ⟨some d, rest⟩

/-- All readings of a scan that takes at least one character, from left to right and apart from each
other. -/
def all (s : Scan α) (line : Text) : List α :=
  allWithin s (line.length + 1) ⟨none, line⟩

end Scan

end RepoAtlas.Code
