import RepoAtlas.Code.Import
import RepoAtlas.Code.Scan

/-! # Lines of Python -/

namespace RepoAtlas.Code.Python

open Scan Text Unicode

def gap : Scan Unit := do
  let _ ← run isBlank

def space : Scan Unit := do
  let _ ← run1 isBlank

/-- At least one blank, and then the rest of the line, which is not empty: where the line has nothing but
blanks, there must be two of them, and the last one is the rest. -/
def spaceAndRest : Scan Text := do
  let blanks ← run1 isBlank
  let rest ← run (· != '\n')
  ending
  match rest, blanks.drop 1 with
  | [], [] => reject
  | [], others => return others.getLast?.toList
  | rest, _ => return rest

def withoutParentheses (list : Text) : Text :=
  (((trim list).dropWhile (· == '(')).reverse.dropWhile (· == ')')).reverse

/-- The names of a list; a star stands for none. -/
def listedNames (list : Text) : List Text :=
  let list := withoutParentheses list
  if trim list = ['*'] then [] else importedNames list

/-- An import of names: `from m import a, b`. -/
def fromImport : Scan (List Import) := do
  gap
  word "from"
  space
  let module ← run1 fun c => !isBlank c
  space
  word "import"
  let list ← spaceAndRest
  return [{ specifier := module, names := listedNames list }]

def moduleImport : Scan (List Import) := do
  gap
  word "import"
  let list ← spaceAndRest
  return (splitOn ',' list).filterMap fun item =>
    (words item).head?.map fun module => { specifier := module }

/-- The imports of a line, of which a comment at its end is no part. -/
def importsOfLine (line : Text) : List Import :=
  ((fromImport <|> moduleImport).first? (line.takeWhile (· != '#'))).getD []

def definition : Scan Text := do
  let _ ← optional (do word "async"; space)
  oneOf ["def", "class"]
  space
  let start ← one fun c => c.isAlpha || c == '_'
  let rest ← run isWordChar
  return start :: rest

/-- The names that a line exports: what it defines, unless the name begins with an underscore. -/
def exportsOfLine (line : Text) : List Text :=
  (definition.first? line).toList.filter fun name => name.head? != some '_'

end RepoAtlas.Code.Python
