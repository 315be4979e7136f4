import RepoAtlas.Text.Basic

/-! # Imports and lists of names -/

namespace RepoAtlas.Code

open Text

structure Import where
  specifier : Text
  names : List Text := []
  /-- Whether the module itself gets a name. -/
  isDefault : Bool := false
  isDynamic : Bool := false
  /-- The number of the line, from one. -/
  line : Nat := 0
  target? : Option Text := none
  deriving DecidableEq

def bareItem (item : Text) : Text :=
  let item := trim item
  trim ((dropLead? "type ".toList item).getD item)

/-- The names that a list `a, b as c, type d` imports: `a`, `b` and `d`. -/
def importedNames (list : Text) : List Text :=
  (splitOn ',' list).filterMap fun item => (words (bareItem item)).head?

def exportedName (item : Text) : Text :=
  match cutAt? " as ".toList (bareItem item) with
  | some (_, name) => trim name
  | none => bareItem item

/-- The names that a list `a, b as c` exports: `a` and `c`. -/
def exportedNames (list : Text) : List Text :=
  ((splitOn ',' list).map exportedName).filter fun name => !name.isEmpty

end RepoAtlas.Code
