import RepoAtlas.Text.Basic

/-! # Collapsing a path -/

namespace RepoAtlas.Path

open Text

/-- The segments that remain; `kept` holds those passed so far, the last one first. -/
def collapseAfter (kept : List Text) : List Text → Option (List Text)
  | [] => some kept.reverse
  | s :: segments =>
    if s = [] ∨ s = ['.'] then collapseAfter kept segments
    else if s = ['.', '.'] then
      match kept with
      | [] => none
      | _ :: kept => collapseAfter kept segments
    else collapseAfter (s :: kept) segments

def collapse? (path : Text) : Option Text :=
  (collapseAfter [] (splitOn '/' path)).map (join ['/'])

end RepoAtlas.Path
