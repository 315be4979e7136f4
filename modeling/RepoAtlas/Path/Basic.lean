import RepoAtlas.Text.Case

/-! # Paths -/

namespace RepoAtlas.Path

open Text

/-- The path with every backslash turned into a slash: the spelling under which a file is known. -/
def key (path : Text) : Text :=
  path.map fun c => if c = '\\' then '/' else c

def segments (path : Text) : List Text :=
  pieces (fun c => c == '/' || c == '\\') path

/-- The directory and the file name of a path with forward slashes; the directory is empty when there
is no slash. -/
def cutName (path : Text) : Text × Text :=
  (cutLast? '/' path).getD ([], path)

/-- The extension of a file name, in lower case and with its dot; empty when the last dot begins or ends
the name. -/
def extension (name : Text) : Text :=
  match cutLast? '.' name with
  | none => []
  | some (stem, rest) => if stem.isEmpty || rest.isEmpty then [] else lower ('.' :: rest)

theorem key_key (path : Text) : key (key path) = key path := by
  simp only [key, List.map_map]
  refine List.map_congr_left fun c _ => ?_
  by_cases h : c = '\\' <;> simp [h]

theorem backslash_not_mem_key (path : Text) : '\\' ∉ key path := by
  simp only [key, List.mem_map, not_exists, not_and]
  intro c _
  by_cases h : c = '\\' <;> simp [h]

end RepoAtlas.Path
