import RepoAtlas.Code.Language
import RepoAtlas.Code.Python
import RepoAtlas.Code.Script

/-! # Outlines of files -/

namespace RepoAtlas.Code

open Text

def Language.importsOfLine : Language → Text → List Import
  | .script => Script.importsOfLine
  | .python => Python.importsOfLine

def Language.exportsOfLine : Language → Text → List Text
  | .script => Script.exportsOfLine
  | .python => Python.exportsOfLine

def Language.importsOfLines (l : Language) (lines : List (Text × Nat)) : List Import :=
  lines.flatMap fun (line, number) =>
    if l.isComment line then []
    else (l.importsOfLine line).map fun i => { i with line := number }

def imports (path content : Text) : List Import :=
  match Language.ofPath? path with
  | none => []
  | some l => l.importsOfLines ((lines content).zipIdx 1)

/-- The names that a file exports, in the order in which they first appear. -/
def exports (path content : Text) : List Text :=
  match Language.ofPath? path with
  | none => []
  | some l =>
    ((lines content).flatMap fun line =>
      if l.isComment line then [] else l.exportsOfLine line).eraseDups

end RepoAtlas.Code
