import RepoAtlas.Text.Basic
import Std.Data.ExtTreeMap

/-! # Files held in memory -/

namespace RepoAtlas.Files

structure Memory where
  contents : Std.ExtTreeMap Text Text compare

namespace Memory

def empty : Memory :=
  ⟨∅⟩

def insert (m : Memory) (path content : Text) : Memory :=
  ⟨m.contents.insert path content⟩

/-- The files of a list, of which the last one with a path counts. -/
def ofList (files : List (Text × Text)) : Memory :=
  files.foldl (fun m (path, content) => m.insert path content) empty

def paths (m : Memory) : List Text :=
  m.contents.keys

def read? (m : Memory) (path : Text) : Option Text :=
  m.contents[path]?

/-- What is said of a path without content. -/
def missing (path : Text) : Text :=
  "No content for ".toList ++ path

end Memory

end RepoAtlas.Files
