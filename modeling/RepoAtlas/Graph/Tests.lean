import RepoAtlas.Graph.Node

/-! # Tests by the customs of naming them -/

namespace RepoAtlas.Graph

open Text RepoAtlas.Path

/-- A file name up to its last dot, unless the name begins there. -/
def stemOf (name : Text) : Text :=
  match cutLast? '.' name with
  | none => name
  | some (stem, _) => if stem.isEmpty then name else stem

def testLeads (stem : Text) : List Text :=
  [stem ++ ".test.".toList, stem ++ ".spec.".toList, stem ++ "_test.".toList, stem ++ "-test.".toList,
    "test_".toList ++ stem ++ ['.']]

def testDirectories : List Text :=
  ["__tests__", "test", "tests"].map String.toList

/-- Whether the path, given as a key, is that of a test for files with the lower case stem. -/
def isTestFor (stem path : Text) : Bool :=
  let (directory, name) := cutName path
  let name := lower name
  (testLeads stem).any (·.isPrefixOf name) ||
    ((stem ++ ['.']).isPrefixOf name &&
      (splitOn '/' directory).any fun s => testDirectories.contains (lower s))

def relatedTests (file : Text) (files : List Text) : List Text :=
  let stem := lower (stemOf (cutName file).2)
  if stem.isEmpty then []
  else ascending ((files.map key).filter fun path => path != file && isTestFor stem path)

end RepoAtlas.Graph
