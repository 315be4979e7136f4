import RepoAtlas.Graph.Basic
import RepoAtlas.Graph.Tests

/-! # The impact of a change -/

namespace RepoAtlas

open RepoAtlas.Graph

inductive Radius
  | small
  | medium
  | large
  | critical
  deriving DecidableEq

namespace Radius

def name : Radius → Text
  | small => "small".toList
  | medium => "medium".toList
  | large => "large".toList
  | critical => "critical".toList

def level : Radius → Nat
  | small => 0
  | medium => 1
  | large => 2
  | critical => 3

def max (a b : Radius) : Radius :=
  if a.level < b.level then b else a

def criticalFrom : Nat := 40

def ofScore (score : Nat) : Radius :=
  if score < 5 then small
  else if score < 15 then medium
  else if score < criticalFrom then large
  else critical

end Radius

structure Impact where
  file : Text
  radius : Radius
  score : Nat
  direct : List Text
  /-- The further files that import a direct dependent, ascending. -/
  indirect : List Text
  tests : List Text
  warnings : List Text
  deriving DecidableEq

inductive Warning
  | untested (dependents : Nat) (file : Text)
  | critical (score : Nat)
  deriving DecidableEq

def Warning.message : Warning → Text
  | .untested dependents file =>
    Text.ofNat dependents ++ " file(s) depend on ".toList ++ file
      ++ " but no related tests were found".toList
  | .critical score =>
    "critical blast radius: weighted dependent count ".toList ++ Text.ofNat score ++ " (>= ".toList
      ++ Text.ofNat Radius.criticalFrom ++ ")".toList

namespace Graph

/-- The files that import one of the files, other than those files and the file itself, ascending. -/
def indirectDependents (g : Graph) (file : Text) (direct : List Text) : List Text :=
  Text.ascending ((direct.flatMap g.dependentsOf).filter fun p => p != file && !direct.contains p)

def warnings (file : Text) (score : Nat) (direct tests : List Text) : List Warning :=
  (if !direct.isEmpty && tests.isEmpty then [.untested direct.length file] else [])
    ++ (if Radius.ofScore score = .critical then [.critical score] else [])

/-- The impact of changing a file. A direct dependent counts three times. -/
def impact (g : Graph) (file : Text) (files : List Text) : Impact :=
  let file := Path.key file
  let direct := g.dependentsOf file
  let indirect := g.indirectDependents file direct
  let tests := relatedTests file files
  let score := 3 * direct.length + indirect.length
  { file
    radius := Radius.ofScore score
    score
    direct
    indirect
    tests
    warnings := (warnings file score direct tests).map Warning.message }

end Graph

structure MultiImpact where
  impacts : List Impact
  radius : Radius
  directTotal : Nat
  deriving DecidableEq

/-- The impacts of the files, each under the file that it is about. -/
def Graph.impactTable (g : Graph) (changed files : List Text) : Std.ExtTreeMap Text Impact compare :=
  (changed.map fun file => g.impact file files).foldl (fun table i => table.insert i.file i) ∅

def Graph.multiImpact (g : Graph) (changed files : List Text) : MultiImpact :=
  let impacts := (g.impactTable changed files).toList.map Prod.snd
  { impacts
    radius := (impacts.map Impact.radius).foldl Radius.max .small
    directTotal := impacts.foldr (fun i n => i.direct.length + n) 0 }

end RepoAtlas
