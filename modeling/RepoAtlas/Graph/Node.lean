import RepoAtlas.Code.Import
import RepoAtlas.Path.Basic
import Std.Data.ExtTreeMap
import Std.Data.ExtTreeSet

/-! # Nodes and links -/

namespace RepoAtlas

open Code

structure FileNode where
  path : Text
  imports : List Import := []
  exports : List Text := []
  /-- The files that import this one, as far as they have been entered. -/
  dependents : List Text := []
  deriving DecidableEq

def FileNode.dependencies (n : FileNode) : List Text :=
  (n.imports.filterMap fun i => i.target?).eraseDups

structure Link where
  target : Text
  importer : Text
  deriving DecidableEq

namespace Link

/-- By target, then by importer. -/
def order : Link → Link → Ordering :=
  compareLex (compareOn Link.target) (compareOn Link.importer)

instance : Std.TransCmp order :=
  inferInstanceAs (Std.TransCmp (compareLex _ _))

instance : Std.LawfulEqCmp order where
  eq_of_compare {a b} h := by
    simp only [order, compareLex, compareOn, Ordering.then_eq_eq,
      Std.LawfulEqOrd.compare_eq_iff_eq] at h
    cases a
    cases b
    simp_all

end Link

def Text.ascending (ts : List Text) : List Text :=
  (Std.ExtTreeSet.ofList ts compare).toList

end RepoAtlas
