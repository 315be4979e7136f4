import RepoAtlas.Text.Basic

/-! # Hits and their order -/

namespace RepoAtlas.Search

open Text

inductive Grade
  | exact
  | fuzzy
  deriving DecidableEq

def Grade.name : Grade → Text
  | .exact => "exact".toList
  | .fuzzy => "fuzzy".toList

/-- Exact above five thousand. -/
def Grade.ofScore (score : Nat) : Grade :=
  if 5000 < score then .exact else .fuzzy

/-- A score and a grade. The two go together in the hits of a catalog, but need not in those of other
backends. -/
structure Rating where
  score : Nat
  grade : Grade
  deriving DecidableEq

def Rating.ofScore (score : Nat) : Rating :=
  ⟨score, .ofScore score⟩

instance : Coe Nat Rating :=
  ⟨Rating.ofScore⟩

structure Hit where
  path : Text
  rating : Rating
  deriving DecidableEq

namespace Hit

def score (h : Hit) : Nat :=
  h.rating.score

def grade (h : Hit) : Grade :=
  h.rating.grade

/-- The better score comes first, then the path of fewer bytes, then the smaller path. The grade does not
count. -/
def order (a b : Hit) : Ordering :=
  (compare b.score a.score).then
    ((compare (byteLength a.path) (byteLength b.path)).then (compare a.path b.path))

instance : Std.TransCmp order :=
  inferInstanceAs (Std.TransCmp (compareLex (fun a b => compareOn Hit.score b a)
    (compareLex (compareOn fun h => byteLength h.path) (compareOn Hit.path))))

def describe (h : Hit) : Text :=
  h.path ++ " (score=".toList ++ Text.ofNat h.score ++ ", ".toList ++ h.grade.name ++ ")".toList

end Hit

/-- The best hits in order, at most `limit` of them. Hits that stand alike keep their order. -/
def best (limit : Nat) (hits : List Hit) : List Hit :=
  (hits.mergeSort fun a b => (Hit.order a b).isLE).take limit

end RepoAtlas.Search
