/-! # Runs of code points -/

namespace RepoAtlas.Unicode

/-- The code points `first`, `first + step`, … that do not pass `last`. -/
structure Run where
  first : Nat
  last : Nat
  step : Nat

namespace Run

def contains (r : Run) (n : Nat) : Bool :=
  r.first ≤ n && n ≤ r.last && (n - r.first) % r.step == 0

def cover (runs : List Run) (n : Nat) : Bool :=
  runs.any fun r => r.contains n

theorem contains_iff (r : Run) (n : Nat) :
    r.contains n = true ↔ r.first ≤ n ∧ n ≤ r.last ∧ (n - r.first) % r.step = 0 := by
  simp [contains, and_assoc]

theorem cover_iff (runs : List Run) (n : Nat) :
    cover runs n = true ↔ ∃ r ∈ runs, r.contains n = true := by
  simp [cover]

end Run

end RepoAtlas.Unicode
