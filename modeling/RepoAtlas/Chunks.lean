/-! # Consecutive chunks of a list -/

namespace RepoAtlas

/-- Chunks of `size` elements, the last one perhaps shorter; `steps` bounds their number. -/
def chunksWithin (size : Nat) : Nat → List α → List (List α)
  | 0, _ => []
  | _ + 1, [] => []
  | steps + 1, xs => xs.take size :: chunksWithin size steps (xs.drop size)

/-- Consecutive chunks of `size` elements, the last one perhaps shorter. A size of zero counts as one. -/
def chunksOf (size : Nat) (xs : List α) : List (List α) :=
  chunksWithin (max 1 size) xs.length xs

theorem chunksWithin_flatten {size : Nat} (hs : 0 < size) :
    ∀ (steps : Nat) (xs : List α), xs.length ≤ steps → (chunksWithin size steps xs).flatten = xs
  | 0, xs, h => by simp [chunksWithin, List.length_eq_zero_iff.mp (Nat.le_zero.mp h)]
  | steps + 1, [], _ => by simp [chunksWithin]
  | steps + 1, x :: xs, h => by
    have hd : ((x :: xs).drop size).length ≤ steps := by
      simp only [List.length_drop, List.length_cons] at h ⊢
      omega
    simp only [chunksWithin, List.flatten_cons, chunksWithin_flatten hs steps _ hd]
    exact List.take_append_drop size (x :: xs)

theorem chunksOf_flatten (size : Nat) (xs : List α) : (chunksOf size xs).flatten = xs :=
  chunksWithin_flatten (by omega) _ _ (Nat.le_refl _)

theorem chunksWithin_ne_nil {size : Nat} (hs : 0 < size) :
    ∀ (steps : Nat) (xs : List α), ∀ part ∈ chunksWithin size steps xs, part ≠ []
  | 0, _, _, h => nomatch h
  | _ + 1, [], _, h => nomatch h
  | steps + 1, x :: xs, part, h => by
    rcases List.mem_cons.mp h with rfl | h
    · simp only [ne_eq, List.take_eq_nil_iff, reduceCtorEq, or_false]
      omega
    · exact chunksWithin_ne_nil hs steps _ part h

theorem chunksOf_ne_nil {size : Nat} {xs part : List α} (h : part ∈ chunksOf size xs) : part ≠ [] :=
  chunksWithin_ne_nil (by omega) _ _ part h

theorem chunksWithin_length {size : Nat} (hs : 0 < size) :
    ∀ (steps : Nat) (xs : List α), xs.length ≤ steps →
      (chunksWithin size steps xs).length = (xs.length + size - 1) / size
  | 0, xs, h => by
    rw [Nat.le_zero.mp h, Nat.zero_add, Nat.div_eq_of_lt (by omega)]
    rfl
  | steps + 1, [], _ => by
    rw [List.length_nil, Nat.zero_add, Nat.div_eq_of_lt (by omega)]
    rfl
  | steps + 1, x :: xs, h => by
    have hd : ((x :: xs).drop size).length ≤ steps := by
      simp only [List.length_drop, List.length_cons] at h ⊢
      omega
    simp only [chunksWithin, List.length_cons, chunksWithin_length hs steps _ hd]
    rw [List.length_drop, List.length_cons, ← Nat.add_div_right _ hs]
    by_cases hle : size ≤ xs.length + 1
    · congr 1
      omega
    · -- The only chunk is shorter than the others would be.
      rw [Nat.div_eq_of_lt_le (k := 1) (by omega) (by omega),
        Nat.div_eq_of_lt_le (k := 1) (by omega) (by omega)]

theorem chunksOf_length (size : Nat) (xs : List α) :
    (chunksOf size xs).length = (xs.length + max 1 size - 1) / max 1 size :=
  chunksWithin_length (by omega) _ _ (Nat.le_refl _)

end RepoAtlas
