import Mathlib.Algebra.GroupWithZero.Nat
import Mathlib.Data.List.Nodup
import Mathlib.Data.List.Perm.Subperm

/-! # Lists -/

namespace RepoAtlas

open List

section

variable {α : Type*} [BEq α]

/-- Repetitions are left out element by element: what is left of the rest is left of the rest without the
first element. -/
theorem eraseDups_induction {motive : List α → Prop} (nil : motive [])
    (cons : ∀ x xs, motive (xs.filter fun y => !y == x) → motive (x :: xs)) (xs : List α) :
    motive xs := by
  induction hn : xs.length using Nat.strongRecOn generalizing xs with
  | ind n ih =>
    cases xs with
    | nil => exact nil
    | cons x xs =>
      have hle := length_filter_le (fun y => !y == x) xs
      rw [length_cons] at hn
      exact cons x xs (ih _ (by omega) _ rfl)

variable [LawfulBEq α]

theorem nodup_eraseDups (xs : List α) : xs.eraseDups.Nodup := by
  induction xs using eraseDups_induction with
  | nil => simp
  | cons x xs ih =>
    rw [eraseDups_cons, nodup_cons]
    exact ⟨by simp [mem_eraseDups], ih⟩

theorem filter_eraseDups (p : α → Bool) (xs : List α) :
    xs.eraseDups.filter p = (xs.filter p).eraseDups := by
  induction xs using eraseDups_induction with
  | nil => simp
  | cons x xs ih =>
    rw [eraseDups_cons, filter_cons, filter_cons, ih]
    cases hx : p x with
    | true => rw [if_pos rfl, if_pos rfl, eraseDups_cons, filter_comm]
    | false =>
      have hsame : (xs.filter fun y => !y == x).filter p = xs.filter p := by
        rw [filter_filter]
        apply filter_congr
        intro y _
        by_cases hy : y = x
        · simp [hy, hx]
        · simp [hy]
      rw [hsame]
      rfl

theorem eraseDups_eraseDups (xs : List α) : xs.eraseDups.eraseDups = xs.eraseDups := by
  induction xs using eraseDups_induction with
  | nil => simp
  | cons x xs ih =>
    have hrest : (xs.filter fun y => !y == x).eraseDups.filter (fun y => !y == x) =
        (xs.filter fun y => !y == x).eraseDups := by
      rw [filter_eraseDups, filter_filter]
      simp
    rw [eraseDups_cons, eraseDups_cons, hrest, ih]

theorem eraseDups_append_eraseDups (xs ys : List α) :
    (xs.eraseDups ++ ys.eraseDups).eraseDups = (xs ++ ys).eraseDups := by
  have hremove : ys.eraseDups.removeAll xs.eraseDups = (ys.removeAll xs).eraseDups := by
    rw [removeAll, removeAll, filter_eraseDups]
    simp [mem_eraseDups]
  rw [eraseDups_append, eraseDups_append, eraseDups_eraseDups, hremove, eraseDups_eraseDups]

end

theorem sum_map_set {α : Type*} {xs : List α} {i : Nat} {x : α} (h : xs[i]? = some x) (f : α → Nat)
    (y : α) : ((xs.set i y).map f).sum + f x = (xs.map f).sum + f y := by
  induction xs generalizing i with
  | nil => simp at h
  | cons z xs ih =>
    cases i with
    | zero =>
      obtain rfl : z = x := by simpa using h
      simp only [set_cons_zero, map_cons, sum_cons]
      omega
    | succ i =>
      have hsum := @ih i (by simpa using h)
      simp only [set_cons_succ, map_cons, sum_cons]
      omega

theorem getElem?_concat_cases {α : Type*} {xs : List α} {x y : α} {i : Nat}
    (h : (xs ++ [x])[i]? = some y) : xs[i]? = some y ∨ i = xs.length ∧ y = x := by
  rcases Nat.lt_or_ge i xs.length with hi | hi
  · rw [getElem?_append_left hi] at h
    exact Or.inl h
  · rw [getElem?_append_right hi] at h
    obtain ⟨hlast, rfl⟩ := List.getElem?_eq_some_iff.mp h
    rw [length_singleton] at hlast
    exact Or.inr ⟨by omega, by simp⟩

/-- What exists place by place exists as a list. -/
theorem exists_list_of_forall {α : Type*} {n : Nat} {P : Nat → α → Prop} (h : ∀ i < n, ∃ x, P i x) :
    ∃ xs : List α, xs.length = n ∧ ∀ {i x}, xs[i]? = some x → P i x := by
  induction n with
  | zero => exact ⟨[], rfl, by simp⟩
  | succ n ih =>
    obtain ⟨xs, hlen, hxs⟩ := ih fun i hi => h i (Nat.lt_succ_of_lt hi)
    obtain ⟨x, hx⟩ := h n (Nat.lt_succ_self n)
    refine ⟨xs ++ [x], by simp [hlen], ?_⟩
    intro i y hy
    rcases getElem?_concat_cases hy with hy | ⟨rfl, rfl⟩
    · exact hxs hy
    · exact hlen ▸ hx

theorem flatMap_getD_range {α β : Type*} (xs : List α) (d : α) (f : α → List β) :
    (range xs.length).flatMap (fun i => f (xs[i]?.getD d)) = xs.flatMap f := by
  have hxs : (range xs.length).map (fun i => xs[i]?.getD d) = xs := by
    apply ext_getElem (by simp)
    intro i _ hi
    simp [hi]
  calc
    (range xs.length).flatMap (fun i => f (xs[i]?.getD d)) =
        ((range xs.length).map fun i => xs[i]?.getD d).flatMap f := (flatMap_map ..).symm
    _ = xs.flatMap f := by rw [hxs]

theorem exists_lt_not_mem {xs : List Nat} {n : Nat} (h : xs.length < n) : ∃ i < n, i ∉ xs := by
  by_contra hnone
  have hsub : range n ⊆ xs := by
    intro i hi
    by_contra hn
    exact hnone ⟨i, mem_range.mp hi, hn⟩
  have hle := (subperm_of_subset nodup_range hsub).length_le
  rw [length_range] at hle
  omega

theorem exists_append_perm_range {xs : List Nat} {n : Nat} (hnodup : xs.Nodup) (hlt : ∀ i ∈ xs, i < n) :
    ∃ rest, xs ++ rest ~ range n := by
  have hsub : xs ⊆ range n := fun i hi => mem_range.mpr (hlt i hi)
  obtain ⟨ys, hperm, hys⟩ := subperm_of_subset hnodup hsub
  obtain ⟨rest, hrest⟩ := hys.exists_perm_append
  exact ⟨rest, (hperm.symm.append_right rest).trans hrest.symm⟩

theorem perm_range {xs : List Nat} {n : Nat} (hnodup : xs.Nodup) (hlt : ∀ i ∈ xs, i < n)
    (hlen : n ≤ xs.length) : xs ~ range n := by
  have hsub : xs ⊆ range n := fun i hi => mem_range.mpr (hlt i hi)
  exact (subperm_of_subset hnodup hsub).perm_of_length_le (by simpa using hlen)

theorem le_foldl_max_init (ns : List Nat) (m : Nat) : m ≤ ns.foldl max m := by
  induction ns generalizing m with
  | nil => exact Nat.le_refl m
  | cons n ns ih => exact Nat.le_trans (Nat.le_max_left m n) (ih (max m n))

theorem le_foldl_max {ns : List Nat} {n : Nat} (h : n ∈ ns) (m : Nat) : n ≤ ns.foldl max m := by
  induction ns generalizing m with
  | nil => cases h
  | cons a ns ih =>
    rcases mem_cons.mp h with rfl | h
    · exact Nat.le_trans (Nat.le_max_right m n) (le_foldl_max_init ns (max m n))
    · exact ih h (max m a)

theorem foldl_max_eq_or_mem (ns : List Nat) (m : Nat) : ns.foldl max m = m ∨ ns.foldl max m ∈ ns := by
  induction ns generalizing m with
  | nil => exact Or.inl rfl
  | cons n ns ih =>
    rw [foldl_cons]
    rcases ih (max m n) with h | h
    · rw [h]
      rcases Nat.le_total n m with hle | hle
      · rw [Nat.max_eq_left hle]
        exact Or.inl rfl
      · rw [Nat.max_eq_right hle]
        exact Or.inr mem_cons_self
    · exact Or.inr (mem_cons_of_mem n h)

end RepoAtlas
