import RepoAtlas.Proofs.Lists
import RepoAtlas.Search.Sequence
import Mathlib.Data.List.Basic

/-! # Layings -/

namespace RepoAtlas.Search

open List

/-! ## Layings -/

/-- Some of the terms, of which the latest comes first, lie on segments; the last one lies on segment `j`
and ends a streak of length `k + 1`, and the gains add up to `n`. -/
inductive Laid (segments : List Segment) : List Text → Nat → Nat → Nat → Prop
  /-- The latest term is left out. -/
  | skipped {before j k n} (term : Text) (h : Laid segments before j k n) :
      Laid segments (term :: before) j k n
  /-- The latest term is the only one that lies. -/
  | first {before term s f j} (hs : segments[j]? = some s) (hf : s.fit? term = some f) :
      Laid segments (term :: before) j 0 (f.gain + streakGain 1)
  /-- The latest term lies apart from the ones before it. -/
  | apart {before term s f i k j n} (h : Laid segments before i k n) (hij : i + 1 < j)
      (hs : segments[j]? = some s) (hf : s.fit? term = some f) :
      Laid segments (term :: before) j 0 (n + f.gain + streakGain 1)
  /-- The latest term lengthens the streak. -/
  | next {before term s f j k n} (h : Laid segments before j k n) (hs : segments[j + 1]? = some s)
      (hf : s.fit? term = some f) :
      Laid segments (term :: before) (j + 1) (k + 1) (n + f.gain + streakGain (k + 2))

/-! ## Totals of one segment -/

namespace Totals

/-- The total of the layings that end in a streak of length `k + 1`, if there are any. -/
def at? (ts : Totals) (k : Nat) : Option Nat :=
  ts[k]?.join

variable {ts us : Totals} {a b : Option Nat} {k n : Nat}

@[simp] theorem at?_nil (k : Nat) : at? [] k = none := rfl

@[simp] theorem at?_cons_succ (t : Option Nat) (ts : Totals) (k : Nat) :
    at? (t :: ts) (k + 1) = at? ts k := rfl

theorem mem_of_at? (h : ts.at? k = some n) : n ∈ ts.filterMap id := by
  obtain ⟨t, ht, hn⟩ : ∃ t, ts[k]? = some t ∧ t = some n := by
    simpa [at?, Option.join_eq_some_iff] using h
  exact mem_filterMap.mpr ⟨t, mem_of_getElem? ht, hn⟩

theorem le_best (h : ts.at? k = some n) : n ≤ ts.best :=
  le_foldl_max (mem_of_at? h) 0

theorem best_eq_zero_or_at? (ts : Totals) : ts.best = 0 ∨ ∃ k, ts.at? k = some ts.best := by
  rcases foldl_max_eq_or_mem (ts.filterMap id) 0 with h | h
  · exact Or.inl h
  · obtain ⟨t, ht, hn⟩ := mem_filterMap.mp h
    obtain ⟨k, hk⟩ := mem_iff_getElem?.mp ht
    exact Or.inr ⟨k, by rw [at?, hk]; exact hn⟩

theorem better_eq_some (h : better a b = some n) : a = some n ∨ b = some n := by
  cases a with
  | none => exact Or.inr h
  | some x =>
    cases b with
    | none => exact Or.inl h
    | some y =>
      have hmax : max x y = n := Option.some.inj h
      rcases Nat.le_total x y with hle | hle
      · exact Or.inr (by rw [← hmax, Nat.max_eq_right hle])
      · exact Or.inl (by rw [← hmax, Nat.max_eq_left hle])

theorem exists_better_left (h : a = some n) : ∃ m, n ≤ m ∧ better a b = some m := by
  subst h
  cases b with
  | none => exact ⟨n, Nat.le_refl n, rfl⟩
  | some y => exact ⟨max n y, Nat.le_max_left n y, rfl⟩

theorem exists_better_right (h : b = some n) : ∃ m, n ≤ m ∧ better a b = some m := by
  subst h
  cases a with
  | none => exact ⟨n, Nat.le_refl n, rfl⟩
  | some x => exact ⟨max x n, Nat.le_max_right x n, rfl⟩

theorem at?_merge (ts us : Totals) (k : Nat) :
    (ts.merge us).at? k = better (ts.at? k) (us.at? k) := by
  induction ts generalizing us k with
  | nil => simp [merge, better]
  | cons t ts ih =>
    cases us with
    | nil => cases h : at? (t :: ts) k <;> simp [merge, better, h]
    | cons u us =>
      cases k with
      | zero => rfl
      | succ k => exact ih us k

end Totals

/-! ## One more term -/

def layOn (reach : Nat) (neighbour totals : Totals) : Option Fit → Totals
  | none => totals
  | some f => totals.merge (some (reach + f.gain + streakGain 1) ::
      neighbour.mapIdx fun k t => t.map (· + f.gain + streakGain (k + 2)))

section

variable {reach k n : Nat} {neighbour totals : Totals} {fit : Option Fit} {f : Fit}

theorem at?_layOn_zero (reach : Nat) (neighbour totals : Totals) (f : Fit) :
    (layOn reach neighbour totals (some f)).at? 0 =
      Totals.better (totals.at? 0) (some (reach + f.gain + streakGain 1)) :=
  Totals.at?_merge ..

theorem at?_layOn_succ (reach : Nat) (neighbour totals : Totals) (f : Fit) (k : Nat) :
    (layOn reach neighbour totals (some f)).at? (k + 1) =
      Totals.better (totals.at? (k + 1))
        ((neighbour.at? k).map (· + f.gain + streakGain (k + 2))) := by
  rw [layOn, Totals.at?_merge, Totals.at?_cons_succ]
  congr 1
  simp only [Totals.at?, getElem?_mapIdx]
  cases neighbour[k]? with
  | none => rfl
  | some t => rfl

theorem at?_layOn_cases (h : (layOn reach neighbour totals fit).at? k = some n) :
    totals.at? k = some n ∨
    ∃ f, fit = some f ∧
      (k = 0 ∧ n = reach + f.gain + streakGain 1 ∨
        ∃ i m, k = i + 1 ∧ neighbour.at? i = some m ∧ n = m + f.gain + streakGain (i + 2)) := by
  cases fit with
  | none => exact Or.inl h
  | some f =>
    cases k with
    | zero =>
      rw [at?_layOn_zero] at h
      rcases Totals.better_eq_some h with h | h
      · exact Or.inl h
      · exact Or.inr ⟨f, rfl, Or.inl ⟨rfl, (Option.some.inj h).symm⟩⟩
    | succ k =>
      rw [at?_layOn_succ] at h
      rcases Totals.better_eq_some h with h | h
      · exact Or.inl h
      · obtain ⟨m, hm, hn⟩ := Option.map_eq_some_iff.mp h
        exact Or.inr ⟨f, rfl, Or.inr ⟨k, m, rfl, hm, hn.symm⟩⟩

theorem exists_at?_layOn_kept (h : totals.at? k = some n) :
    ∃ m, n ≤ m ∧ (layOn reach neighbour totals fit).at? k = some m := by
  cases fit with
  | none => exact ⟨n, Nat.le_refl n, h⟩
  | some f =>
    cases k with
    | zero =>
      rw [at?_layOn_zero]
      exact Totals.exists_better_left h
    | succ k =>
      rw [at?_layOn_succ]
      exact Totals.exists_better_left h

theorem exists_at?_layOn_begun (reach : Nat) (neighbour totals : Totals) (f : Fit) :
    ∃ m, reach + f.gain + streakGain 1 ≤ m ∧
      (layOn reach neighbour totals (some f)).at? 0 = some m := by
  rw [at?_layOn_zero]
  exact Totals.exists_better_right rfl

theorem exists_at?_layOn_lengthened (h : neighbour.at? k = some n) :
    ∃ m, n + f.gain + streakGain (k + 2) ≤ m ∧
      (layOn reach neighbour totals (some f)).at? (k + 1) = some m := by
  rw [at?_layOn_succ, h]
  exact Totals.exists_better_right rfl

end

theorem layTerm_cons (reach : Nat) (neighbour totals : Totals) (fit : Option Fit)
    (rest : List (Option Fit × Totals)) :
    layTerm reach neighbour ((fit, totals) :: rest) =
      layOn reach neighbour totals fit :: layTerm (max reach neighbour.best) totals rest := by
  cases fit <;> rfl

def reachOf (reach : Nat) (seen : List Totals) : Nat :=
  (seen.map Totals.best).foldl max reach

theorem getElem?_layTerm (reach : Nat) (neighbour : Totals) (row : List (Option Fit × Totals))
    (j : Nat) :
    (layTerm reach neighbour row)[j]? = row[j]?.map fun x =>
      layOn (reachOf reach ((neighbour :: row.map Prod.snd).take j))
        ((neighbour :: row.map Prod.snd)[j]?.getD []) x.2 x.1 := by
  induction row generalizing reach neighbour j with
  | nil => rfl
  | cons x row ih =>
    obtain ⟨fit, totals⟩ := x
    rw [layTerm_cons]
    cases j with
    | zero => rfl
    | succ j =>
      rw [getElem?_cons_succ, ih, getElem?_cons_succ]
      rfl

@[simp] theorem length_layTerm (reach : Nat) (neighbour : Totals) (row : List (Option Fit × Totals)) :
    (layTerm reach neighbour row).length = row.length := by
  induction row generalizing reach neighbour with
  | nil => rfl
  | cons x row ih =>
    obtain ⟨fit, totals⟩ := x
    rw [layTerm_cons, length_cons, ih, length_cons]

/-! ## The table -/

def entry (table : List Totals) (j k : Nat) : Option Nat :=
  (table[j]?.getD []).at? k

variable {segments : List Segment} {before : List Text} {i j k n : Nat}

/-- The table after the terms, of which the latest comes first. -/
def tableOf (segments : List Segment) (before : List Text) : List Totals :=
  layTerms segments before.reverse

@[simp] theorem tableOf_nil (segments : List Segment) :
    tableOf segments [] = segments.map fun _ => [] := rfl

theorem tableOf_cons (segments : List Segment) (term : Text) (before : List Text) :
    tableOf segments (term :: before) =
      layTerm 0 [] ((segments.map (·.fit? term)).zip (tableOf segments before)) := by
  simp [tableOf, layTerms, foldl_append]

@[simp] theorem length_tableOf (segments : List Segment) (before : List Text) :
    (tableOf segments before).length = segments.length := by
  induction before with
  | nil => simp
  | cons term before ih => simp [tableOf_cons, ih]

theorem lt_of_entry (h : entry (tableOf segments before) j k = some n) : j < segments.length := by
  by_contra hge
  have hnone : (tableOf segments before)[j]? = none := by
    apply getElem?_eq_none
    rw [length_tableOf]
    exact Nat.not_lt.mp hge
  simp [entry, hnone] at h

/-- The best total of a laying that ends left of the neighbour of a segment. -/
def reachBefore (table : List Totals) (j : Nat) : Nat :=
  reachOf 0 (([] :: table).take j)

theorem le_reachBefore {table : List Totals} (hij : i + 1 < j) (h : entry table i k = some n) :
    n ≤ reachBefore table j := by
  cases ht : table[i]? with
  | none => simp [entry, ht] at h
  | some ts =>
    have hmem : ts ∈ ([] :: table).take j := by
      apply mem_of_getElem? (i := i + 1)
      rw [getElem?_take_of_lt hij, getElem?_cons_succ, ht]
    have hbest : n ≤ ts.best := by
      apply Totals.le_best (k := k)
      simpa [entry, ht] using h
    exact Nat.le_trans hbest (le_foldl_max (mem_map_of_mem hmem) 0)

theorem reachBefore_eq_zero_or_entry (table : List Totals) (j : Nat) :
    reachBefore table j = 0 ∨ ∃ i k, i + 1 < j ∧ entry table i k = some (reachBefore table j) := by
  rcases foldl_max_eq_or_mem ((([] :: table).take j).map Totals.best) 0 with h | h
  · exact Or.inl h
  · obtain ⟨ts, hts, hbest⟩ := mem_map.mp h
    have hreach : ts.best = reachBefore table j := hbest
    obtain ⟨i, hi⟩ := mem_iff_getElem?.mp hts
    have hij : i < j := by
      by_contra hge
      have hnone : (([] :: table).take j)[i]? = none := by
        apply getElem?_eq_none
        have hle := length_take_le j ([] :: table)
        omega
      rw [hnone] at hi
      cases hi
    rw [getElem?_take_of_lt hij] at hi
    rcases ts.best_eq_zero_or_at? with hzero | ⟨k, hk⟩
    · exact Or.inl (hreach.symm.trans hzero)
    · cases i with
      | zero =>
        obtain rfl : [] = ts := by simpa using hi
        cases hk
      | succ i =>
        have ht : table[i]? = some ts := by simpa using hi
        refine Or.inr ⟨i, k, hij, ?_⟩
        rw [entry, ht, ← hreach]
        exact hk

def neighbourOf (table : List Totals) : Nat → Totals
  | 0 => []
  | j + 1 => table[j]?.getD []

theorem getElem?_tableOf_cons {term : Text} {s : Segment} (hs : segments[j]? = some s) :
    (tableOf segments (term :: before))[j]?.getD [] =
      layOn (reachBefore (tableOf segments before) j) (neighbourOf (tableOf segments before) j)
        ((tableOf segments before)[j]?.getD []) (s.fit? term) := by
  have hlen : (tableOf segments before).length = segments.length := length_tableOf ..
  obtain ⟨hj, -⟩ := List.getElem?_eq_some_iff.mp hs
  have ht : (tableOf segments before)[j]? = some (tableOf segments before)[j] :=
    List.getElem?_eq_getElem (by omega)
  have hrow : ((segments.map (·.fit? term)).zip (tableOf segments before))[j]? =
      some (s.fit? term, (tableOf segments before)[j]) := by
    rw [getElem?_zip_eq_some]
    exact ⟨by rw [getElem?_map, hs]; rfl, ht⟩
  have hsnd : ((segments.map (·.fit? term)).zip (tableOf segments before)).map Prod.snd =
      tableOf segments before := map_snd_zip (by simp)
  have hneighbour : ([] :: tableOf segments before)[j]?.getD [] =
      neighbourOf (tableOf segments before) j := by
    cases j <;> rfl
  rw [tableOf_cons, getElem?_layTerm, hrow, hsnd, hneighbour, ht]
  rfl

/-! ## The table and the layings -/

/-- Every entry of the table is the total of a laying. -/
theorem laid_of_entry (h : entry (tableOf segments before) j k = some n) : Laid segments before j k n := by
  induction before generalizing j k n with
  | nil =>
    have hnone : entry (tableOf segments []) j k = none := by
      simp only [entry, tableOf_nil, getElem?_map]
      cases segments[j]? <;> rfl
    rw [hnone] at h
    cases h
  | cons term before ih =>
    have hj := lt_of_entry h
    have hs : segments[j]? = some segments[j] := List.getElem?_eq_getElem hj
    rw [entry, getElem?_tableOf_cons hs] at h
    rcases at?_layOn_cases h with h | ⟨f, hf, ⟨rfl, rfl⟩ | ⟨i, m, rfl, hm, rfl⟩⟩
    · exact .skipped term (ih h)
    · rcases reachBefore_eq_zero_or_entry (tableOf segments before) j with hzero | ⟨i, k, hij, hi⟩
      · rw [hzero, Nat.zero_add]
        exact .first hs hf
      · exact .apart (ih hi) hij hs hf
    · cases j with
      | zero => cases hm
      | succ j => exact .next (ih hm) hs hf

/-- The table holds at least the total of every laying. -/
theorem exists_entry_of_laid (h : Laid segments before j k n) :
    ∃ m, n ≤ m ∧ entry (tableOf segments before) j k = some m := by
  induction h with
  | @skipped before j k n term h ih =>
    obtain ⟨x, hx, he⟩ := ih
    have hj := lt_of_entry he
    have hs : segments[j]? = some segments[j] := List.getElem?_eq_getElem hj
    rw [entry, getElem?_tableOf_cons hs]
    obtain ⟨m, hm, hentry⟩ := exists_at?_layOn_kept he
    exact ⟨m, Nat.le_trans hx hm, hentry⟩
  | @first before term s f j hs hf =>
    rw [entry, getElem?_tableOf_cons hs, hf]
    obtain ⟨m, hm, hentry⟩ := exists_at?_layOn_begun (reachBefore (tableOf segments before) j) _ _ f
    exact ⟨m, by omega, hentry⟩
  | @apart before term s f i k j n h hij hs hf ih =>
    obtain ⟨x, hx, he⟩ := ih
    have hreach := le_reachBefore hij he
    rw [entry, getElem?_tableOf_cons hs, hf]
    obtain ⟨m, hm, hentry⟩ := exists_at?_layOn_begun (reachBefore (tableOf segments before) j) _ _ f
    exact ⟨m, by omega, hentry⟩
  | @next before term s f j k n h hs hf ih =>
    obtain ⟨x, hx, he⟩ := ih
    have hneighbour : (neighbourOf (tableOf segments before) (j + 1)).at? k = some x := he
    rw [entry, getElem?_tableOf_cons hs, hf]
    obtain ⟨m, hm, hentry⟩ := exists_at?_layOn_lengthened hneighbour
    exact ⟨m, by omega, hentry⟩

end RepoAtlas.Search
