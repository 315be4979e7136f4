import RepoAtlas.Proofs.Search.Laying
import Mathlib.Algebra.Group.Nat.Even
import Mathlib.Tactic.Ring

/-! # The bonus of a sequence of terms -/

namespace RepoAtlas.Search

open List

variable {segments : List Segment} {terms before : List Text} {j k n : Nat}

def bestLaid (segments : List Segment) (terms : List Text) : Nat :=
  ((layTerms segments terms).map Totals.best).foldl max 0

theorem Laid.le_bestLaid (h : Laid segments terms.reverse j k n) : n ≤ bestLaid segments terms := by
  obtain ⟨m, hle, hm⟩ := exists_entry_of_laid h
  rw [tableOf, reverse_reverse] at hm
  cases ht : (layTerms segments terms)[j]? with
  | none => simp [entry, ht] at hm
  | some ts =>
    have hbest : m ≤ ts.best := by
      apply Totals.le_best (k := k)
      simpa [entry, ht] using hm
    have hmem : ts.best ∈ (layTerms segments terms).map Totals.best :=
      mem_map_of_mem (mem_of_getElem? ht)
    calc
      n ≤ m := hle
      _ ≤ ts.best := hbest
      _ ≤ bestLaid segments terms := le_foldl_max hmem 0

theorem bestLaid_eq_zero_or_laid (segments : List Segment) (terms : List Text) :
    bestLaid segments terms = 0 ∨
      ∃ j k, Laid segments terms.reverse j k (bestLaid segments terms) := by
  rcases foldl_max_eq_or_mem ((layTerms segments terms).map Totals.best) 0 with h | h
  · exact Or.inl h
  · obtain ⟨ts, hts, hbest⟩ := mem_map.mp h
    have hlaid : ts.best = bestLaid segments terms := hbest
    obtain ⟨j, hj⟩ := mem_iff_getElem?.mp hts
    rcases ts.best_eq_zero_or_at? with hzero | ⟨k, hk⟩
    · exact Or.inl (hlaid.symm.trans hzero)
    · refine Or.inr ⟨j, k, laid_of_entry ?_⟩
      rw [tableOf, reverse_reverse, entry, hj, ← hlaid]
      exact hk

theorem Laid.sublist {after : List Text} (hs : before <+ after) (h : Laid segments before j k n) :
    Laid segments after j k n := by
  induction hs generalizing j k n with
  | slnil => exact h
  | cons term hs ih => exact .skipped term (ih h)
  | cons_cons term hs ih =>
    cases h with
    | skipped _ h => exact .skipped term (ih h)
    | first hs hf => exact .first hs hf
    | apart h hij hs hf => exact .apart (ih h) hij hs hf
    | next h hs hf => exact .next (ih h) hs hf

theorem bestLaid_le_of_sublist {terms' : List Text} (h : terms <+ terms') :
    bestLaid segments terms ≤ bestLaid segments terms' := by
  rcases bestLaid_eq_zero_or_laid segments terms with hzero | ⟨j, k, hlaid⟩
  · rw [hzero]
    exact Nat.zero_le _
  · exact (hlaid.sublist (reverse_sublist.mpr h)).le_bestLaid

theorem Fit.gain_le (f : Fit) : f.gain ≤ 40 := by
  cases f <;> decide

theorem streakTotal_succ (length : Nat) :
    streakTotal (length + 1) = streakTotal length + streakGain (length + 1) := by
  obtain ⟨half, hhalf⟩ := Nat.even_mul_succ_self length
  have hsmall : 15 * length * (length + 1) = 2 * (15 * half) := by
    rw [Nat.mul_assoc, hhalf]
    omega
  have hlarge : 15 * (length + 1) * (length + 1 + 1) = 2 * (15 * half + 15 * (length + 1)) := by
    calc
      15 * (length + 1) * (length + 1 + 1) = 15 * length * (length + 1) + 30 * (length + 1) := by ring
      _ = 2 * (15 * half + 15 * (length + 1)) := by rw [hsmall]; ring
  rw [streakTotal, streakTotal, streakGain, hsmall, hlarge]
  omega

theorem streakGain_le {a b : Nat} (h : a ≤ b) : streakGain a ≤ streakGain b :=
  Nat.mul_le_mul_left 15 h

/-- A streak is no longer than the terms, and a laying gains no more than a whole run of them could. -/
theorem Laid.bound (h : Laid segments before j k n) :
    k + 1 ≤ before.length ∧ n ≤ 40 * before.length + streakTotal before.length := by
  induction h with
  | @skipped before j k n term h ih =>
    obtain ⟨hk, hn⟩ := ih
    rw [length_cons, streakTotal_succ]
    omega
  | @first before term s f j hs hf =>
    have hgain := f.gain_le
    have hstreak := streakGain_le (show 1 ≤ before.length + 1 by omega)
    rw [length_cons, streakTotal_succ]
    omega
  | @apart before term s f i k j n h hij hs hf ih =>
    obtain ⟨hk, hn⟩ := ih
    have hgain := f.gain_le
    have hstreak := streakGain_le (show 1 ≤ before.length + 1 by omega)
    rw [length_cons, streakTotal_succ]
    omega
  | @next before term s f j k n h hs hf ih =>
    obtain ⟨hk, hn⟩ := ih
    have hgain := f.gain_le
    have hstreak := streakGain_le (show k + 2 ≤ before.length + 1 by omega)
    rw [length_cons, streakTotal_succ]
    omega

theorem bestLaid_le (segments : List Segment) (terms : List Text) :
    bestLaid segments terms ≤ 40 * terms.length + streakTotal terms.length := by
  rcases bestLaid_eq_zero_or_laid segments terms with hzero | ⟨j, k, hlaid⟩
  · rw [hzero]
    exact Nat.zero_le _
  · have hbound := hlaid.bound.2
    rwa [length_reverse] at hbound

theorem exists_fit_of_runGain? {term : Text} {i gain : Nat}
    (h : runGain? (term :: terms) (segments.drop i) = some gain) :
    ∃ s f more, segments[i]? = some s ∧ s.fit? term = some f ∧
      runGain? terms (segments.drop (i + 1)) = some more ∧ gain = f.gain + more := by
  cases hd : segments.drop i with
  | nil =>
    rw [hd] at h
    cases h
  | cons s rest =>
    rw [hd] at h
    obtain ⟨f, hf, h⟩ := Option.bind_eq_some_iff.mp h
    obtain ⟨more, hmore, h⟩ := Option.bind_eq_some_iff.mp h
    have hs : segments[i]? = some s := by
      rw [← head?_drop, hd, head?_cons]
    have hrest : rest = segments.drop (i + 1) := by
      rw [← tail_drop, hd, tail_cons]
    rw [hrest] at hmore
    exact ⟨s, f, more, hs, hf, hmore, (Option.some.inj h).symm⟩

/-- A run that goes on where a laying ends lengthens its streak term by term. -/
theorem Laid.run {start gain : Nat} (h : Laid segments before j k (start + streakTotal (k + 1)))
    (hrun : runGain? terms (segments.drop (j + 1)) = some gain) :
    Laid segments (terms.reverse ++ before) (j + terms.length) (k + terms.length)
      (start + gain + streakTotal (k + terms.length + 1)) := by
  induction terms generalizing before j k start gain with
  | nil =>
    obtain rfl : 0 = gain := Option.some.inj hrun
    exact h
  | cons term terms ih =>
    obtain ⟨s, f, more, hs, hf, hmore, rfl⟩ := exists_fit_of_runGain? hrun
    have hnext := Laid.next h hs hf
    have hsum : start + streakTotal (k + 1) + f.gain + streakGain (k + 2) =
        start + f.gain + streakTotal (k + 1 + 1) := by
      have hlonger : streakTotal (k + 1 + 1) = streakTotal (k + 1) + streakGain (k + 2) :=
        streakTotal_succ (k + 1)
      omega
    rw [hsum] at hnext
    have hall := ih hnext hmore
    have hterms : (term :: terms).reverse ++ before = terms.reverse ++ term :: before := by simp
    have hj : j + (term :: terms).length = j + 1 + terms.length := by rw [length_cons]; omega
    have hk : k + (term :: terms).length = k + 1 + terms.length := by rw [length_cons]; omega
    rw [hterms, hj, hk, ← Nat.add_assoc start]
    exact hall

theorem exists_drop_of_mem_runGains {gain : Nat} (h : gain ∈ runGains terms segments) :
    ∃ i, runGain? terms (segments.drop i) = some gain := by
  induction segments with
  | nil => cases h
  | cons s segments ih =>
    rcases mem_append.mp h with h | h
    · exact ⟨0, Option.mem_toList.mp h⟩
    · obtain ⟨i, hi⟩ := ih h
      exact ⟨i + 1, hi⟩

theorem le_bestLaid_of_mem_runGains {gain : Nat} (hne : terms ≠ [])
    (h : gain ∈ runGains terms segments) :
    gain + streakTotal terms.length ≤ bestLaid segments terms := by
  obtain ⟨i, hi⟩ := exists_drop_of_mem_runGains h
  obtain ⟨term, rest, rfl⟩ := exists_cons_of_ne_nil hne
  obtain ⟨s, f, more, hs, hf, hmore, rfl⟩ := exists_fit_of_runGain? hi
  have hfirst : Laid segments [term] i 0 (f.gain + streakTotal (0 + 1)) := .first hs hf
  have hall := hfirst.run hmore
  have hlen : 0 + rest.length + 1 = (term :: rest).length := by simp
  rw [← reverse_cons, hlen] at hall
  exact hall.le_bestLaid

theorem bestLaid_le_sequenceBonus (segments : List Segment) (terms : List Text) :
    bestLaid segments terms ≤ sequenceBonus segments terms := by
  simp only [sequenceBonus]
  split
  · exact le_foldl_max_init _ _
  · exact Nat.le_refl _

theorem sequenceBonus_le_bestLaid (segments : List Segment) (terms : List Text) :
    sequenceBonus segments terms ≤ bestLaid segments terms + 100 := by
  simp only [sequenceBonus]
  split
  · next hlen =>
    have hne : terms ≠ [] := by
      rintro rfl
      cases hlen
    rcases foldl_max_eq_or_mem ((runGains terms segments).map (· + streakTotal terms.length + 100))
      (bestLaid segments terms) with h | h
    · exact Nat.le_trans (Nat.le_of_eq h) (Nat.le_add_right _ _)
    · obtain ⟨gain, hgain, hrun⟩ := mem_map.mp h
      have hle := le_bestLaid_of_mem_runGains hne hgain
      exact Nat.le_trans (Nat.le_of_eq hrun.symm) (Nat.add_le_add_right hle 100)
  · exact Nat.le_add_right _ _

/-- More terms can cost no more than the gain of a run of all of them. -/
theorem sequenceBonus_le_of_sublist {terms' : List Text} (h : terms <+ terms') :
    sequenceBonus segments terms ≤ sequenceBonus segments terms' + 100 :=
  calc
    sequenceBonus segments terms ≤ bestLaid segments terms + 100 := sequenceBonus_le_bestLaid ..
    _ ≤ bestLaid segments terms' + 100 := Nat.add_le_add_right (bestLaid_le_of_sublist h) 100
    _ ≤ sequenceBonus segments terms' + 100 :=
      Nat.add_le_add_right (bestLaid_le_sequenceBonus segments terms') 100

theorem sequenceBonus_le (segments : List Segment) (terms : List Text) :
    sequenceBonus segments terms ≤ 40 * terms.length + streakTotal terms.length + 100 :=
  Nat.le_trans (sequenceBonus_le_bestLaid segments terms)
    (Nat.add_le_add_right (bestLaid_le segments terms) 100)

end RepoAtlas.Search
