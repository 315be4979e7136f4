import RepoAtlas.Search.Score
import RepoAtlas.Proofs.Search.SequenceBonus

/-! # Bounds of scores -/

namespace RepoAtlas.Search

open Text List

variable {r : PathRecord} {q : Query}

theorem sum_termGain_le (r : PathRecord) (terms : List Text) :
    terms.foldr (fun t n => termGain r t + n) 0 ≤ 200 * (terms.length : Int) := by
  induction terms with
  | nil => simp
  | cons t terms ih =>
    have hgain : termGain r t ≤ 200 := by
      unfold termGain
      split <;> decide
    simp only [foldr_cons, length_cons]
    omega

theorem neg_le_sum_termGain (r : PathRecord) (terms : List Text) :
    -(300 * (terms.length : Int)) ≤ terms.foldr (fun t n => termGain r t + n) 0 := by
  induction terms with
  | nil => simp
  | cons t terms ih =>
    have hgain : -300 ≤ termGain r t := by
      unfold termGain
      split <;> decide
    simp only [foldr_cons, length_cons]
    omega

theorem Place.gain_le (p : Place) : p.gain ≤ 100 := by
  cases p <;> decide

theorem sum_gain_le (ps : List Place) : ps.foldr (fun p n => p.gain + n) 0 ≤ 100 * ps.length := by
  induction ps with
  | nil => simp
  | cons p ps ih =>
    have hgain := p.gain_le
    simp only [foldr_cons, length_cons]
    omega

theorem placeBonus_le (r : PathRecord) (terms : List Text) :
    placeBonus r terms ≤ 100 * terms.length + 60 := by
  have hsum := sum_gain_le (terms.map (place r))
  rw [length_map] at hsum
  simp only [placeBonus]
  split <;> omega

theorem prefix_of_segment {term s : Text}
    (h : (s == term || (cutLast? '.' s).any (·.1 == term)) = true) : term <+: s := by
  rcases Bool.or_eq_true_iff.mp h with h | h
  · obtain rfl := eq_of_beq h
    exact prefix_refl s
  · cases hcut : cutLast? '.' s with
    | none =>
      rw [hcut] at h
      cases h
    | some parts =>
      obtain ⟨stem, rest⟩ := parts
      rw [hcut] at h
      obtain rfl : stem = term := eq_of_beq h
      rw [(cutLast?_eq_some_iff.mp hcut).1]
      exact prefix_append stem _

theorem shortTermBonus_le (r : PathRecord) (terms : List Text) : shortTermBonus r terms ≤ 2000 := by
  unfold shortTermBonus
  split
  · split <;> decide
  · decide

theorem solidBonus_le (r : PathRecord) (q : Query) : solidBonus r q ≤ 40 := by
  unfold solidBonus
  split <;> decide

theorem extensionWeight_le (extension : Text) : extensionWeight extension ≤ 20 := by
  unfold extensionWeight
  split
  · decide
  · split <;> decide

theorem wordWeight_le (r : PathRecord) : wordWeight r ≤ 90 := by
  unfold wordWeight
  split <;> split <;> split <;> decide

theorem neg_le_wordWeight (r : PathRecord) : -150 ≤ wordWeight r := by
  unfold wordWeight
  split <;> split <;> split <;> decide

theorem orderBonus_le (r : PathRecord) (q : Query) :
    orderBonus r q ≤ 40 * q.steps.length + streakTotal q.steps.length + 100 := by
  unfold orderBonus
  split
  · exact sequenceBonus_le _ _
  · exact Nat.zero_le _

theorem total_le (r : PathRecord) (q : Query) :
    total r q ≤ ((2460 + 300 * q.terms.length + 40 * q.steps.length +
      streakTotal q.steps.length : Nat) : Int) := by
  have hterms := sum_termGain_le r q.terms
  have horder := orderBonus_le r q
  have hplace := placeBonus_le r q.terms
  have hshort := shortTermBonus_le r q.terms
  have hsolid := solidBonus_le r q
  have hextension := extensionWeight_le r.extension
  have hwords := wordWeight_le r
  simp only [total]
  omega

/-- What a path loses at most: three hundred for every term. The baseline makes good what a test file
loses. -/
theorem neg_le_total (r : PathRecord) (q : Query) : -(300 * (q.terms.length : Int)) ≤ total r q := by
  have hterms := neg_le_sum_termGain r q.terms
  have hwords := neg_le_wordWeight r
  simp only [total]
  omega

theorem streakTotal_le {a b : Nat} (h : a ≤ b) : streakTotal a ≤ streakTotal b := by
  induction h with
  | refl => exact Nat.le_refl _
  | step _ ih =>
    rw [streakTotal_succ]
    exact Nat.le_trans ih (Nat.le_add_right _ _)

/-- A query of no more than a million terms and twenty thousand steps is not too large for the score. -/
theorem total_lt_size (hterms : q.terms.length ≤ 1000000) (hsteps : q.steps.length ≤ 20000) :
    total r q < (UInt32.size : Int) := by
  have htotal := total_le r q
  have hstreak := streakTotal_le hsteps
  have hlargest : streakTotal 20000 = 3000150000 := by decide
  simp only [UInt32.size]
  omega

theorem score_of_total_lt (hne : q.terms ≠ []) (htier : exactTier? r q = none)
    (hasked : isExcluded r q = false) (htotal : total r q < (UInt32.size : Int)) :
    score r q = (total r q).toNat := by
  have hempty : q.isEmpty = false := by simpa [Query.isEmpty] using hne
  have hlt : (total r q).toNat < UInt32.size := by
    simp only [UInt32.size] at htotal ⊢
    omega
  simp [score, hempty, htier, hasked, Nat.mod_eq_of_lt hlt]

theorem score_of_isExcluded (htier : exactTier? r q = none) (hasked : isExcluded r q = true) :
    score r q = 0 := by
  simp [score, htier, hasked]

theorem exactTier?_bounds {tier : Nat} (h : exactTier? r q = some tier) : 9000 ≤ tier ∧ tier ≤ 10000 := by
  unfold exactTier? at h
  split at h
  · cases h
    decide
  · split at h
    · cases h
      decide
    · split at h <;> cases h
      decide

theorem score_of_exactTier? {tier : Nat} (h : exactTier? r q = some tier) (hne : q.isEmpty = false) :
    score r q = tier := by
  simp [score, h, hne]

theorem score_le (r : PathRecord) (q : Query) :
    score r q ≤ max 10000 (2460 + 300 * q.terms.length + 40 * q.steps.length +
      streakTotal q.steps.length) := by
  unfold score
  split
  · exact Nat.zero_le _
  · split
    · next tier htier => exact Nat.le_trans (exactTier?_bounds htier).2 (Nat.le_max_left ..)
    · have htotal := total_le r q
      have hmod := Nat.mod_le (total r q).toNat UInt32.size
      split
      · exact Nat.zero_le _
      · omega

theorem score_eq_of_total_lt (hne : q.isEmpty = false) (htotal : total r q < (UInt32.size : Int)) :
    score r q = (exactTier? r q).getD (if isExcluded r q then 0 else (total r q).toNat) := by
  have hterms : q.terms ≠ [] := by simpa [Query.isEmpty] using hne
  cases htier : exactTier? r q with
  | some tier => exact score_of_exactTier? htier hne
  | none =>
    cases hasked : isExcluded r q with
    | true => exact score_of_isExcluded htier hasked
    | false => exact score_of_total_lt hterms htier hasked htotal

/-- A score is at most ten thousand or what the terms and the steps of the query can come to. For a query of
no more than a million terms and twenty thousand steps the sum fits into 32 bits, so that nothing is cut
off: the score is that of a tier, or zero for another extension than the one asked for, or the sum. -/
theorem score_never_wraps (path text : Text) :
    let r := PathRecord.ofPath path
    let q := Query.ofText text
    score r q ≤ max 10000 (2460 + 300 * q.terms.length + 40 * q.steps.length +
      15 * q.steps.length * (q.steps.length + 1) / 2) ∧
    (q.isEmpty = false → q.terms.length ≤ 1000000 → q.steps.length ≤ 20000 →
      -(2 ^ 32) < total r q ∧ total r q < 2 ^ 32 ∧
      score r q = (exactTier? r q).getD (if isExcluded r q then 0 else (total r q).toNat)) := by
  intro r q
  refine ⟨score_le r q, ?_⟩
  intro hne hterms hsteps
  have hlow := neg_le_total r q
  have hhigh : total r q < (UInt32.size : Int) := total_lt_size hterms hsteps
  have hsize : UInt32.size = 2 ^ 32 := rfl
  exact ⟨by omega, by omega, score_eq_of_total_lt hne hhigh⟩

/-- Three terms along three segments: a sum of more than a thousand. -/
theorem score_never_wraps_three_terms :
    let r := PathRecord.ofPath "src/auth/user_service.ts".toList
    let q := Query.ofText "src auth user".toList
    q.isEmpty = false ∧ q.terms.length ≤ 1000000 ∧ q.steps.length ≤ 20000 ∧ exactTier? r q = none ∧
      1000 < total r q ∧ score r q = (total r q).toNat := by
  intro r q
  have hne : q.isEmpty = false := by decide +kernel
  have hterms : q.terms.length ≤ 1000000 := by decide +kernel
  have hsteps : q.steps.length ≤ 20000 := by decide +kernel
  have htier : exactTier? r q = none := by decide +kernel
  have hasked : isExcluded r q = false := by decide +kernel
  have htotal : 1000 < total r q := by decide +kernel
  obtain ⟨-, hfits⟩ := score_never_wraps "src/auth/user_service.ts".toList "src auth user".toList
  obtain ⟨-, -, hscore⟩ := hfits hne hterms hsteps
  have hsum : (exactTier? r q).getD (if isExcluded r q then 0 else (total r q).toNat) =
      (total r q).toNat := by
    rw [htier, hasked]
    rfl
  exact ⟨hne, hterms, hsteps, htier, htotal, hscore.trans hsum⟩

end RepoAtlas.Search
