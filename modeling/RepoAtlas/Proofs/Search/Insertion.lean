import RepoAtlas.Proofs.Search.Bounds
import RepoAtlas.Proofs.Search.QueryWords
import Mathlib.Data.List.Flatten

/-! # A matching term put into a query -/

namespace RepoAtlas.Search

open Text List

variable {r : PathRecord} {q q' : Query} {term : Text} {terms before after : List Text}

theorem sum_termGain_insert (r : PathRecord) (term : Text) (before after : List Text) :
    (before ++ term :: after).foldr (fun t n => termGain r t + n) 0 =
      (before ++ after).foldr (fun t n => termGain r t + n) 0 + termGain r term := by
  induction before with
  | nil => simp [Int.add_comm]
  | cons t before ih =>
    simp only [cons_append, foldr_cons, ih]
    omega

theorem place_gain_of_occursIn (hoccurs : occursIn term r.wordForm = true) :
    10 ≤ (place r term).gain ∧ ((place r term).isNear = true → 40 ≤ (place r term).gain) := by
  simp only [place, if_pos hoccurs]
  split
  · decide
  · split
    · decide
    · split <;> decide

theorem sum_gain_insert (ps qs : List Place) (p : Place) :
    (ps ++ p :: qs).foldr (fun p n => p.gain + n) 0 =
      (ps ++ qs).foldr (fun p n => p.gain + n) 0 + p.gain := by
  induction ps with
  | nil => simp [Nat.add_comm]
  | cons o ps ih =>
    simp only [cons_append, foldr_cons, ih]
    omega

/-- A term that is not near costs the gain of all near terms, and gains ten itself. -/
theorem placeBonus_insert (hoccurs : occursIn term r.wordForm = true) (hne : before ++ after ≠ []) :
    placeBonus r (before ++ after) ≤ placeBonus r (before ++ term :: after) + 50 := by
  obtain ⟨hten, hnear⟩ := place_gain_of_occursIn hoccurs
  have hsome : (before ++ after).isEmpty = false := by simpa using hne
  simp only [placeBonus, map_append, map_cons, sum_gain_insert, hsome, Bool.not_false, Bool.true_and]
  cases hplace : (place r term).isNear with
  | true =>
    have hforty := hnear hplace
    simp only [all_append, all_cons, hplace, Bool.true_and]
    simp
    omega
  | false =>
    split <;> omega

theorem shortTermBonus_of_two_le (h : 2 ≤ terms.length) : shortTermBonus r terms = 0 := by
  match terms, h with
  | _ :: _ :: _, _ => rfl

theorem orderBonus_le_of_sublist (hterms : q.terms.length ≤ q'.terms.length)
    (hslash : q.hasSlash = true → q'.hasSlash = true) (hsteps : q.steps <+ q'.steps) :
    orderBonus r q ≤ orderBonus r q' + 100 := by
  unfold orderBonus
  split
  · next hordered =>
    have hordered' : (decide (3 ≤ q'.terms.length) || q'.hasSlash) = true := by
      rcases Bool.or_eq_true_iff.mp hordered with hlen | hs
      · have hlen : 3 ≤ q.terms.length := by simpa using hlen
        simp [Nat.le_trans hlen hterms]
      · simp [hslash hs]
    rw [if_pos hordered']
    exact sequenceBonus_le_of_sublist hsteps
  · exact Nat.zero_le _

structure Query.Inserts (q q' : Query) (term : Text) : Prop where
  terms : ∃ before after, q.terms = before ++ after ∧ q'.terms = before ++ term :: after
  steps : q.steps <+ q'.steps
  hasSlash : q.hasSlash = true → q'.hasSlash = true
  extension? : q'.extension? = q.extension?

theorem total_insert (h : q.Inserts q' term) (htwo : 2 ≤ q.terms.length)
    (hoccurs : occursIn term r.wordForm = true) : total r q + 10 ≤ total r q' := by
  obtain ⟨before, after, hq, hq'⟩ := h.terms
  have hlen : q'.terms.length = q.terms.length + 1 := by
    simp [hq, hq', Nat.add_assoc]
  have hne : before ++ after ≠ [] := by
    rw [← hq]
    exact ne_nil_of_length_pos (by omega)
  have hterms : q'.terms.foldr (fun t n => termGain r t + n) 0 =
      q.terms.foldr (fun t n => termGain r t + n) 0 + 200 := by
    rw [hq, hq', sum_termGain_insert, termGain, if_pos hoccurs]
  have hplace : placeBonus r q.terms ≤ placeBonus r q'.terms + 50 := by
    rw [hq, hq']
    exact placeBonus_insert hoccurs hne
  have horder : orderBonus r q ≤ orderBonus r q' + 100 :=
    orderBonus_le_of_sublist (by omega) h.hasSlash h.steps
  have hshort : shortTermBonus r q.terms = 0 := shortTermBonus_of_two_le htwo
  have hshort' : shortTermBonus r q'.terms = 0 := shortTermBonus_of_two_le (by omega)
  have hsolid := solidBonus_le r q
  simp only [total, hterms, hshort, hshort']
  omega

theorem score_insert (h : q.Inserts q' term) (htwo : 2 ≤ q.terms.length)
    (hoccurs : occursIn term r.wordForm = true) (htier : exactTier? r q = none)
    (htier' : exactTier? r q' = none) (hterms : q'.terms.length ≤ 1000000)
    (hsteps : q'.steps.length ≤ 20000) :
    score r q ≤ score r q' ∧ (0 < score r q → score r q + 10 ≤ score r q') := by
  have hexcluded : isExcluded r q' = isExcluded r q := by
    rw [isExcluded, isExcluded, h.extension?]
  cases hasked : isExcluded r q with
  | true =>
    rw [score_of_isExcluded htier hasked]
    simp
  | false =>
    obtain ⟨before, after, hq, hq'⟩ := h.terms
    have hlarger := total_insert h htwo hoccurs
    have hlt' := total_lt_size (r := r) hterms hsteps
    have hne : q.terms ≠ [] := ne_nil_of_length_pos (by omega)
    have hne' : q'.terms ≠ [] := by simp [hq']
    rw [score_of_total_lt hne htier hasked (by omega),
      score_of_total_lt hne' htier' (hexcluded.trans hasked) hlt']
    omega

theorem inserts_of_words {text text' word : Text} {us vs : List Text}
    (hwords : words text = us ++ vs) (hwords' : words text' = us ++ word :: vs)
    (hterm : (Query.ofText word).terms = [term]) (hextension : (Query.ofText word).extension? = none) :
    (Query.ofText text).Inserts (Query.ofText text') term := by
  obtain ⟨before, after, hq, hq'⟩ := Query.exists_terms_of_insertion hwords hwords' hterm
  have hsublist : (Query.ofText text).terms <+ (Query.ofText text').terms := by
    rw [hq, hq']
    exact (sublist_cons_self term after).append_left before
  refine ⟨⟨before, after, hq, hq'⟩, ?_, ?_, Query.extension?_of_insertion hwords hwords' hextension⟩
  · rw [Query.steps_ofText, Query.steps_ofText]
    exact hsublist.flatMap _
  · rw [Query.hasSlash_ofText, Query.hasSlash_ofText]
    rintro ⟨t, ht, hslash⟩
    exact ⟨t, hsublist.subset ht, hslash⟩

/-- A word put anywhere among the words of a query, if it is one term that the path holds, never lowers
the score of the path, and adds at least ten to a score that is not zero. -/
theorem score_le_of_insertion {path text text' word : Text} {us vs : List Text}
    (hwords : words text = us ++ vs) (hwords' : words text' = us ++ word :: vs)
    (hterm : (Query.ofText word).terms = [term]) (hextension : (Query.ofText word).extension? = none)
    (htwo : 2 ≤ (Query.ofText text).terms.length)
    (hoccurs : occursIn term (PathRecord.ofPath path).wordForm = true)
    (htier : exactTier? (.ofPath path) (.ofText text) = none)
    (htier' : exactTier? (.ofPath path) (.ofText text') = none)
    (hterms : (Query.ofText text').terms.length ≤ 1000000)
    (hsteps : (Query.ofText text').steps.length ≤ 20000) :
    score (.ofPath path) (.ofText text) ≤ score (.ofPath path) (.ofText text') ∧
      (0 < score (.ofPath path) (.ofText text) →
        score (.ofPath path) (.ofText text) + 10 ≤ score (.ofPath path) (.ofText text')) :=
  score_insert (inserts_of_words hwords hwords' hterm hextension) htwo hoccurs htier htier' hterms hsteps

/-- The word `user` put between two others. -/
theorem score_le_of_insertion_user :
    0 < score (.ofPath "src/auth/user_service.ts".toList) (.ofText "auth service".toList) ∧
      score (.ofPath "src/auth/user_service.ts".toList) (.ofText "auth service".toList) + 10 ≤
        score (.ofPath "src/auth/user_service.ts".toList) (.ofText "auth user service".toList) := by
  have hwords : words "auth service".toList = ["auth".toList] ++ ["service".toList] := by
    decide +kernel
  have hwords' : words "auth user service".toList =
      ["auth".toList] ++ "user".toList :: ["service".toList] := by
    decide +kernel
  have hterm : (Query.ofText "user".toList).terms = ["user".toList] := by
    decide +kernel
  have hextension : (Query.ofText "user".toList).extension? = none := by
    decide +kernel
  have hpositive :
      0 < score (.ofPath "src/auth/user_service.ts".toList) (.ofText "auth service".toList) := by
    decide +kernel
  exact ⟨hpositive, (score_le_of_insertion hwords hwords' hterm hextension (by decide +kernel)
    (by decide +kernel) (by decide +kernel) (by decide +kernel) (by decide +kernel)
    (by decide +kernel)).2 hpositive⟩

end RepoAtlas.Search
