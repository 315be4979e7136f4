import RepoAtlas.Proofs.Search.Insertion
import RepoAtlas.Proofs.Text.Occurrence

/-! # A missing term put into a query -/

namespace RepoAtlas.Search

open Text List

variable {r : PathRecord} {q q' : Query} {term : Text} {terms before after : List Text}
variable {segments : List Segment} {j k n : Nat}

/-! ## The order of terms -/

def Unfit (segments : List Segment) (term : Text) : Prop :=
  ∀ s ∈ segments, s.fit? term = none

/-- Terms that no segment is fit for take no part in a laying. -/
theorem Laid.filter {p : Text → Bool} (hp : ∀ t, p t = false → Unfit segments t)
    (h : Laid segments terms j k n) : Laid segments (terms.filter p) j k n := by
  have hkept {t : Text} {s : Segment} {f : Fit} {i : Nat} (hs : segments[i]? = some s)
      (hf : s.fit? t = some f) : p t = true := by
    by_contra hno
    have hnone := hp t (by simpa using hno) s (mem_of_getElem? hs)
    rw [hf] at hnone
    cases hnone
  induction h with
  | skipped t h ih =>
    rw [filter_cons]
    split
    · exact .skipped t ih
    · exact ih
  | first hs hf =>
    rw [filter_cons, if_pos (hkept hs hf)]
    exact .first hs hf
  | apart h hij hs hf ih =>
    rw [filter_cons, if_pos (hkept hs hf)]
    exact .apart ih hij hs hf
  | next h hs hf ih =>
    rw [filter_cons, if_pos (hkept hs hf)]
    exact .next ih hs hf

theorem bestLaid_insert_le (hunfit : Unfit segments term) :
    bestLaid segments (before ++ term :: after) ≤ bestLaid segments (before ++ after) := by
  rcases bestLaid_eq_zero_or_laid segments (before ++ term :: after) with hzero | ⟨j, k, hlaid⟩
  · rw [hzero]
    exact Nat.zero_le _
  · have hp : ∀ t, (t != term) = false → Unfit segments t := by
      intro t ht
      obtain rfl : t = term := by simpa using ht
      exact hunfit
    have hkept := hlaid.filter hp
    have hsublist : (before ++ term :: after).filter (· != term) <+ before ++ after := by
      rw [filter_append, filter_cons_of_neg (by simp)]
      exact filter_sublist.append filter_sublist
    rw [filter_reverse] at hkept
    exact (hkept.sublist (reverse_sublist.mpr hsublist)).le_bestLaid

theorem runGain?_eq_none (hterm : term ∈ terms) (hunfit : Unfit segments term) :
    runGain? terms segments = none := by
  induction terms generalizing segments with
  | nil => cases hterm
  | cons t terms ih =>
    cases segments with
    | nil => rfl
    | cons s segments =>
      rw [runGain?]
      rcases mem_cons.mp hterm with rfl | hterm
      · rw [hunfit s mem_cons_self]
        rfl
      · have hrest : runGain? terms segments = none :=
          ih hterm fun u hu => hunfit u (mem_cons_of_mem s hu)
        cases s.fit? t with
        | none => rfl
        | some f =>
          rw [hrest]
          rfl

theorem runGains_eq_nil (hterm : term ∈ terms) (hunfit : Unfit segments term) :
    runGains terms segments = [] := by
  induction segments with
  | nil => rfl
  | cons s segments ih =>
    rw [runGains, runGain?_eq_none hterm hunfit, ih fun u hu => hunfit u (mem_cons_of_mem s hu)]
    rfl

/-- A term that no segment is fit for spoils every run, and adds nothing to the layings. -/
theorem sequenceBonus_insert_le (hunfit : Unfit segments term) :
    sequenceBonus segments (before ++ term :: after) ≤ bestLaid segments (before ++ after) := by
  have hruns : runGains (before ++ term :: after) segments = [] := runGains_eq_nil (by simp) hunfit
  have hlaid : sequenceBonus segments (before ++ term :: after) =
      bestLaid segments (before ++ term :: after) := by
    simp only [sequenceBonus, hruns, map_nil, foldl_nil, ite_self]
    rfl
  rw [hlaid]
  exact bestLaid_insert_le hunfit

/-! ## Terms that a record lacks -/

theorem not_prefix_of_mem_words {wordForm word : Text} (hlacks : ¬ term <:+: wordForm)
    (hword : word ∈ alphanumericWords wordForm) : term.isPrefixOf word = false := by
  rw [Bool.eq_false_iff, ne_eq, isPrefixOf_iff_prefix]
  intro hlead
  exact hlacks (hlead.isInfix.trans (infix_of_mem_pieces hword))

theorem any_isPrefixOf_words {wordForm : Text} (hlacks : ¬ term <:+: wordForm) :
    (alphanumericWords wordForm).any term.isPrefixOf = false := by
  rw [any_eq_false]
  intro word hword
  rw [not_prefix_of_mem_words hlacks hword]
  exact Bool.false_ne_true

theorem isPrefixOf_eq_false {t : Text} (hlacks : ¬ term <:+: t) : term.isPrefixOf t = false := by
  rw [Bool.eq_false_iff, ne_eq, isPrefixOf_iff_prefix]
  exact fun hlead => hlacks hlead.isInfix

theorem Segment.fit?_eq_none {s : Segment} (hlower : ¬ term <:+: s.lower)
    (hform : ¬ term <:+: s.wordForm) : s.fit? term = none := by
  have hterm : s.isTerm term = false := by
    have hlead : dropLead? term s.lower = none := by
      rw [dropLead?, if_neg (by rw [isPrefixOf_eq_false hlower]; exact Bool.false_ne_true)]
    rw [isTerm, hlead]
  have hinner : occursIn term s.lower = false := by
    rw [Bool.eq_false_iff, ne_eq, occursIn_iff_isInfix]
    exact hlower
  simp [fit?, hterm, isPrefixOf_eq_false hlower, any_isPrefixOf_words hform, hinner]

theorem unfit_of_lacks (h : r.Lacks term) : Unfit (Segment.ofRecord r) term := by
  intro s hs
  obtain ⟨lower, hlower, form, hform, rfl⟩ : ∃ lower ∈ r.segments, ∃ form ∈ r.segmentWordForms,
      Segment.mk lower form = s := by
    rw [Segment.ofRecord, ← map_uncurry_zip_eq_zipWith] at hs
    obtain ⟨⟨lower, form⟩, hzip, rfl⟩ := mem_map.mp hs
    obtain ⟨hlower, hform⟩ := of_mem_zip hzip
    exact ⟨lower, hlower, form, hform, rfl⟩
  exact Segment.fit?_eq_none (h.segments lower hlower) (h.segmentWordForms form hform)

theorem place_of_lacks (h : r.Lacks term) : place r term = .nowhere := by
  have hname : leadsName r term = false := by
    rw [leadsName, isPrefixOf_eq_false h.nameLower, any_isPrefixOf_words h.nameWordForm]
    rfl
  have hparent : (r.parentLower == term || r.parentWordForm == term) = false := by
    simp only [Bool.or_eq_false_iff, beq_eq_false_iff_ne]
    constructor
    · rintro rfl
      exact h.parentLower infix_rfl
    · rintro rfl
      exact h.parentWordForm infix_rfl
  have hoccurs {t : Text} (ht : ¬ term <:+: t) : occursIn term t = false := by
    rw [Bool.eq_false_iff, ne_eq, occursIn_iff_isInfix]
    exact ht
  simp [place, hname, hparent, hoccurs h.parentWordForm, hoccurs h.wordForm]

/-! ## The sum -/

theorem placeBonus_insert_le (h : r.Lacks term) :
    placeBonus r (before ++ term :: after) ≤ placeBonus r (before ++ after) := by
  have hgain : Place.nowhere.gain = 0 := rfl
  have hnear : Place.nowhere.isNear = false := rfl
  simp only [placeBonus, map_append, map_cons, sum_gain_insert, place_of_lacks h, hgain, all_append,
    all_cons, hnear, Bool.false_and, Bool.and_false, Bool.false_eq_true, if_false]
  exact Nat.le_add_right _ _

structure Query.InsertsPlain (q q' : Query) (term : Text) : Prop where
  terms : ∃ before after, q.terms = before ++ after ∧ q'.terms = before ++ term :: after
  steps : ∃ before after, q.steps = before ++ after ∧ q'.steps = before ++ term :: after
  steps_eq : q.hasSlash = false → q.steps = q.terms
  extension? : q'.extension? = q.extension?

theorem orderBonus_insert_le (h : q.InsertsPlain q' term) (hlacks : r.Lacks term) :
    orderBonus r q' ≤ orderBonus r q + 125 := by
  obtain ⟨before, after, hq, hq'⟩ := h.steps
  have hle : orderBonus r q' ≤ bestLaid (Segment.ofRecord r) q.steps := by
    unfold orderBonus
    split
    · rw [hq, hq']
      exact sequenceBonus_insert_le (unfit_of_lacks hlacks)
    · exact Nat.zero_le _
  by_cases hordered : (decide (3 ≤ q.terms.length) || q.hasSlash) = true
  · have hbonus : orderBonus r q = sequenceBonus (Segment.ofRecord r) q.steps := by
      rw [orderBonus, if_pos hordered]
    have hbest := bestLaid_le_sequenceBonus (Segment.ofRecord r) q.steps
    omega
  · simp only [Bool.or_eq_true, decide_eq_true_eq, not_or, Bool.not_eq_true] at hordered
    have hlaid := bestLaid_le (Segment.ofRecord r) q.steps
    have hlen : q.steps.length ≤ 2 := by
      rw [h.steps_eq hordered.2]
      omega
    have hstreak := streakTotal_le hlen
    have hlargest : streakTotal 2 = 45 := by decide
    omega

/-- Of the three hundred that the term takes away, the others can make good no more than a hundred and
sixty-five. -/
theorem total_insert_missing (h : q.InsertsPlain q' term) (hne : q.terms ≠ []) (hlacks : r.Lacks term) :
    total r q' + 135 ≤ total r q := by
  obtain ⟨before, after, hq, hq'⟩ := h.terms
  have hterms : q'.terms.foldr (fun t n => termGain r t + n) 0 =
      q.terms.foldr (fun t n => termGain r t + n) 0 - 300 := by
    have hoccurs : ¬ occursIn term r.wordForm = true := by
      rw [occursIn_iff_isInfix]
      exact hlacks.wordForm
    rw [hq, hq', sum_termGain_insert, termGain, if_neg hoccurs]
    rfl
  have hplace : placeBonus r q'.terms ≤ placeBonus r q.terms := by
    rw [hq, hq']
    exact placeBonus_insert_le hlacks
  have htwo : 2 ≤ q'.terms.length := by
    have hpos := length_pos_of_ne_nil hne
    rw [hq, length_append] at hpos
    rw [hq', length_append, length_cons]
    omega
  have horder := orderBonus_insert_le h hlacks
  have hshort : shortTermBonus r q'.terms = 0 := shortTermBonus_of_two_le htwo
  have hsolid := solidBonus_le r q'
  simp only [total, hterms, hshort]
  omega

/-! ## The score -/

theorem score_insert_missing (h : q.InsertsPlain q' term) (hne : q.terms ≠ []) (hlacks : r.Lacks term)
    (htier : exactTier? r q = none) (htier' : exactTier? r q' = none)
    (hterms : q'.terms.length ≤ 1000000) (hsteps : q'.steps.length ≤ 20000) :
    score r q' ≤ score r q ∧ (0 < score r q' → score r q' + 135 ≤ score r q) := by
  have hexcluded : isExcluded r q' = isExcluded r q := by
    rw [isExcluded, isExcluded, h.extension?]
  cases hasked : isExcluded r q with
  | true =>
    rw [score_of_isExcluded htier' (hexcluded.trans hasked)]
    simp
  | false =>
    obtain ⟨before, after, hq, hq'⟩ := h.terms
    obtain ⟨front, back, hs, hs'⟩ := h.steps
    have hsmaller := total_insert_missing h hne hlacks
    have hlt' := total_lt_size (r := r) hterms hsteps
    have hlt : total r q < (UInt32.size : Int) := by
      apply total_lt_size
      · rw [hq, length_append]
        rw [hq', length_append, length_cons] at hterms
        omega
      · rw [hs, length_append]
        rw [hs', length_append, length_cons] at hsteps
        omega
    have hne' : q'.terms ≠ [] := by simp [hq']
    rw [score_of_total_lt hne htier hasked hlt,
      score_of_total_lt hne' htier' (hexcluded.trans hasked) hlt']
    omega

/-! ## Words put into a query -/

theorem insertsPlain_of_words {text text' word : Text} {us vs : List Text}
    (hwords : words text = us ++ vs) (hwords' : words text' = us ++ word :: vs)
    (hterm : (Query.ofText word).terms = [term]) (hplain : '/' ∉ term)
    (hextension : (Query.ofText word).extension? = none) :
    (Query.ofText text).InsertsPlain (Query.ofText text') term := by
  obtain ⟨before, after, hq, hq'⟩ := Query.exists_terms_of_insertion hwords hwords' hterm
  have hne : term ≠ [] := by
    have hmem : term ∈ (Query.ofText word).terms := by simp [hterm]
    exact (forall_of_mem_pieces hmem).2
  have hpieces : pieces (· == '/') term = [term] := by
    apply pieces_of_forall ?_ hne
    intro c hc
    rw [beq_eq_false_iff_ne]
    rintro rfl
    exact hplain hc
  refine ⟨⟨before, after, hq, hq'⟩, ?_, ?_, Query.extension?_of_insertion hwords hwords' hextension⟩
  · refine ⟨before.flatMap (pieces (· == '/')), after.flatMap (pieces (· == '/')), ?_, ?_⟩
    · rw [Query.steps_ofText, hq, flatMap_append]
    · rw [Query.steps_ofText, hq', flatMap_append, flatMap_cons, hpieces]
      rfl
  · intro hslash
    apply Query.steps_of_plain
    intro t ht hmem
    have hhas := Query.hasSlash_ofText text |>.mpr ⟨t, ht, hmem⟩
    rw [hslash] at hhas
    cases hhas

/-- A word put anywhere among the words of a query, if it is one term that neither the path nor a segment
of it holds, never raises the score of the path, and takes at least a hundred and thirty-five from it
unless the score comes to zero. -/
theorem score_le_of_missing {path text text' word : Text} {us vs : List Text}
    (hwords : words text = us ++ vs) (hwords' : words text' = us ++ word :: vs)
    (hterm : (Query.ofText word).terms = [term]) (hplain : '/' ∉ term)
    (hextension : (Query.ofText word).extension? = none) (hne : (Query.ofText text).terms ≠ [])
    (hform : occursIn term (PathRecord.ofPath path).wordForm = false)
    (hsegments : ∀ s ∈ (PathRecord.ofPath path).segments, occursIn term s = false)
    (htier : exactTier? (.ofPath path) (.ofText text) = none)
    (htier' : exactTier? (.ofPath path) (.ofText text') = none)
    (hterms : (Query.ofText text').terms.length ≤ 1000000)
    (hsteps : (Query.ofText text').steps.length ≤ 20000) :
    score (.ofPath path) (.ofText text') ≤ score (.ofPath path) (.ofText text) ∧
      (0 < score (.ofPath path) (.ofText text') →
        score (.ofPath path) (.ofText text') + 135 ≤ score (.ofPath path) (.ofText text)) := by
  have hmem : term ∈ (Query.ofText word).terms := by simp [hterm]
  have hlacks : (PathRecord.ofPath path).Lacks term :=
    PathRecord.lacks_ofPath (forall_of_mem_pieces hmem).2 hform hsegments
  exact score_insert_missing (insertsPlain_of_words hwords hwords' hterm hplain hextension) hne hlacks
    htier htier' hterms hsteps

/-- The word `billing` put between two others, whose order it brings into the count. -/
theorem score_le_of_missing_billing :
    0 < score (.ofPath "src/auth/user_service.ts".toList) (.ofText "src billing auth".toList) ∧
      score (.ofPath "src/auth/user_service.ts".toList) (.ofText "src billing auth".toList) + 135 ≤
        score (.ofPath "src/auth/user_service.ts".toList) (.ofText "src auth".toList) := by
  have hwords : words "src auth".toList = ["src".toList] ++ ["auth".toList] := by
    decide +kernel
  have hwords' : words "src billing auth".toList =
      ["src".toList] ++ "billing".toList :: ["auth".toList] := by
    decide +kernel
  have hterm : (Query.ofText "billing".toList).terms = ["billing".toList] := by
    decide +kernel
  have hpositive :
      0 < score (.ofPath "src/auth/user_service.ts".toList) (.ofText "src billing auth".toList) := by
    decide +kernel
  exact ⟨hpositive, (score_le_of_missing hwords hwords' hterm (by decide) (by decide +kernel)
    (by decide +kernel) (by decide +kernel) (by decide +kernel) (by decide +kernel)
    (by decide +kernel) (by decide +kernel) (by decide +kernel)).2 hpositive⟩

end RepoAtlas.Search
