import RepoAtlas.Proofs.Search.Listing
import RepoAtlas.Proofs.Search.Missing

/-! # The soft conjunction of terms -/

namespace RepoAtlas.Search

open Text List

variable {r : PathRecord} {q : Query} {terms : List Text} {segments : List Segment}

theorem sum_termGain_of_forall (h : ∀ term ∈ terms, occursIn term r.wordForm = true) :
    terms.foldr (fun t n => termGain r t + n) 0 = 200 * (terms.length : Int) := by
  induction terms with
  | nil => rfl
  | cons t terms ih =>
    obtain ⟨ht, hterms⟩ := forall_mem_cons.mp h
    have hgain : termGain r t = 200 := by rw [termGain, if_pos ht]
    rw [foldr_cons, ih hterms, hgain, length_cons]
    omega

theorem total_pos (hne : q.terms ≠ []) (h : ∀ term ∈ q.terms, occursIn term r.wordForm = true) :
    0 < total r q := by
  have hterms := sum_termGain_of_forall h
  have hlength := length_pos_of_ne_nil hne
  have hwords := neg_le_wordWeight r
  simp only [total, hterms]
  omega

theorem score_pos (hne : q.terms ≠ []) (h : ∀ term ∈ q.terms, occursIn term r.wordForm = true)
    (hasked : isExcluded r q = false) (htotal : total r q < (UInt32.size : Int)) : 0 < score r q := by
  have hempty : q.isEmpty = false := by simpa [Query.isEmpty] using hne
  rw [score_eq_of_total_lt hempty htotal, hasked]
  cases htier : exactTier? r q with
  | some tier => exact Nat.lt_of_lt_of_le (by decide) (exactTier?_bounds htier).1
  | none =>
    have hsum := total_pos hne h
    simp only [Option.getD_none, Bool.false_eq_true, if_false]
    omega

theorem bestLaid_eq_zero (h : ∀ term ∈ terms, Unfit segments term) : bestLaid segments terms = 0 := by
  rcases bestLaid_eq_zero_or_laid segments terms with hzero | ⟨j, k, hlaid⟩
  · exact hzero
  · have hp : ∀ t, (!terms.contains t) = false → Unfit segments t := by
      intro t ht
      exact h t (by simpa using ht)
    have hnone : terms.reverse.filter (fun t => !terms.contains t) = [] := by
      simp [filter_eq_nil_iff]
    have hkept := hlaid.filter hp
    rw [hnone] at hkept
    cases hkept

theorem sequenceBonus_eq_zero (h : ∀ term ∈ terms, Unfit segments term) :
    sequenceBonus segments terms = 0 := by
  have hlaid : ((layTerms segments terms).map Totals.best).foldl max 0 = 0 := bestLaid_eq_zero h
  rw [sequenceBonus, hlaid]
  split
  · next hthree =>
    obtain ⟨term, hterm⟩ := exists_mem_of_length_pos (Nat.lt_of_lt_of_le (by decide) hthree)
    rw [runGains_eq_nil hterm (h term hterm)]
    rfl
  · rfl

theorem sum_termGain_of_lacks (h : ∀ term ∈ terms, r.Lacks term) :
    terms.foldr (fun t n => termGain r t + n) 0 = -(300 * (terms.length : Int)) := by
  induction terms with
  | nil => rfl
  | cons t terms ih =>
    obtain ⟨ht, hterms⟩ := forall_mem_cons.mp h
    have hoccurs : ¬ occursIn t r.wordForm = true := by
      rw [occursIn_iff_isInfix]
      exact ht.wordForm
    have hgain : termGain r t = -300 := by rw [termGain, if_neg hoccurs]
    rw [foldr_cons, ih hterms, hgain, length_cons]
    omega

theorem placeBonus_eq_zero (hne : terms ≠ []) (h : ∀ term ∈ terms, r.Lacks term) :
    placeBonus r terms = 0 := by
  have hplaces : terms.map (place r) = replicate terms.length Place.nowhere :=
    map_eq_replicate_iff.mpr fun term hterm => place_of_lacks (h term hterm)
  have hsum (n : Nat) : (replicate n Place.nowhere).foldr (fun p n => p.gain + n) 0 = 0 := by
    induction n with
    | zero => rfl
    | succ n ih =>
      rw [replicate_succ, foldr_cons, ih]
      rfl
  obtain ⟨n, hn⟩ : ∃ n, terms.length = n + 1 := Nat.exists_eq_add_one.mpr (length_pos_of_ne_nil hne)
  have hnear : (replicate terms.length Place.nowhere).all Place.isNear = false := by
    rw [hn, replicate_succ, all_cons]
    rfl
  simp only [placeBonus, hplaces, hsum, hnear, Bool.and_false, Bool.false_eq_true, if_false]

theorem shortTermBonus_eq_zero (h : ∀ term ∈ terms, r.Lacks term) : shortTermBonus r terms = 0 := by
  match terms with
  | [] => rfl
  | _ :: _ :: _ => rfl
  | [term] =>
    have hlacks := h term mem_cons_self
    have hnone : r.segments.any (fun s => s == term || (cutLast? '.' s).any (·.1 == term)) = false := by
      rw [any_eq_false]
      intro s hs hterm
      exact hlacks.segments s hs (prefix_of_segment hterm).isInfix
    rw [shortTermBonus, hnone, Bool.and_false]
    rfl

/-- A hundred and fifty as the baseline, forty for the query run together, twenty for the extension and
ninety for the words come to what the first term takes away. -/
theorem total_nonpos (hne : q.terms ≠ []) (hsteps : q.steps = q.terms)
    (h : ∀ term ∈ q.terms, r.Lacks term) : total r q ≤ 0 := by
  have hterms := sum_termGain_of_lacks h
  have hlength := length_pos_of_ne_nil hne
  have horder : orderBonus r q = 0 := by
    unfold orderBonus
    split
    · rw [hsteps]
      exact sequenceBonus_eq_zero fun term hterm => unfit_of_lacks (h term hterm)
    · rfl
  have hsolid := solidBonus_le r q
  have hextension := extensionWeight_le r.extension
  have hwords := wordWeight_le r
  simp only [total, hterms, horder, placeBonus_eq_zero hne h, shortTermBonus_eq_zero h]
  omega

theorem score_eq_zero (hsteps : q.steps = q.terms) (h : ∀ term ∈ q.terms, r.Lacks term)
    (htier : exactTier? r q = none) : score r q = 0 := by
  by_cases hne : q.terms = []
  · simp [score, Query.isEmpty, hne]
  · have hsum : (total r q).toNat = 0 := Int.toNat_of_nonpos (total_nonpos hne hsteps h)
    simp [score, htier, hsum]

variable {text path : Text} {paths : List Text} {limit : Nat}

theorem hitOf_mem_search (hpath : path ∈ paths) (hfinds : finds text path = true)
    (hlimit : paths.length ≤ limit) : hitOf text path ∈ (Catalog.ofPaths paths).search text limit := by
  obtain ⟨ranked, hranked⟩ := exists_ranked text paths
  have hroom : ranked.length ≤ limit := by
    rw [hranked.length_eq]
    exact Nat.le_trans countP_le_length hlimit
  rw [hranked.search_eq_take, take_of_length_le hroom, hranked.perm.mem_iff]
  exact mem_map_of_mem (mem_filter.mpr ⟨hpath, hfinds⟩)

theorem finds_of_mem_search {h : Hit} (hmem : h ∈ (Catalog.ofPaths paths).search text limit) :
    finds text h.path = true := by
  have hhit := Catalog.mem_hits_of_mem_search hmem
  rw [hits_ofPaths] at hhit
  obtain ⟨path, hpath, rfl⟩ := mem_map.mp hhit
  exact (mem_filter.mp hpath).2

/-- A path that holds every term of a query of reasonable length, and has the extension that is asked for if
any is, is listed by every search with room for it. A path that hits no exact tier and holds none of the
terms, neither in its word form nor in a segment, is listed by no search. -/
theorem search_lists_holders (path text : Text) (hne : (Query.ofText text).isEmpty = false) :
    let r := PathRecord.ofPath path
    let q := Query.ofText text
    (q.terms.length ≤ 1000000 → q.steps.length ≤ 20000 →
      (∀ term ∈ q.terms, occursIn term r.wordForm = true) →
      (q.extension? = none ∨ q.extension? = some r.extension) →
      0 < score r q ∧ ∀ paths limit, path ∈ paths → paths.length ≤ limit →
        ⟨path, score r q⟩ ∈ (Catalog.ofPaths paths).search text limit) ∧
    (exactTier? r q = none →
      (∀ term ∈ q.terms, '/' ∉ term ∧ occursIn term r.wordForm = false ∧
        ∀ s ∈ r.segments, occursIn term s = false) →
      score r q = 0 ∧ ∀ paths limit, ∀ h ∈ (Catalog.ofPaths paths).search text limit, h.path ≠ path) := by
  intro r q
  have hsome : q.terms ≠ [] := by simpa [Query.isEmpty] using hne
  constructor
  · intro hterms hsteps hholds hextension
    have hasked : isExcluded r q = false := by
      rcases hextension with hnone | hsame
      · rw [isExcluded, hnone]
        rfl
      · simp [isExcluded, hsame]
    have hpos : 0 < score r q := score_pos hsome hholds hasked (total_lt_size hterms hsteps)
    refine ⟨hpos, ?_⟩
    intro paths limit hpath hlimit
    exact hitOf_mem_search hpath (decide_eq_true hpos) hlimit
  · intro htier hmissed
    have hsteps : q.steps = q.terms := Query.steps_of_plain fun term hterm => (hmissed term hterm).1
    have hlacks : ∀ term ∈ q.terms, r.Lacks term := by
      intro term hterm
      obtain ⟨-, hform, hsegments⟩ := hmissed term hterm
      exact PathRecord.lacks_ofPath (forall_of_mem_pieces hterm).2 hform hsegments
    have hzero : score r q = 0 := score_eq_zero hsteps hlacks htier
    refine ⟨hzero, ?_⟩
    rintro paths limit h hmem rfl
    have hfinds : 0 < score r q := of_decide_eq_true (finds_of_mem_search hmem)
    omega

/-- A test file that holds two terms; and a path that gains all that a path without the term can, which is
just what the term takes away. -/
theorem search_lists_holders_boundary :
    (∀ paths limit, "tests/user_model.test.ts".toList ∈ paths → paths.length ≤ limit →
      ⟨"tests/user_model.test.ts".toList, .ofScore 740⟩ ∈
        (Catalog.ofPaths paths).search "user test".toList limit) ∧
    (∀ paths limit, ∀ h ∈ (Catalog.ofPaths paths).search "servicex".toList limit,
      h.path ≠ "types/service_x.ts".toList) ∧
    total (.ofPath "types/service_x.ts".toList) (.ofText "servicex".toList) = 0 := by
  have hheld := search_lists_holders "tests/user_model.test.ts".toList "user test".toList (by decide)
  have hmissed := search_lists_holders "types/service_x.ts".toList "servicex".toList (by decide)
  refine ⟨?_, ?_, by decide +kernel⟩
  · have hscore : score (.ofPath "tests/user_model.test.ts".toList) (.ofText "user test".toList) = 740 := by
      decide +kernel
    rw [← hscore]
    exact (hheld.1 (by decide) (by decide) (by decide) (by decide)).2
  · exact (hmissed.2 (by decide) (by decide)).2

end RepoAtlas.Search
