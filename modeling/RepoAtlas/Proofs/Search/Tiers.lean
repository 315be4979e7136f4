import RepoAtlas.Search.Catalog
import RepoAtlas.Proofs.Search.Insertion
import RepoAtlas.Proofs.Search.Ranking
import RepoAtlas.Proofs.Text.Slashes

/-! # Exact tiers and sums -/

namespace RepoAtlas.Search

open Text List

variable {r : PathRecord} {q : Query} {term : Text} {terms : List Text}

/-! ## The ceiling -/

def plainCount (terms : List Text) : Nat :=
  terms.countP fun t => !t.contains '/'

/-- What no sum for the query exceeds: three hundred by the path alone, two hundred and ten for every
term, ninety more for one without a slash, sixty when all are such, two thousand for a single one, and
what a whole run of the steps gains. -/
def Query.ceiling (q : Query) : Nat :=
  300 + 210 * q.terms.length + 90 * plainCount q.terms
    + (if plainCount q.terms = q.terms.length then 60 else 0)
    + (if q.terms.length = 1 ∧ plainCount q.terms = 1 then 2000 else 0)
    + 40 * q.steps.length + streakTotal q.steps.length
    + (if 3 ≤ q.steps.length then 100 else 0)

/-! ## Terms with a slash -/

theorem not_leadsName_of_slash (hr : r.SlashFree) (hslash : '/' ∈ term) : leadsName r term = false := by
  have hname : term.isPrefixOf r.nameLower = false := by
    rw [Bool.eq_false_iff, ne_eq, isPrefixOf_iff_prefix]
    exact fun h => hr.nameLower (h.subset hslash)
  have hwords : (alphanumericWords r.nameWordForm).any term.isPrefixOf = false := by
    rw [any_eq_false]
    intro word hword h
    have hlead : term <+: word := isPrefixOf_iff_prefix.mp h
    have hclean := (forall_of_mem_pieces hword).1 '/' (hlead.subset hslash)
    exact absurd hclean (by decide +kernel)
  rw [leadsName, hname, hwords]
  rfl

/-- A term with a slash is never near, since a name and a directory hold none. -/
theorem place_of_slash (hr : r.SlashFree) (hslash : '/' ∈ term) :
    place r term = .elsewhere ∨ place r term = .nowhere := by
  have hname := not_leadsName_of_slash hr hslash
  have hparent : (r.parentLower == term || r.parentWordForm == term) = false := by
    simp only [Bool.or_eq_false_iff, beq_eq_false_iff_ne]
    exact ⟨fun h => hr.parentLower (h ▸ hslash), fun h => hr.parentWordForm (h ▸ hslash)⟩
  have hinside : occursIn term r.parentWordForm = false := by
    rw [Bool.eq_false_iff, ne_eq, occursIn_iff]
    rintro ⟨a, b, h⟩
    exact hr.parentWordForm (by simp [h, hslash])
  simp only [place, hname, hparent, hinside, Bool.and_false, Bool.false_eq_true, if_false]
  split
  · exact Or.inl rfl
  · exact Or.inr rfl

theorem sum_gain_le_of_slashFree (hr : r.SlashFree) (terms : List Text) :
    (terms.map (place r)).foldr (fun p n => p.gain + n) 0 ≤
      10 * terms.length + 90 * plainCount terms := by
  induction terms with
  | nil => simp
  | cons term terms ih =>
    have hgain := (place r term).gain_le
    simp only [plainCount] at ih ⊢
    by_cases hslash : '/' ∈ term
    · have hten : (place r term).gain ≤ 10 := by
        rcases place_of_slash hr hslash with h | h <;> rw [h] <;> decide
      have hplain : (!term.contains '/') = false := by simpa using hslash
      simp only [map_cons, foldr_cons, length_cons, countP_cons, hplain, Bool.false_eq_true, if_false]
      omega
    · have hplain : (!term.contains '/') = true := by simpa using hslash
      simp only [map_cons, foldr_cons, length_cons, countP_cons, hplain, if_true]
      omega

theorem plainCount_of_all_near (hr : r.SlashFree) (h : (terms.map (place r)).all Place.isNear = true) :
    plainCount terms = terms.length := by
  rw [plainCount, countP_eq_length]
  intro term hterm
  have hnear : (place r term).isNear = true := all_eq_true.mp h _ (mem_map_of_mem hterm)
  have hslash : '/' ∉ term := by
    intro hslash
    rcases place_of_slash hr hslash with hplace | hplace <;> rw [hplace] at hnear <;> cases hnear
  simpa using hslash

theorem placeBonus_le_of_slashFree (hr : r.SlashFree) (terms : List Text) :
    placeBonus r terms ≤ 10 * terms.length + 90 * plainCount terms +
      (if plainCount terms = terms.length then 60 else 0) := by
  have hsum := sum_gain_le_of_slashFree hr terms
  simp only [placeBonus]
  by_cases hnear : (terms.map (place r)).all Place.isNear = true
  · rw [if_pos (plainCount_of_all_near hr hnear)]
    split <;> omega
  · have hnot : (terms.map (place r)).all Place.isNear = false := by simpa using hnear
    simp only [hnot, Bool.and_false, Bool.false_eq_true, if_false]
    omega

theorem shortTermBonus_le_of_slashFree (hr : r.SlashFree) (terms : List Text) :
    shortTermBonus r terms ≤ if terms.length = 1 ∧ plainCount terms = 1 then 2000 else 0 := by
  match terms with
  | [] => exact Nat.zero_le _
  | _ :: _ :: _ => exact Nat.zero_le _
  | [term] =>
    by_cases hslash : '/' ∈ term
    · have hnone : r.segments.any (fun s => s == term || (cutLast? '.' s).any (·.1 == term)) = false := by
        rw [any_eq_false]
        intro s hs hterm
        exact hr.segments s hs ((prefix_of_segment hterm).subset hslash)
      rw [shortTermBonus, hnone, Bool.and_false]
      exact Nat.zero_le _
    · have hplain : plainCount [term] = 1 := by simpa [plainCount] using hslash
      rw [if_pos ⟨rfl, hplain⟩]
      exact shortTermBonus_le r [term]

/-! ## Steps -/

theorem sequenceBonus_le_whole_run (segments : List Segment) (terms : List Text) :
    sequenceBonus segments terms ≤
      40 * terms.length + streakTotal terms.length + (if 3 ≤ terms.length then 100 else 0) := by
  by_cases hthree : 3 ≤ terms.length
  · rw [if_pos hthree]
    exact sequenceBonus_le segments terms
  · rw [sequenceBonus, if_neg hthree, if_neg hthree]
    exact bestLaid_le segments terms

theorem orderBonus_le_whole_run (r : PathRecord) (q : Query) :
    orderBonus r q ≤
      40 * q.steps.length + streakTotal q.steps.length + (if 3 ≤ q.steps.length then 100 else 0) := by
  unfold orderBonus
  split
  · exact sequenceBonus_le_whole_run _ _
  · exact Nat.zero_le _

/-! ## Sums stay under the ceiling -/

theorem total_le_ceiling (hr : r.SlashFree) (q : Query) : total r q ≤ (q.ceiling : Int) := by
  have hterms := sum_termGain_le r q.terms
  have horder := orderBonus_le_whole_run r q
  have hplace := placeBonus_le_of_slashFree hr q.terms
  have hshort := shortTermBonus_le_of_slashFree hr q.terms
  have hsolid := solidBonus_le r q
  have hextension := extensionWeight_le r.extension
  have hwords := wordWeight_le r
  simp only [total, Query.ceiling]
  omega

theorem score_le_ceiling (hr : r.SlashFree) (htier : exactTier? r q = none) :
    score r q ≤ q.ceiling := by
  have htotal := total_le_ceiling hr q
  have hmod := Nat.mod_le (total r q).toNat UInt32.size
  simp only [score, htier]
  split
  · exact Nat.zero_le _
  · split <;> omega

/-! ## Exact tiers -/

def hitsTier (text path : Text) : Bool :=
  (exactTier? (.ofPath path) (.ofText text)).isSome

variable {text path : Text} {paths : List Text} {h : Hit}

theorem score_le_of_not_hitsTier (hno : hitsTier text path = false) :
    score (.ofPath path) (.ofText text) ≤ (Query.ofText text).ceiling :=
  score_le_ceiling (PathRecord.slashFree_ofPath path) (by simpa [hitsTier] using hno)

theorem le_score_of_hitsTier (hhits : hitsTier text path = true)
    (hne : (Query.ofText text).isEmpty = false) : 9000 ≤ score (.ofPath path) (.ofText text) := by
  obtain ⟨tier, htier⟩ := Option.isSome_iff_exists.mp hhits
  rw [score_of_exactTier? htier hne]
  exact (exactTier?_bounds htier).1

/-! ## Queries with a low ceiling -/

theorem Query.ceiling_le_of_ten_plain (hplain : ∀ term ∈ (ofText text).terms, '/' ∉ term)
    (hten : (ofText text).terms.length ≤ 10) : (ofText text).ceiling ≤ 5000 := by
  have hcount : plainCount (ofText text).terms = (ofText text).terms.length := by
    rw [plainCount, countP_eq_length]
    intro term hterm
    simpa using hplain term hterm
  have hstreak := streakTotal_le hten
  have hlargest : streakTotal 10 = 825 := by decide
  simp only [ceiling, hcount, steps_of_plain hplain, if_true, and_self]
  split <;> split <;> omega

theorem Query.ceiling_le_of_one_term (hone : (ofText text).terms.length = 1)
    (hsteps : (ofText text).steps.length ≤ 21) : (ofText text).ceiling ≤ 5000 := by
  obtain ⟨term, hterm⟩ := length_eq_one_iff.mp hone
  by_cases hslash : '/' ∈ term
  · have hcount : plainCount (ofText text).terms = 0 := by simp [hterm, plainCount, hslash]
    have hstreak := streakTotal_le hsteps
    have hlargest : streakTotal 21 = 3465 := by decide
    have hrun : (if 3 ≤ (ofText text).steps.length then 100 else 0) ≤ 100 := by split <;> decide
    have hceiling : (ofText text).ceiling = 510 + 40 * (ofText text).steps.length +
        streakTotal (ofText text).steps.length + if 3 ≤ (ofText text).steps.length then 100 else 0 := by
      simp [ceiling, hcount, hone]
    omega
  · apply ceiling_le_of_ten_plain ?_ (by omega)
    simpa [hterm] using hslash

/-! ## Searches -/

theorem mem_hits_ofPaths : h ∈ (Catalog.ofPaths paths).hits q ↔
    h.path ∈ paths ∧ h.rating = .ofScore (score (.ofPath h.path) q) ∧ 0 < h.score := by
  obtain ⟨path, rating⟩ := h
  simp only [Catalog.hits, Catalog.ofPaths, map_map, mem_filter, mem_map, Function.comp_apply,
    Hit.mk.injEq, decide_eq_true_eq]
  constructor
  · rintro ⟨⟨p, hp, rfl, rfl⟩, hpos⟩
    exact ⟨hp, rfl, hpos⟩
  · rintro ⟨hp, rfl, hpos⟩
    exact ⟨⟨path, hp, rfl, rfl⟩, hpos⟩

theorem score_of_mem_hits_ofPaths (hmem : h ∈ (Catalog.ofPaths paths).hits q) :
    h.score = score (.ofPath h.path) q :=
  congrArg Rating.score (mem_hits_ofPaths.mp hmem).2.1

theorem not_isEmpty_of_mem_hits (hmem : h ∈ (Catalog.ofPaths paths).hits q) : q.isEmpty = false := by
  obtain ⟨-, -, hpos⟩ := mem_hits_ofPaths.mp hmem
  rw [score_of_mem_hits_ofPaths hmem] at hpos
  by_contra hempty
  have hzero : score (.ofPath h.path) q = 0 := by simp [score, hempty]
  omega

theorem hits_partition_perm (p : Text → Bool) (paths : List Text) (q : Query) :
    (Catalog.ofPaths (paths.filter p)).hits q ++ (Catalog.ofPaths (paths.filter fun path => !p path)).hits q ~
      (Catalog.ofPaths paths).hits q := by
  simp only [Catalog.hits, Catalog.ofPaths, ← filter_append, ← map_append]
  exact (((filter_append_perm p paths).map _).map _).filter _

theorem grade_eq_exact_iff (hg : h.IsGraded) : h.grade = .exact ↔ 5000 < h.score := by
  have hgrade : h.grade = .ofScore h.score := (congrArg Hit.grade hg).symm
  rw [hgrade, Grade.ofScore]
  split <;> simp [*]

theorem leads_of_score_lt {a b : Hit} (hlt : b.score < a.score) : a.Leads b := by
  have hcompare : compare b.score a.score = .lt := Nat.compare_eq_lt.mpr hlt
  simp [Hit.Leads, Hit.order, hcompare]

theorem search_tiers_first (hlow : (Query.ofText text).ceiling < 9000) (paths : List Text) (limit : Nat) :
    (Catalog.ofPaths paths).search text limit =
      ((Catalog.ofPaths (paths.filter (hitsTier text))).search text limit ++
        (Catalog.ofPaths (paths.filter fun path => !hitsTier text path)).search text limit).take limit := by
  have hleads : ∀ a ∈ (Catalog.ofPaths (paths.filter (hitsTier text))).hits (.ofText text),
      ∀ b ∈ (Catalog.ofPaths (paths.filter fun path => !hitsTier text path)).hits (.ofText text),
        a.Leads b := by
    intro a ha b hb
    have hhits := (mem_filter.mp (mem_hits_ofPaths.mp ha).1).2
    have hmisses := (mem_filter.mp (mem_hits_ofPaths.mp hb).1).2
    have hhigh := le_score_of_hitsTier hhits (not_isEmpty_of_mem_hits ha)
    have hnot : hitsTier text b.path = false := by simpa using hmisses
    have hbelow := score_le_of_not_hitsTier hnot
    rw [← score_of_mem_hits_ofPaths ha] at hhigh
    rw [← score_of_mem_hits_ofPaths hb] at hbelow
    exact leads_of_score_lt (by omega)
  have hperm := hits_partition_perm (hitsTier text) paths (.ofText text)
  simp only [Catalog.search_eq_best]
  rw [← best_perm (fun h hmem => Catalog.isGraded_of_mem_hits (hperm.mem_iff.mp hmem)) limit hperm,
    best_append_of_leads (fun _ => Catalog.isGraded_of_mem_hits) (fun _ => Catalog.isGraded_of_mem_hits)
      limit hleads]

/-- While the ceiling of the query is at most five thousand, just the hits of a tier are exact, and while
it is below nine thousand they are listed before all others. -/
theorem exact_tiers_dominate (text : Text) :
    (∀ path, hitsTier text path = false →
      score (.ofPath path) (.ofText text) ≤ (Query.ofText text).ceiling) ∧
    (∀ path, hitsTier text path = true → (Query.ofText text).isEmpty = false →
      9000 ≤ score (.ofPath path) (.ofText text)) ∧
    ((Query.ofText text).ceiling ≤ 5000 → ∀ paths limit,
      ∀ h ∈ (Catalog.ofPaths paths).search text limit, h.grade = .exact ↔ hitsTier text h.path = true) ∧
    ((Query.ofText text).ceiling < 9000 → ∀ paths limit,
      (Catalog.ofPaths paths).search text limit =
        ((Catalog.ofPaths (paths.filter (hitsTier text))).search text limit ++
          (Catalog.ofPaths (paths.filter fun path => !hitsTier text path)).search text limit).take limit) ∧
    ((∀ term ∈ (Query.ofText text).terms, '/' ∉ term) → (Query.ofText text).terms.length ≤ 10 →
      (Query.ofText text).ceiling ≤ 5000) ∧
    ((Query.ofText text).terms.length = 1 → (Query.ofText text).steps.length ≤ 21 →
      (Query.ofText text).ceiling ≤ 5000) := by
  refine ⟨fun path => score_le_of_not_hitsTier, fun path => le_score_of_hitsTier, ?_, search_tiers_first,
    Query.ceiling_le_of_ten_plain, Query.ceiling_le_of_one_term⟩
  intro hlow paths limit h hmem
  have hhit := Catalog.mem_hits_of_mem_search hmem
  rw [grade_eq_exact_iff (Catalog.isGraded_of_mem_hits hhit), score_of_mem_hits_ofPaths hhit]
  constructor
  · intro hexact
    by_contra hno
    have hnot : hitsTier text h.path = false := by simpa using hno
    have hle := score_le_of_not_hitsTier hnot
    omega
  · intro hhits
    have hle := le_score_of_hitsTier hhits (not_isEmpty_of_mem_hits hhit)
    omega

/-- A file whose name is the query stands before one that only holds its two words. -/
theorem exact_tiers_dominate_two_words :
    (Query.ofText "a b".toList).ceiling ≤ 5000 ∧
    hitsTier "a b".toList "z/a b".toList = true ∧ hitsTier "a b".toList "a/b.ts".toList = false ∧
    (Catalog.ofPaths ["a/b.ts".toList, "z/a b".toList]).search "a b".toList 2 =
      ((Catalog.ofPaths ["z/a b".toList]).search "a b".toList 2 ++
        (Catalog.ofPaths ["a/b.ts".toList]).search "a b".toList 2).take 2 := by
  obtain ⟨-, -, -, hsearch, hten, -⟩ := exact_tiers_dominate "a b".toList
  have hlow := hten (by decide +kernel) (by decide +kernel)
  have hexact : hitsTier "a b".toList "z/a b".toList = true := by decide +kernel
  have hfuzzy : hitsTier "a b".toList "a/b.ts".toList = false := by decide +kernel
  have hboth := hsearch (Nat.lt_of_le_of_lt hlow (by decide)) ["a/b.ts".toList, "z/a b".toList] 2
  simp only [filter_cons, hexact, hfuzzy, filter_nil, Bool.not_true, Bool.not_false, if_true,
    Bool.false_eq_true, if_false] at hboth
  exact ⟨hlow, hexact, hfuzzy, hboth⟩

/-- Eleven terms that run along eleven segments come to more than five thousand. -/
theorem sum_above_exact_bound :
    ¬ ∀ path text, hitsTier text path = false → score (.ofPath path) (.ofText text) ≤ 5000 := by
  intro hbound
  have hscore := hbound "a/a/a/a/a/a/a/a/a/a/a.ts".toList "a a a a a a a a a a a".toList (by decide +kernel)
  exact absurd hscore (by decide +kernel)

end RepoAtlas.Search
