import RepoAtlas.Proofs.Path.Collapse

/-! # Normal paths -/

namespace RepoAtlas.Path

open Text List

variable {path : Text} {ss kept : List Text}

/-- The steps of a path: its segments, but for those that are empty or `.`. -/
def steps (path : Text) : List Text :=
  (Text.splitOn '/' path).filter fun s => s != [] && s != ['.']

/-- Along some front of the steps there are more of `..` than of all others. -/
def ClimbsOut (steps : List Text) : Prop :=
  ∃ front, front <+: steps ∧ front.countP (· != ['.', '.']) < front.count ['.', '.']

theorem collapseAfter_filter (kept segments : List Text) :
    collapseAfter kept (segments.filter fun s => s != [] && s != ['.']) = collapseAfter kept segments := by
  induction segments generalizing kept with
  | nil => rfl
  | cons s segments ih =>
    rw [filter_cons, collapseAfter_cons]
    by_cases hs : s = [] ∨ s = ['.']
    · have hskip : (s != [] && s != ['.']) = false := by simpa [or_iff_not_imp_left] using hs
      rw [hskip, if_neg Bool.false_ne_true, if_pos hs, ih]
    · have hstep : (s != [] && s != ['.']) = true := by simpa [not_or] using hs
      rw [hstep, if_pos rfl, if_neg hs, collapseAfter_cons, if_neg hs]
      split
      · cases kept with
        | nil => rfl
        | cons _ kept => exact ih kept
      · exact ih (s :: kept)

theorem exists_prefix_cons {P : List Text → Prop} (s : Text) (ss : List Text) :
    (∃ front, front <+: s :: ss ∧ P front) ↔ P [] ∨ ∃ front, front <+: ss ∧ P (s :: front) := by
  constructor
  · rintro ⟨front, hfront, hP⟩
    rcases prefix_cons_iff.mp hfront with rfl | ⟨rest, rfl, hrest⟩
    · exact Or.inl hP
    · exact Or.inr ⟨rest, hrest, hP⟩
  · rintro (hP | ⟨rest, hrest, hP⟩)
    · exact ⟨[], nil_prefix, hP⟩
    · exact ⟨s :: rest, cons_prefix_cons.mpr ⟨rfl, hrest⟩, hP⟩

/-- Collapsing breaks off where the `..` use up what is kept and all segments passed on the way. -/
theorem collapseAfter_eq_none_iff (hss : ∀ s ∈ ss, s ≠ [] ∧ s ≠ ['.']) (kept : List Text) :
    collapseAfter kept ss = none ↔ ∃ front, front <+: ss ∧
      kept.length + front.countP (· != ['.', '.']) < front.count ['.', '.'] := by
  induction ss generalizing kept with
  | nil => simp [collapseAfter]
  | cons s ss ih =>
    obtain ⟨⟨hne, hdot⟩, hrest⟩ := forall_mem_cons.mp hss
    rw [collapseAfter_cons, if_neg (not_or.mpr ⟨hne, hdot⟩), exists_prefix_cons]
    by_cases hs : s = ['.', '.']
    · rw [if_pos hs, hs]
      cases kept with
      | nil => exact iff_of_true rfl (Or.inr ⟨[], nil_prefix, by decide⟩)
      | cons u kept => simp [ih hrest, Nat.add_right_comm _ 1]
    · simp [ih hrest, hs, Nat.add_right_comm _ 1, ← Nat.add_assoc]

theorem collapse?_eq_none_iff (path : Text) : collapse? path = none ↔ ClimbsOut (steps path) := by
  have hsteps : ∀ s ∈ steps path, s ≠ [] ∧ s ≠ ['.'] := by
    intro s hs
    simpa using (mem_filter.mp hs).2
  have hnone := collapseAfter_eq_none_iff hsteps []
  rw [steps, collapseAfter_filter] at hnone
  rw [collapse?, Option.map_eq_none_iff, hnone]
  simp [ClimbsOut, steps]

/-- Every segment of the path stays, or the path is empty. -/
def IsNormal (path : Text) : Prop :=
  path = [] ∨ ∀ s ∈ Text.splitOn '/' path, IsKept s

theorem forall_of_collapseAfter {passed : List Text} (hkept : ∀ s ∈ kept, IsKept s ∧ '/' ∉ s)
    (hss : ∀ s ∈ ss, '/' ∉ s) (h : collapseAfter kept ss = some passed) :
    ∀ s ∈ passed, IsKept s ∧ '/' ∉ s := by
  induction ss generalizing kept with
  | nil =>
    obtain rfl : kept.reverse = passed := Option.some.inj h
    simpa using hkept
  | cons s ss ih =>
    obtain ⟨hs, hss⟩ := forall_mem_cons.mp hss
    rw [collapseAfter_cons] at h
    split at h
    · exact ih hkept hss h
    · next hstep =>
      split at h
      · cases kept with
        | nil => cases h
        | cons u kept => exact ih (forall_mem_cons.mp hkept).2 hss h
      · next hdown =>
        have hkeep : IsKept s := ⟨fun hnil => hstep (Or.inl hnil), fun hdot => hstep (Or.inr hdot), hdown⟩
        exact ih (forall_mem_cons.mpr ⟨⟨hkeep, hs⟩, hkept⟩) hss h

theorem steps_ne_nil {c : Char} (hc : c ∈ path) (hslash : c ≠ '/') (hdot : c ≠ '.') : steps path ≠ [] := by
  intro hnil
  have hpieces : ∀ s ∈ Text.splitOn '/' path, c ∉ s := by
    intro s hs hcs
    have hdrop := filter_eq_nil_iff.mp hnil s hs
    simp only [Bool.and_eq_true, bne_iff_ne, not_and, not_not] at hdrop
    have hdot' := hdrop (ne_nil_of_mem hcs)
    rw [hdot', mem_singleton] at hcs
    exact hdot hcs
  rw [← join_splitOn '/' path] at hc
  exact not_mem_join (by simpa using hslash) hpieces hc

theorem of_mem_steps (h : '.' ∉ path) {s : Text} (hs : s ∈ steps path) : IsKept s ∧ '.' ∉ s ∧ '/' ∉ s := by
  obtain ⟨hmem, hne⟩ := mem_filter.mp hs
  have hwithin : s <:+: path := join_splitOn '/' path ▸ infix_join hmem
  have hdot : '.' ∉ s := fun hdot => h (hwithin.subset hdot)
  refine ⟨isKept_of_not_mem ?_ hdot, hdot, not_mem_of_mem_splitOn hmem⟩
  rintro rfl
  simp at hne

theorem collapseAfter_splitOn_of_not_mem (h : '.' ∉ path) (kept : List Text) :
    collapseAfter kept (Text.splitOn '/' path) = some (kept.reverse ++ steps path) := by
  rw [← collapseAfter_filter]
  exact collapseAfter_of_isKept (fun s hs => (of_mem_steps h hs).1) kept

theorem exists_of_collapse? {collapsed : Text} (h : collapse? path = some collapsed) :
    ∃ passed, collapseAfter [] (Text.splitOn '/' path) = some passed ∧ collapsed = join ['/'] passed ∧
      ∀ s ∈ passed, IsKept s ∧ '/' ∉ s := by
  obtain ⟨passed, hpassed, rfl⟩ := Option.map_eq_some_iff.mp h
  have hslash : ∀ s ∈ Text.splitOn '/' path, '/' ∉ s := fun s hs => not_mem_of_mem_splitOn hs
  exact ⟨passed, hpassed, rfl, forall_of_collapseAfter (by simp) hslash hpassed⟩

theorem collapse?_join (hss : ∀ s ∈ ss, IsKept s ∧ '/' ∉ s) :
    collapse? (join ['/'] ss) = some (join ['/'] ss) := by
  have hpassed := collapseAfter_splitOn_join hss [] []
  rw [append_nil] at hpassed
  rw [collapse?, hpassed]
  simp [collapseAfter]

/-- Paths of segments that stay are the same only if their segments are. -/
theorem eq_of_join_eq {ts : List Text} (hss : ∀ s ∈ ss, IsKept s ∧ '/' ∉ s)
    (hts : ∀ s ∈ ts, IsKept s ∧ '/' ∉ s) (h : join ['/'] ss = join ['/'] ts) : ss = ts := by
  have hpassed := collapseAfter_splitOn_join hss [] []
  rw [h, collapseAfter_splitOn_join hts] at hpassed
  simpa [collapseAfter] using hpassed.symm

theorem isNormal_join (hss : ∀ s ∈ ss, IsKept s ∧ '/' ∉ s) : IsNormal (join ['/'] ss) := by
  by_cases hnil : ss = []
  · exact Or.inl (by rw [hnil]; rfl)
  · rw [IsNormal, splitOn_join hnil fun s hs => (hss s hs).2]
    exact Or.inr fun s hs => (hss s hs).1

theorem collapse?_eq_self_iff (path : Text) : collapse? path = some path ↔ IsNormal path := by
  constructor
  · intro h
    obtain ⟨passed, -, hpath, hstay⟩ := exists_of_collapse? h
    rw [hpath]
    exact isNormal_join hstay
  · rintro (rfl | hstay)
    · rfl
    · rw [← join_splitOn '/' path]
      exact collapse?_join fun s hs => ⟨hstay s hs, not_mem_of_mem_splitOn hs⟩

theorem collapse?_append_of_eq_some {collapsed : Text} (h : collapse? path = some collapsed)
    (more : Text) : collapse? (path ++ '/' :: more) = collapse? (collapsed ++ '/' :: more) := by
  obtain ⟨passed, hpassed, rfl, hstay⟩ := exists_of_collapse? h
  have hpath : collapse? (path ++ '/' :: more) =
      (collapseAfter passed.reverse (Text.splitOn '/' more)).map (join ['/']) := by
    rw [collapse?, splitOn_append, collapseAfter_append, hpassed, Option.bind_some]
  rw [hpath, collapse?, splitOn_append, collapseAfter_splitOn_join hstay, append_nil]

/-- Collapsing is exact. A path has no collapsed form just if it climbs above its root. The collapsed form is
normal, a second collapsing leaves it as it is, and the path may be replaced by it in front of any other.
Normal paths are collapsed already. -/
theorem collapse?_exact (path : Text) :
    (collapse? path = none ↔ ClimbsOut (steps path)) ∧
    (∀ collapsed, collapse? path = some collapsed →
      IsNormal collapsed ∧ collapse? collapsed = some collapsed ∧
      ∀ more, collapse? (path ++ '/' :: more) = collapse? (collapsed ++ '/' :: more)) ∧
    (IsNormal path → collapse? path = some path) := by
  refine ⟨collapse?_eq_none_iff path, ?_, (collapse?_eq_self_iff path).mpr⟩
  intro collapsed h
  obtain ⟨passed, -, hcollapsed, hstay⟩ := exists_of_collapse? h
  have hnormal : IsNormal collapsed := hcollapsed ▸ isNormal_join hstay
  exact ⟨hnormal, (collapse?_eq_self_iff collapsed).mpr hnormal, collapse?_append_of_eq_some h⟩

/-- A path with segments of every kind, one that climbs out on the way, and one that is normal. -/
theorem collapse?_exact_every_kind :
    (collapse? "a//b/.././c/".toList = some "a/c".toList ∧
      collapse? "a//b/.././c//../../../d".toList = collapse? "a/c/../../../d".toList) ∧
    collapse? "a/../../a/b".toList = none ∧
    collapse? "a/c".toList = some "a/c".toList := by
  have hcollapsed : collapse? "a//b/.././c/".toList = some "a/c".toList := by decide
  obtain ⟨-, -, happend⟩ := (collapse?_exact "a//b/.././c/".toList).2.1 _ hcollapsed
  have hout : ClimbsOut (steps "a/../../a/b".toList) :=
    ⟨["a".toList, "..".toList, "..".toList], by decide, by decide⟩
  have hnormal : IsNormal "a/c".toList := Or.inr (by unfold IsKept; decide)
  exact ⟨⟨hcollapsed, happend "../../../d".toList⟩, (collapse?_exact _).1.mpr hout,
    (collapse?_exact _).2.2 hnormal⟩

end RepoAtlas.Path
