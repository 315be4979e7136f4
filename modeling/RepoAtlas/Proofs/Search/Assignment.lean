import RepoAtlas.Proofs.Search.SequenceBonus
import Mathlib.Order.Bounds.Basic
import Mathlib.Data.List.Induction

/-! # Assignments of terms to segments -/

namespace RepoAtlas.Search

open List

/-! ## Partial assignments -/

/-- The quality bonus of a match by its fit. -/
def Fit.quality : Fit → Nat
  | .whole => 40
  | .leading => 25
  | .inner => 10

theorem Fit.gain_eq_quality (f : Fit) : f.gain = f.quality := by
  cases f <;> rfl

/-- The term at a place of the list lies on the segment at a place of the path, and fits it as given. -/
structure Match where
  term : Nat
  segment : Nat
  fit : Fit
  deriving DecidableEq

/-- The matches are a partial assignment of the terms to the segments. -/
structure IsAssignment (segments : List Segment) (terms : List Text) (ms : List Match) : Prop where
  ascending : ms.Pairwise fun a b => a.term < b.term ∧ a.segment < b.segment
  fits : ∀ m ∈ ms, ∃ s term, segments[m.segment]? = some s ∧ terms[m.term]? = some term ∧
    s.fit? term = some m.fit

/-- What matches come to, counted from left to right. -/
structure Tally where
  total : Nat
  /-- The segment of the last match, and the length of the streak that it ends. -/
  last? : Option (Nat × Nat)

namespace Tally

/-- The streak of a match: one more than that of the last match if it is on the segment before. -/
def streak (t : Tally) (m : Match) : Nat :=
  match t.last? with
  | none => 1
  | some (segment, length) => if m.segment = segment + 1 then length + 1 else 1

def add (t : Tally) (m : Match) : Tally :=
  ⟨t.total + m.fit.quality + 15 * t.streak m, some (m.segment, t.streak m)⟩

/-- One more match counts as one more laid term. -/
theorem add_eq (t : Tally) (m : Match) :
    t.add m = ⟨t.total + m.fit.gain + streakGain (t.streak m), some (m.segment, t.streak m)⟩ := by
  rw [add, m.fit.gain_eq_quality]
  rfl

def of (ms : List Match) : Tally :=
  ms.foldl add ⟨0, none⟩

@[simp] theorem of_nil : of [] = ⟨0, none⟩ := rfl

@[simp] theorem of_concat (ms : List Match) (m : Match) : of (ms ++ [m]) = (of ms).add m := by
  simp [of, foldl_append]

theorem streak_of_none {t : Tally} (h : t.last? = none) (m : Match) : t.streak m = 1 := by
  simp [streak, h]

theorem streak_of_next {t : Tally} {segment length : Nat} (h : t.last? = some (segment, length))
    {m : Match} (hm : m.segment = segment + 1) : t.streak m = length + 1 := by
  simp [streak, h, hm]

theorem streak_of_apart {t : Tally} {segment length : Nat} (h : t.last? = some (segment, length))
    {m : Match} (hm : m.segment ≠ segment + 1) : t.streak m = 1 := by
  simp [streak, h, hm]

theorem exists_match_of_last? {ms : List Match} {segment length : Nat}
    (h : (of ms).last? = some (segment, length)) : ∃ front m, ms = front ++ [m] ∧ m.segment = segment := by
  rcases eq_nil_or_concat ms with rfl | ⟨front, m, rfl⟩
  · cases h
  · rw [concat_eq_append, of_concat] at h
    exact ⟨front, m, concat_eq_append, congrArg Prod.fst (Option.some.inj h)⟩

end Tally

variable {segments : List Segment} {terms before : List Text} {ms : List Match}
variable {term : Text} {s : Segment} {f : Fit} {j k n : Nat}

namespace IsAssignment

theorem nil (segments : List Segment) (terms : List Text) : IsAssignment segments terms [] :=
  ⟨Pairwise.nil, by simp⟩

theorem term_lt (h : IsAssignment segments terms ms) {m : Match} (hm : m ∈ ms) :
    m.term < terms.length := by
  obtain ⟨s, term, -, hterm, -⟩ := h.fits m hm
  exact (List.getElem?_eq_some_iff.mp hterm).1

theorem segment_le (h : IsAssignment segments terms ms) {segment length : Nat}
    (hlast : (Tally.of ms).last? = some (segment, length)) {m : Match} (hm : m ∈ ms) :
    m.segment ≤ segment := by
  obtain ⟨front, last, rfl, rfl⟩ := Tally.exists_match_of_last? hlast
  rcases mem_append.mp hm with hm | hm
  · exact Nat.le_of_lt ((pairwise_append.mp h.ascending).2.2 m hm last (mem_singleton_self last)).2
  · rw [mem_singleton.mp hm]

theorem append (h : IsAssignment segments terms ms) (more : List Text) :
    IsAssignment segments (terms ++ more) ms := by
  refine ⟨h.ascending, ?_⟩
  intro m hm
  obtain ⟨s, term, hs, hterm, hf⟩ := h.fits m hm
  exact ⟨s, term, hs, by rw [getElem?_append_left (h.term_lt hm), hterm], hf⟩

theorem concat (h : IsAssignment segments terms ms) (hright : ∀ m ∈ ms, m.segment < j)
    (hs : segments[j]? = some s) (hf : s.fit? term = some f) :
    IsAssignment segments (terms ++ [term]) (ms ++ [⟨terms.length, j, f⟩]) := by
  constructor
  case ascending =>
    apply pairwise_append.mpr ⟨h.ascending, pairwise_singleton _ _, ?_⟩
    intro a ha b hb
    rw [mem_singleton.mp hb]
    exact ⟨h.term_lt ha, hright a ha⟩
  case fits =>
    intro m hm
    rcases mem_append.mp hm with hm | hm
    · exact (h.append [term]).fits m hm
    · rw [mem_singleton.mp hm]
      exact ⟨s, term, hs, getElem?_concat_length, hf⟩

theorem restrict (h : IsAssignment segments (terms ++ [term]) ms) {part : List Match}
    (hpart : part <+ ms) (hlt : ∀ m ∈ part, m.term < terms.length) : IsAssignment segments terms part := by
  refine ⟨h.ascending.sublist hpart, ?_⟩
  intro m hm
  obtain ⟨s, t, hs, ht, hf⟩ := h.fits m (hpart.subset hm)
  rw [getElem?_append_left (hlt m hm)] at ht
  exact ⟨s, t, hs, ht, hf⟩

/-- An assignment leaves the last term out, or that term lies furthest right. -/
theorem concat_cases (h : IsAssignment segments (terms ++ [term]) ms) :
    IsAssignment segments terms ms ∨ ∃ front j s f, ms = front ++ [⟨terms.length, j, f⟩] ∧
      IsAssignment segments terms front ∧ (∀ m ∈ front, m.segment < j) ∧
      segments[j]? = some s ∧ s.fit? term = some f := by
  rcases eq_nil_or_concat' ms with rfl | ⟨front, m, rfl⟩
  · exact Or.inl (nil segments terms)
  · obtain ⟨-, -, hlast⟩ := pairwise_append.mp h.ascending
    have hbefore : ∀ a ∈ front, a.term < m.term ∧ a.segment < m.segment :=
      fun a ha => hlast a ha m (mem_singleton_self m)
    have hm : m.term < terms.length + 1 := by
      simpa using h.term_lt (mem_append_right front (mem_singleton_self m))
    by_cases hleft : m.term < terms.length
    · refine Or.inl (h.restrict (Sublist.refl _) ?_)
      intro a ha
      rcases mem_append.mp ha with ha | ha
      · exact Nat.lt_trans (hbefore a ha).1 hleft
      · rwa [mem_singleton.mp ha]
    · -- No term comes after the last one, so the last match is of this term.
      obtain ⟨i, j, f⟩ := m
      obtain rfl : i = terms.length := Nat.le_antisymm (Nat.le_of_lt_succ hm) (Nat.le_of_not_lt hleft)
      obtain ⟨s, t, hs, ht, hf⟩ := h.fits _ (mem_append_right front (mem_singleton_self _))
      obtain rfl : term = t := by simpa using ht
      refine Or.inr ⟨front, j, s, f, rfl, ?_, fun a ha => (hbefore a ha).2, hs, hf⟩
      exact h.restrict (sublist_append_left _ _) fun a ha => (hbefore a ha).1

end IsAssignment

/-! ## Assignments and layings -/

/-- A laying is an assignment with the same total. -/
theorem exists_assignment_of_laid (h : Laid segments before j k n) :
    ∃ ms, IsAssignment segments before.reverse ms ∧ Tally.of ms = ⟨n, some (j, k + 1)⟩ := by
  induction h with
  | skipped term h ih =>
    obtain ⟨ms, hms, htally⟩ := ih
    rw [reverse_cons]
    exact ⟨ms, hms.append [term], htally⟩
  | @first before term s f j hs hf =>
    have hone := (IsAssignment.nil segments before.reverse).concat (by simp) hs hf
    rw [reverse_cons]
    refine ⟨_, hone, ?_⟩
    rw [Tally.of_concat, Tally.add_eq, Tally.streak_of_none rfl, Tally.of_nil, Nat.zero_add]
  | @apart before term s f i k j n h hij hs hf ih =>
    obtain ⟨ms, hms, htally⟩ := ih
    have hlast : (Tally.of ms).last? = some (i, k + 1) := congrArg Tally.last? htally
    have hright : ∀ m ∈ ms, m.segment < j := by
      intro m hm
      have hle := hms.segment_le hlast hm
      omega
    rw [reverse_cons]
    refine ⟨_, hms.concat hright hs hf, ?_⟩
    rw [Tally.of_concat, Tally.add_eq, Tally.streak_of_apart hlast (Nat.ne_of_gt hij), htally]
  | @next before term s f j k n h hs hf ih =>
    obtain ⟨ms, hms, htally⟩ := ih
    have hlast : (Tally.of ms).last? = some (j, k + 1) := congrArg Tally.last? htally
    have hright : ∀ m ∈ ms, m.segment < j + 1 :=
      fun m hm => Nat.lt_succ_of_le (hms.segment_le hlast hm)
    rw [reverse_cons]
    refine ⟨_, hms.concat hright hs hf, ?_⟩
    rw [Tally.of_concat, Tally.add_eq, Tally.streak_of_next hlast rfl, htally]

theorem exists_laid_of_assignment (h : IsAssignment segments before.reverse ms) (hne : ms ≠ []) :
    ∃ j k, (Tally.of ms).last? = some (j, k + 1) ∧ Laid segments before j k (Tally.of ms).total := by
  induction before generalizing ms with
  | nil =>
    obtain ⟨m, hm⟩ := exists_mem_of_ne_nil ms hne
    exact absurd (h.term_lt hm) (Nat.not_lt_zero m.term)
  | cons term before ih =>
    rw [reverse_cons] at h
    obtain hskipped | ⟨front, j, s, f, rfl, hfront, hright, hs, hf⟩ := h.concat_cases
    · obtain ⟨j, k, hj, hlaid⟩ := ih hskipped hne
      exact ⟨j, k, hj, .skipped term hlaid⟩
    · rcases eq_or_ne front [] with rfl | hnil
      · rw [Tally.of_concat, Tally.add_eq, Tally.streak_of_none rfl, Tally.of_nil, Nat.zero_add]
        exact ⟨j, 0, rfl, .first hs hf⟩
      · obtain ⟨i, k, hi, hlaid⟩ := ih hfront hnil
        have hij : i < j := by
          obtain ⟨rest, last, rfl, rfl⟩ := Tally.exists_match_of_last? hi
          exact hright last (mem_append_right rest (mem_singleton_self last))
        by_cases hnext : j = i + 1
        · subst hnext
          rw [Tally.of_concat, Tally.add_eq, Tally.streak_of_next hi rfl]
          exact ⟨i + 1, k + 1, rfl, .next hlaid hs hf⟩
        · rw [Tally.of_concat, Tally.add_eq, Tally.streak_of_apart hi hnext]
          exact ⟨j, 0, rfl, .apart hlaid (by omega) hs hf⟩

/-- The totals of all partial assignments of the terms to the segments. -/
def assignmentTotals (segments : List Segment) (terms : List Text) : Set Nat :=
  {n | ∃ ms, IsAssignment segments terms ms ∧ (Tally.of ms).total = n}

theorem isGreatest_bestLaid (segments : List Segment) (terms : List Text) :
    IsGreatest (assignmentTotals segments terms) (bestLaid segments terms) := by
  constructor
  · rcases bestLaid_eq_zero_or_laid segments terms with hzero | ⟨j, k, hlaid⟩
    · exact ⟨[], .nil segments terms, hzero.symm⟩
    · obtain ⟨ms, hms, htally⟩ := exists_assignment_of_laid hlaid
      rw [reverse_reverse] at hms
      exact ⟨ms, hms, congrArg Tally.total htally⟩
  · rintro n ⟨ms, hms, rfl⟩
    rcases eq_or_ne ms [] with rfl | hne
    · exact Nat.zero_le _
    · rw [← reverse_reverse terms] at hms
      obtain ⟨j, k, -, hlaid⟩ := exists_laid_of_assignment hms hne
      exact hlaid.le_bestLaid

/-! ## Windows -/

/-- From the segment `start` on, neighbouring segments take all the terms in order, with the given fits. -/
structure IsWindow (segments : List Segment) (terms : List Text) (start : Nat) (fits : List Fit) :
    Prop where
  length_eq : fits.length = terms.length
  fits : ∀ i term f, terms[i]? = some term → fits[i]? = some f →
    ∃ s, segments[start + i]? = some s ∧ s.fit? term = some f

/-- The totals of the windows that take all of at least three terms. -/
def windowTotals (segments : List Segment) (terms : List Text) : Set Nat :=
  {n | 3 ≤ terms.length ∧ terms.length ≤ segments.length ∧ ∃ start fits,
    IsWindow segments terms start fits ∧
      n = (fits.map Fit.quality).sum + 15 * (range (terms.length + 1)).sum + 100}

theorem isWindow_cons_iff {start : Nat} {fits : List Fit} :
    IsWindow segments (term :: terms) start (f :: fits) ↔
      (∃ s, segments[start]? = some s ∧ s.fit? term = some f) ∧
        IsWindow segments terms (start + 1) fits := by
  constructor
  · intro h
    refine ⟨h.fits 0 term f rfl rfl, ⟨by simpa using h.length_eq, ?_⟩⟩
    intro i t g ht hg
    rw [Nat.add_right_comm]
    exact h.fits (i + 1) t g ht hg
  · rintro ⟨hfirst, h⟩
    refine ⟨by simp [h.length_eq], ?_⟩
    intro i t g ht hg
    cases i with
    | zero =>
      obtain rfl : term = t := Option.some.inj ht
      obtain rfl : f = g := Option.some.inj hg
      exact hfirst
    | succ i =>
      rw [← Nat.add_assoc, Nat.add_right_comm]
      exact h.fits i t g ht hg

theorem runGain?_eq_some_iff {start gain : Nat} :
    runGain? terms (segments.drop start) = some gain ↔
      ∃ fits, IsWindow segments terms start fits ∧ gain = (fits.map Fit.quality).sum := by
  induction terms generalizing start gain with
  | nil =>
    constructor
    · intro h
      obtain rfl : 0 = gain := Option.some.inj h
      exact ⟨[], ⟨rfl, by simp⟩, rfl⟩
    · rintro ⟨fits, h, rfl⟩
      obtain rfl : fits = [] := length_eq_zero_iff.mp h.length_eq
      rfl
  | cons term terms ih =>
    constructor
    · intro h
      obtain ⟨s, f, more, hs, hf, hmore, rfl⟩ := exists_fit_of_runGain? h
      obtain ⟨fits, hfits, rfl⟩ := ih.mp hmore
      exact ⟨f :: fits, isWindow_cons_iff.mpr ⟨⟨s, hs, hf⟩, hfits⟩, by simp [f.gain_eq_quality]⟩
    · rintro ⟨fits, h, rfl⟩
      obtain ⟨f, fits, rfl⟩ : ∃ f more, fits = f :: more := by
        apply exists_cons_of_length_pos
        rw [h.length_eq]
        exact Nat.succ_pos _
      obtain ⟨⟨s, hs, hf⟩, hrest⟩ := isWindow_cons_iff.mp h
      have hmore := ih.mpr ⟨fits, hrest, rfl⟩
      obtain ⟨hlt, rfl⟩ := List.getElem?_eq_some_iff.mp hs
      rw [drop_eq_getElem_cons hlt]
      simp [runGain?, hf, hmore, f.gain_eq_quality]

theorem mem_runGains_iff {gain : Nat} (hne : terms ≠ []) :
    gain ∈ runGains terms segments ↔ ∃ start, runGain? terms (segments.drop start) = some gain := by
  refine ⟨exists_drop_of_mem_runGains, ?_⟩
  rintro ⟨start, h⟩
  induction segments generalizing start with
  | nil =>
    obtain ⟨term, rest, rfl⟩ := exists_cons_of_ne_nil hne
    simp [runGain?] at h
  | cons s segments ih =>
    rw [runGains, mem_append]
    cases start with
    | zero => exact Or.inl (Option.mem_toList.mpr h)
    | succ start => exact Or.inr (ih start h)

theorem streakTotal_eq (length : Nat) : streakTotal length = 15 * (range (length + 1)).sum := by
  induction length with
  | zero => rfl
  | succ length ih =>
    have hrange : range (length + 1 + 1) = range (length + 1) ++ [length + 1] := range_succ
    rw [streakTotal_succ, ih, hrange, sum_append, sum_singleton, streakGain]
    omega

theorem IsWindow.length_le {start : Nat} {fits : List Fit} (h : IsWindow segments terms start fits) :
    terms.length ≤ segments.length := by
  by_contra hlt
  have hterm : segments.length < terms.length := Nat.lt_of_not_le hlt
  have hfit : segments.length < fits.length := h.length_eq ▸ hterm
  obtain ⟨s, hs, -⟩ := h.fits segments.length _ _ (List.getElem?_eq_getElem hterm)
    (List.getElem?_eq_getElem hfit)
  have hin := (List.getElem?_eq_some_iff.mp hs).1
  omega

theorem mem_windowTotals_iff (hlen : 3 ≤ terms.length) :
    n ∈ windowTotals segments terms ↔
      n ∈ (runGains terms segments).map (· + streakTotal terms.length + 100) := by
  have hne : terms ≠ [] := by
    rintro rfl
    cases hlen
  simp only [windowTotals, Set.mem_ofPred_eq, mem_map, mem_runGains_iff hne, runGain?_eq_some_iff,
    streakTotal_eq]
  constructor
  · rintro ⟨-, -, start, fits, hfits, rfl⟩
    exact ⟨_, ⟨start, fits, hfits, rfl⟩, rfl⟩
  · rintro ⟨gain, ⟨start, fits, hfits, rfl⟩, rfl⟩
    exact ⟨hlen, hfits.length_le, start, fits, hfits, rfl⟩

/-! ## The bonus -/

theorem foldl_max_eq_max (ns : List Nat) (m : Nat) : ns.foldl max m = max m (ns.foldl max 0) := by
  induction ns generalizing m with
  | nil => simp
  | cons n ns ih => rw [foldl_cons, foldl_cons, ih, ih (max 0 n), Nat.zero_max, Nat.max_assoc]

theorem isGreatest_foldl_max {ns : List Nat} (h : ns ≠ []) : IsGreatest {n | n ∈ ns} (ns.foldl max 0) := by
  refine ⟨?_, fun n hn => le_foldl_max hn 0⟩
  rcases foldl_max_eq_or_mem ns 0 with hzero | hmem
  · obtain ⟨n, hn⟩ := exists_mem_of_ne_nil ns h
    have hle := le_foldl_max hn 0
    obtain rfl : n = 0 := by omega
    rw [hzero]
    exact hn
  · exact hmem

/-- The bonus of a sequence is the largest total of a partial assignment, or that of a window of all the
terms if there is one that is worth more. -/
theorem sequenceBonus_eq_max (segments : List Segment) (terms : List Text) :
    ∃ best, IsGreatest (assignmentTotals segments terms) best ∧
      (windowTotals segments terms = ∅ → sequenceBonus segments terms = best) ∧
      ((windowTotals segments terms).Nonempty → ∃ run, IsGreatest (windowTotals segments terms) run ∧
        sequenceBonus segments terms = max best run) := by
  let runs := (runGains terms segments).map (· + streakTotal terms.length + 100)
  refine ⟨bestLaid segments terms, isGreatest_bestLaid segments terms, ?_⟩
  by_cases hlen : 3 ≤ terms.length
  · have hbonus : sequenceBonus segments terms = runs.foldl max (bestLaid segments terms) := if_pos hlen
    have hwindows : windowTotals segments terms = {n | n ∈ runs} := by
      ext n
      exact mem_windowTotals_iff hlen
    rw [hbonus, hwindows]
    constructor
    · intro hempty
      have hruns : runs = [] := eq_nil_iff_forall_not_mem.mpr fun n hn => by
        have hmem : n ∈ {n | n ∈ runs} := hn
        rw [hempty] at hmem
        exact hmem
      rw [hruns]
      rfl
    · rintro ⟨n, hn⟩
      exact ⟨_, isGreatest_foldl_max (ne_nil_of_mem hn), foldl_max_eq_max runs _⟩
  · have hbonus : sequenceBonus segments terms = bestLaid segments terms := if_neg hlen
    refine ⟨fun _ => hbonus, ?_⟩
    rintro ⟨n, hn, -⟩
    exact absurd hn hlen

end RepoAtlas.Search
