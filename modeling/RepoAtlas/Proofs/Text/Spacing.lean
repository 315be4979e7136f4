import RepoAtlas.Proofs.Text.WordForm

/-! # Spaces of word forms -/

namespace RepoAtlas.Text

open Unicode List

variable {c d : Char} {gap t u : Text}

theorem IsTidy.eq_space_or (h : IsTidy t) (hc : c ∈ t) : c = ' ' ∨ isSeparator c = false := by
  induction h with
  | nil => cases hc
  | letter _ hplain _ ih =>
    rcases mem_cons.mp hc with rfl | hc
    · exact Or.inr hplain
    · exact ih hc
  | spaced _ hplain _ ih =>
    rcases mem_cons.mp hc with rfl | hc
    · exact Or.inl rfl
    · rcases mem_cons.mp hc with rfl | hc
      · exact Or.inr hplain
      · exact ih hc

theorem ne_space_of_not_isSeparator (hc : isSeparator c = false) : c ≠ ' ' := by
  rintro rfl
  exact absurd hc (by decide)

theorem IsTidy.getLast?_ne_space (h : IsTidy t) : t.getLast? ≠ some ' ' := by
  have hlast {c : Char} {t : Text} (hc : isSeparator c = false) (ht : t.getLast? ≠ some ' ') :
      (c :: t).getLast? ≠ some ' ' := by
    rw [getLast?_cons]
    cases hlast : t.getLast? with
    | none => simpa using ne_space_of_not_isSeparator hc
    | some d => exact hlast ▸ ht
  induction h with
  | nil => simp
  | letter _ hc _ ih => exact hlast hc ih
  | spaced _ hc _ ih =>
    rw [getLast?_cons_cons]
    exact hlast hc ih

theorem IsTidy.not_doubled (h : IsTidy t) : ¬ [' ', ' '] <:+: t := by
  have hletter {c : Char} {t : Text} (hc : isSeparator c = false) (ht : ¬ [' ', ' '] <:+: t) :
      ¬ [' ', ' '] <:+: c :: t := by
    rw [infix_cons_iff, cons_prefix_cons]
    rintro (⟨rfl, -⟩ | hinfix)
    · exact ne_space_of_not_isSeparator hc rfl
    · exact ht hinfix
  induction h with
  | nil => simp
  | letter _ hc _ ih => exact hletter hc ih
  | spaced _ hc _ ih =>
    rw [infix_cons_iff, cons_prefix_cons, cons_prefix_cons]
    rintro (⟨-, rfl, -⟩ | hinfix)
    · exact ne_space_of_not_isSeparator hc rfl
    · exact hletter hc ih hinfix

theorem isBlank_of_mem_wordForm (hc : c ∈ wordForm t) (hne : c ≠ ' ') : isBlank c = false := by
  have hplain := ((isTidy_wordForm t).eq_space_or hc).resolve_left hne
  simp only [isSeparator, Bool.or_eq_false_iff] at hplain
  exact hplain.2

theorem trim_wordForm (t : Text) : trim (wordForm t) = wordForm t := by
  apply trim_eq_self
  · intro c hc
    apply isBlank_of_mem_wordForm (mem_of_head? hc)
    rintro rfl
    exact head?_wordForm_ne_space t hc
  · intro c hc
    apply isBlank_of_mem_wordForm (mem_of_getLast? hc)
    rintro rfl
    exact (isTidy_wordForm t).getLast?_ne_space hc

/-- The lowered characters of the text that are no separators. -/
def images (t : Text) : Text :=
  (t.filter fun c => !isSeparator c).flatMap lowered

theorem images_append (s t : Text) : images (s ++ t) = images s ++ images t := by
  rw [images, filter_append, flatMap_append]
  rfl

theorem images_of_not_isSeparator (hc : isSeparator c = false) : images [c] = lowered c := by
  simp [images, hc]

theorem images_cons_of_isSeparator (hc : isSeparator c = true) (t : Text) : images (c :: t) = images t := by
  simp [images, hc]

theorem filter_lowered (hc : isSeparator c = false) : (lowered c).filter (· != ' ') = lowered c := by
  rw [filter_eq_self]
  intro d hd
  exact bne_iff_ne.mpr (ne_space_of_not_isSeparator (isSeparator_of_mem_lowered hd hc))

/-- Whatever stood before a text, without the spaces its word form consists of its images. -/
theorem filter_wordFormAfter (previous : Option Char) (pending started : Bool) (t : Text) :
    (wordFormAfter previous pending started t).filter (· != ' ') = images t := by
  induction t generalizing previous pending started with
  | nil => rfl
  | cons c t ih =>
    cases hc : isSeparator c with
    | true => rw [wordFormAfter_of_isSeparator hc, ih, images_cons_of_isSeparator hc]
    | false =>
      have hspace : ∀ b : Bool, (if b then [' '] else []).filter (· != ' ') = [] := by decide
      rw [wordFormAfter_of_not_isSeparator hc, filter_append, filter_append, hspace, filter_lowered hc, ih,
        nil_append, ← images_of_not_isSeparator hc, ← images_append]
      rfl

theorem exists_wordFormAfter_letter (hc : isSeparator c = false) (previous : Option Char)
    (pending started : Bool) (s : Text) :
    ∃ front, front.filter (· != ' ') = images s ∧
      ∀ t, wordFormAfter previous pending started (s ++ c :: t) =
        front ++ lowered c ++ wordFormAfter (some c) false true t := by
  induction s generalizing previous pending started with
  | nil =>
    refine ⟨if (pending || (isUppercase c && previous.any isLowercase)) && started then [' '] else [], ?_, ?_⟩
    · split <;> rfl
    · exact wordFormAfter_of_not_isSeparator hc previous pending started
  | cons d s ih =>
    cases hd : isSeparator d with
    | true =>
      obtain ⟨front, hfront, happend⟩ := ih (some d) true started
      refine ⟨front, ?_, ?_⟩
      · rw [hfront, images_cons_of_isSeparator hd]
      · intro t
        rw [cons_append, wordFormAfter_of_isSeparator hd, happend]
    | false =>
      obtain ⟨front, hfront, happend⟩ := ih (some d) false true
      refine ⟨wordFormAfter previous pending started [d] ++ front, ?_, ?_⟩
      · rw [filter_append, filter_wordFormAfter, hfront, ← images_append]
        rfl
      · intro t
        rw [cons_append, wordFormAfter_of_not_isSeparator hd, wordFormAfter_of_not_isSeparator hd, happend]
        simp [wordFormAfter]

/-- Whether a word begins at `d` when `c` is the last character kept before it and `gap` stands between
them. -/
def isParted (c : Char) (gap : Text) (d : Char) : Bool :=
  !gap.isEmpty || (isLowercase c && isUppercase d)

theorem wordFormAfter_separators (hgap : ∀ e ∈ gap, isSeparator e = true) (previous : Option Char)
    (pending started : Bool) (t : Text) :
    wordFormAfter previous pending started (gap ++ t) =
      wordFormAfter (gap.getLast?.or previous) (pending || !gap.isEmpty) started t := by
  induction gap generalizing previous pending with
  | nil => simp
  | cons e gap ih =>
    obtain ⟨he, hgap⟩ := forall_mem_cons.mp hgap
    rw [cons_append, wordFormAfter_of_isSeparator he, ih hgap, getLast?_cons]
    cases gap.getLast? <;> simp

theorem wordFormAfter_gap (hgap : ∀ e ∈ gap, isSeparator e = true) (hd : isSeparator d = false)
    (c : Char) (t : Text) :
    wordFormAfter (some c) false true (gap ++ d :: t) =
      (if isParted c gap d then [' '] else []) ++ lowered d ++ wordFormAfter (some d) false true t := by
  rw [wordFormAfter_separators hgap, wordFormAfter_of_not_isSeparator hd, isParted]
  cases gap with
  | nil => simp [Bool.and_comm]
  | cons e gap => simp

/-- The word form only moves separators: it has single spaces for them, inside of the text, and between two
characters that are kept one stands just if separators stood between them or a word begins at the second. -/
theorem wordForm_moves_separators (t : Text) :
    ('-' ∉ wordForm t ∧ '_' ∉ wordForm t ∧ ∀ c ∈ wordForm t, isBlank c = true → c = ' ') ∧
    ((wordForm t).head? ≠ some ' ' ∧ (wordForm t).getLast? ≠ some ' ' ∧ ¬ [' ', ' '] <:+: wordForm t) ∧
    (wordForm t).filter (· != ' ') = images t ∧
    ∀ before c gap d after, t = before ++ c :: (gap ++ d :: after) → isSeparator c = false →
      isSeparator d = false → (∀ e ∈ gap, isSeparator e = true) →
      ∃ front back, front.filter (· != ' ') = images before ∧ back.filter (· != ' ') = images after ∧
        wordForm t = front ++ lowered c ++ (if isParted c gap d then [' '] else []) ++ lowered d ++ back := by
  have htidy := isTidy_wordForm t
  have hsep {c : Char} (hc : isSeparator c = true) (hmem : c ∈ wordForm t) : c = ' ' := by
    rcases htidy.eq_space_or hmem with hspace | hplain
    · exact hspace
    · rw [hc] at hplain
      cases hplain
  refine ⟨⟨?_, ?_, ?_⟩, ⟨?_, ?_, ?_⟩, ?_, ?_⟩
  · intro hmem
    exact absurd (hsep (by decide) hmem) (by decide)
  · intro hmem
    exact absurd (hsep (by decide) hmem) (by decide)
  · exact fun c hmem hc => hsep (isSeparator_of_isBlank hc) hmem
  · exact head?_wordForm_ne_space t
  · exact htidy.getLast?_ne_space
  · exact htidy.not_doubled
  · exact filter_wordFormAfter none false false t
  · intro before c gap d after ht hc hd hgap
    obtain ⟨front, hfront, happend⟩ := exists_wordFormAfter_letter hc none false false before
    refine ⟨front, wordFormAfter (some d) false true after, hfront, filter_wordFormAfter _ _ _ _, ?_⟩
    rw [ht, wordForm, happend, wordFormAfter_gap hgap hd]
    simp only [append_assoc]

/-- A dotted capital I, whose lower case is two characters, after a letter and behind separators. -/
theorem wordForm_moves_separators_dotted :
    wordForm "  fooBar_-İx ".toList = "foo bar i̇x".toList ∧
    ∃ front back, front.filter (· != ' ') = images "  fooBa".toList ∧
      back.filter (· != ' ') = images "x ".toList ∧
      "foo bar i̇x".toList = front ++ lowered 'r' ++ [' '] ++ lowered 'İ' ++ back := by
  have hform : wordForm "  fooBar_-İx ".toList = "foo bar i̇x".toList := by decide +kernel
  refine ⟨hform, ?_⟩
  rw [← hform]
  exact (wordForm_moves_separators "  fooBar_-İx ".toList).2.2.2 "  fooBa".toList 'r' "_-".toList 'İ'
    "x ".toList (by decide) (by decide) (by decide) (all_eq_true.mp (by decide))

end RepoAtlas.Text
