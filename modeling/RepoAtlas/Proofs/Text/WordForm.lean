import RepoAtlas.Proofs.Text.Blanks
import RepoAtlas.Proofs.Text.Lowering
import Mathlib.Data.List.Chain

/-! # Word forms of word forms -/

namespace RepoAtlas.Text

open Unicode List

variable {c d p x : Char} {s t u : Text}

/-! ## Separators -/

theorem lowered_of_isSeparator (hc : isSeparator c = true) : lowered c = [c] := by
  simp only [isSeparator, Bool.or_eq_true, beq_iff_eq] at hc
  rcases hc with (rfl | rfl) | hc
  · rfl
  · rfl
  · exact lowered_of_isBlank hc

theorem isUppercase_of_isSeparator (hc : isSeparator c = true) : isUppercase c = false := by
  simp only [isSeparator, Bool.or_eq_true, beq_iff_eq] at hc
  rcases hc with (rfl | rfl) | hc
  · rfl
  · rfl
  · exact of_isBlank (P := fun c => isUppercase c = false) (by decide +kernel) hc

theorem wordForm_of_isSeparator (hc : isSeparator c = true) (t : Text) : wordForm (c :: t) = wordForm t := by
  rw [wordForm, wordFormAfter_of_isSeparator hc, (wordFormAfter_pending (some c) t).1]

theorem wordForm_of_not_isSeparator (hc : isSeparator c = false) (t : Text) :
    wordForm (c :: t) = lowered c ++ wordFormAfter (some c) false true t := by
  rw [wordForm, wordFormAfter_of_not_isSeparator hc, Bool.and_false, if_neg Bool.false_ne_true, nil_append]

theorem lowered_subset_wordFormAfter (hmem : c ∈ t) (hc : isSeparator c = false) (previous : Option Char)
    (pending started : Bool) : lowered c ⊆ wordFormAfter previous pending started t := by
  induction t generalizing previous pending started with
  | nil => cases hmem
  | cons d t ih =>
    cases hd : isSeparator d with
    | true =>
      rw [wordFormAfter_of_isSeparator hd]
      rcases mem_cons.mp hmem with rfl | hmem
      · rw [hd] at hc
        cases hc
      · exact ih hmem (some d) true started
    | false =>
      rw [wordFormAfter_of_not_isSeparator hd]
      rcases mem_cons.mp hmem with rfl | hmem
      · exact fun e he => mem_append_left _ (mem_append_right _ he)
      · exact fun e he => mem_append_right _ (ih hmem (some d) false true he)

theorem words_wordForm_ne_nil (hmem : c ∈ t) (hc : isSeparator c = false) : words (wordForm t) ≠ [] := by
  obtain ⟨d, hd⟩ : ∃ d, d ∈ lowered c := by
    rcases lowered_eq_singleton_or c with ⟨d, hd⟩ | hd
    · exact ⟨d, by simp [hd]⟩
    · exact ⟨'i', by simp [hd]⟩
  have hblank : isBlank d = false := by
    have hsep := isSeparator_of_mem_lowered hd hc
    simp only [isSeparator, Bool.or_eq_false_iff] at hsep
    exact hsep.2
  have hform : d ∈ wordForm t := lowered_subset_wordFormAfter hmem hc none false false hd
  obtain ⟨w, hw, -⟩ := (mem_iff_mem_words hblank).mp hform
  exact ne_nil_of_mem hw

/-! ## Tidy texts -/

/-- Characters that are their own lower case, with single spaces before some of them. -/
inductive IsTidy : Text → Prop
  | nil : IsTidy []
  | letter {c : Char} {t : Text} (hlowered : lowered c = [c]) (hc : isSeparator c = false)
      (ht : IsTidy t) : IsTidy (c :: t)
  | spaced {c : Char} {t : Text} (hlowered : lowered c = [c]) (hc : isSeparator c = false)
      (ht : IsTidy t) : IsTidy (' ' :: c :: t)

theorem isTidy_lowered_append (hc : isSeparator c = false) (ht : IsTidy t) :
    IsTidy (lowered c ++ t) ∧ IsTidy (' ' :: (lowered c ++ t)) := by
  have hletter {d : Char} {t : Text} (hd : d ∈ lowered c) (ht : IsTidy t) :
      IsTidy (d :: t) ∧ IsTidy (' ' :: d :: t) := by
    have hlowered := lowered_of_mem_lowered hd
    have hplain := isSeparator_of_mem_lowered hd hc
    exact ⟨.letter hlowered hplain ht, .spaced hlowered hplain ht⟩
  rcases lowered_eq_singleton_or c with ⟨d, hd⟩ | hd
  · rw [hd]
    exact hletter (by simp [hd]) ht
  · rw [hd]
    exact hletter (by simp [hd]) (hletter (by simp [hd]) ht).1

theorem isTidy_wordFormAfter (previous : Option Char) (pending started : Bool) (t : Text) :
    IsTidy (wordFormAfter previous pending started t) := by
  induction t generalizing previous pending started with
  | nil => exact .nil
  | cons c t ih =>
    cases hc : isSeparator c with
    | true =>
      rw [wordFormAfter_of_isSeparator hc]
      exact ih (some c) true started
    | false =>
      obtain ⟨hplain, hspaced⟩ := isTidy_lowered_append hc (ih (some c) false true)
      rw [wordFormAfter_of_not_isSeparator hc, append_assoc]
      split
      · exact hspaced
      · exact hplain

theorem isTidy_wordForm (t : Text) : IsTidy (wordForm t) :=
  isTidy_wordFormAfter none false false t

theorem IsTidy.lowered_eq (h : IsTidy t) (hc : c ∈ t) : lowered c = [c] := by
  induction h with
  | nil => cases hc
  | letter hlowered _ _ ih =>
    rcases mem_cons.mp hc with rfl | hc
    · exact hlowered
    · exact ih hc
  | spaced hlowered _ _ ih =>
    rcases mem_cons.mp hc with rfl | hc
    · rfl
    · rcases mem_cons.mp hc with rfl | hc
      · exact hlowered
      · exact ih hc

theorem head?_wordForm_ne_space (t : Text) : (wordForm t).head? ≠ some ' ' := by
  induction t with
  | nil => simp [wordForm, wordFormAfter]
  | cons c t ih =>
    cases hc : isSeparator c with
    | true => rwa [wordForm_of_isSeparator hc]
    | false =>
      intro hspace
      have hmem : ' ' ∈ lowered c := by
        rw [wordForm_of_not_isSeparator hc] at hspace
        rcases lowered_eq_singleton_or c with ⟨d, hd⟩ | hd
        · simpa [hd, eq_comm] using hspace
        · simp [hd] at hspace
      have hsep := isSeparator_of_mem_lowered hmem hc
      exact absurd hsep (by decide)

/-! ## The second pass -/

/-- A word begins at the second character, since it is upper case and the first one lower case. -/
def BeginsWord (c d : Char) : Prop :=
  isLowercase c = true ∧ isUppercase d = true

theorem not_beginsWord_space_right (c : Char) : ¬ BeginsWord c ' ' :=
  fun h => absurd h.2 (by decide)

theorem not_beginsWord_space_left (c : Char) : ¬ BeginsWord ' ' c :=
  fun h => absurd h.1 (by decide)

/-- The pass over a tidy text changes nothing just if no word begins without a space before it. -/
theorem IsTidy.wordFormAfter_eq_iff (h : IsTidy t) (x : Char) :
    wordFormAfter (some x) false true t = t ↔ (x :: t).IsChain fun c d => ¬ BeginsWord c d := by
  induction h generalizing x with
  | nil => simp [wordFormAfter]
  | @letter c t hlowered hc ht ih =>
    rw [wordFormAfter_of_not_isSeparator hc, hlowered, isChain_cons_cons, ← ih c]
    by_cases hword : BeginsWord x c
    · have hne : ' ' ≠ c := by
        rintro rfl
        exact absurd hc (by decide)
      simp [hword, hword.1, hword.2, hne]
    · have hplain : ¬ (isUppercase c = true ∧ isLowercase x = true) := fun h => hword ⟨h.2, h.1⟩
      simp [hword, hplain]
  | @spaced c t hlowered hc ht ih =>
    rw [wordFormAfter_of_isSeparator (by decide), wordFormAfter_of_not_isSeparator hc, hlowered,
      isChain_cons_cons, isChain_cons_cons, ← ih c]
    simp [not_beginsWord_space_right, not_beginsWord_space_left]

theorem IsTidy.wordForm_eq_iff (h : IsTidy t) (hhead : t.head? ≠ some ' ') :
    wordForm t = t ↔ t.IsChain fun c d => ¬ BeginsWord c d := by
  cases h with
  | nil => simp [wordForm, wordFormAfter]
  | @letter c t hlowered hc ht =>
    rw [wordForm_of_not_isSeparator hc, hlowered, ← ht.wordFormAfter_eq_iff]
    simp
  | spaced => exact absurd rfl hhead

/-! ## The first pass -/

/-- A word begins at the second character, but only when the first one is lowered. The second one is upper
case and has no lower case partner. -/
def BeginsLate (p c : Char) : Prop :=
  isLowercase p = false ∧ (lowered p).getLast?.any isLowercase = true ∧
    isUppercase c = true ∧ lowered c = [c]

theorem not_beginsLate_of_lowered_eq (hp : lowered p = [p]) (c : Char) : ¬ BeginsLate p c := by
  rintro ⟨hnot, hlast, -⟩
  rw [hp] at hlast
  have hlower : isLowercase p = true := by simpa using hlast
  rw [hnot] at hlower
  cases hlower

theorem not_beginsLate_of_isSeparator (hc : isSeparator c = true) (p : Char) : ¬ BeginsLate p c := by
  rintro ⟨-, -, hupper, -⟩
  rw [isUppercase_of_isSeparator hc] at hupper
  cases hupper

/-- Where no word begins at once, one begins between the lowered characters just if it begins late. -/
theorem beginsWord_iff_beginsLate (hlast : (lowered p).getLast? = some x)
    (hhead : (lowered c).head? = some d) (hnot : ¬ BeginsWord p c) : BeginsWord x d ↔ BeginsLate p c := by
  constructor
  · rintro ⟨hlower, hupper⟩
    obtain ⟨hself, rfl⟩ := lowered_eq_self_of_isUppercase (mem_of_head? hhead) hupper
    have hraw : isLowercase p = false := by
      by_contra hp
      exact hnot ⟨by simpa using hp, hupper⟩
    exact ⟨hraw, by simpa [hlast] using hlower, hupper, hself⟩
  · rintro ⟨-, hlower, hupper, hself⟩
    obtain rfl : c = d := by simpa [hself] using hhead
    exact ⟨by simpa [hlast] using hlower, hupper⟩

theorem isChain_space_cons (t : Text) :
    ((' ' :: t).IsChain fun c d => ¬ BeginsWord c d) ↔ t.IsChain fun c d => ¬ BeginsWord c d := by
  cases t with
  | nil => simp
  | cons c t => rw [isChain_cons_cons, and_iff_right (not_beginsWord_space_left c)]

theorem isChain_cons_of_isSeparator (hc : isSeparator c = true) (t : Text) :
    ((c :: t).IsChain fun p c => ¬ BeginsLate p c) ↔ t.IsChain fun p c => ¬ BeginsLate p c := by
  cases t with
  | nil => simp
  | cons d t =>
    rw [isChain_cons_cons, and_iff_right (not_beginsLate_of_lowered_eq (lowered_of_isSeparator hc) d)]

theorem isChain_lowered_append (c : Char) (t : Text) :
    ∃ d x, (lowered c).head? = some d ∧ (lowered c).getLast? = some x ∧
      ((lowered c ++ t).IsChain (fun y z => ¬ BeginsWord y z) ↔
        (x :: t).IsChain fun y z => ¬ BeginsWord y z) := by
  rcases lowered_eq_singleton_or c with ⟨d, hd⟩ | hd
  · exact ⟨d, d, by rw [hd]; rfl, by rw [hd]; rfl, by rw [hd]; rfl⟩
  · have hdot : ¬ BeginsWord 'i' (Char.ofNat 0x307) := fun h => absurd h.2 (by decide)
    refine ⟨'i', Char.ofNat 0x307, by rw [hd]; rfl, by rw [hd]; rfl, ?_⟩
    rw [hd, cons_append, singleton_append, isChain_cons_cons]
    exact and_iff_right hdot

/-- The word form of a text is without words that begin unseen just if no word begins late in the text. The
second part says the same of what follows a character `p` that was written as lower case up to `x`. -/
theorem isChain_wordForm_iff (t : Text) :
    ((wordForm t).IsChain (fun c d => ¬ BeginsWord c d) ↔ t.IsChain fun p c => ¬ BeginsLate p c) ∧
      ∀ p x, (lowered p).getLast? = some x →
        ((x :: wordFormAfter (some p) false true t).IsChain (fun c d => ¬ BeginsWord c d) ↔
          (p :: t).IsChain fun p c => ¬ BeginsLate p c) := by
  induction t with
  | nil => simp [wordForm, wordFormAfter]
  | cons c t ih =>
    obtain ⟨ihform, ihafter⟩ := ih
    cases hc : isSeparator c with
    | true =>
      rw [wordForm_of_isSeparator hc, isChain_cons_of_isSeparator hc]
      refine ⟨ihform, ?_⟩
      intro p x _
      rw [wordFormAfter_of_isSeparator hc, isChain_cons_cons, isChain_cons_of_isSeparator hc, ← ihform,
        and_iff_right (not_beginsLate_of_isSeparator hc p)]
      rcases (wordFormAfter_pending (some c) t).2 with ⟨hempty, hform⟩ | hspace
      · simp [hempty, hform]
      · rw [hspace, isChain_cons_cons, isChain_space_cons, and_iff_right (not_beginsWord_space_right x)]
    | false =>
      obtain ⟨d, y, hhead, hlast, hrun⟩ := isChain_lowered_append c (wordFormAfter (some c) false true t)
      rw [ihafter c y hlast] at hrun
      rw [wordForm_of_not_isSeparator hc]
      refine ⟨hrun, ?_⟩
      intro p x hx
      rw [wordFormAfter_of_not_isSeparator hc, append_assoc, isChain_cons_cons, ← hrun]
      by_cases hword : BeginsWord p c
      · -- the word has its space already
        have hlate : ¬ BeginsLate p c := by
          rintro ⟨hraw, -⟩
          rw [hword.1] at hraw
          cases hraw
        simp [hword.1, hword.2, isChain_space_cons, not_beginsWord_space_right, hlate]
      · have hplain : ¬ (isUppercase c = true ∧ isLowercase p = true) := fun h => hword ⟨h.2, h.1⟩
        obtain ⟨ds, hds⟩ : ∃ ds, lowered c = d :: ds := head?_eq_some_iff.mp hhead
        rw [← beginsWord_iff_beginsLate hx hhead hword]
        simp [hplain, hds]

/-! ## Both passes -/

theorem wordForm_wordForm_eq_iff (t : Text) :
    wordForm (wordForm t) = wordForm t ↔ t.IsChain fun p c => ¬ BeginsLate p c := by
  rw [(isTidy_wordForm t).wordForm_eq_iff (head?_wordForm_ne_space t)]
  exact (isChain_wordForm_iff t).1

/-- The word form of a word form is the same again just if no word begins late, and a third pass never
changes anything. -/
theorem wordForm_idempotent_iff (t : Text) :
    (wordForm (wordForm t) = wordForm t ↔
      ¬ ∃ before p c after, t = before ++ p :: c :: after ∧ BeginsLate p c) ∧
    wordForm (wordForm (wordForm t)) = wordForm (wordForm t) := by
  constructor
  · rw [wordForm_wordForm_eq_iff, isChain_iff_forall_rel_of_append_cons_cons]
    constructor
    · rintro h ⟨before, p, c, after, ht, hlate⟩
      exact h ht hlate
    · intro h p c before after ht hlate
      exact h ⟨before, p, c, after, ht, hlate⟩
  · rw [wordForm_wordForm_eq_iff, isChain_iff_forall_rel_of_append_cons_cons]
    intro p c before after ht
    have hp : p ∈ wordForm t := by
      rw [ht]
      simp
    exact not_beginsLate_of_lowered_eq ((isTidy_wordForm t).lowered_eq hp) c

/-- The word form of a word form need not be the same again. -/
theorem wordForm_not_idempotent : ¬ ∀ t, wordForm (wordForm t) = wordForm t := by
  intro h
  exact absurd (h "Aℂ".toList) (by decide +kernel)

end RepoAtlas.Text
