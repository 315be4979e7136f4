import RepoAtlas.Text.Case
import RepoAtlas.Text.WordForm
import RepoAtlas.Path.Basic
import RepoAtlas.Proofs.Text.Words

/-! # Forms of a text across a blank -/

namespace RepoAtlas

open Unicode List

namespace Unicode

def blankCodes : List Nat :=
  [9, 10, 11, 12, 13, 0x20, 0x85, 0xA0, 0x1680, 0x2000, 0x2001, 0x2002, 0x2003, 0x2004, 0x2005, 0x2006,
    0x2007, 0x2008, 0x2009, 0x200A, 0x2028, 0x2029, 0x202F, 0x205F, 0x3000]

theorem mem_blankCodes {c : Char} (h : isBlank c = true) : c.toNat ∈ blankCodes := by
  unfold isBlank at h
  split at h
  · simp only [Bool.or_eq_true, Bool.and_eq_true, beq_iff_eq, decide_eq_true_eq] at h
    rcases h with rfl | ⟨hfirst, hlast⟩
    · decide
    · simp only [blankCodes, mem_cons]
      omega
  · simp only [Run.cover_iff, Run.contains_iff, blankRuns, mem_cons, not_mem_nil, or_false,
      exists_eq_or_imp, exists_eq_left] at h
    simp only [blankCodes, mem_cons]
    omega

theorem of_isBlank {P : Char → Prop} (hP : ∀ n ∈ blankCodes, P (Char.ofNat n)) {c : Char}
    (h : isBlank c = true) : P c := by
  have hc := hP c.toNat (mem_blankCodes h)
  rwa [Char.ofNat_toNat] at hc

theorem isCaseIgnorable_of_isBlank {c : Char} (h : isBlank c = true) : isCaseIgnorable c = false :=
  of_isBlank (P := fun c => isCaseIgnorable c = false) (by decide +kernel) h

theorem isCased_of_isBlank {c : Char} (h : isBlank c = true) : isCased c = false :=
  of_isBlank (P := fun c => isCased c = false) (by decide +kernel) h

theorem lowered_of_isBlank {c : Char} (h : isBlank c = true) : lowered c = [c] :=
  of_isBlank (P := fun c => lowered c = [c]) (by decide +kernel) h

theorem ne_sigma_of_isBlank {c : Char} (h : isBlank c = true) : c ≠ 'Σ' :=
  of_isBlank (P := (· ≠ 'Σ')) (by decide +kernel) h

theorem ne_backslash_of_isBlank {c : Char} (h : isBlank c = true) : c ≠ '\\' :=
  of_isBlank (P := (· ≠ '\\')) (by decide +kernel) h

end Unicode

namespace Text

variable {c : Char}

theorem lowerAfter_cons (before : Text) (c : Char) (t : Text) :
    lowerAfter before (c :: t) =
      (if c = 'Σ' then [if isWordEnd before t then 'ς' else 'σ'] else lowered c) ++
        lowerAfter (c :: before) t := rfl

theorem meetsCased_append (hc : isBlank c = true) (s t : Text) :
    meetsCased (s ++ c :: t) = meetsCased s := by
  induction s with
  | nil =>
    have hdrop : (c :: t).dropWhile isCaseIgnorable = c :: t := by
      simp [isCaseIgnorable_of_isBlank hc]
    simp [meetsCased, hdrop, isCased_of_isBlank hc]
  | cons d s ih =>
    by_cases hd : isCaseIgnorable d
    · simpa [meetsCased, hd] using ih
    · simp [meetsCased, hd]

theorem lowerAfter_append_before (hc : isBlank c = true) (s before t : Text) :
    lowerAfter (s ++ c :: before) t = lowerAfter s t := by
  induction t generalizing s with
  | nil => rfl
  | cons d t ih =>
    have hrest := ih (d :: s)
    rw [cons_append] at hrest
    rw [lowerAfter_cons, lowerAfter_cons, hrest, isWordEnd, isWordEnd, meetsCased_append hc]

theorem lowerAfter_append (hc : isBlank c = true) (before s t : Text) :
    lowerAfter before (s ++ c :: t) = lowerAfter before s ++ c :: lower t := by
  induction s generalizing before with
  | nil =>
    have hafter : lowerAfter (c :: before) t = lower t := lowerAfter_append_before hc [] before t
    rw [nil_append, lowerAfter_cons, if_neg (ne_sigma_of_isBlank hc), lowered_of_isBlank hc, hafter]
    rfl
  | cons d s ih =>
    rw [cons_append, lowerAfter_cons, lowerAfter_cons, ih, isWordEnd, isWordEnd, meetsCased_append hc,
      append_assoc]

theorem lower_append (hc : isBlank c = true) (s t : Text) : lower (s ++ c :: t) = lower s ++ c :: lower t :=
  lowerAfter_append hc [] s t

theorem isSeparator_of_isBlank (hc : isBlank c = true) : isSeparator c = true := by
  simp [isSeparator, hc]

theorem wordFormAfter_of_isSeparator (hc : isSeparator c = true) (previous : Option Char)
    (pending started : Bool) (t : Text) :
    wordFormAfter previous pending started (c :: t) = wordFormAfter (some c) true started t := by
  rw [wordFormAfter, if_pos hc]

theorem wordFormAfter_of_not_isSeparator (hc : isSeparator c = false) (previous : Option Char)
    (pending started : Bool) (t : Text) :
    wordFormAfter previous pending started (c :: t) =
      (if (pending || (isUppercase c && previous.any isLowercase)) && started then [' '] else []) ++
        lowered c ++ wordFormAfter (some c) false true t := by
  simp [wordFormAfter, hc]

/-- After a separator the word form begins anew, with a space before it if something stands there. -/
theorem wordFormAfter_pending (previous : Option Char) (t : Text) :
    wordFormAfter previous true false t = wordForm t ∧
    (wordFormAfter previous true true t = [] ∧ wordForm t = [] ∨
      wordFormAfter previous true true t = ' ' :: wordForm t) := by
  induction t generalizing previous with
  | nil => exact ⟨rfl, Or.inl ⟨rfl, rfl⟩⟩
  | cons c t ih =>
    by_cases hc : isSeparator c
    · obtain ⟨hfresh, hstarted⟩ := ih (some c)
      have hform : wordForm (c :: t) = wordForm t := by
        rw [wordForm, wordFormAfter_of_isSeparator hc, hfresh]
      rw [wordFormAfter_of_isSeparator hc, wordFormAfter_of_isSeparator hc, hform]
      exact ⟨hfresh, hstarted⟩
    · have hc : isSeparator c = false := by simpa using hc
      have hform : wordForm (c :: t) = lowered c ++ wordFormAfter (some c) false true t := by
        rw [wordForm, wordFormAfter_of_not_isSeparator hc]
        simp
      rw [wordFormAfter_of_not_isSeparator hc, wordFormAfter_of_not_isSeparator hc, hform]
      simp

theorem wordFormAfter_append (hc : isBlank c = true) (previous : Option Char) (pending started : Bool)
    (s t : Text) :
    wordFormAfter previous pending started (s ++ c :: t) =
      wordFormAfter previous pending started s ++
        wordFormAfter (some c) true (started || s.any fun d => !isSeparator d) t := by
  induction s generalizing previous pending started with
  | nil => simp [wordFormAfter_of_isSeparator (isSeparator_of_isBlank hc), wordFormAfter]
  | cons d s ih =>
    by_cases hd : isSeparator d
    · rw [cons_append, wordFormAfter_of_isSeparator hd, wordFormAfter_of_isSeparator hd, ih]
      simp [hd]
    · have hd : isSeparator d = false := by simpa using hd
      rw [cons_append, wordFormAfter_of_not_isSeparator hd, wordFormAfter_of_not_isSeparator hd, ih]
      simp [hd]

theorem wordFormAfter_of_forall {t : Text} (ht : ∀ d ∈ t, isSeparator d = true)
    (previous : Option Char) (pending started : Bool) :
    wordFormAfter previous pending started t = [] := by
  induction t generalizing previous pending with
  | nil => rfl
  | cons d t ih =>
    rw [wordFormAfter_of_isSeparator (ht d mem_cons_self)]
    exact ih (fun e he => ht e (mem_cons_of_mem d he)) _ _

/-- The word forms of the two sides of a blank have the words of the whole. -/
theorem words_wordForm_append (hc : isBlank c = true) (s t : Text) :
    words (wordForm (s ++ c :: t)) = words (wordForm s) ++ words (wordForm t) := by
  obtain ⟨hfresh, hstarted⟩ := wordFormAfter_pending (some c) t
  rw [wordForm, wordFormAfter_append hc, Bool.false_or]
  cases hany : s.any fun d => !isSeparator d with
  | false =>
    have hnone : ∀ d ∈ s, isSeparator d = true := by
      simpa using hany
    have hs : wordForm s = [] := wordFormAfter_of_forall hnone none false false
    rw [hfresh, hs, wordFormAfter_of_forall hnone]
    rfl
  | true =>
    rcases hstarted with ⟨hempty, hform⟩ | hspace
    · rw [hempty, hform, append_nil, words_nil, append_nil]
      rfl
    · rw [hspace, words_append (show isBlank ' ' = true by decide)]
      rfl

end Text

theorem Path.key_append {c : Char} (hc : isBlank c = true) (s t : Text) :
    key (s ++ c :: t) = key s ++ c :: key t := by
  simp [key, ne_backslash_of_isBlank hc]

end RepoAtlas
