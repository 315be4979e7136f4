import RepoAtlas.Proofs.Text.Blanks
import RepoAtlas.Proofs.Text.Lowering

/-! # Lower case at a cut -/

namespace RepoAtlas.Text

open Unicode List

variable {c : Char} {before s t : Text}

theorem lowered_ne_nil (c : Char) : lowered c ≠ [] := by
  rcases lowered_eq_singleton_or c with ⟨d, hd⟩ | hd
  · simp [hd]
  · simp [hd]

theorem lowerAfter_ne_nil (h : t ≠ []) (before : Text) : lowerAfter before t ≠ [] := by
  obtain ⟨c, t, rfl⟩ := exists_cons_of_ne_nil h
  rw [lowerAfter_cons]
  split
  · simp
  · exact append_ne_nil_of_left_ne_nil (lowered_ne_nil c) _

theorem lowered_of_mem_lowerAfter (h : c ∈ lowerAfter before t) : lowered c = [c] := by
  induction t generalizing before with
  | nil => cases h
  | cons d t ih =>
    rcases mem_append.mp h with h | h
    · split at h
      · split at h <;> rw [mem_singleton.mp h] <;> decide
      · exact lowered_of_mem_lowered h
    · exact ih h

theorem lowerAfter_eq_self (h : ∀ c ∈ t, lowered c = [c]) (before : Text) : lowerAfter before t = t := by
  induction t generalizing before with
  | nil => rfl
  | cons c t ih =>
    obtain ⟨hc, ht⟩ := forall_mem_cons.mp h
    have hsigma : c ≠ 'Σ' := by
      rintro rfl
      exact absurd hc (by decide)
    rw [lowerAfter_cons, if_neg hsigma, hc, ih ht]
    rfl

theorem meetsCased_append_of_forall (h : ∀ c ∈ s, isCaseIgnorable c = true) (t : Text) :
    meetsCased (s ++ t) = meetsCased t := by
  rw [meetsCased, meetsCased, dropWhile_append_of_pos h]

theorem meetsCased_of_forall (h : ∀ c ∈ s, isCaseIgnorable c = true) : meetsCased s = false := by
  have hnone : meetsCased (s ++ []) = false := meetsCased_append_of_forall h []
  rwa [append_nil] at hnone

theorem meetsCased_append_of_mem (hmem : c ∈ s) (hc : isCaseIgnorable c = false) (t : Text) :
    meetsCased (s ++ t) = meetsCased s := by
  induction s with
  | nil => cases hmem
  | cons d s ih =>
    cases hd : isCaseIgnorable d with
    | false => simp [meetsCased, hd]
    | true =>
      have hrest : c ∈ s := by
        rcases mem_cons.mp hmem with rfl | hmem
        · rw [hd] at hc
          cases hc
        · exact hmem
      simpa [meetsCased, hd] using ih hrest

/-- What follows a text can only take the end of a word away from it, by going on with the word. -/
theorem isWordEnd_append_iff (before s t : Text) : isWordEnd before (s ++ t) = isWordEnd before s ↔
    ¬ ((∀ c ∈ s, isCaseIgnorable c = true) ∧ meetsCased before = true ∧ meetsCased t = true) := by
  by_cases hall : ∀ c ∈ s, isCaseIgnorable c = true
  · rw [isWordEnd, isWordEnd, meetsCased_append_of_forall hall, meetsCased_of_forall hall,
      and_iff_right hall]
    cases meetsCased before <;> cases meetsCased t <;> decide
  · obtain ⟨c, hmem, hc⟩ : ∃ c ∈ s, isCaseIgnorable c = false := by simpa using hall
    rw [isWordEnd, isWordEnd, meetsCased_append_of_mem hmem hc]
    simp [hall]

/-- The lower case of a text that stands between `before`, which is given from its end, and `after`. -/
def lowerBetween (before : Text) : Text → Text → Text
  | [], _ => []
  | c :: t, after =>
    (if c = 'Σ' then [if isWordEnd before (t ++ after) then 'ς' else 'σ'] else lowered c)
      ++ lowerBetween (c :: before) t after

theorem lowerBetween_cons (before : Text) (c : Char) (t after : Text) :
    lowerBetween before (c :: t) after =
      (if c = 'Σ' then [if isWordEnd before (t ++ after) then 'ς' else 'σ'] else lowered c) ++
        lowerBetween (c :: before) t after := rfl

theorem lowerAfter_eq_between (before s t : Text) :
    lowerAfter before (s ++ t) = lowerBetween before s t ++ lowerAfter (s.reverse ++ before) t := by
  induction s generalizing before with
  | nil => rfl
  | cons c s ih =>
    rw [cons_append, lowerAfter_cons, ih, lowerBetween_cons, reverse_cons, append_assoc, append_assoc]
    rfl

theorem length_lowerBetween (before t after : Text) :
    (lowerBetween before t after).length = (lowerAfter before t).length := by
  induction t generalizing before with
  | nil => rfl
  | cons c t ih =>
    rw [lowerBetween_cons, lowerAfter_cons, length_append, length_append, ih]
    split <;> rfl

theorem lowerBetween_ne_nil (h : t ≠ []) (before after : Text) : lowerBetween before t after ≠ [] := by
  have hlength := length_pos_of_ne_nil (lowerAfter_ne_nil h before)
  rw [← length_lowerBetween before t after] at hlength
  exact ne_nil_of_length_pos hlength

/-- After `before`, a sigma of the text ends a word, but for characters that are passed over, and `after`
goes on with the word. -/
def BindsSigma (before t after : Text) : Prop :=
  ∃ front back, t = front ++ 'Σ' :: back ∧ (∀ c ∈ back, isCaseIgnorable c = true) ∧
    meetsCased (front.reverse ++ before) = true ∧ meetsCased after = true

theorem bindsSigma_cons_iff (before : Text) (c : Char) (t after : Text) :
    BindsSigma before (c :: t) after ↔
      (c = 'Σ' ∧ (∀ c ∈ t, isCaseIgnorable c = true) ∧ meetsCased before = true ∧ meetsCased after = true) ∨
        BindsSigma (c :: before) t after := by
  constructor
  · rintro ⟨front, back, hcut, hback, hbefore, hafter⟩
    cases front with
    | nil =>
      obtain ⟨rfl, rfl⟩ := cons.inj hcut
      exact Or.inl ⟨rfl, hback, hbefore, hafter⟩
    | cons d front =>
      obtain ⟨rfl, rfl⟩ := cons.inj hcut
      rw [reverse_cons, append_assoc] at hbefore
      exact Or.inr ⟨front, back, rfl, hback, hbefore, hafter⟩
  · rintro (⟨rfl, hback, hbefore, hafter⟩ | ⟨front, back, rfl, hback, hbefore, hafter⟩)
    · exact ⟨[], t, rfl, hback, hbefore, hafter⟩
    · refine ⟨c :: front, back, rfl, hback, ?_, hafter⟩
      rwa [reverse_cons, append_assoc]

/-- What follows a text changes its lower case just if it binds a sigma. -/
theorem lowerBetween_eq_iff (before t after : Text) :
    lowerBetween before t after = lowerAfter before t ↔ ¬ BindsSigma before t after := by
  induction t generalizing before with
  | nil => simp [lowerBetween, lowerAfter, BindsSigma]
  | cons c t ih =>
    rw [lowerBetween_cons, lowerAfter_cons, bindsSigma_cons_iff, not_or, ← ih]
    by_cases hc : c = 'Σ'
    · have hends : (if isWordEnd before (t ++ after) then 'ς' else 'σ') =
          (if isWordEnd before t then 'ς' else 'σ') ↔ isWordEnd before (t ++ after) = isWordEnd before t := by
        cases isWordEnd before (t ++ after) <;> cases isWordEnd before t <;> decide
      rw [if_pos hc, if_pos hc, singleton_append, singleton_append, cons.injEq, hends, isWordEnd_append_iff]
      simp [hc]
    · rw [if_neg hc, if_neg hc, append_cancel_left_eq]
      simp [hc]

end RepoAtlas.Text
