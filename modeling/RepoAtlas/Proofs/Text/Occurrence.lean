import RepoAtlas.Path.Record
import RepoAtlas.Proofs.Text.Blanks

/-! # What occurs in the forms of a path -/

namespace RepoAtlas

open Unicode List

namespace Text

variable {s t term : Text}

theorem occursIn_iff_isInfix : occursIn term t = true ↔ term <:+: t := by
  rw [occursIn_iff]
  constructor
  · rintro ⟨a, b, rfl⟩
    exact ⟨a, b, rfl⟩
  · rintro ⟨a, b, rfl⟩
    exact ⟨a, b, rfl⟩

theorem not_isInfix_of_occursIn (h : occursIn term t = false) : ¬ term <:+: t := by
  rw [← occursIn_iff_isInfix, h]
  exact Bool.false_ne_true

theorem exists_cons_splitBy (isSeparator : Char → Bool) (t : Text) :
    ∃ p ps, splitBy isSeparator t = p :: ps ∧ p <+: t ∧ ∀ q ∈ ps, q <:+: t := by
  induction t with
  | nil => exact ⟨[], [], rfl, nil_prefix, by simp⟩
  | cons c t ih =>
    obtain ⟨p, ps, hsplit, hp, hps⟩ := ih
    rw [splitBy, hsplit]
    by_cases hc : isSeparator c
    · rw [if_pos hc]
      refine ⟨[], p :: ps, rfl, nil_prefix, ?_⟩
      intro q hq
      rcases mem_cons.mp hq with rfl | hq
      · exact infix_cons hp.isInfix
      · exact infix_cons (hps q hq)
    · rw [if_neg hc]
      exact ⟨c :: p, ps, rfl, cons_prefix_cons.mpr ⟨rfl, hp⟩, fun q hq => infix_cons (hps q hq)⟩

theorem infix_of_mem_pieces {isSeparator : Char → Bool} {p : Text} (h : p ∈ pieces isSeparator t) :
    p <:+: t := by
  obtain ⟨q, qs, hsplit, hq, hqs⟩ := exists_cons_splitBy isSeparator t
  have hmem : p ∈ q :: qs := hsplit ▸ (mem_filter.mp h).1
  rcases mem_cons.mp hmem with rfl | hmem
  · exact hq.isInfix
  · exact hqs p hmem

/-- What stands before a text can only put a space in front of its word form. -/
theorem wordForm_suffix (previous : Option Char) (pending started : Bool) (t : Text) :
    wordForm t <:+ wordFormAfter previous pending started t := by
  cases t with
  | nil => exact nil_suffix
  | cons c t =>
    cases hc : isSeparator c with
    | true =>
      obtain ⟨hfresh, hstarted⟩ := wordFormAfter_pending (some c) t
      rw [wordForm, wordFormAfter_of_isSeparator hc, wordFormAfter_of_isSeparator hc, hfresh]
      cases started with
      | false => exact hfresh ▸ suffix_refl (wordForm t)
      | true =>
        rcases hstarted with ⟨hempty, hform⟩ | hspace
        · simp [hempty, hform]
        · rw [hspace]
          exact suffix_cons ' ' (wordForm t)
    | false =>
      rw [wordForm, wordFormAfter_of_not_isSeparator hc, wordFormAfter_of_not_isSeparator hc,
        append_assoc, append_assoc, Bool.and_false, if_neg Bool.false_ne_true, nil_append]
      exact suffix_append _ _

theorem exists_wordFormAfter_append (previous : Option Char) (pending started : Bool) (s t : Text) :
    ∃ previous' pending' started', wordFormAfter previous pending started (s ++ t) =
      wordFormAfter previous pending started s ++ wordFormAfter previous' pending' started' t := by
  induction s generalizing previous pending started with
  | nil => exact ⟨previous, pending, started, rfl⟩
  | cons c s ih =>
    cases hc : isSeparator c with
    | true =>
      rw [cons_append, wordFormAfter_of_isSeparator hc, wordFormAfter_of_isSeparator hc]
      exact ih (some c) true started
    | false =>
      obtain ⟨previous', pending', started', hrest⟩ := ih (some c) false true
      rw [cons_append, wordFormAfter_of_not_isSeparator hc, wordFormAfter_of_not_isSeparator hc, hrest,
        ← append_assoc]
      exact ⟨previous', pending', started', rfl⟩

theorem infix_wordForm_append_left (s t : Text) (previous : Option Char) (pending started : Bool) :
    wordForm s <:+: wordFormAfter previous pending started (s ++ t) := by
  obtain ⟨previous', pending', started', happend⟩ :=
    exists_wordFormAfter_append previous pending started s t
  rw [happend]
  exact (wordForm_suffix previous pending started s).isInfix.trans (prefix_append _ _).isInfix

theorem infix_wordForm_append_right (s t : Text) : wordForm t <:+: wordForm (s ++ t) := by
  obtain ⟨previous', pending', started', happend⟩ := exists_wordFormAfter_append none false false s t
  rw [wordForm, wordForm, happend]
  exact ((wordForm_suffix previous' pending' started' t).trans (suffix_append _ _)).isInfix

theorem infix_wordForm_join {texts : List Text} (separator : Text) (h : s ∈ texts) :
    wordForm s <:+: wordForm (join separator texts) := by
  induction texts with
  | nil => cases h
  | cons u texts ih =>
    cases texts with
    | nil =>
      obtain rfl := mem_singleton.mp h
      simp [join]
    | cons v texts =>
      have hjoin : join separator (u :: v :: texts) = u ++ (separator ++ join separator (v :: texts)) := by
        simp [join, intercalate]
      rw [hjoin]
      rcases mem_cons.mp h with rfl | h
      · exact infix_wordForm_append_left _ _ none false false
      · exact ((ih h).trans (infix_wordForm_append_right separator _)).trans
          (infix_wordForm_append_right u _)

end Text

namespace PathRecord

/-- The term occurs in no form of the record or of one of its segments. -/
structure Lacks (r : PathRecord) (term : Text) : Prop where
  wordForm : ¬ term <:+: r.wordForm
  nameLower : ¬ term <:+: r.nameLower
  nameWordForm : ¬ term <:+: r.nameWordForm
  parentLower : ¬ term <:+: r.parentLower
  parentWordForm : ¬ term <:+: r.parentWordForm
  segments : ∀ s ∈ r.segments, ¬ term <:+: s
  segmentWordForms : ∀ s ∈ r.segmentWordForms, ¬ term <:+: s

theorem lacks_ofPath {path term : Text} (hne : term ≠ [])
    (hform : Text.occursIn term (ofPath path).wordForm = false)
    (hsegments : ∀ s ∈ (ofPath path).segments, Text.occursIn term s = false) : (ofPath path).Lacks term := by
  have hform := Text.not_isInfix_of_occursIn hform
  have hlower (s : Text) (hs : s ∈ Path.segments path) : ¬ term <:+: Text.lower s :=
    Text.not_isInfix_of_occursIn (hsegments _ (mem_map_of_mem hs))
  have hwords (s : Text) (hs : s ∈ Path.segments path) : ¬ term <:+: Text.wordForm s :=
    fun h => hform (h.trans (Text.infix_wordForm_join ['/'] hs))
  have hnil : ¬ term <:+: [] := fun h => hne (infix_nil.mp h)
  -- the name and the parent are the last of some segments, and empty when there are none
  have hlast (ss : List Text) (hss : ss ⊆ Path.segments path) :
      ¬ term <:+: Text.lower (ss.getLast?.getD []) ∧ ¬ term <:+: Text.wordForm (ss.getLast?.getD []) := by
    cases hlast : ss.getLast? with
    | none => exact ⟨hnil, hnil⟩
    | some s =>
      have hs := hss (mem_of_getLast? hlast)
      exact ⟨hlower s hs, hwords s hs⟩
  have hname := hlast (Path.segments path) (Subset.refl _)
  have hparent := hlast (Path.segments path).dropLast (dropLast_subset _)
  refine ⟨hform, hname.1, hname.2, hparent.1, hparent.2, ?_, ?_⟩
  · intro s hs
    obtain ⟨segment, hsegment, rfl⟩ := mem_map.mp hs
    exact hlower segment hsegment
  · intro s hs
    obtain ⟨segment, hsegment, rfl⟩ := mem_map.mp hs
    exact hwords segment hsegment

end PathRecord

end RepoAtlas
