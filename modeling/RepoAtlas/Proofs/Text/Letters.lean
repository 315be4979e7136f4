import RepoAtlas.Text.Case
import Mathlib.Data.List.Basic

/-! # Letters in either case -/

namespace RepoAtlas.Text

open Unicode List

variable {s t lead : Text}

/-- The texts are the same but for the case of their ASCII letters. -/
def SameLetters (s t : Text) : Prop :=
  s.map Char.toLower = t.map Char.toLower

instance : DecidableRel SameLetters := fun s t =>
  inferInstanceAs (Decidable (s.map Char.toLower = t.map Char.toLower))

/-- The text begins with the lead, in whatever case the letters are. -/
def BeginsLike (lead t : Text) : Prop :=
  ∃ front, front <+: t ∧ SameLetters front lead

def IsAscii (t : Text) : Prop :=
  ∀ c ∈ t, c.toNat < 0x80

instance : DecidablePred IsAscii := fun t => List.decidableBAll _ t

theorem IsAscii.append (hs : IsAscii s) (ht : IsAscii t) : IsAscii (s ++ t) :=
  forall_mem_append.mpr ⟨hs, ht⟩

theorem IsAscii.of_infix (ht : IsAscii t) (h : s <:+: t) : IsAscii s :=
  fun c hc => ht c (h.subset hc)

theorem lowerAfter_of_isAscii (h : IsAscii t) (before : Text) : lowerAfter before t = t.map Char.toLower := by
  induction t generalizing before with
  | nil => rfl
  | cons c t ih =>
    obtain ⟨hc, ht⟩ := forall_mem_cons.mp h
    have hsigma : c ≠ 'Σ' := by
      rintro rfl
      exact absurd hc (by decide)
    rw [lowerAfter, if_neg hsigma, lowered, if_pos hc, ih ht]
    rfl

theorem lower_of_isAscii (h : IsAscii t) : lower t = t.map Char.toLower :=
  lowerAfter_of_isAscii h []

theorem lower_prefix_lower_iff (hlead : IsAscii lead) (ht : IsAscii t) :
    lower lead <+: lower t ↔ BeginsLike lead t := by
  rw [lower_of_isAscii hlead, lower_of_isAscii ht]
  constructor
  · rintro ⟨rest, hrest⟩
    obtain ⟨front, after, rfl, hfront, -⟩ := map_eq_append_iff.mp hrest.symm
    exact ⟨front, prefix_append _ _, hfront⟩
  · rintro ⟨front, hprefix, hfront⟩
    rw [← show front.map Char.toLower = lead.map Char.toLower from hfront]
    exact hprefix.map _

end RepoAtlas.Text
