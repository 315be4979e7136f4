import RepoAtlas.Code.Python
import RepoAtlas.Proofs.Code.ScriptParts

/-! # Parts of Python lines -/

namespace RepoAtlas.Code.Python

open Scan Unicode List

def isNameStart (c : Char) : Bool :=
  c.isAlpha || c == '_'

/-- Whether the text is a name, such as those that match `[A-Za-z_][A-Za-z0-9_]*`. -/
def isName : Text → Bool
  | [] => false
  | c :: t => isNameStart c && t.all isWordChar

structure Name where
  text : Text
  isName : Python.isName text = true

theorem isName_script {t : Text} (h : isName t = true) : Script.isName t = true := by
  cases t with
  | nil => cases h
  | cons c t =>
    obtain ⟨hstart, hrest⟩ := Bool.and_eq_true_iff.mp h
    have hstart : Script.isNameStart c = true := by
      rw [Script.isNameStart, ← isNameStart, hstart, Bool.true_or]
    have hrest : t.all Script.isNameChar = true := by
      rw [all_eq_true] at hrest ⊢
      intro d hd
      rw [Script.isNameChar, hrest d hd, Bool.true_or]
    rw [Script.isName, hstart, hrest, Bool.true_and]

namespace Name

theorem exists_eq_cons (n : Name) :
    ∃ c t, n.text = c :: t ∧ isNameStart c = true ∧ ∀ d ∈ t, isWordChar d = true := by
  obtain ⟨text, hname⟩ := n
  cases text with
  | nil => cases hname
  | cons c t =>
    obtain ⟨hstart, hrest⟩ := Bool.and_eq_true_iff.mp hname
    exact ⟨c, t, rfl, hstart, all_eq_true.mp hrest⟩

theorem isNameChar_of_mem (n : Name) : ∀ c ∈ n.text, Script.isNameChar c = true :=
  fun _ hc => Script.isNameChar_of_mem (isName_script n.isName) hc

theorem isBlank_of_mem (n : Name) : ∀ c ∈ n.text, isBlank c = false :=
  fun c hc => Script.isBlank_of_isNameChar (n.isNameChar_of_mem c hc)

theorem text_ne_nil (n : Name) : n.text ≠ [] := by
  obtain ⟨c, u, htext, -⟩ := n.exists_eq_cons
  rw [htext]
  exact cons_ne_nil c u

theorem stops_isBlank (n : Name) (t : Text) : Stops isBlank (n.text ++ t) :=
  Script.stops_isBlank_name (isName_script n.isName) t

end Name

theorem gap_eq : gap = Script.gap := rfl

theorem space_eq : space = Script.space := rfl

end RepoAtlas.Code.Python
