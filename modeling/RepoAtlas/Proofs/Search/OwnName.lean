import RepoAtlas.Proofs.Path.Stem
import RepoAtlas.Proofs.Search.Bounds
import RepoAtlas.Proofs.Text.Occurrence
import RepoAtlas.Proofs.Text.Slashes
import RepoAtlas.Proofs.Text.WordEnd
import RepoAtlas.Proofs.Text.WordForm

/-! # Files asked for by name -/

namespace RepoAtlas

open Text Unicode List

variable {path name stem rest t : Text}

namespace PathRecord

theorem backslash_not_mem_name (path : Text) : '\\' ∉ (ofPath path).name := by
  have hname : (ofPath path).name = (Path.segments path).getLast?.getD [] := rfl
  rw [hname]
  cases hlast : (Path.segments path).getLast? with
  | none => simp
  | some s => exact Path.backslash_not_mem_segment (mem_of_getLast? hlast)

theorem backslash_not_mem_stem (hname : (ofPath path).name = stem ++ rest) : '\\' ∉ stem :=
  fun hmem => backslash_not_mem_name path (hname ▸ mem_append_left _ hmem)

theorem nameLower_of_stem (hname : (ofPath path).name = stem ++ '.' :: rest) :
    (ofPath path).nameLower =
      lowerBetween [] stem ('.' :: rest) ++ '.' :: lowerAfter ('.' :: stem.reverse) rest := by
  have hlower : (ofPath path).nameLower = Text.lower (ofPath path).name := rfl
  rw [hlower, hname, Text.lower, lowerAfter_eq_between, append_nil]
  rfl

theorem stemLower_of_stem (hname : (ofPath path).name = stem ++ '.' :: rest) (hdot : '.' ∉ rest)
    (hstem : stem ≠ []) (hrest : rest ≠ []) :
    (ofPath path).stemLower = lowerBetween [] stem ('.' :: rest) := by
  have hlower := nameLower_of_stem hname
  generalize hfront : lowerBetween [] stem ('.' :: rest) = front at hlower
  generalize hback : lowerAfter ('.' :: stem.reverse) rest = back at hlower
  have hfront_ne : front ≠ [] := hfront ▸ lowerBetween_ne_nil hstem [] _
  have hback_ne : back ≠ [] := hback ▸ lowerAfter_ne_nil hrest _
  have hback_dot : '.' ∉ back := fun h => hdot (mem_of_mem_lowerAfter (by decide) (hback ▸ h))
  have hlowered : ∀ c ∈ '.' :: back, lowered c = [c] :=
    forall_mem_cons.mpr ⟨by decide, fun c hc => lowered_of_mem_lowerAfter (hback ▸ hc)⟩
  have hextension : (ofPath path).extension = '.' :: back := by
    have hextension : (ofPath path).extension = Path.extension (ofPath path).nameLower := rfl
    rw [hextension, hlower, Path.extension_append_of_lowered hfront_ne hback_ne hback_dot hlowered]
  exact stemLower_of_append (by rw [hlower, hextension])

end PathRecord

namespace Search

/-- A text that is trimmed and not only separators. -/
structure IsAskable (t : Text) : Prop where
  trim_eq : trim t = t
  letter : ∃ c ∈ t, isSeparator c = false

namespace IsAskable

theorem ne_nil (h : IsAskable t) : t ≠ [] := by
  obtain ⟨c, hc, -⟩ := h.letter
  exact ne_nil_of_mem hc

theorem key_trim (h : IsAskable t) (hback : '\\' ∉ t) : Path.key (trim t) = t := by
  rw [h.trim_eq]
  exact map_replace_of_not_mem hback '/'

theorem lower_ofText (h : IsAskable t) (hback : '\\' ∉ t) : (Query.ofText t).lower = Text.lower t :=
  congrArg Text.lower (h.key_trim hback)

theorem wordForm_ofText (h : IsAskable t) (hback : '\\' ∉ t) :
    (Query.ofText t).wordForm = Text.wordForm t :=
  congrArg Text.wordForm (h.key_trim hback)

theorem isEmpty_ofText (h : IsAskable t) (hback : '\\' ∉ t) : (Query.ofText t).isEmpty = false := by
  obtain ⟨c, hmem, hc⟩ := h.letter
  have hterms : (Query.ofText t).terms = words (Query.ofText t).wordForm := rfl
  rw [Query.isEmpty, hterms, h.wordForm_ofText hback, isEmpty_eq_false_iff]
  exact words_wordForm_ne_nil hmem hc

end IsAskable

theorem exactTier?_own_name (h : IsAskable (PathRecord.ofPath path).name) :
    exactTier? (.ofPath path) (.ofText (PathRecord.ofPath path).name) = some 10000 := by
  have hlower := h.lower_ofText (PathRecord.backslash_not_mem_name path)
  rw [exactTier?, hlower]
  exact if_pos rfl

/-- For its stem a file hits no higher tier, and that of stems just if the extension changes nothing about
the lower case of the stem. -/
theorem exactTier?_own_stem (hname : (PathRecord.ofPath path).name = stem ++ '.' :: rest)
    (hdot : '.' ∉ rest) (hrest : rest ≠ []) (h : IsAskable stem) :
    exactTier? (.ofPath path) (.ofText stem) =
      if lowerBetween [] stem ('.' :: rest) = Text.lower stem then some 9000 else none := by
  have hback : '\\' ∉ stem := PathRecord.backslash_not_mem_stem hname
  have hwhole : (PathRecord.ofPath path).nameLower ≠ Text.lower stem := by
    intro hsame
    have hlonger := congrArg length hsame
    rw [PathRecord.nameLower_of_stem hname, length_append, length_lowerBetween, length_cons,
      Text.lower] at hlonger
    omega
  have hform : (PathRecord.ofPath path).nameWordForm ≠ Text.wordForm stem := by
    have hwordForm : (PathRecord.ofPath path).nameWordForm =
        Text.wordForm (PathRecord.ofPath path).name := rfl
    obtain ⟨previous, pending, started, happend⟩ :=
      exists_wordFormAfter_append none false false stem ('.' :: rest)
    have hmark : lowered '.' ⊆ wordFormAfter previous pending started ('.' :: rest) :=
      lowered_subset_wordFormAfter mem_cons_self (by decide) previous pending started
    rw [hwordForm, hname, Text.wordForm, happend]
    intro hsame
    rw [append_right_eq_self.mp hsame] at hmark
    cases hmark (by decide : '.' ∈ lowered '.')
  have hstem : (PathRecord.ofPath path).stemLower = lowerBetween [] stem ('.' :: rest) :=
    PathRecord.stemLower_of_stem hname hdot h.ne_nil hrest
  have hne : lowerBetween [] stem ('.' :: rest) ≠ [] := lowerBetween_ne_nil h.ne_nil [] _
  rw [exactTier?, h.lower_ofText hback, h.wordForm_ofText hback, if_neg hwhole, if_neg hform, hstem]
  simp [hne]

theorem lowerBetween_dot_eq_iff (stem rest : Text) :
    lowerBetween [] stem ('.' :: rest) = Text.lower stem ↔ ¬ BindsSigma [] stem rest := by
  have hdot : meetsCased ('.' :: rest) = meetsCased rest :=
    meetsCased_append_of_forall (s := ['.']) (forall_mem_singleton.mpr (by decide)) rest
  rw [Text.lower, lowerBetween_eq_iff, BindsSigma, BindsSigma, hdot]

/-- Asked for by its name, a file scores 10000. Asked for by its stem, it scores 9000, or it hits no tier,
just if the stem ends a word in a capital sigma with which the extension goes on. -/
theorem own_name_and_stem (path : Text) :
    let r := PathRecord.ofPath path
    (IsAskable r.name → score r (.ofText r.name) = 10000) ∧
    ∀ stem rest, r.name = stem ++ '.' :: rest → '.' ∉ rest → rest ≠ [] → IsAskable stem →
      (¬ BindsSigma [] stem rest → score r (.ofText stem) = 9000) ∧
      (exactTier? r (.ofText stem) = none ↔ BindsSigma [] stem rest) := by
  intro r
  constructor
  · intro hname
    have hempty := hname.isEmpty_ofText (PathRecord.backslash_not_mem_name path)
    exact score_of_exactTier? (exactTier?_own_name hname) hempty
  · intro stem rest hname hdot hrest hstem
    have hempty := hstem.isEmpty_ofText (PathRecord.backslash_not_mem_stem hname)
    have htier := exactTier?_own_stem hname hdot hrest hstem
    have hsame := lowerBetween_dot_eq_iff stem rest
    by_cases hbinds : BindsSigma [] stem rest
    · rw [if_neg fun h => hsame.mp h hbinds] at htier
      exact ⟨fun hfree => absurd hbinds hfree, iff_of_true htier hbinds⟩
    · rw [if_pos (hsame.mpr hbinds)] at htier
      exact ⟨fun _ => score_of_exactTier? htier hempty, by simp [r, htier, hbinds]⟩

/-- Plain letters, a sigma that the extension leaves as it is, and one that the extension binds. -/
theorem own_name_and_stem_router :
    score (.ofPath "src/Router.ts".toList) (.ofText "Router.ts".toList) = 10000 ∧
    score (.ofPath "src/Router.ts".toList) (.ofText "Router".toList) = 9000 ∧
    score (.ofPath "ΟΔΟΣ.7z".toList) (.ofText "ΟΔΟΣ".toList) = 9000 ∧
    exactTier? (.ofPath "ΟΔΟΣ.ts".toList) (.ofText "ΟΔΟΣ".toList) = none := by
  have hrouter := own_name_and_stem "src/Router.ts".toList
  have harchive := own_name_and_stem "ΟΔΟΣ.7z".toList
  have hscript := own_name_and_stem "ΟΔΟΣ.ts".toList
  have hgreek : IsAskable "ΟΔΟΣ".toList := ⟨by decide, 'Ο', by decide, by decide⟩
  refine ⟨hrouter.1 ⟨by decide, 'R', by decide, by decide⟩, ?_, ?_, ?_⟩
  · refine (hrouter.2 "Router".toList "ts".toList (by decide) (by decide) (by decide)
      ⟨by decide, 'R', by decide, by decide⟩).1 ?_
    rintro ⟨front, back, hcut, -⟩
    have hsigma : 'Σ' ∈ "Router".toList := hcut ▸ mem_append_right _ mem_cons_self
    exact absurd hsigma (by decide)
  · refine (harchive.2 "ΟΔΟΣ".toList "7z".toList (by decide) (by decide) (by decide) hgreek).1 ?_
    rintro ⟨front, back, -, -, -, hafter⟩
    exact absurd hafter (by decide)
  · exact (hscript.2 "ΟΔΟΣ".toList "ts".toList (by decide) (by decide) (by decide) hgreek).2.mpr
      ⟨"ΟΔΟ".toList, [], by decide, by simp, by decide +kernel, by decide +kernel⟩

theorem own_stem_missed : ¬ ∀ path stem rest : Text,
    (PathRecord.ofPath path).name = stem ++ '.' :: rest → '.' ∉ rest → rest ≠ [] → IsAskable stem →
      9000 ≤ score (.ofPath path) (.ofText stem) := by
  intro h
  have hfound := h "ΟΔΟΣ.ts".toList "ΟΔΟΣ".toList "ts".toList (by decide) (by decide) (by decide)
    ⟨by decide, 'Ο', by decide, by decide⟩
  exact absurd hfound (by decide +kernel)

end Search

end RepoAtlas
