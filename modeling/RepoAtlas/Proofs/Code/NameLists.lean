import RepoAtlas.Code.Import
import RepoAtlas.Proofs.Text.Words
import Mathlib.Data.List.Basic
import Mathlib.Data.List.TakeWhile

/-! # Lists of imported names -/

namespace RepoAtlas

open Unicode List

namespace Text

variable {t rest : Text}

theorem isBlank_of_getLast?_trim (t : Text) : ∀ c ∈ (trim t).getLast?, isBlank c = false := by
  intro c hc
  rw [trim, trimEnd, getLast?_reverse] at hc
  have hnot := head?_dropWhile_not isBlank (trimStart t).reverse
  rw [Option.mem_def.mp hc] at hnot
  exact hnot

theorem isBlank_of_words_eq_nil (h : words t = []) : ∀ c ∈ t, isBlank c = true := by
  intro c hc
  rw [← Bool.not_eq_false]
  intro hclean
  obtain ⟨w, hw, -⟩ := (mem_iff_mem_words hclean).mp hc
  rw [h] at hw
  cases hw

theorem dropLead?_cons_of_ne {c d : Char} (h : c ≠ d) (mark t : Text) :
    dropLead? (c :: mark) (d :: t) = none := by
  rw [Option.eq_none_iff_forall_not_mem]
  intro rest hrest
  exact h (cons_eq_cons.mp (dropLead?_eq_some_iff.mp hrest)).1.symm

theorem cutAt?_of_not_mem {c : Char} (mark : Text) (h : c ∉ t) : cutAt? (c :: mark) t = none := by
  induction t with
  | nil => rfl
  | cons d t ih =>
    obtain ⟨hd, ht⟩ := not_or.mp (mem_cons.not.mp h)
    rw [cutAt?, dropLead?_cons_of_ne hd, ih ht]
    rfl

/-- The cut is at the first place where the mark can begin. -/
theorem cutAt?_append {c : Char} (mark : Text) (h : c ∉ t) :
    cutAt? (c :: mark) (t ++ c :: (mark ++ rest)) = some (t, rest) := by
  induction t with
  | nil =>
    have hcut : dropLead? (c :: mark) (c :: (mark ++ rest)) = some rest := dropLead?_eq_some_iff.mpr rfl
    rw [nil_append, cutAt?, hcut]
  | cons d t ih =>
    obtain ⟨hd, ht⟩ := not_or.mp (mem_cons.not.mp h)
    rw [cons_append, cutAt?, dropLead?_cons_of_ne hd, ih ht]
    rfl

structure IsTrimmed (t : Text) : Prop where
  ne_nil : t ≠ []
  head : ∀ c ∈ t.head?, isBlank c = false
  last : ∀ c ∈ t.getLast?, isBlank c = false

namespace IsTrimmed

theorem trim_eq (h : IsTrimmed t) : trim t = t :=
  trim_eq_self h.head h.last

theorem of_forall (hne : t ≠ []) (h : ∀ c ∈ t, isBlank c = false) : IsTrimmed t :=
  ⟨hne, fun c hc => h c (mem_of_head? hc), fun c hc => h c (mem_of_getLast? hc)⟩

theorem append {s : Text} (hs : IsTrimmed s) (between : Text) (ht : IsTrimmed t) :
    IsTrimmed (s ++ between ++ t) := by
  refine ⟨append_ne_nil_of_right_ne_nil _ ht.ne_nil, ?_, ?_⟩
  · rw [append_assoc, head?_append_of_ne_nil _ hs.ne_nil]
    exact hs.head
  · rw [getLast?_append_of_ne_nil _ ht.ne_nil]
    exact ht.last

theorem join {separator : Text} {texts : List Text} (hne : texts ≠ []) (h : ∀ t ∈ texts, IsTrimmed t) :
    IsTrimmed (Text.join separator texts) := by
  induction texts with
  | nil => exact absurd rfl hne
  | cons s texts ih =>
    obtain ⟨hs, htexts⟩ := forall_mem_cons.mp h
    cases texts with
    | nil => rwa [join_singleton]
    | cons t texts =>
      rw [join_cons_cons]
      exact hs.append separator (ih (cons_ne_nil t texts) htexts)

end IsTrimmed

/-- What is taken from the items of a list, each without the blanks around it, is what is taken from the
texts that were put together to the list. -/
theorem filterMap_splitOn_join {β : Type} {f : Text → Option β} {texts : List Text}
    (htrim : ∀ s t, trim s = trim t → f s = f t) (hnil : f [] = none)
    (hlead : ∀ c ∈ lead, isBlank c = true) (htrail : ∀ c ∈ trail, isBlank c = true)
    (hcomma : ∀ t ∈ texts, ',' ∉ t) :
    (splitOn ',' (lead ++ join ", ".toList texts ++ trail)).filterMap f = texts.filterMap f := by
  have hblank {blanks : Text} (h : ∀ c ∈ blanks, isBlank c = true) : ',' ∉ blanks :=
    fun hmem => absurd (h ',' hmem) (by decide)
  have hitem {lead trail : Text} (hlead : ∀ c ∈ lead, isBlank c = true)
      (htrail : ∀ c ∈ trail, isBlank c = true) {t : Text} (ht : ',' ∉ t) :
      (splitOn ',' (lead ++ t ++ trail)).filterMap f = [t].filterMap f := by
    have hnone : ',' ∉ lead ++ t ++ trail := by simp [hblank hlead, hblank htrail, ht]
    rw [splitOn_of_not_mem hnone, filterMap_cons, htrim _ _ (trim_between hlead htrail t)]
    rfl
  induction texts generalizing lead with
  | nil =>
    rw [hitem hlead htrail (t := join ", ".toList []) (by simp [join]), filterMap_cons, filterMap_nil]
    exact hnil ▸ rfl
  | cons s texts ih =>
    obtain ⟨hs, htexts⟩ := forall_mem_cons.mp hcomma
    cases texts with
    | nil => rw [join_singleton, hitem hlead htrail hs]
    | cons t texts =>
      have hcut : lead ++ join ", ".toList (s :: t :: texts) ++ trail =
          (lead ++ s ++ []) ++ ',' :: ([' '] ++ join ", ".toList (t :: texts) ++ trail) := by
        simp [join_cons_cons]
      rw [hcut, splitOn_append, filterMap_append, hitem hlead (by simp) hs,
        ih (forall_mem_singleton.mpr (by decide)) htexts, ← filterMap_append]
      rfl

end Text

namespace Code

open Text

variable {n : Text} {ws : List Text} {item : Text}

theorem bareItem_congr {item item' : Text} (h : trim item = trim item') : bareItem item = bareItem item' := by
  unfold bareItem
  rw [h]

/-- An item bears the mark of a type only in front of other words. -/
theorem dropLead?_type_eq_none (hwords : words item = n :: ws) (htype : ws ≠ [] → n ≠ "type".toList) :
    dropLead? "type ".toList (trim item) = none := by
  rw [Option.eq_none_iff_forall_not_mem]
  intro rest hmark
  have htrim : trim item = "type".toList ++ ' ' :: rest :=
    (dropLead?_eq_some_iff.mp hmark).trans rfl
  have hparts : n :: ws = "type".toList :: words rest := by
    rw [← hwords, ← words_trim, htrim, words_append (by decide)]
    rfl
  obtain ⟨rfl, rfl⟩ := cons_eq_cons.mp hparts
  have hrest : words rest = [] := by
    by_contra hne
    exact htype hne rfl
  -- what follows the mark would be blank, but the item is trimmed
  have hlast : (' ' :: rest).getLast (cons_ne_nil _ _) ∈ (trim item).getLast? := by
    rw [htrim, getLast?_append_of_ne_nil _ (cons_ne_nil _ _), getLast?_eq_getLast_of_ne_nil]
    exact rfl
  have hblank : ∀ c ∈ ' ' :: rest, isBlank c = true :=
    forall_mem_cons.mpr ⟨by decide, isBlank_of_words_eq_nil hrest⟩
  have hclean := isBlank_of_getLast?_trim item _ hlast
  rw [hblank _ (getLast_mem _)] at hclean
  cases hclean

theorem bareItem_eq_trim (hwords : words item = n :: ws) (htype : ws ≠ [] → n ≠ "type".toList) :
    bareItem item = trim (trim item) := by
  rw [bareItem, dropLead?_type_eq_none hwords htype]
  rfl

def importedName? (item : Text) : Option Text :=
  (words (bareItem item)).head?

/-- An item imports its first word, unless that is the mark of a type in front of others. -/
theorem importedName?_eq (hwords : words item = n :: ws) (htype : ws ≠ [] → n ≠ "type".toList) :
    importedName? item = some n := by
  rw [importedName?, bareItem_eq_trim hwords htype, words_trim, words_trim, hwords]
  rfl

section Lists

variable {lead trail : Text} {items : List Text} (hlead : ∀ c ∈ lead, isBlank c = true)
  (htrail : ∀ c ∈ trail, isBlank c = true) (hcomma : ∀ t ∈ items, ',' ∉ t)
include hlead htrail hcomma

theorem importedNames_join :
    importedNames (lead ++ join ", ".toList items ++ trail) = items.filterMap importedName? := by
  apply filterMap_splitOn_join _ rfl hlead htrail hcomma
  intro s t h
  rw [bareItem_congr h]

theorem exportedNames_join :
    exportedNames (lead ++ join ", ".toList items ++ trail) =
      (items.map exportedName).filter fun name => !name.isEmpty := by
  have hguard (texts : List Text) : ((texts.map exportedName).filter fun name => !name.isEmpty) =
      texts.filterMap fun t => Option.guard (fun name => !name.isEmpty) (exportedName t) := by
    rw [← filterMap_eq_filter, filterMap_map]
    rfl
  rw [exportedNames, hguard, hguard]
  apply filterMap_splitOn_join _ rfl hlead htrail hcomma
  intro s t h
  rw [exportedName, bareItem_congr h, ← exportedName]

end Lists

end Code

end RepoAtlas
