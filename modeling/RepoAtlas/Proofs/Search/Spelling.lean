import RepoAtlas.Proofs.Search.OwnName
import RepoAtlas.Proofs.Text.Spacing

/-! # Spellings of the same words -/

namespace RepoAtlas

open Text Unicode List

namespace Text

variable {c : Char} {w t : Text} {ws : List Text}

/-! ## Small letters -/

theorem of_isLower {P : Char → Prop} (hP : ∀ n < 0x7B, 0x61 ≤ n → P (Char.ofNat n)) (hc : c.isLower = true) :
    P c := by
  obtain ⟨hfirst, hlast⟩ := Bool.and_eq_true_iff.mp hc
  have hfirst : 0x61 ≤ c.toNat := UInt32.le_iff_toNat_le.mp (of_decide_eq_true hfirst)
  have hlast : c.toNat ≤ 0x7A := UInt32.le_iff_toNat_le.mp (of_decide_eq_true hlast)
  have hletter := hP c.toNat (Nat.lt_succ_of_le hlast) hfirst
  rwa [Char.ofNat_toNat] at hletter

theorem lowered_of_isLower (hc : c.isLower = true) :
    (isSeparator c = false ∧ lowered c = [c] ∧ isUppercase c = false ∧ isLowercase c = true) ∧
      isSeparator c.toUpper = false ∧ lowered c.toUpper = [c] ∧ isUppercase c.toUpper = true :=
  of_isLower (P := fun c =>
    (isSeparator c = false ∧ lowered c = [c] ∧ isUppercase c = false ∧ isLowercase c = true) ∧
      isSeparator c.toUpper = false ∧ lowered c.toUpper = [c] ∧ isUppercase c.toUpper = true)
    (by decide +kernel) hc

/-! ## Spellings -/

structure IsSmallWord (w : Text) : Prop where
  two_le : 2 ≤ w.length
  small : ∀ c ∈ w, c.isLower = true

def cased (capital : Bool) : Text → Text
  | [] => []
  | c :: w => (if capital then c.toUpper else c) :: w

/-- The words, each behind separators, or with a capital, or both. -/
inductive SpellsOn : List Text → Text → Prop
  | nil : SpellsOn [] []
  | cons {ws : List Text} {t : Text} (gap : Text) (capital : Bool) (w : Text)
      (hgap : ∀ c ∈ gap, isSeparator c = true) (hopen : gap ≠ [] ∨ capital = true) (h : SpellsOn ws t) :
      SpellsOn (w :: ws) (gap ++ (cased capital w ++ t))

/-- The words in any of their styles: the first one with or without a capital, and the others set off from
the word before. -/
inductive Spells : List Text → Text → Prop
  | intro {ws : List Text} {t : Text} (capital : Bool) (w : Text) (h : SpellsOn ws t) :
      Spells (w :: ws) (cased capital w ++ t)

/-! ## Their word form -/

theorem wordFormAfter_of_small (hw : ∀ c ∈ w, c.isLower = true) (previous : Option Char) (t : Text) :
    wordFormAfter previous false true (w ++ t) =
      w ++ wordFormAfter (w.getLast?.or previous) false true t := by
  induction w generalizing previous with
  | nil => rfl
  | cons c w ih =>
    obtain ⟨hc, hw⟩ := forall_mem_cons.mp hw
    obtain ⟨⟨hplain, hlowered, hupper, -⟩, -⟩ := lowered_of_isLower hc
    rw [cons_append, wordFormAfter_of_not_isSeparator hplain, hlowered, hupper, ih hw, getLast?_cons]
    cases w.getLast? <;> rfl

namespace IsSmallWord

variable (hw : IsSmallWord w)
include hw

theorem exists_eq_cons_cons : ∃ c d u, w = c :: d :: u := by
  have htwo := hw.two_le
  match w with
  | [] | [_] => simp at htwo
  | c :: d :: u => exact ⟨c, d, u, rfl⟩

theorem getLast?_isLowercase : w.getLast?.any isLowercase = true := by
  obtain ⟨c, d, u, rfl⟩ := hw.exists_eq_cons_cons
  have hlast := hw.small _ (getLast_mem (cons_ne_nil c (d :: u)))
  rw [getLast?_eq_getLast_of_ne_nil (cons_ne_nil c (d :: u))]
  exact (lowered_of_isLower hlast).1.2.2.2

theorem wordFormAfter_cased (capital : Bool) (previous : Option Char) (pending started : Bool) (t : Text) :
    wordFormAfter previous pending started (cased capital w ++ t) =
      (if (pending || (capital && previous.any isLowercase)) && started then [' '] else []) ++
        (w ++ wordFormAfter w.getLast? false true t) := by
  obtain ⟨c, d, u, rfl⟩ := hw.exists_eq_cons_cons
  obtain ⟨hc, hrest⟩ := forall_mem_cons.mp hw.small
  obtain ⟨⟨hplain, hlowered, hupper, -⟩, hplain', hlowered', hupper'⟩ := lowered_of_isLower hc
  have hlast (x : Option Char) : (d :: u).getLast?.or x = (c :: d :: u).getLast? := by
    rw [getLast?_cons_cons, getLast?_cons]
    rfl
  cases capital with
  | true =>
    rw [cased, if_pos rfl, cons_append, wordFormAfter_of_not_isSeparator hplain', hlowered', hupper',
      wordFormAfter_of_small hrest, hlast, append_assoc]
    rfl
  | false =>
    rw [cased, if_neg Bool.false_ne_true, cons_append, wordFormAfter_of_not_isSeparator hplain, hlowered,
      hupper, wordFormAfter_of_small hrest, hlast, append_assoc]
    rfl

end IsSmallWord

theorem SpellsOn.exists_wordFormAfter (h : SpellsOn ws t) (hws : ∀ w ∈ ws, IsSmallWord w)
    {previous : Option Char} (hprevious : previous.any isLowercase = true) :
    ∃ last : Option Char, last.any isLowercase = true ∧
      ∀ rest, wordFormAfter previous false true (t ++ rest) =
        ws.flatMap (' ' :: ·) ++ wordFormAfter last false true rest := by
  induction h generalizing previous with
  | nil => exact ⟨previous, hprevious, fun rest => rfl⟩
  | @cons ws t gap capital w hgap hopen h ih =>
    obtain ⟨hw, hws⟩ := forall_mem_cons.mp hws
    obtain ⟨last, hlast, hrest⟩ := ih hws hw.getLast?_isLowercase
    refine ⟨last, hlast, ?_⟩
    intro rest
    have hspace : ((false || !gap.isEmpty) ||
        (capital && (gap.getLast?.or previous).any isLowercase)) = true := by
      rcases hopen with hne | rfl
      · simp [hne]
      · cases gap with
        | nil => simpa using hprevious
        | cons e gap => simp
    rw [append_assoc, append_assoc, wordFormAfter_separators hgap, hw.wordFormAfter_cased, hspace, hrest,
      flatMap_cons]
    simp

theorem join_space_cons (w : Text) (ws : List Text) : join [' '] (w :: ws) = w ++ ws.flatMap (' ' :: ·) := by
  induction ws generalizing w with
  | nil => simp
  | cons v ws ih => simp [join_cons_cons, ih v]

namespace Spells

variable (h : Spells ws t) (hws : ∀ w ∈ ws, IsSmallWord w)
include h hws

theorem exists_wordForm_append : ∃ last : Option Char, last.any isLowercase = true ∧
    ∀ rest, wordForm (t ++ rest) = join [' '] ws ++ wordFormAfter last false true rest := by
  cases h with
  | @intro ws t capital w h =>
    obtain ⟨hw, hws⟩ := forall_mem_cons.mp hws
    obtain ⟨last, hlast, hrest⟩ := h.exists_wordFormAfter hws hw.getLast?_isLowercase
    refine ⟨last, hlast, ?_⟩
    intro rest
    rw [append_assoc, wordForm, hw.wordFormAfter_cased, hrest, join_space_cons]
    simp

theorem wordForm_eq : wordForm t = join [' '] ws := by
  obtain ⟨last, -, hrest⟩ := exists_wordForm_append h hws
  have hnil := hrest []
  rwa [append_nil, wordFormAfter, append_nil] at hnil

theorem wordForm_append_dot (e : Text) :
    wordForm (t ++ '.' :: e) = join [' '] ws ++ '.' :: wordFormAfter (some '.') false true e := by
  obtain ⟨last, -, hrest⟩ := exists_wordForm_append h hws
  rw [hrest, wordFormAfter_of_not_isSeparator (by decide)]
  rfl

end Spells

/-! ## Their characters -/

theorem isAlpha_of_mem_cased {capital : Bool} (hw : ∀ c ∈ w, c.isLower = true) (hc : c ∈ cased capital w) :
    c.isAlpha = true := by
  have hletter {d : Char} (hd : d.isLower = true) : d.isAlpha = true ∧ d.toUpper.isAlpha = true :=
    of_isLower (P := fun d => d.isAlpha = true ∧ d.toUpper.isAlpha = true) (by decide +kernel) hd
  cases w with
  | nil => cases hc
  | cons d w =>
    obtain ⟨hd, hw⟩ := forall_mem_cons.mp hw
    rcases mem_cons.mp hc with rfl | hc
    · cases capital with
      | true => exact (hletter hd).2
      | false => exact (hletter hd).1
    · exact (hletter (hw c hc)).1

theorem SpellsOn.isSeparator_or_isAlpha (h : SpellsOn ws t) (hws : ∀ w ∈ ws, IsSmallWord w) (hc : c ∈ t) :
    isSeparator c = true ∨ c.isAlpha = true := by
  induction h with
  | nil => cases hc
  | cons gap capital w hgap hopen h ih =>
    obtain ⟨hw, hws⟩ := forall_mem_cons.mp hws
    rcases mem_append.mp hc with hc | hc
    · exact Or.inl (hgap c hc)
    · rcases mem_append.mp hc with hc | hc
      · exact Or.inr (isAlpha_of_mem_cased hw.small hc)
      · exact ih hws hc

namespace Spells

variable (h : Spells ws t) (hws : ∀ w ∈ ws, IsSmallWord w)
include h hws

theorem isSeparator_or_isAlpha (hc : c ∈ t) : isSeparator c = true ∨ c.isAlpha = true := by
  cases h with
  | intro capital w h =>
    obtain ⟨hw, hws⟩ := forall_mem_cons.mp hws
    rcases mem_append.mp hc with hc | hc
    · exact Or.inr (isAlpha_of_mem_cased hw.small hc)
    · exact h.isSeparator_or_isAlpha hws hc

theorem not_mem (hplain : isSeparator c = false) (hmark : c.isAlpha = false) : c ∉ t := by
  intro hc
  rcases h.isSeparator_or_isAlpha hws hc with hsep | halpha
  · rw [hplain] at hsep
    cases hsep
  · rw [hmark] at halpha
    cases halpha

theorem isBlank_of_head? : ∀ c ∈ t.head?, isBlank c = false := by
  cases h with
  | intro capital w h =>
    obtain ⟨hw, -⟩ := forall_mem_cons.mp hws
    obtain ⟨c, d, u, rfl⟩ := hw.exists_eq_cons_cons
    intro e he
    have hletter : e.isAlpha = true := by
      apply isAlpha_of_mem_cased hw.small
      exact mem_of_head? (l := cased capital (c :: d :: u)) he
    rw [Bool.eq_false_iff]
    intro hblank
    have hno := of_isBlank (P := fun c => c.isAlpha = false) (by decide) hblank
    rw [hletter] at hno
    cases hno

end Spells

end Text

/-! ## Files asked for in another spelling -/

theorem Path.segments_append_slash {n : Text} (hne : n ≠ []) (hslash : '/' ∉ n) (hback : '\\' ∉ n)
    (dir : Text) : segments (dir ++ '/' :: n) = segments dir ++ [n] := by
  have hclean : ∀ c ∈ n, (c == '/' || c == '\\') = false := by
    intro c hc
    have hs : c ≠ '/' := fun h => hslash (h ▸ hc)
    have hb : c ≠ '\\' := fun h => hback (h ▸ hc)
    simp [hs, hb]
  rw [segments, pieces_append (by decide), pieces_of_forall hclean hne]
  rfl

namespace Search

variable {ws : List Text} {a b e : Text}

theorem clean_of_mem_extension (he : ∀ c ∈ e, isLowercase c = true) {c : Char} (hc : c ∈ '.' :: e) :
    isBlank c = false ∧ c ≠ '/' ∧ c ≠ '\\' := by
  rcases mem_cons.mp hc with rfl | hc
  · decide
  · have hlower := he c hc
    refine ⟨?_, ne_of_apply_ne isLowercase ?_, ne_of_apply_ne isLowercase ?_⟩
    · rw [Bool.eq_false_iff]
      intro hblank
      have hno := of_isBlank (P := fun c => isLowercase c = false) (by decide +kernel) hblank
      rw [hlower] at hno
      cases hno
    · rw [hlower]
      decide
    · rw [hlower]
      decide

section Named

variable (h : Spells ws a) (hws : ∀ w ∈ ws, IsSmallWord w) (he : ∀ c ∈ e, isLowercase c = true)
include h hws he

theorem marks_not_mem_spelled : '/' ∉ a ++ '.' :: e ∧ '\\' ∉ a ++ '.' :: e := by
  have hclean {c : Char} (hc : c ∈ '.' :: e) := clean_of_mem_extension he hc
  constructor
  · intro hmem
    rcases mem_append.mp hmem with hmem | hmem
    · exact h.not_mem hws (by decide) (by decide) hmem
    · exact (hclean hmem).2.1 rfl
  · intro hmem
    rcases mem_append.mp hmem with hmem | hmem
    · exact h.not_mem hws (by decide) (by decide) hmem
    · exact (hclean hmem).2.2 rfl

theorem isAskable_spelled : IsAskable (a ++ '.' :: e) := by
  refine ⟨?_, '.', by simp, by decide⟩
  apply trim_eq_self
  · intro c hc
    rw [head?_append] at hc
    cases hhead : a.head? with
    | none =>
      rw [hhead] at hc
      exact (clean_of_mem_extension he (mem_of_head? hc)).1
    | some d =>
      rw [hhead] at hc
      exact h.isBlank_of_head? hws c (hhead ▸ hc)
  · intro c hc
    rw [getLast?_append_of_ne_nil _ (cons_ne_nil '.' e)] at hc
    exact (clean_of_mem_extension he (mem_of_getLast? hc)).1

theorem nameWordForm_spelled (dir : Text) :
    (PathRecord.ofPath (dir ++ '/' :: (a ++ '.' :: e))).nameWordForm =
      join [' '] ws ++ '.' :: wordFormAfter (some '.') false true e := by
  obtain ⟨hslash, hback⟩ := marks_not_mem_spelled h hws he
  have hform : (PathRecord.ofPath (dir ++ '/' :: (a ++ '.' :: e))).nameWordForm =
      wordForm ((Path.segments (dir ++ '/' :: (a ++ '.' :: e))).getLast?.getD []) := rfl
  rw [hform, Path.segments_append_slash (by simp) hslash hback, getLast?_concat, Option.getD_some,
    h.wordForm_append_dot hws]

end Named

/-- A file whose name has the word form of the query hits one of the two highest tiers. -/
theorem le_score_of_nameWordForm {r : PathRecord} {q : Query} (hform : r.nameWordForm = q.wordForm)
    (hempty : q.isEmpty = false) : 9500 ≤ score r q := by
  by_cases hlower : r.nameLower = q.lower
  · have htier : exactTier? r q = some 10000 := if_pos hlower
    rw [score_of_exactTier? htier hempty]
    decide
  · have htier : exactTier? r q = some 9500 := by rw [exactTier?, if_neg hlower, if_pos hform]
    rw [score_of_exactTier? htier hempty]

/-- All spellings of the same words have one word form, the words with single spaces between them. So a file
named by one of them scores 9500 or more when it is asked for by another one. -/
theorem spellings_alike {ws : List Text} (hws : ∀ w ∈ ws, IsSmallWord w) :
    (∀ a, Spells ws a → wordForm a = join [' '] ws) ∧
    ∀ a b, Spells ws a → Spells ws b → ∀ e, (∀ c ∈ e, isLowercase c = true) → ∀ dir,
      9500 ≤ score (.ofPath (dir ++ '/' :: (a ++ '.' :: e))) (.ofText (b ++ '.' :: e)) := by
  constructor
  · exact fun a ha => ha.wordForm_eq hws
  · intro a b ha hb e he dir
    have hask := isAskable_spelled hb hws he
    have hback := (marks_not_mem_spelled hb hws he).2
    apply le_score_of_nameWordForm _ (hask.isEmpty_ofText hback)
    rw [nameWordForm_spelled ha hws he, hask.wordForm_ofText hback, hb.wordForm_append_dot hws]

/-- Capitals alone in the file, and separators with one capital in the query. -/
theorem spellings_alike_userProfile :
    wordForm "user__-Profile".toList = "user profile".toList ∧
    9500 ≤ score (.ofPath "src/UserProfile.ts".toList) (.ofText "user__-Profile.ts".toList) := by
  have hws : ∀ w ∈ ["user".toList, "profile".toList], IsSmallWord w := by
    rw [forall_mem_cons, forall_mem_singleton]
    exact ⟨⟨by decide, all_eq_true.mp (by decide)⟩, ⟨by decide, all_eq_true.mp (by decide)⟩⟩
  have hfile : Spells ["user".toList, "profile".toList] "UserProfile".toList :=
    .intro true "user".toList (.cons [] true "profile".toList (by simp) (by simp) .nil)
  have hquery : Spells ["user".toList, "profile".toList] "user__-Profile".toList :=
    .intro false "user".toList
      (.cons "__-".toList true "profile".toList (all_eq_true.mp (by decide)) (by simp) .nil)
  obtain ⟨hforms, hscores⟩ := spellings_alike hws
  exact ⟨hforms _ hquery, hscores _ _ hfile hquery "ts".toList (all_eq_true.mp (by decide)) "src".toList⟩

end Search

end RepoAtlas
