import RepoAtlas.Text.Basic
import Mathlib.Data.List.Induction
import Mathlib.Data.List.TakeWhile

/-! # Pieces and words -/

namespace RepoAtlas.Text

open Unicode List

variable {isSeparator : Char → Bool} {s t : Text} {c : Char}

/-! ## Pieces -/

theorem splitBy_append (hc : isSeparator c = true) (s t : Text) :
    splitBy isSeparator (s ++ c :: t) = splitBy isSeparator s ++ splitBy isSeparator t := by
  induction s with
  | nil => simp [splitBy, hc]
  | cons d s ih =>
    rw [cons_append, splitBy, splitBy, ih]
    split
    · rfl
    · obtain ⟨p, ps, hs⟩ := exists_cons_of_ne_nil (splitBy_ne_nil isSeparator s)
      rw [hs]
      rfl

theorem splitBy_of_forall (h : ∀ c ∈ t, isSeparator c = false) : splitBy isSeparator t = [t] := by
  induction t with
  | nil => rfl
  | cons c t ih =>
    rw [splitBy, ih fun d hd => h d (mem_cons_of_mem c hd), h c mem_cons_self]
    rfl

theorem splitOn_append (separator : Char) (s t : Text) :
    splitOn separator (s ++ separator :: t) = splitOn separator s ++ splitOn separator t := by
  unfold splitOn
  exact splitBy_append (by simp) s t

theorem splitOn_of_not_mem (h : c ∉ t) : splitOn c t = [t] := by
  apply splitBy_of_forall
  intro d hd
  rw [beq_eq_false_iff_ne]
  rintro rfl
  exact h hd

theorem not_mem_of_mem_splitOn (h : s ∈ splitOn c t) : c ∉ s := by
  intro hc
  have hclean := not_isSeparator_of_mem_splitBy h hc
  rw [beq_self_eq_true] at hclean
  cases hclean

theorem pieces_append (hc : isSeparator c = true) (s t : Text) :
    pieces isSeparator (s ++ c :: t) = pieces isSeparator s ++ pieces isSeparator t := by
  rw [pieces, splitBy_append hc, filter_append]
  rfl

theorem pieces_of_forall (h : ∀ c ∈ t, isSeparator c = false) (hne : t ≠ []) :
    pieces isSeparator t = [t] := by
  simp [pieces, splitBy_of_forall h, hne]

theorem forall_of_mem_pieces {p : Text} (hp : p ∈ pieces isSeparator t) :
    (∀ c ∈ p, isSeparator c = false) ∧ p ≠ [] := by
  obtain ⟨hmem, hne⟩ := mem_filter.mp hp
  exact ⟨fun c hc => not_isSeparator_of_mem_splitBy hmem hc, by simpa using hne⟩

/-! ## Words -/

theorem words_append (hc : isBlank c = true) (s t : Text) : words (s ++ c :: t) = words s ++ words t :=
  pieces_append hc s t

@[simp] theorem words_nil : words [] = [] := rfl

theorem words_cons (hc : isBlank c = true) (t : Text) : words (c :: t) = words t :=
  words_append hc [] t

theorem words_concat (hc : isBlank c = true) (t : Text) : words (t ++ [c]) = words t := by
  rw [words_append hc, words_nil, append_nil]

theorem words_of_mem {w : Text} (hw : w ∈ words t) : words w = [w] := by
  obtain ⟨hclean, hne⟩ := forall_of_mem_pieces hw
  exact pieces_of_forall hclean hne

theorem words_trim (t : Text) : words (trim t) = words t := by
  have hstart (t : Text) : words (trimStart t) = words t := by
    induction t with
    | nil => rfl
    | cons c t ih =>
      by_cases hc : isBlank c
      · rw [words_cons hc, ← ih]
        simp [trimStart, hc]
      · simp [trimStart, hc]
  have hend (t : Text) : words (trimEnd t) = words t := by
    induction t using List.reverseRecOn with
    | nil => rfl
    | append_singleton t c ih =>
      by_cases hc : isBlank c
      · rw [words_concat hc, ← ih]
        simp [trimEnd, hc]
      · simp [trimEnd, hc]
  rw [trim, hend, hstart]

theorem dropWhile_isBlank_eq_self (h : ∀ c ∈ t.head?, isBlank c = false) : t.dropWhile isBlank = t := by
  cases t with
  | nil => rfl
  | cons c t => exact dropWhile_cons_of_neg (by simpa using h c rfl)

theorem trim_eq_self (hhead : ∀ c ∈ t.head?, isBlank c = false)
    (hlast : ∀ c ∈ t.getLast?, isBlank c = false) : trim t = t := by
  rw [trim, trimStart, dropWhile_isBlank_eq_self hhead, trimEnd,
    dropWhile_isBlank_eq_self (by rwa [head?_reverse]), reverse_reverse]

theorem trim_append (hne : s ≠ []) (hhead : ∀ c ∈ s.head?, isBlank c = false)
    (hlast : ∀ c ∈ s.getLast?, isBlank c = false) (t : Text) : trim (s ++ t) = s ++ trimEnd t := by
  have hstart : trimStart (s ++ t) = s ++ t := by
    obtain ⟨c, s, rfl⟩ := exists_cons_of_ne_nil hne
    exact dropWhile_isBlank_eq_self hhead
  rw [trim, hstart, trimEnd, reverse_append, dropWhile_append,
    dropWhile_isBlank_eq_self (t := s.reverse) (by rwa [head?_reverse])]
  split
  · next hblank =>
    rw [trimEnd, isEmpty_iff.mp hblank, reverse_reverse, reverse_nil, append_nil]
  · rw [reverse_append, reverse_reverse, trimEnd]

theorem trim_between {lead trail : Text} (hlead : ∀ c ∈ lead, isBlank c = true)
    (htrail : ∀ c ∈ trail, isBlank c = true) (t : Text) : trim (lead ++ t ++ trail) = trim t := by
  have hend (s : Text) : trimEnd (s ++ trail) = trimEnd s := by
    have hreverse : ∀ c ∈ trail.reverse, isBlank c = true := by simpa using htrail
    rw [trimEnd, reverse_append, dropWhile_append_of_pos hreverse, trimEnd]
  rw [append_assoc, trim, trimStart, dropWhile_append_of_pos hlead, dropWhile_append]
  split
  · next hblank =>
    rw [dropWhile_eq_nil_iff.mpr htrail, trim, trimStart, isEmpty_iff.mp hblank]
  · rw [hend]
    rfl

/-- A function that takes the two sides of a blank by themselves takes the words one by one. -/
theorem eq_flatMap_words {β : Type} {f : Text → List β} (hnil : f [] = [])
    (hblank : ∀ s c t, isBlank c = true → f (s ++ c :: t) = f s ++ f t) (t : Text) :
    f t = (words t).flatMap f := by
  have hclean (s : Text) (hs : ∀ c ∈ s, isBlank c = false) : f s = (words s).flatMap f := by
    by_cases hne : s = []
    · rw [hne, hnil, words_nil, flatMap_nil]
    · rw [words, pieces_of_forall hs hne, flatMap_singleton]
  suffices h : ∀ s : Text, (∀ c ∈ s, isBlank c = false) → f (s ++ t) = (words (s ++ t)).flatMap f from
    h [] (by simp)
  -- `s` is the part of the text's first word that was met already
  induction t with
  | nil =>
    intro s hs
    rw [append_nil]
    exact hclean s hs
  | cons c t ih =>
    intro s hs
    by_cases hc : isBlank c
    · rw [hblank s c t hc, words_append hc, flatMap_append, ← hclean s hs]
      exact congrArg (f s ++ ·) (ih [] (by simp))
    · rw [append_cons]
      apply ih
      intro d hd
      rcases mem_append.mp hd with hd | hd
      · exact hs d hd
      · rw [mem_singleton.mp hd]
        simpa using hc

theorem mem_iff_mem_words (hc : isBlank c = false) : c ∈ t ↔ ∃ w ∈ words t, c ∈ w := by
  have hflat : t.filter (· == c) = (words t).flatMap fun w => w.filter (· == c) := by
    apply eq_flatMap_words rfl
    intro s d t hd
    have hne : (d == c) = false := by
      rw [beq_eq_false_iff_ne]
      rintro rfl
      simp [hc] at hd
    rw [filter_append, filter_cons_of_neg (by simp [hne])]
  calc
    c ∈ t ↔ c ∈ t.filter (· == c) := by simp
    _ ↔ ∃ w ∈ words t, c ∈ w := by
      rw [hflat, mem_flatMap]
      simp

/-! ## Replacing -/

theorem map_replace_of_not_mem (h : c ∉ t) (d : Char) : t.map (fun x => if x = c then d else x) = t := by
  refine (map_congr_left (g := id) ?_).trans (map_id t)
  intro x hx
  have hne : x ≠ c := fun hxc => h (hxc ▸ hx)
  exact if_neg hne

theorem not_mem_map_replace {d : Char} (h : c ≠ d) (t : Text) : c ∉ t.map fun x => if x = c then d else x := by
  simp only [mem_map, not_exists, not_and]
  intro x _
  by_cases hx : x = c
  · rw [if_pos hx]
    exact h.symm
  · rw [if_neg hx]
    exact hx

/-! ## Joining -/

@[simp] theorem join_singleton (separator t : Text) : join separator [t] = t :=
  intercalate_singleton

theorem join_cons_cons (separator s t : Text) (texts : List Text) :
    join separator (s :: t :: texts) = s ++ separator ++ join separator (t :: texts) :=
  intercalate_cons_cons

theorem join_concat (separator t : Text) {texts : List Text} (h : texts ≠ []) :
    join separator (texts ++ [t]) = join separator texts ++ separator ++ t := by
  induction texts with
  | nil => exact absurd rfl h
  | cons s texts ih =>
    cases texts with
    | nil => simp [join_cons_cons]
    | cons u texts =>
      rw [cons_append, cons_append, join_cons_cons, join_cons_cons, ← cons_append, ih (cons_ne_nil _ _)]
      simp only [append_assoc]

theorem suffix_join_concat (separator t : Text) (texts : List Text) :
    t <:+ join separator (texts ++ [t]) := by
  by_cases h : texts = []
  · simp [h]
  · rw [join_concat _ _ h]
    exact suffix_append _ _

theorem infix_join {separator : Text} {texts : List Text} (h : t ∈ texts) : t <:+: join separator texts := by
  induction texts with
  | nil => cases h
  | cons s texts ih =>
    cases texts with
    | nil =>
      exact ⟨[], [], by rw [nil_append, append_nil, join_singleton, mem_singleton.mp h]⟩
    | cons u texts =>
      rw [join_cons_cons]
      rcases mem_cons.mp h with rfl | h
      · exact ((prefix_append t separator).trans (prefix_append _ _)).isInfix
      · exact (ih h).trans (suffix_append _ _).isInfix

theorem splitOn_join {texts : List Text} (hne : texts ≠ []) (h : ∀ t ∈ texts, c ∉ t) :
    splitOn c (join [c] texts) = texts := by
  induction texts with
  | nil => exact absurd rfl hne
  | cons s texts ih =>
    obtain ⟨hs, htexts⟩ := forall_mem_cons.mp h
    cases texts with
    | nil => rw [join_singleton, splitOn_of_not_mem hs]
    | cons t texts =>
      rw [join_cons_cons, append_assoc, singleton_append, splitOn_append, splitOn_of_not_mem hs,
        ih (cons_ne_nil _ _) htexts]
      rfl

theorem join_splitOn (c : Char) (t : Text) : join [c] (splitOn c t) = t := by
  induction t with
  | nil => rfl
  | cons d t ih =>
    obtain ⟨s, texts, hsplit⟩ := exists_cons_of_ne_nil (splitBy_ne_nil (· == c) t)
    have hsplit : splitOn c t = s :: texts := hsplit
    rw [hsplit] at ih
    by_cases hd : d = c
    · have hcut : splitOn c (d :: t) = [] :: s :: texts := by
        rw [← hsplit, hd]
        exact splitOn_append c [] t
      rw [hcut, join_cons_cons, ih, hd]
      rfl
    · have hcut : splitOn c (d :: t) = (d :: s) :: texts := by
        rw [splitOn, splitBy, if_neg (by simpa using hd)]
        exact congrArg (modifyHead (d :: ·)) hsplit
      rw [hcut, ← ih]
      cases texts with
      | nil => simp
      | cons u texts => simp [join_cons_cons]

theorem map_join (f : Char → Char) (separator : Text) (texts : List Text) :
    (join separator texts).map f = join (separator.map f) (texts.map (List.map f)) := by
  induction texts with
  | nil => rfl
  | cons s texts ih =>
    cases texts with
    | nil => simp
    | cons t texts => simp only [join_cons_cons, map_append, ih, map_cons]

theorem forall_mem_join {separator : Text} {texts : List Text} {P : Char → Prop}
    (hseparator : ∀ c ∈ separator, P c) (htexts : ∀ t ∈ texts, ∀ c ∈ t, P c) :
    ∀ c ∈ join separator texts, P c := by
  induction texts with
  | nil =>
    intro c hc
    cases hc
  | cons s texts ih =>
    obtain ⟨hs, htexts⟩ := forall_mem_cons.mp htexts
    cases texts with
    | nil => rwa [join_singleton]
    | cons t texts =>
      rw [join_cons_cons, forall_mem_append, forall_mem_append]
      exact ⟨⟨hs, hseparator⟩, ih htexts⟩

theorem not_mem_join {separator : Text} {texts : List Text} (hseparator : c ∉ separator)
    (htexts : ∀ t ∈ texts, c ∉ t) : c ∉ join separator texts := by
  intro hc
  refine forall_mem_join (P := (· ≠ c)) ?_ ?_ c hc rfl
  · rintro d hd rfl
    exact hseparator hd
  · rintro t ht d hd rfl
    exact htexts t ht hd

end RepoAtlas.Text
