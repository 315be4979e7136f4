import RepoAtlas.Proofs.Text.Occurrence
import RepoAtlas.Proofs.Text.Slashes
import RepoAtlas.Proofs.Text.Spacing
import Mathlib.Data.List.Forall2

/-! # The word form of a path and those of its segments -/

namespace RepoAtlas

open Unicode List

/-! ## Matched lists -/

section

variable {α β γ : Type*} {R : α → β → Prop} {xs : List α} {ys : List β} {y : β}

theorem exists_of_mem_forall₂ (h : Forall₂ R xs ys) (hy : y ∈ ys) : ∃ x ∈ xs, R x y := by
  induction h with
  | nil => cases hy
  | @cons x z xs ys hxz h ih =>
    rcases mem_cons.mp hy with rfl | hy
    · exact ⟨x, mem_cons_self, hxz⟩
    · obtain ⟨w, hw, hwy⟩ := ih hy
      exact ⟨w, mem_cons_of_mem x hw, hwy⟩

theorem map_eq_map_of_forall₂ {f : β → γ} {g : α → γ} (h : Forall₂ R xs ys)
    (hR : ∀ x ∈ xs, ∀ y, R x y → f y = g x) : ys.map f = xs.map g := by
  induction h with
  | nil => rfl
  | cons hxy h ih =>
    obtain ⟨hx, hxs⟩ := forall_mem_cons.mp hR
    rw [map_cons, map_cons, hx _ hxy, ih hxs]

end

namespace Text

variable {c : Char} {s t piece term : Text} {texts : List Text}

/-! ## Between two slashes -/

def IsGap (t : Text) : Prop :=
  t = [] ∨ t = [' ']

/-- What the pass writes for a segment: its word form, with at most one space at either end. -/
def IsPadded (s piece : Text) : Prop :=
  ∃ front back, IsGap front ∧ IsGap back ∧ piece = front ++ wordForm s ++ back

/-- A slash is kept. Of what stood before it only a space is left to write, for separators, and behind it the
pass knows nothing but the slash. -/
theorem exists_wordFormAfter_slash (previous : Option Char) (pending started : Bool) (s : Text) :
    ∃ back, IsGap back ∧ ∀ t, wordFormAfter previous pending started (s ++ '/' :: t) =
      wordFormAfter previous pending started s ++ back ++ '/' :: wordFormAfter (some '/') false true t := by
  induction s generalizing previous pending started with
  | nil =>
    refine ⟨if pending && started then [' '] else [], ?_, ?_⟩
    · cases pending && started <;> simp [IsGap]
    · intro t
      have hupper : isUppercase '/' = false := by decide
      rw [nil_append, wordFormAfter_of_not_isSeparator (by decide), hupper, Bool.false_and, Bool.or_false,
        append_assoc]
      rfl
  | cons c s ih =>
    cases hc : isSeparator c with
    | true =>
      simp only [cons_append, wordFormAfter_of_isSeparator hc]
      exact ih (some c) true started
    | false =>
      obtain ⟨back, hback, hslash⟩ := ih (some c) false true
      refine ⟨back, hback, ?_⟩
      intro t
      rw [cons_append, wordFormAfter_of_not_isSeparator hc, wordFormAfter_of_not_isSeparator hc, hslash]
      simp only [append_assoc]

theorem exists_wordFormAfter_fresh {previous : Option Char} (hprevious : previous.any isLowercase = false)
    (started : Bool) (s : Text) :
    ∃ front, IsGap front ∧ wordFormAfter previous false started s = front ++ wordForm s := by
  cases s with
  | nil => exact ⟨[], Or.inl rfl, rfl⟩
  | cons c s =>
    cases hc : isSeparator c with
    | true =>
      obtain ⟨hfresh, hstarted⟩ := wordFormAfter_pending (some c) s
      rw [wordFormAfter_of_isSeparator hc, wordForm_of_isSeparator hc]
      cases started with
      | false => exact ⟨[], Or.inl rfl, hfresh⟩
      | true =>
        rcases hstarted with ⟨hempty, hform⟩ | hspace
        · exact ⟨[], Or.inl rfl, by rw [hempty, hform]; rfl⟩
        · exact ⟨[' '], Or.inr rfl, hspace⟩
    | false =>
      refine ⟨[], Or.inl rfl, ?_⟩
      rw [wordFormAfter_of_not_isSeparator hc, wordForm_of_not_isSeparator hc, hprevious]
      simp

/-- The pass over joined segments writes a piece for each of them. The induction is over all that the pass can
know at the start of a segment: nothing, or that a slash was kept before. -/
theorem exists_pieces {previous : Option Char} (hprevious : previous.any isLowercase = false)
    (started : Bool) (segments : List Text) :
    ∃ pieces, Forall₂ IsPadded segments pieces ∧
      wordFormAfter previous false started (join ['/'] segments) = join ['/'] pieces := by
  induction segments generalizing previous started with
  | nil => exact ⟨[], .nil, rfl⟩
  | cons s segments ih =>
    obtain ⟨front, hfront, hform⟩ := exists_wordFormAfter_fresh hprevious started s
    cases segments with
    | nil =>
      refine ⟨[front ++ wordForm s ++ []], .cons ⟨front, [], hfront, Or.inl rfl, rfl⟩ .nil, ?_⟩
      rw [join_singleton, join_singleton, hform, append_nil]
    | cons u segments =>
      obtain ⟨back, hback, hslash⟩ := exists_wordFormAfter_slash previous false started s
      have hmark : (some '/').any isLowercase = false := by decide
      obtain ⟨pieces, hpieces, hjoin⟩ := ih hmark true
      cases hpieces with
      | @cons _ piece _ pieces hpiece hpieces =>
        refine ⟨(front ++ wordForm s ++ back) :: piece :: pieces,
          .cons ⟨front, back, hfront, hback, rfl⟩ (.cons hpiece hpieces), ?_⟩
        rw [join_cons_cons, append_assoc, singleton_append, hslash, hform, hjoin, join_cons_cons,
          append_assoc _ ['/'], singleton_append]

/-! ## What the pieces hold -/

theorem IsGap.eq_space (h : IsGap t) (hc : c ∈ t) : c = ' ' := by
  rcases h with rfl | rfl
  · cases hc
  · exact mem_singleton.mp hc

theorem solidForm_append (s t : Text) : solidForm (s ++ t) = solidForm s ++ solidForm t := by
  simp [solidForm]

/-- Without slashes, the solid form of a word form only drops its spaces. -/
theorem solidForm_wordForm (hslash : '/' ∉ s) (hback : '\\' ∉ s) :
    solidForm (wordForm s) = (wordForm s).filter (· != ' ') := by
  apply filter_congr
  intro c hc
  by_cases hspace : c = ' '
  · subst hspace
    decide
  · have hmark {d : Char} (hd : IsMark d) (hs : d ∉ s) : (c == d) = false := by
      rw [beq_eq_false_iff_ne]
      rintro rfl
      exact hs (mem_of_mem_wordForm hd hspace hc)
    rw [isBlank_of_mem_wordForm hc hspace, hmark (by decide) hslash, hmark (by decide) hback,
      bne_iff_ne.mpr hspace]
    rfl

theorem infix_of_gap_append (ht : IsGap t) (hhead : term.head? ≠ some ' ') (h : term <:+: t ++ s) :
    term <:+: s := by
  cases term with
  | nil => exact nil_infix
  | cons c term =>
    have hc : c ∉ t := by
      intro hmem
      rw [ht.eq_space hmem] at hhead
      exact hhead rfl
    rcases infix_append_iff_ne_nil.mp h with hin | hin | ⟨u, v, hu, -, hcut, hsuffix, -⟩
    · exact absurd (hin.subset mem_cons_self) hc
    · exact hin
    · obtain ⟨d, u, rfl⟩ := exists_cons_of_ne_nil hu
      obtain ⟨rfl, -⟩ := cons.inj hcut
      exact absurd (hsuffix.subset mem_cons_self) hc

namespace IsPadded

variable (h : IsPadded s piece)

include h

theorem trim_eq : trim piece = wordForm s := by
  obtain ⟨front, back, hfront, hback, rfl⟩ := h
  have hblank {gap : Text} (hgap : IsGap gap) : ∀ c ∈ gap, isBlank c = true := by
    intro c hc
    rw [hgap.eq_space hc]
    decide
  rw [trim_between (hblank hfront) (hblank hback), trim_wordForm]

theorem mem_iff (hne : c ≠ ' ') : c ∈ piece ↔ c ∈ wordForm s := by
  obtain ⟨front, back, hfront, hback, rfl⟩ := h
  have hfront_not : c ∉ front := fun hc => hne (hfront.eq_space hc)
  have hback_not : c ∉ back := fun hc => hne (hback.eq_space hc)
  simp [hfront_not, hback_not]

theorem solidForm_eq : solidForm piece = solidForm (wordForm s) := by
  obtain ⟨front, back, hfront, hback, rfl⟩ := h
  have hgap {gap : Text} (hgap : IsGap gap) : solidForm gap = [] := by
    rcases hgap with rfl | rfl <;> decide
  rw [solidForm_append, solidForm_append, hgap hfront, hgap hback, nil_append, append_nil]

theorem infix_wordForm (hhead : term.head? ≠ some ' ') (hlast : term.getLast? ≠ some ' ')
    (hin : term <:+: piece) : term <:+: wordForm s := by
  obtain ⟨front, back, hfront, hback, rfl⟩ := h
  have hlater : term <:+: wordForm s ++ back := by
    rw [append_assoc] at hin
    exact infix_of_gap_append hfront hhead hin
  have hreverse : term.reverse <:+: back.reverse ++ (wordForm s).reverse := by
    rw [← reverse_append]
    exact reverse_infix.mpr hlater
  have hback : IsGap back.reverse := by
    rcases hback with rfl | rfl
    · exact Or.inl rfl
    · exact Or.inr rfl
  exact reverse_infix.mp (infix_of_gap_append hback (by rwa [head?_reverse]) hreverse)

end IsPadded

/-! ## Joined pieces -/

theorem solidForm_join (texts : List Text) : solidForm (join ['/'] texts) = texts.flatMap solidForm := by
  induction texts with
  | nil => rfl
  | cons s texts ih =>
    cases texts with
    | nil => simp
    | cons u texts =>
      have hslash : solidForm ['/'] = [] := by decide
      rw [join_cons_cons, solidForm_append, solidForm_append, ih, hslash, append_nil, ← flatMap_cons]

theorem infix_append_cons (hc : c ∉ term) (h : term <:+: s ++ c :: t) : term <:+: s ∨ term <:+: t := by
  rcases infix_append_iff_ne_nil.mp h with hs | ht | ⟨u, v, -, hv, rfl, -, hprefix⟩
  · exact Or.inl hs
  · rcases infix_cons_iff.mp ht with hprefix | ht
    · cases term with
      | nil => exact Or.inl nil_infix
      | cons d term =>
        obtain ⟨rfl, -⟩ := cons_prefix_cons.mp hprefix
        exact absurd mem_cons_self hc
    · exact Or.inr ht
  · obtain ⟨d, v, rfl⟩ := exists_cons_of_ne_nil hv
    obtain ⟨rfl, -⟩ := cons_prefix_cons.mp hprefix
    exact absurd (mem_append_right u mem_cons_self) hc

theorem exists_mem_of_infix_join (hc : c ∉ term) (hne : term ≠ []) (h : term <:+: join [c] texts) :
    ∃ t ∈ texts, term <:+: t := by
  induction texts with
  | nil => exact absurd (infix_nil.mp h) hne
  | cons s texts ih =>
    cases texts with
    | nil =>
      rw [join_singleton] at h
      exact ⟨s, mem_cons_self, h⟩
    | cons u texts =>
      rw [join_cons_cons, append_assoc, singleton_append] at h
      rcases infix_append_cons hc h with hs | hrest
      · exact ⟨s, mem_cons_self, hs⟩
      · obtain ⟨t, ht, hin⟩ := ih hrest
        exact ⟨t, mem_cons_of_mem s ht, hin⟩

end Text

/-! ## Records -/

namespace PathRecord

open Text

variable {path term : Text}

theorem exists_pieces_wordForm (path : Text) :
    ∃ pieces, Forall₂ IsPadded (Path.segments path) pieces ∧
      (ofPath path).wordForm = join ['/'] pieces :=
  exists_pieces rfl false (Path.segments path)

theorem segmentWordForms_ofPath (path : Text) :
    (ofPath path).segmentWordForms = (Path.segments path).map Text.wordForm := rfl

theorem getLast?_segmentWordForms (h : Path.segments path ≠ []) :
    (ofPath path).segmentWordForms.getLast? = some (ofPath path).nameWordForm := by
  have hname : (ofPath path).nameWordForm = Text.wordForm ((Path.segments path).getLast?.getD []) := rfl
  rw [segmentWordForms_ofPath, getLast?_map, hname, getLast?_eq_getLast_of_ne_nil h]
  rfl

theorem getLast?_dropLast_segmentWordForms (path : Text) :
    (ofPath path).segmentWordForms.dropLast.getLast?.getD [] = (ofPath path).parentWordForm := by
  have hparent : (ofPath path).parentWordForm =
      Text.wordForm ((Path.segments path).dropLast.getLast?.getD []) := rfl
  rw [segmentWordForms_ofPath, ← map_dropLast, getLast?_map, hparent]
  cases (Path.segments path).dropLast.getLast? <;> rfl

theorem map_trim_splitOn_wordForm (h : Path.segments path ≠ []) :
    (Text.splitOn '/' (ofPath path).wordForm).map trim = (ofPath path).segmentWordForms := by
  obtain ⟨pieces, hpieces, hform⟩ := exists_pieces_wordForm path
  have hne : pieces ≠ [] := by
    rintro rfl
    exact h (forall₂_nil_right_iff.mp hpieces)
  have hslash : ∀ piece ∈ pieces, '/' ∉ piece := by
    intro piece hpiece hmem
    obtain ⟨s, hs, hpadded⟩ := exists_of_mem_forall₂ hpieces hpiece
    have hmem : '/' ∈ Text.wordForm s := (hpadded.mem_iff (by decide)).mp hmem
    exact Path.slash_not_mem_segment hs (mem_of_mem_wordForm (by decide) (by decide) hmem)
  rw [hform, splitOn_join hne hslash]
  exact map_eq_map_of_forall₂ hpieces fun _ _ _ hpadded => hpadded.trim_eq

theorem solid_ofPath (path : Text) :
    (ofPath path).solid = (ofPath path).segmentWordForms.flatMap fun s => s.filter (· != ' ') := by
  obtain ⟨pieces, hpieces, hform⟩ := exists_pieces_wordForm path
  have hsolid : (ofPath path).solid = solidForm (ofPath path).wordForm := rfl
  have hpiece : ∀ s ∈ Path.segments path, ∀ piece, IsPadded s piece →
      solidForm piece = (Text.wordForm s).filter (· != ' ') := by
    intro s hs piece hpadded
    rw [hpadded.solidForm_eq]
    exact solidForm_wordForm (Path.slash_not_mem_segment hs) (Path.backslash_not_mem_segment hs)
  rw [hsolid, hform, solidForm_join, flatMap_def, map_eq_map_of_forall₂ hpieces hpiece,
    segmentWordForms_ofPath, flatMap_map, flatMap_def]

theorem infix_wordForm_iff (hne : term ≠ []) (hhead : term.head? ≠ some ' ')
    (hlast : term.getLast? ≠ some ' ') (hslash : '/' ∉ term) :
    term <:+: (ofPath path).wordForm ↔ ∃ s ∈ (ofPath path).segmentWordForms, term <:+: s := by
  obtain ⟨pieces, hpieces, hform⟩ := exists_pieces_wordForm path
  constructor
  · intro hin
    rw [hform] at hin
    obtain ⟨piece, hpiece, hin⟩ := exists_mem_of_infix_join hslash hne hin
    obtain ⟨s, hs, hpadded⟩ := exists_of_mem_forall₂ hpieces hpiece
    exact ⟨Text.wordForm s, mem_map_of_mem hs, hpadded.infix_wordForm hhead hlast hin⟩
  · rintro ⟨form, hmem, hin⟩
    rw [segmentWordForms_ofPath, mem_map] at hmem
    obtain ⟨s, hs, rfl⟩ := hmem
    exact hin.trans (infix_wordForm_join ['/'] hs)

/-- The word form of a path is cut at its slashes into the word forms of its segments, but for single spaces
beside the slashes, and it has no other blanks than spaces. What neither begins nor ends with a space and holds
no slash therefore occurs in the one just if it occurs in one of the others. -/
theorem wordForm_cuts_into_segments (path : Text) (h : Path.segments path ≠ []) :
    let r := ofPath path
    (∀ c ∈ r.wordForm, isBlank c = true → c = ' ') ∧
    (Text.splitOn '/' r.wordForm).map trim = r.segmentWordForms ∧
    r.segmentWordForms.getLast? = some r.nameWordForm ∧
    r.segmentWordForms.dropLast.getLast?.getD [] = r.parentWordForm ∧
    r.solid = r.segmentWordForms.flatMap (fun s => s.filter (· != ' ')) ∧
    ∀ term, term ≠ [] → term.head? ≠ some ' ' → term.getLast? ≠ some ' ' → '/' ∉ term →
      (occursIn term r.wordForm = true ↔ ∃ s ∈ r.segmentWordForms, occursIn term s = true) := by
  intro r
  refine ⟨?blanks, map_trim_splitOn_wordForm h, getLast?_segmentWordForms h,
    getLast?_dropLast_segmentWordForms path, solid_ofPath path, ?occurrence⟩
  case blanks =>
    intro c hc hblank
    by_contra hne
    rw [isBlank_of_mem_wordForm hc hne] at hblank
    cases hblank
  case occurrence =>
    intro term hne hhead hlast hslash
    simp only [occursIn_iff_isInfix]
    exact infix_wordForm_iff hne hhead hlast hslash

/-- Segments with separators at their ends, one of separators alone, and a capital behind a slash. -/
theorem wordForm_cuts_into_segments_spaced :
    let path := "src\\-fooBar_/--/HTTPServer.ts".toList
    let forms := ["src".toList, "foo bar".toList, [], "httpserver.ts".toList]
    (ofPath path).wordForm = "src/ foo bar / /httpserver.ts".toList ∧
    (Text.splitOn '/' (ofPath path).wordForm).map trim = forms ∧
    (ofPath path).solid = forms.flatMap (fun s => s.filter (· != ' ')) ∧
    (occursIn "o b".toList (ofPath path).wordForm = true ↔ ∃ s ∈ forms, occursIn "o b".toList s = true) := by
  intro path forms
  have hforms : (ofPath path).segmentWordForms = forms := by decide +kernel
  obtain ⟨-, hcut, -, -, hsolid, hterm⟩ := wordForm_cuts_into_segments path (by decide)
  rw [hforms] at hcut hsolid
  have hterm := hterm "o b".toList (by decide) (by decide) (by decide) (by decide)
  rw [hforms] at hterm
  exact ⟨by decide +kernel, hcut, hsolid, hterm⟩

end PathRecord

end RepoAtlas
