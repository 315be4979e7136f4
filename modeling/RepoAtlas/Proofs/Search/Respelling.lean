import RepoAtlas.Search.Score
import RepoAtlas.Proofs.Text.Words

/-! # Either slash -/

namespace RepoAtlas

open Text Unicode List

namespace Path

variable {c : Char} {gap s t path : Text} {ss : List Text}

def isSlash (c : Char) : Bool :=
  c == '/' || c == '\\'

/-- The path has the segments in their order. One or more slashes of either kind stand between neighbours,
and any number of them at the two ends. -/
inductive Writes : List Text → Text → Prop
  | nil {gap : Text} (hgap : ∀ c ∈ gap, isSlash c = true) : Writes [] gap
  | cons {gap s t : Text} {ss : List Text} (hgap : ∀ c ∈ gap, isSlash c = true) (hne : s ≠ [])
      (hs : ∀ c ∈ s, isSlash c = false) (hopen : ∀ c ∈ t.head?, isSlash c = true) (h : Writes ss t) :
      Writes (s :: ss) (gap ++ (s ++ t))

theorem segments_cons (hc : isSlash c = true) (t : Text) : segments (c :: t) = segments t :=
  pieces_append hc [] t

theorem segments_slashes_append (hgap : ∀ c ∈ gap, isSlash c = true) (t : Text) :
    segments (gap ++ t) = segments t := by
  induction gap with
  | nil => rfl
  | cons c gap ih =>
    obtain ⟨hc, hgap⟩ := forall_mem_cons.mp hgap
    rw [cons_append, segments_cons hc, ih hgap]

theorem segments_append (hne : s ≠ []) (hs : ∀ c ∈ s, isSlash c = false)
    (hopen : ∀ c ∈ t.head?, isSlash c = true) : segments (s ++ t) = s :: segments t := by
  have hone : segments s = [s] := pieces_of_forall hs hne
  cases t with
  | nil => rw [append_nil, hone, show segments [] = [] from rfl]
  | cons c t =>
    have hc : isSlash c = true := hopen c rfl
    have hcut : segments (s ++ c :: t) = segments s ++ segments t := pieces_append hc s t
    rw [hcut, hone, segments_cons hc, singleton_append]

theorem Writes.segments_eq (h : Writes ss path) : segments path = ss := by
  induction h with
  | @nil gap hgap =>
    have hall := segments_slashes_append hgap []
    rwa [append_nil] at hall
  | cons hgap hne hs hopen h ih =>
    rw [segments_slashes_append hgap, segments_append hne hs hopen, ih]

theorem Writes.slash_cons (hc : isSlash c = true) (h : Writes ss t) : Writes ss (c :: t) := by
  cases h with
  | nil hgap => exact .nil (forall_mem_cons.mpr ⟨hc, hgap⟩)
  | @cons gap _ _ _ hgap hne hs hopen h =>
    have hlonger : ∀ d ∈ c :: gap, isSlash d = true := forall_mem_cons.mpr ⟨hc, hgap⟩
    exact .cons hlonger hne hs hopen h

theorem Writes.letter_cons (hc : isSlash c = false) (h : Writes ss t) : ∃ ss', Writes ss' (c :: t) := by
  have hletter : ∀ d ∈ [c], isSlash d = false := forall_mem_singleton.mpr hc
  have hfree : ∀ d ∈ ([] : Text), isSlash d = true := forall_mem_nil _
  cases h with
  | nil hgap =>
    have hopen : ∀ d ∈ t.head?, isSlash d = true := fun d hd => hgap d (mem_of_head? hd)
    exact ⟨[[c]], .cons hfree (cons_ne_nil c []) hletter hopen (.nil hgap)⟩
  | @cons gap s rest ss hgap hne hs hopen h =>
    cases gap with
    | nil =>
      have hlonger : ∀ d ∈ c :: s, isSlash d = false := forall_mem_cons.mpr ⟨hc, hs⟩
      exact ⟨(c :: s) :: ss, .cons hfree (cons_ne_nil c s) hlonger hopen h⟩
    | cons d gap =>
      have hslash : ∀ e ∈ (d :: gap ++ (s ++ rest)).head?, isSlash e = true := by
        simpa using hgap d mem_cons_self
      exact ⟨[c] :: s :: ss, .cons hfree (cons_ne_nil c []) hletter hslash (.cons hgap hne hs hopen h)⟩

theorem exists_writes (path : Text) : ∃ ss, Writes ss path := by
  induction path with
  | nil => exact ⟨[], .nil (forall_mem_nil _)⟩
  | cons c path ih =>
    obtain ⟨ss, h⟩ := ih
    cases hc : isSlash c with
    | true => exact ⟨ss, h.slash_cons hc⟩
    | false => exact h.letter_cons hc

/-- The paths with the same segments are those that write them, with slashes of whatever kind and number. -/
theorem segments_eq_iff_writes : segments path = ss ↔ Writes ss path := by
  constructor
  · rintro rfl
    obtain ⟨ss, h⟩ := exists_writes path
    rwa [h.segments_eq]
  · exact Writes.segments_eq

theorem segments_key (path : Text) : segments (key path) = segments path := by
  have hsplit : Text.splitBy isSlash (key path) = Text.splitBy isSlash path := by
    induction path with
    | nil => rfl
    | cons c path ih =>
      by_cases hc : c = '\\'
      · subst hc
        exact congrArg ([] :: ·) ih
      · have hkey : key (c :: path) = c :: key path := by simp [key, hc]
        rw [hkey, Text.splitBy, Text.splitBy, ih]
  exact congrArg (filter fun p => !p.isEmpty) hsplit

end Path

/-- Of two paths with the same segments only the forms of the path as a whole differ. -/
theorem PathRecord.ofPath_of_segments_eq {path other : Text}
    (h : Path.segments path = Path.segments other) :
    ofPath other = { ofPath path with path := other, lower := Text.lower other } := by
  simp only [ofPath, h]

namespace Text

theorem isBlank_slash (c : Char) : isBlank (if c = '\\' then '/' else c) = isBlank c := by
  by_cases hc : c = '\\'
  · subst hc
    decide
  · rw [if_neg hc]

theorem trim_key (t : Text) : trim (Path.key t) = Path.key (trim t) := by
  have hstart (u : Text) : (Path.key u).dropWhile isBlank = Path.key (u.dropWhile isBlank) := by
    rw [Path.key, dropWhile_map]
    simp only [Function.comp_def, isBlank_slash]
    rfl
  have hreverse (u : Text) : (Path.key u).reverse = Path.key u.reverse := map_reverse.symm
  rw [trim, trimStart, hstart, trimEnd, hreverse, hstart, hreverse]
  rfl

end Text

namespace Search

open RepoAtlas.Path

theorem Query.ofText_key (text : Text) : ofText (key text) = ofText text := by
  simp only [ofText, trim_key, key_key]

theorem score_of_segments_eq {path other : Text} (h : segments path = segments other) (q : Query) :
    score (.ofPath path) q = score (.ofPath other) q := by
  rw [PathRecord.ofPath_of_segments_eq h]
  rfl

/-- Paths with the same segments have the same forms but for those of the whole path, and queries do not
show their backslashes. So a path scores for a query as any other spelling of the path does for any other
spelling of the query, where spellings of a path are all ways to write its segments. -/
theorem slashes_alike :
    (∀ path other, segments path = segments other →
      PathRecord.ofPath other =
        { PathRecord.ofPath path with path := other, lower := Text.lower other }) ∧
    (∀ text, Query.ofText (key text) = Query.ofText text) ∧
    (∀ path other text otherText, segments path = segments other → key text = key otherText →
      score (.ofPath path) (.ofText text) = score (.ofPath other) (.ofText otherText)) ∧
    (∀ path ss, segments path = ss ↔ Writes ss path) ∧
    ∀ path, segments (key path) = segments path := by
  refine ⟨fun _ _ => PathRecord.ofPath_of_segments_eq, Query.ofText_key, ?_,
    fun _ _ => segments_eq_iff_writes, segments_key⟩
  intro path other text otherText hpath htext
  rw [score_of_segments_eq hpath, ← Query.ofText_key text, htext, Query.ofText_key]

/-- Both slashes, some of them repeated and some at the ends. -/
theorem slashes_alike_mixed :
    segments "\\src//net\\DownloadManager.cc/".toList = segments "src/net/DownloadManager.cc".toList ∧
    key "net\\download".toList = key "net/download".toList ∧
    score (.ofPath "\\src//net\\DownloadManager.cc/".toList) (.ofText "net\\download".toList) =
      score (.ofPath "src/net/DownloadManager.cc".toList) (.ofText "net/download".toList) := by
  have hpath : segments "\\src//net\\DownloadManager.cc/".toList =
      segments "src/net/DownloadManager.cc".toList := by decide
  have htext : key "net\\download".toList = key "net/download".toList := by decide
  exact ⟨hpath, htext, slashes_alike.2.2.1 _ _ _ _ hpath htext⟩

end Search

end RepoAtlas
