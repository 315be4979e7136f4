import RepoAtlas.Proofs.Search.Ranking
import RepoAtlas.Search.Catalog

/-! # What a search lists -/

namespace RepoAtlas

open List

namespace Text

theorem compare_cons_cons (c d : Char) (s t : Text) :
    compare (c :: s) (d :: t) = (compare c d).then (compare s t) :=
  List.compareLex_cons_cons

theorem compare_char_eq_lt {c d : Char} : compare c d = .lt ↔ c < d :=
  compareOfLessAndEq_eq_lt

theorem compare_eq_lt_iff_lex {s t : Text} : compare s t = .lt ↔ Lex (· < ·) s t := by
  induction s generalizing t with
  | nil =>
    cases t with
    | nil => simp
    | cons d t => exact ⟨fun _ => .nil, fun _ => rfl⟩
  | cons c s ih =>
    cases t with
    | nil =>
      constructor
      · intro h
        cases h
      · intro h
        cases h
    | cons d t =>
      rw [compare_cons_cons, Ordering.then_eq_lt, compare_char_eq_lt, Std.LawfulEqOrd.compare_eq_iff_eq,
        ih, cons_lex_cons_iff]

end Text

namespace Search

open Text

variable {a b : Hit} {text : Text} {paths : List Text} {ranked : List Hit}

namespace Hit

/-- The better score comes first, among equal scores the path of fewer bytes, and among paths of the same
length the one that stands first in a dictionary. -/
def Precedes (a b : Hit) : Prop :=
  b.score < a.score ∨ a.score = b.score ∧
    (byteLength a.path < byteLength b.path ∨
      byteLength a.path = byteLength b.path ∧ Lex (· < ·) a.path b.path)

theorem order_eq_lt_iff : order a b = .lt ↔ a.Precedes b := by
  simp only [order, Precedes, Ordering.then_eq_lt, Nat.compare_eq_lt, Nat.compare_eq_eq,
    compare_eq_lt_iff_lex, @eq_comm _ b.score]

theorem leads_of_eq_or_precedes (h : a = b ∨ a.Precedes b) : a.Leads b := by
  rcases h with rfl | hlt
  · exact leads_refl a
  · simp [Leads, order_eq_lt_iff.mpr hlt]

theorem Leads.eq_or_precedes (h : a.Leads b) (ha : a.IsGraded) (hb : b.IsGraded) :
    a = b ∨ a.Precedes b := by
  rw [← order_eq_lt_iff]
  cases horder : order a b with
  | lt => exact Or.inr rfl
  | eq =>
    have hsame := regrade_eq_of_order_eq horder
    rw [ha, hb] at hsame
    exact Or.inl hsame
  | gt => simp [Leads, horder] at h

end Hit

def finds (text path : Text) : Bool :=
  0 < score (.ofPath path) (.ofText text)

def hitOf (text path : Text) : Hit :=
  ⟨path, score (.ofPath path) (.ofText text)⟩

theorem hits_ofPaths (text : Text) (paths : List Text) :
    (Catalog.ofPaths paths).hits (.ofText text) = (paths.filter (finds text)).map (hitOf text) := by
  rw [Catalog.hits, Catalog.ofPaths, map_map, filter_map]
  rfl

theorem isGraded_of_mem_map_hitOf {h : Hit} (hmem : h ∈ paths.map (hitOf text)) : h.IsGraded := by
  obtain ⟨path, -, rfl⟩ := mem_map.mp hmem
  rfl

/-- All paths that the query finds, as often as they were entered, stand in order. -/
structure Ranked (text : Text) (paths : List Text) (ranked : List Hit) : Prop where
  perm : ranked ~ (paths.filter (finds text)).map (hitOf text)
  sorted : ranked.Pairwise fun a b => a = b ∨ a.Precedes b

theorem Ranked.search_eq_take (h : Ranked text paths ranked) (limit : Nat) :
    (Catalog.ofPaths paths).search text limit = ranked.take limit := by
  have hsorted : ranked.Pairwise Hit.Leads := h.sorted.imp Hit.leads_of_eq_or_precedes
  rw [Catalog.search_eq_best, hits_ofPaths]
  exact best_eq_take_of_sorted (fun _ => isGraded_of_mem_map_hitOf) limit h.perm hsorted

theorem exists_ranked (text : Text) (paths : List Text) : ∃ ranked, Ranked text paths ranked := by
  obtain ⟨ranked, hperm, hsorted⟩ := exists_sorted ((paths.filter (finds text)).map (hitOf text))
  have hg : ∀ h ∈ ranked, h.IsGraded := fun h hmem => isGraded_of_mem_map_hitOf (hperm.mem_iff.mp hmem)
  exact ⟨ranked, hperm, hsorted.imp_of_mem fun ha hb hab => hab.eq_or_precedes (hg _ ha) (hg _ hb)⟩

theorem Ranked.length_eq (h : Ranked text paths ranked) : ranked.length = paths.countP (finds text) := by
  rw [h.perm.length_eq, length_map, countP_eq_length_filter]

theorem Ranked.of_perm (h : Ranked text paths ranked) {others : List Text} (hothers : others ~ paths) :
    Ranked text others ranked :=
  ⟨h.perm.trans ((hothers.symm.filter _).map _), h.sorted⟩

theorem Ranked.eq {other : List Hit} (h : Ranked text paths ranked) (hother : Ranked text paths other) :
    other = ranked := by
  have hlength : other.length = ranked.length := hother.length_eq.trans h.length_eq.symm
  have hsearch := (hother.search_eq_take ranked.length).symm.trans (h.search_eq_take ranked.length)
  rwa [take_of_length_le (Nat.le_of_eq hlength), take_length] at hsearch

theorem length_search (text : Text) (paths : List Text) (limit : Nat) :
    ((Catalog.ofPaths paths).search text limit).length = min limit (paths.countP (finds text)) := by
  obtain ⟨ranked, h⟩ := exists_ranked text paths
  rw [h.search_eq_take, length_take, h.length_eq]

theorem search_perm {others : List Text} (h : others ~ paths) (text : Text) (limit : Nat) :
    (Catalog.ofPaths others).search text limit = (Catalog.ofPaths paths).search text limit := by
  obtain ⟨ranked, hranked⟩ := exists_ranked text paths
  rw [hranked.search_eq_take, (hranked.of_perm h).search_eq_take]

theorem search_isPrefix_of_le {few many : Nat} (h : few ≤ many) (text : Text) (paths : List Text) :
    (Catalog.ofPaths paths).search text few <+: (Catalog.ofPaths paths).search text many := by
  obtain ⟨ranked, hranked⟩ := exists_ranked text paths
  rw [hranked.search_eq_take, hranked.search_eq_take]
  exact take_prefix_take_left h

/-- The searches for a text list what is ranked, from the first hit on. -/
structure Lists (text : Text) (paths : List Text) (ranked : List Hit) : Prop where
  search_eq : ∀ limit, (Catalog.ofPaths paths).search text limit = ranked.take limit
  length_eq : ∀ limit, ((Catalog.ofPaths paths).search text limit).length =
    min limit (paths.countP (finds text))
  perm_eq : ∀ others, others ~ paths → ∀ limit,
    (Catalog.ofPaths others).search text limit = (Catalog.ofPaths paths).search text limit
  front : ∀ few many, few ≤ many →
    (Catalog.ofPaths paths).search text few <+: (Catalog.ofPaths paths).search text many

/-- All that a query finds has one ranking, and every search lists the beginning of it. -/
theorem search_lists_ranked (text : Text) (paths : List Text) :
    ∃! ranked, Ranked text paths ranked ∧ Lists text paths ranked := by
  obtain ⟨ranked, h⟩ := exists_ranked text paths
  have hlists : Lists text paths ranked :=
    ⟨h.search_eq_take, length_search text paths, fun _ hothers => search_perm hothers text,
      fun _ _ hle => search_isPrefix_of_le hle text paths⟩
  refine ⟨ranked, ⟨h, hlists⟩, ?_⟩
  intro other hother
  exact h.eq hother.1

end Search

end RepoAtlas
