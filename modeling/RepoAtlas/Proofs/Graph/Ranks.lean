import RepoAtlas.Graph.Rank
import RepoAtlas.Proofs.Graph.Impact
import RepoAtlas.Proofs.Graph.Frame
import RepoAtlas.Proofs.Lists
import Mathlib.Algebra.Order.Floor.Semifield
import Mathlib.Algebra.Order.Round
import Mathlib.Data.Rat.Floor

/-! # Import ranks -/

namespace RepoAtlas.Graph

open RepoAtlas.Path List

section

variable {count m n top : Nat}

theorem hundredths_bounds (htop : 0 < top) (count : Nat) :
    2 * top * hundredths count top ≤ 200 * count + top ∧
      200 * count + top < 2 * top * (hundredths count top + 1) := by
  constructor
  · exact Nat.mul_div_le _ _
  · exact Nat.lt_mul_div_succ _ (by omega)

/-- The nearest whole number of hundredths, and the larger one of two that are equally near. -/
theorem hundredths_eq_round (htop : 0 < top) (count : Nat) :
    (hundredths count top : ℤ) = round (100 * count / top : ℚ) := by
  obtain ⟨hle, hlt⟩ := hundredths_bounds htop count
  have htop : (0 : ℚ) < top := by exact_mod_cast htop
  have hle : (2 * top * hundredths count top : ℚ) ≤ 200 * count + top := by exact_mod_cast hle
  have hlt : (200 * count + top : ℚ) < 2 * top * (hundredths count top + 1) := by exact_mod_cast hlt
  have hhalf : (100 * count / top + 1 / 2 : ℚ) = (200 * count + top) / (2 * top) := by
    field_simp
    ring
  rw [round_eq, eq_comm, Int.floor_eq_iff, hhalf, le_div_iff₀ (by positivity), div_lt_iff₀ (by positivity)]
  push_cast
  constructor
  · linarith
  · linarith

theorem hundredths_mono (h : m ≤ n) (top : Nat) : hundredths m top ≤ hundredths n top :=
  Nat.div_le_div_right (by omega)

theorem hundredths_self (htop : 0 < top) : hundredths top top = 100 := by
  have hsum : 200 * top + top = 2 * top * 100 + top := by ring
  rw [hundredths, hsum, Nat.mul_add_div (by omega), Nat.div_eq_of_lt (by omega)]

end

variable {g : Graph} {path : Text} {rank : Nat}

theorem length_importersOf_le_topCount (g : Graph) (target : Text) :
    (g.importersOf target).length ≤ g.topCount := by
  by_cases hnil : g.importersOf target = []
  · rw [hnil]
    exact Nat.zero_le _
  · obtain ⟨importer, himporter⟩ := exists_mem_of_ne_nil _ hnil
    have hreverse : (target, g.importersOf target) ∈ g.reverse :=
      mem_reverse.mpr ⟨⟨importer, mem_importersOf.mp himporter⟩, rfl⟩
    exact le_foldl_max (mem_map_of_mem (f := fun entry => entry.2.length) hreverse) 0

/-- Every imported file has importers, so no entry is left out, and without entries there is none to be
ranked. -/
theorem ranks_eq_map (g : Graph) :
    g.ranks = g.reverse.map fun (path, importers) => (path, hundredths importers.length g.topCount) := by
  have hsome : ∀ entry ∈ g.reverse, (!entry.2.isEmpty) = true := by
    rintro ⟨path, importers⟩ hentry
    obtain ⟨⟨importer, hl⟩, rfl⟩ := mem_reverse.mp hentry
    simpa using ne_nil_of_mem (mem_importersOf.mpr hl)
  by_cases htop : g.topCount = 0
  · have hnone : g.reverse = [] := by
      apply eq_nil_iff_forall_not_mem.mpr
      rintro ⟨path, importers⟩ hentry
      obtain ⟨-, rfl⟩ := mem_reverse.mp hentry
      have hle := length_importersOf_le_topCount g path
      have hempty := length_eq_zero_iff.mp (Nat.le_zero.mp (htop ▸ hle))
      simpa [hempty] using hsome _ hentry
    simp [ranks, htop, hnone]
  · simp only [ranks, if_neg htop]
    rw [filter_eq_self.mpr hsome]

theorem mem_ranks :
    (path, rank) ∈ g.ranks ↔
      path ∈ g.targets ∧ rank = hundredths (g.importersOf path).length g.topCount := by
  simp [ranks_eq_map, reverse, eq_comm]

theorem map_fst_ranks (g : Graph) : g.ranks.map Prod.fst = g.targets := by
  simp [ranks_eq_map, reverse, Function.comp_def]

theorem Constructed.mem_targets_iff (h : g.Constructed) :
    path ∈ g.targets ↔ path ∈ g.paths ∧ g.dependentsOf path ≠ [] := by
  obtain ⟨d, hd⟩ := h.exists_shows
  have hpaths : path ∈ g.paths ↔ path ∈ d.keys := by
    rw [paths, Std.ExtTreeMap.mem_keys, hd.mem_nodes]
  rw [mem_targets, hpaths]
  constructor
  · rintro ⟨importer, hl⟩
    have hpath := (hd.ends _ ((hd.mem_links _).mp hl)).1
    refine ⟨hpath, ne_nil_of_mem (a := importer) ?_⟩
    rwa [mem_dependentsOf, hd.key_eq path hpath]
  · rintro ⟨hpath, hne⟩
    obtain ⟨importer, himporter⟩ := exists_mem_of_ne_nil _ hne
    rw [mem_dependentsOf, hd.key_eq path hpath] at himporter
    exact ⟨importer, himporter⟩

theorem Constructed.importersOf_of_mem_targets (h : g.Constructed) (hpath : path ∈ g.targets) :
    g.importersOf path = g.dependentsOf path := by
  obtain ⟨importer, hl⟩ := mem_targets.mp hpath
  rw [dependentsOf, (h.key_of_link hl).1]

theorem Constructed.rank_eq (h : g.Constructed) (hrank : (path, rank) ∈ g.ranks) :
    rank = hundredths (g.dependentsOf path).length g.topCount := by
  obtain ⟨hpath, hrank⟩ := mem_ranks.mp hrank
  rwa [h.importersOf_of_mem_targets hpath] at hrank

theorem length_dependentsOf_le_topCount (g : Graph) (path : Text) :
    (g.dependentsOf path).length ≤ g.topCount :=
  length_importersOf_le_topCount g (key path)

theorem Constructed.isGreatest_topCount (h : g.Constructed) :
    IsGreatest (Set.range fun path => (g.dependentsOf path).length) g.topCount := by
  constructor
  · rcases foldl_max_eq_or_mem (g.reverse.map fun entry => entry.2.length) 0 with hzero | hmem
    · have hle := length_dependentsOf_le_topCount g []
      have hzero : g.topCount = 0 := hzero
      exact ⟨[], by dsimp only; omega⟩
    · obtain ⟨⟨path, importers⟩, hreverse, hlength⟩ := mem_map.mp hmem
      obtain ⟨hlink, rfl⟩ := mem_reverse.mp hreverse
      have himporters := h.importersOf_of_mem_targets (mem_targets.mpr hlink)
      exact ⟨path, (congrArg length himporters.symm).trans hlength⟩
  · rintro _ ⟨path, rfl⟩
    exact length_dependentsOf_le_topCount g path

/-- The ranks are the numbers of importers in hundredths of `top`, the largest of these numbers. -/
structure RanksInHundredths (g : Graph) (top : Nat) : Prop where
  isGreatest : IsGreatest (Set.range fun path => (g.dependentsOf path).length) top
  /-- Just the files that have importers have a rank, and each of them has one. -/
  ranked : g.ranks.map Prod.fst = g.paths.filter fun path => !(g.dependentsOf path).isEmpty
  /-- A half is rounded up. -/
  rounded : ∀ path rank, (path, rank) ∈ g.ranks →
    2 * top * rank ≤ 200 * (g.dependentsOf path).length + top ∧
      200 * (g.dependentsOf path).length + top < 2 * top * (rank + 1)
  nearest : ∀ path rank, (path, rank) ∈ g.ranks →
    (rank : ℤ) = round (100 * (g.dependentsOf path).length / top : ℚ)
  le_hundred : ∀ path rank, (path, rank) ∈ g.ranks → rank ≤ 100
  eq_hundred : ∀ path rank, (path, rank) ∈ g.ranks → (g.dependentsOf path).length = top → rank = 100
  mono : ∀ path rank other otherRank, (path, rank) ∈ g.ranks → (other, otherRank) ∈ g.ranks →
    (g.dependentsOf path).length ≤ (g.dependentsOf other).length → rank ≤ otherRank

theorem Constructed.ranked_paths (h : g.Constructed) :
    g.ranks.map Prod.fst = g.paths.filter fun path => !(g.dependentsOf path).isEmpty := by
  have htargets : Text.Ascending g.targets := Text.ascending_ascending _
  have hpaths : Text.Ascending (g.paths.filter fun path => !(g.dependentsOf path).isEmpty) :=
    (ascending_paths g).filter _
  rw [map_fst_ranks]
  apply htargets.eq_of_mem_iff hpaths
  intro path
  rw [h.mem_targets_iff, mem_filter]
  simp

/-- The import ranks of a graph that comes about are rounded correctly, and they keep the order of the
numbers of importers. -/
theorem ranks_inHundredths (h : g.Constructed) : g.RanksInHundredths g.topCount := by
  have htop {path : Text} {rank : Nat} (hrank : (path, rank) ∈ g.ranks) : 0 < g.topCount := by
    have hne := (h.mem_targets_iff.mp (mem_ranks.mp hrank).1).2
    exact Nat.lt_of_lt_of_le (length_pos_of_ne_nil hne) (length_dependentsOf_le_topCount g path)
  refine ⟨h.isGreatest_topCount, h.ranked_paths, ?rounded, ?nearest, ?le_hundred, ?eq_hundred, ?mono⟩
  case rounded =>
    intro path rank hrank
    rw [h.rank_eq hrank]
    exact hundredths_bounds (htop hrank) _
  case nearest =>
    intro path rank hrank
    rw [h.rank_eq hrank]
    exact hundredths_eq_round (htop hrank) _
  case le_hundred =>
    intro path rank hrank
    rw [h.rank_eq hrank, ← hundredths_self (htop hrank)]
    exact hundredths_mono (length_dependentsOf_le_topCount g path) _
  case eq_hundred =>
    intro path rank hrank hmost
    rw [h.rank_eq hrank, hmost]
    exact hundredths_self (htop hrank)
  case mono =>
    intro path rank other otherRank hrank hother hle
    rw [h.rank_eq hrank, h.rank_eq hother]
    exact hundredths_mono hle _

/-- One, two and three files of the same three import others. -/
theorem ranks_inHundredths_thirds :
    ∃ g : Graph, g.Constructed ∧ g.RanksInHundredths 3 ∧
      g.ranks = [(['a'], 100), (['b'], 67), (['c'], 33)] := by
  let steps : List Step :=
    [.edge ['x'] ['a'], .edge ['y'] ['a'], .edge ['z'] ['a'], .edge ['x'] ['b'], .edge ['z'] ['b'],
      .edge ['y'] ['c']]
  have hg : (ofSteps steps).Constructed := constructed_ofSteps steps
  have htop : (ofSteps steps).topCount = 3 := by decide
  exact ⟨ofSteps steps, hg, htop ▸ ranks_inHundredths hg, by decide⟩

end RepoAtlas.Graph
