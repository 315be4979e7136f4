import Mathlib.Algebra.GroupWithZero.Nat
import Mathlib.Algebra.Order.BigOperators.Group.List
import Mathlib.Algebra.Order.Group.Nat
import RepoAtlas.Proofs.Graph.Impact
import RepoAtlas.Proofs.Lists

/-! # Changes of several files -/

namespace RepoAtlas

open List

/-! ## The largest radius -/

namespace Radius

variable {a b : Radius} {rs : List Radius}

theorem eq_of_level_eq (h : a.level = b.level) : a = b := by
  cases a <;> cases b <;> simp_all [level]

theorem level_max (a b : Radius) : (max a b).level = Nat.max a.level b.level := by
  unfold max
  split <;> simp <;> omega

theorem level_foldl_max (rs : List Radius) (a : Radius) :
    (rs.foldl max a).level = (rs.map level).foldl Nat.max a.level := by
  induction rs generalizing a with
  | nil => rfl
  | cons b rs ih => simp [ih, level_max]

theorem level_le_foldl_max (h : b ∈ rs) (a : Radius) : b.level ≤ (rs.foldl max a).level := by
  rw [level_foldl_max]
  exact le_foldl_max (mem_map_of_mem h) a.level

theorem foldl_max_eq_or_mem (rs : List Radius) (a : Radius) : rs.foldl max a = a ∨ rs.foldl max a ∈ rs := by
  have hlevel := level_foldl_max rs a
  rcases RepoAtlas.foldl_max_eq_or_mem (rs.map level) a.level with hfirst | hmem
  · exact Or.inl (eq_of_level_eq (hlevel.trans hfirst))
  · obtain ⟨b, hb, heq⟩ := mem_map.mp hmem
    rw [eq_of_level_eq (hlevel.trans heq.symm)]
    exact Or.inr hb

end Radius

namespace Graph

open RepoAtlas.Path

variable {g : Graph} {changed other : List Text}

/-! ## Entries -/

theorem impact_key (g : Graph) (file : Text) (files : List Text) :
    g.impact (key file) files = g.impact file files := by
  simp only [impact, key_key]

theorem getElem?_foldl_insert_impact (g : Graph) (changed files : List Text)
    (table : Std.ExtTreeMap Text Impact compare) (path : Text) :
    ((changed.map fun file => g.impact file files).foldl (fun table i => table.insert i.file i) table)[path]? =
      if path ∈ changed.map key then some (g.impact path files) else table[path]? := by
  induction changed generalizing table with
  | nil => rfl
  | cons file changed ih =>
    have hfile : (g.impact file files).file = key file := rfl
    rw [map_cons, foldl_cons, ih, Std.ExtTreeMap.getElem?_insert, hfile]
    by_cases hmem : path ∈ changed.map key
    · simp [hmem]
    · by_cases hkey : key file = path
      · subst hkey
        simp [hmem, impact_key]
      · simp [hmem, hkey, Ne.symm hkey]

/-- Files of the same key have the same impact, so it does not matter which of them is entered last. -/
theorem getElem?_impactTable (g : Graph) (changed files : List Text) (path : Text) :
    (g.impactTable changed files)[path]? =
      if path ∈ changed.map key then some (g.impact path files) else none := by
  rw [impactTable, getElem?_foldl_insert_impact, Std.ExtTreeMap.getElem?_empty]

theorem keys_impactTable (g : Graph) (changed files : List Text) :
    (g.impactTable changed files).keys = Text.ascending (changed.map key) := by
  have hkeys : Text.Ascending (g.impactTable changed files).keys := Std.ExtTreeMap.ordered_keys
  apply hkeys.eq_of_mem_iff (Text.ascending_ascending _)
  intro path
  rw [Std.ExtTreeMap.mem_keys, Std.ExtTreeMap.mem_iff_isSome_getElem?, getElem?_impactTable,
    Text.mem_ascending]
  split <;> simp [*]

theorem impacts_multiImpact (g : Graph) (changed files : List Text) :
    (g.multiImpact changed files).impacts =
      (Text.ascending (changed.map key)).map fun file => g.impact file files := by
  have hentry : ∀ entry ∈ (g.impactTable changed files).toList, entry.2 = g.impact entry.1 files := by
    intro entry hmem
    have hsome := Std.ExtTreeMap.mem_toList_iff_getElem?_eq_some.mp hmem
    rw [getElem?_impactTable] at hsome
    split at hsome
    · exact (Option.some.inj hsome).symm
    · cases hsome
  calc
    (g.multiImpact changed files).impacts = (g.impactTable changed files).toList.map Prod.snd := rfl
    _ = (g.impactTable changed files).toList.map fun entry => g.impact entry.1 files :=
      map_congr_left hentry
    _ = (g.impactTable changed files).keys.map fun file => g.impact file files := by
      rw [← Std.ExtTreeMap.map_fst_toList_eq_keys, map_map]
      rfl
    _ = (Text.ascending (changed.map key)).map fun file => g.impact file files := by
      rw [keys_impactTable]

theorem key_of_mem_ascending {path : Text} (h : path ∈ Text.ascending (changed.map key)) : key path = path := by
  obtain ⟨file, -, rfl⟩ := mem_map.mp (Text.mem_ascending.mp h)
  exact key_key file

theorem map_file_multiImpact (g : Graph) (changed files : List Text) :
    (g.multiImpact changed files).impacts.map Impact.file = Text.ascending (changed.map key) := by
  rw [impacts_multiImpact, map_map]
  have hfile : ∀ path ∈ Text.ascending (changed.map key),
      (Impact.file ∘ fun file => g.impact file files) path = id path := fun _ => key_of_mem_ascending
  rw [map_congr_left hfile, map_id]

theorem mem_impacts_multiImpact {i : Impact} {files : List Text} :
    i ∈ (g.multiImpact changed files).impacts ↔ ∃ file ∈ changed, g.impact file files = i := by
  simp only [impacts_multiImpact, mem_map, Text.mem_ascending, exists_exists_and_eq_and, impact_key]

/-! ## Totals -/

theorem directTotal_eq_sum (g : Graph) (changed files : List Text) :
    (g.multiImpact changed files).directTotal =
      ((g.multiImpact changed files).impacts.map fun i => i.direct.length).sum := by
  rw [sum_eq_foldr, foldr_map]
  rfl

theorem directTotal_multiImpact (g : Graph) (changed files : List Text) :
    (g.multiImpact changed files).directTotal =
      ((Text.ascending (changed.map key)).map fun file => (g.dependentsOf file).length).sum := by
  simp only [directTotal_eq_sum, impacts_multiImpact, map_map, Function.comp_def, direct_impact]

theorem radius_multiImpact (g : Graph) (changed files : List Text) :
    (g.multiImpact changed files).radius =
      ((g.multiImpact changed files).impacts.map Impact.radius).foldl Radius.max .small := rfl

theorem sum_map_le_of_subset {xs ys : List Text} (hnodup : xs.Nodup) (hsub : xs ⊆ ys) (f : Text → Nat) :
    (xs.map f).sum ≤ (ys.map f).sum := by
  obtain ⟨zs, hperm, hzs⟩ := subperm_of_subset hnodup hsub
  calc
    (xs.map f).sum = (zs.map f).sum := (hperm.map f).sum_eq.symm
    _ ≤ (ys.map f).sum := (hzs.map f).sum_le_sum fun n _ => Nat.zero_le n

/-- What several changes touch, each file under its key and just once. -/
structure CountsOnce (g : Graph) (changed files : List Text) (m : MultiImpact) : Prop where
  ascending : Text.Ascending (m.impacts.map Impact.file)
  mem_file_iff : ∀ path, path ∈ m.impacts.map Impact.file ↔ ∃ file ∈ changed, key file = path
  /-- The entry of a file is its impact, in whatever spelling the file is named. -/
  impact_eq : ∀ i ∈ m.impacts, ∀ file, key file = i.file → i = g.impact file files
  directTotal_eq : m.directTotal = (m.impacts.map fun i => i.direct.length).sum
  le_radius : ∀ i ∈ m.impacts, i.radius.level ≤ m.radius.level
  radius_cases : (m.impacts = [] ∧ m.radius = .small) ∨ ∃ i ∈ m.impacts, i.radius = m.radius

theorem countsOnce_multiImpact (g : Graph) (changed files : List Text) :
    g.CountsOnce changed files (g.multiImpact changed files) := by
  refine ⟨?ascending, ?mem_file_iff, ?impact_eq, directTotal_eq_sum g changed files, ?le_radius,
    ?radius_cases⟩
  case ascending =>
    rw [map_file_multiImpact]
    exact Text.ascending_ascending _
  case mem_file_iff =>
    intro path
    rw [map_file_multiImpact, Text.mem_ascending, mem_map]
  case impact_eq =>
    intro i hi file hfile
    obtain ⟨named, -, rfl⟩ := mem_impacts_multiImpact.mp hi
    have hkey : key file = key named := hfile
    rw [← impact_key g named, ← hkey, impact_key]
  case le_radius =>
    intro i hi
    exact Radius.level_le_foldl_max (mem_map_of_mem hi) .small
  case radius_cases =>
    rw [radius_multiImpact]
    cases hentries : (g.multiImpact changed files).impacts with
    | nil => exact Or.inl ⟨rfl, rfl⟩
    | cons i entries =>
      right
      rcases Radius.foldl_max_eq_or_mem ((i :: entries).map Impact.radius) .small with hsmall | hmem
      · -- no entry has a larger radius, so the first one has the smallest
        have hmem : i.radius ∈ (i :: entries).map Impact.radius := mem_cons_self
        have hle := Radius.level_le_foldl_max hmem .small
        rw [hsmall] at hle
        rw [hsmall]
        exact ⟨i, mem_cons_self, Radius.eq_of_level_eq (Nat.le_zero.mp hle)⟩
      · exact mem_map.mp hmem

/-! ## Other files -/

theorem multiImpact_congr (h : ∀ path, path ∈ other.map key ↔ path ∈ changed.map key) (files : List Text) :
    g.multiImpact other files = g.multiImpact changed files := by
  have hsame : g.impactTable other files = g.impactTable changed files := by
    apply Std.ExtTreeMap.ext_getElem?
    intro path
    simp only [getElem?_impactTable, h]
  simp only [multiImpact, hsame]

section

variable (h : changed.map key ⊆ other.map key) (files : List Text)

include h

theorem directTotal_mono :
    (g.multiImpact changed files).directTotal ≤ (g.multiImpact other files).directTotal := by
  have hnodup : (Text.ascending (changed.map key)).Nodup := (Text.ascending_ascending _).nodup
  have hsub : Text.ascending (changed.map key) ⊆ Text.ascending (other.map key) := by
    intro path hpath
    rw [Text.mem_ascending] at hpath
    exact Text.mem_ascending.mpr (h hpath)
  rw [directTotal_multiImpact, directTotal_multiImpact]
  exact sum_map_le_of_subset hnodup hsub _

theorem level_radius_mono :
    (g.multiImpact changed files).radius.level ≤ (g.multiImpact other files).radius.level := by
  rcases (countsOnce_multiImpact g changed files).radius_cases with ⟨-, hsmall⟩ | ⟨i, hi, hradius⟩
  · rw [hsmall]
    exact Nat.zero_le _
  · obtain ⟨file, hfile, rfl⟩ := mem_impacts_multiImpact.mp hi
    obtain ⟨named, hnamed, hkey⟩ := mem_map.mp (h (mem_map_of_mem hfile))
    rw [← hradius, ← impact_key, ← hkey, impact_key]
    exact (countsOnce_multiImpact g other files).le_radius _ (mem_impacts_multiImpact.mpr ⟨named, hnamed, rfl⟩)

end

/-- The impact of several changes counts each file once. It is the same for all lists that name the same
files, in whatever order and spelling and however often, and no more files make a total smaller. -/
theorem multiImpact_counts_once (g : Graph) (changed files : List Text) :
    g.CountsOnce changed files (g.multiImpact changed files) ∧
    (∀ other, (∀ path, path ∈ other.map key ↔ path ∈ changed.map key) →
      g.multiImpact other files = g.multiImpact changed files) ∧
    ∀ more, changed.map key ⊆ more.map key →
      (g.multiImpact changed files).directTotal ≤ (g.multiImpact more files).directTotal ∧
      (g.multiImpact changed files).radius.level ≤ (g.multiImpact more files).radius.level := by
  refine ⟨countsOnce_multiImpact g changed files, fun _ h => multiImpact_congr h files, ?_⟩
  intro more h
  exact ⟨directTotal_mono h files, level_radius_mono h files⟩

/-- A file that is named with both slashes, and one of two importers added. -/
theorem multiImpact_counts_once_both_slashes :
    ∃ g : Graph,
      g.multiImpact [['b'], ['s', '\\', 'a'], ['s', '/', 'a']] [] = g.multiImpact [['s', '/', 'a'], ['b']] [] ∧
      (g.multiImpact [['s', '/', 'a']] []).directTotal = 2 ∧
      (g.multiImpact [['s', '/', 'a']] []).directTotal ≤
        (g.multiImpact [['s', '/', 'a'], ['b']] []).directTotal := by
  let g : Graph := ofSteps [.edge ['b'] ['s', '/', 'a'], .edge ['c'] ['s', '/', 'a'], .edge ['c'] ['b']]
  obtain ⟨-, hsame, -⟩ := multiImpact_counts_once g [['s', '/', 'a'], ['b']] []
  obtain ⟨-, -, hmore⟩ := multiImpact_counts_once g [['s', '/', 'a']] []
  refine ⟨g, hsame _ ?_, by decide, (hmore _ ?_).1⟩
  · intro path
    have hnamed : [['b'], ['s', '\\', 'a'], ['s', '/', 'a']].map key =
        [['b'], ['s', '/', 'a'], ['s', '/', 'a']] := by decide
    have hother : [['s', '/', 'a'], ['b']].map key = [['s', '/', 'a'], ['b']] := by decide
    rw [hnamed, hother]
    simp [or_comm]
  · intro path hpath
    exact mem_append_left _ hpath

end Graph

end RepoAtlas
