import RepoAtlas.Proofs.Graph.Build
import RepoAtlas.Proofs.Lists

/-! # The views of a built graph -/

namespace RepoAtlas.Graph

open RepoAtlas.Path List

theorem nodup_dependencies (n : FileNode) : n.dependencies.Nodup :=
  nodup_eraseDups _

/-- A graph whose links are the dependencies of its nodes has as many links as its nodes have
dependencies. -/
theorem edgeCount_eq_sum {g : Graph}
    (h : ∀ target path, ⟨target, path⟩ ∈ g.links ↔
      ∃ n, g.nodes[path]? = some n ∧ target ∈ n.dependencies) :
    g.edgeCount = (g.nodes.toList.map fun entry => entry.2.dependencies.length).sum := by
  let linksOf (entry : Text × FileNode) : List Link :=
    entry.2.dependencies.map fun target => ⟨target, entry.1⟩
  have hnodup : (g.nodes.toList.flatMap linksOf).Nodup := by
    apply nodup_flatMap.mpr
    constructor
    · intro entry _
      apply (nodup_dependencies entry.2).map
      intro a b hab
      exact congrArg Link.target hab
    · apply (Std.ExtTreeMap.distinct_keys_toList (t := g.nodes)).imp
      intro a b hab l hla hlb
      obtain ⟨s, -, rfl⟩ := mem_map.mp hla
      obtain ⟨t, -, hl⟩ := mem_map.mp hlb
      have hkeys : b.1 = a.1 := congrArg Link.importer hl
      exact hab (by simp [hkeys])
  have hmem : ∀ l, l ∈ g.links ↔ ∃ entry ∈ g.nodes.toList, l ∈ linksOf entry := by
    rintro ⟨target, path⟩
    simp only [h, linksOf, mem_map, Link.mk.injEq]
    constructor
    · rintro ⟨n, hn, ht⟩
      exact ⟨(path, n), Std.ExtTreeMap.mem_toList_iff_getElem?_eq_some.mpr hn, target, ht, rfl, rfl⟩
    · rintro ⟨⟨p, n⟩, hn, t, ht, rfl, rfl⟩
      exact ⟨n, Std.ExtTreeMap.mem_toList_iff_getElem?_eq_some.mp hn, ht⟩
  rw [edgeCount_eq_size, size_links_eq_sum hnodup hmem]
  simp only [linksOf, length_map]

structure Coherent (g : Graph) (files : List Text) : Prop where
  mem_paths : ∀ path, path ∈ g.paths ↔ path ∈ files.map key
  path_eq : ∀ path n, g.node? path = some n → n.path = key path
  target : ∀ path n, g.node? path = some n → ∀ i ∈ n.imports, ∀ target, i.target? = some target →
    target ∈ g.paths ∧ target ≠ n.path
  mem_dependencies_iff : ∀ path n target, g.node? path = some n →
    (key target ∈ n.dependencies ↔ n.path ∈ g.dependentsOf target)
  /-- What a node carries is what the links say. -/
  dependents_eq : ∀ path n, g.node? path = some n → n.dependents = g.dependentsOf path
  ascending : ∀ path, Text.Ascending (g.dependentsOf path)
  mem_paths_of_dependent : ∀ path, ∀ importer ∈ g.dependentsOf path, importer ∈ g.paths
  reverse : ∀ target importers, (target, importers) ∈ g.reverse →
    target ∈ g.paths ∧ importers = g.dependentsOf target ∧ importers ≠ [] ∧ target ∉ importers
  edgeCount_eq : g.edgeCount = (g.nodes.toList.map fun entry => entry.2.dependencies.length).sum

theorem mem_paths_build {settings : GraphSettings} {read : Contents} {files : List Text}
    {path : Text} : path ∈ (build settings read files).paths ↔ path ∈ files.map key := by
  rw [paths, Std.ExtTreeMap.mem_keys, Std.ExtTreeMap.mem_iff_isSome_getElem?, nodes_build]
  split
  · next h => exact iff_of_true rfl h
  · next h => exact iff_of_false (by simp) h

theorem node?_build {settings : GraphSettings} {read : Contents} {files : List Text} {path : Text}
    {n : FileNode} (h : (build settings read files).node? path = some n) :
    key path ∈ files.map key ∧ n = { fileNode settings read files (key path) with
      dependents := (build settings read files).dependentsOf path } := by
  rw [node?, nodes_build] at h
  split at h
  · next hmem => exact ⟨hmem, (Option.some.inj h).symm⟩
  · cases h

/-- The forward and the backward reading of a built graph agree, whatever the files contain. -/
theorem build_coherent (settings : GraphSettings) (read : Contents) (files : List Text) :
    (build settings read files).Coherent files := by
  have hpath : ∀ path n, (build settings read files).node? path = some n → n.path = key path := by
    intro path n hn
    obtain ⟨-, rfl⟩ := node?_build hn
    exact path_outlineNode read (key path)
  refine ⟨fun path => mem_paths_build, hpath, ?target, ?dependencies, ?dependents, ?ascending, ?paths,
    ?reverse, ?edges⟩
  case target =>
    intro path n hn i hi target ht
    rw [hpath path n hn, mem_paths_build]
    obtain ⟨-, rfl⟩ := node?_build hn
    exact target_of_fileNode hi ht
  case dependencies =>
    intro path n target hn
    rw [hpath path n hn, mem_dependentsOf, mem_links_build]
    obtain ⟨hmem, rfl⟩ := node?_build hn
    exact (and_iff_right hmem).symm
  case dependents =>
    intro path n hn
    obtain ⟨-, rfl⟩ := node?_build hn
    rfl
  case ascending =>
    intro path
    exact ascending_importersOf _ _
  case paths =>
    intro path importer himporter
    exact mem_paths_build.mpr (mem_links_build.mp (mem_dependentsOf.mp himporter)).1
  case reverse =>
    intro target importers hreverse
    obtain ⟨⟨importer, hl⟩, rfl⟩ := mem_reverse.mp hreverse
    obtain ⟨-, htarget⟩ := mem_links_build.mp hl
    have hmem := (mem_keys_of_dependency htarget).1
    refine ⟨mem_paths_build.mpr hmem, ?_, ne_nil_of_mem (mem_importersOf.mpr hl), ?_⟩
    · rw [dependentsOf, key_of_mem_keys hmem]
    · intro hself
      obtain ⟨-, hown⟩ := mem_links_build.mp (mem_importersOf.mp hself)
      exact (mem_keys_of_dependency hown).2 rfl
  case edges =>
    apply edgeCount_eq_sum
    intro target path
    rw [mem_links_build, nodes_build]
    constructor
    · rintro ⟨hmem, htarget⟩
      exact ⟨_, if_pos hmem, htarget⟩
    · rintro ⟨n, hn, htarget⟩
      split at hn
      · next hmem =>
        obtain rfl : _ = n := Option.some.inj hn
        exact ⟨hmem, htarget⟩
      · cases hn

end RepoAtlas.Graph
