import RepoAtlas.Proofs.Graph.Views
import RepoAtlas.Proofs.Graph.Diagram

/-! # Graphs that come about -/

namespace RepoAtlas.Graph

open RepoAtlas.Path List

/-- The graphs that come about. -/
inductive Constructed : Graph → Prop
  | empty : Constructed empty
  | built (settings : GraphSettings) (read : Contents) (files : List Text) :
      Constructed (build settings read files)
  | grown {g : Graph} (h : Constructed g) (s : Step) : Constructed (g.grow s)

theorem constructed_ofSteps (steps : List Step) : Constructed (ofSteps steps) := by
  induction steps using reverseRecOn with
  | nil => exact .empty
  | append_singleton steps s ih =>
    rw [ofSteps_append_singleton]
    exact ih.grown s

/-- A built graph shows the keys of its files and its own links. -/
theorem shows_build (settings : GraphSettings) (read : Contents) (files : List Text) :
    Shows (build settings read files)
      ⟨(files.map key).toFinset, (build settings read files).links.toList.toFinset⟩ := by
  constructor
  case mem_nodes =>
    intro path
    rw [mem_toFinset, ← mem_paths_build, paths, Std.ExtTreeMap.mem_keys]
  case mem_links =>
    intro l
    rw [mem_toFinset, Std.ExtTreeSet.mem_toList]
  case path_eq =>
    intro path n hn
    rw [nodes_build] at hn
    split at hn
    · obtain rfl := Option.some.inj hn
      exact path_outlineNode read path
    · cases hn
  case key_eq =>
    intro path hpath
    exact key_of_mem_keys (mem_toFinset.mp hpath)
  case ends =>
    intro l hl
    rw [mem_toFinset, Std.ExtTreeSet.mem_toList, mem_links_build] at hl
    exact ⟨mem_toFinset.mpr (mem_keys_of_dependency hl.2).1, mem_toFinset.mpr hl.1⟩

theorem Constructed.exists_shows {g : Graph} (h : g.Constructed) : ∃ d, g.Shows d := by
  induction h with
  | empty => exact ⟨_, shows_empty⟩
  | built settings read files => exact ⟨_, shows_build settings read files⟩
  | grown _ s ih =>
    obtain ⟨d, hd⟩ := ih
    exact ⟨_, hd.grow s⟩

variable {g : Graph} {l : Link}

theorem Constructed.key_of_link (h : g.Constructed) (hl : l ∈ g.links) :
    key l.target = l.target ∧ key l.importer = l.importer := by
  obtain ⟨d, hd⟩ := h.exists_shows
  obtain ⟨htarget, himporter⟩ := hd.ends l ((hd.mem_links l).mp hl)
  exact ⟨hd.key_eq _ htarget, hd.key_eq _ himporter⟩

theorem Constructed.importer_ne_target (h : g.Constructed) (hl : l ∈ g.links) :
    l.importer ≠ l.target := by
  induction h with
  | empty => simp [Graph.empty] at hl
  | built settings read files =>
    obtain ⟨-, hdependency⟩ := mem_links_build.mp hl
    exact (mem_keys_of_dependency hdependency).2.symm
  | grown _ s ih =>
    cases s with
    | node n => exact ih hl
    | edge importer target =>
      rw [grow, links_addEdge, mem_links_link] at hl
      rcases hl with hl | ⟨hne, rfl⟩
      · exact ih hl
      · exact hne

end RepoAtlas.Graph
