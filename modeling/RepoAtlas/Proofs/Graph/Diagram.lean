import RepoAtlas.Proofs.Graph.Growth
import Mathlib.Data.Finset.Option
import Mathlib.Data.Finset.Card

/-! # What a grown graph amounts to -/

namespace RepoAtlas.Graph

open RepoAtlas.Path List

/-! ## Diagrams -/

structure Diagram where
  keys : Finset Text
  links : Finset Link

/-- The keys that a step enters; an edge from a key to itself enters none. -/
def Step.keys : Step → Finset Text
  | .node n => {key n.path}
  | .edge importer target => if key importer = key target then ∅ else {key importer, key target}

/-- The link that a step enters, if it is an edge between two keys. -/
def Step.link? : Step → Option Link
  | .node _ => none
  | .edge importer target =>
    if key importer = key target then none else some ⟨key target, key importer⟩

namespace Diagram

def grow (d : Diagram) (s : Step) : Diagram :=
  ⟨d.keys ∪ s.keys, d.links ∪ s.link?.toFinset⟩

def ofSteps (steps : List Step) : Diagram :=
  steps.foldl grow ⟨∅, ∅⟩

theorem ofSteps_append_singleton (steps : List Step) (s : Step) :
    ofSteps (steps ++ [s]) = (ofSteps steps).grow s := by
  rw [ofSteps, foldl_append]
  rfl

theorem mem_keys_ofSteps {steps : List Step} {path : Text} :
    path ∈ (ofSteps steps).keys ↔ ∃ s ∈ steps, path ∈ s.keys := by
  induction steps using reverseRecOn with
  | nil => simp [ofSteps]
  | append_singleton steps s ih =>
    rw [ofSteps_append_singleton, grow, Finset.mem_union, ih]
    simp [or_and_right, exists_or]

theorem mem_links_ofSteps {steps : List Step} {l : Link} :
    l ∈ (ofSteps steps).links ↔ ∃ s ∈ steps, s.link? = some l := by
  induction steps using reverseRecOn with
  | nil => simp [ofSteps]
  | append_singleton steps s ih =>
    rw [ofSteps_append_singleton, grow, Finset.mem_union, ih]
    simp [or_and_right, exists_or]

end Diagram

theorem Step.mem_keys_iff {s : Step} {path : Text} :
    path ∈ s.keys ↔ (∃ n, s = .node n ∧ key n.path = path) ∨
      ∃ importer target, s = .edge importer target ∧ key importer ≠ key target ∧
        (key importer = path ∨ key target = path) := by
  cases s with
  | node n => simp [keys, eq_comm]
  | edge importer target =>
    by_cases h : key importer = key target
    · simp [keys, h]
    · simp [keys, h, eq_comm]

theorem Step.link?_eq_some_iff {s : Step} {l : Link} :
    s.link? = some l ↔ ∃ importer target, s = .edge importer target ∧ key importer ≠ key target ∧
      l = ⟨key target, key importer⟩ := by
  cases s with
  | node n => simp [link?]
  | edge importer target =>
    by_cases h : key importer = key target
    · simp [link?, h]
    · simp [link?, h, eq_comm]

/-! ## Graphs and their diagrams -/

variable {g : Graph} {d : Diagram}

/-- The graph shows the diagram: its nodes stand at the keys, which are their paths, and its links are the
links of the diagram, which lead from key to key. -/
structure Shows (g : Graph) (d : Diagram) : Prop where
  mem_nodes : ∀ path, path ∈ g.nodes ↔ path ∈ d.keys
  mem_links : ∀ l, l ∈ g.links ↔ l ∈ d.links
  path_eq : ∀ path (n : FileNode), g.nodes[path]? = some n → n.path = path
  key_eq : ∀ path ∈ d.keys, key path = path
  ends : ∀ l ∈ d.links, l.target ∈ d.keys ∧ l.importer ∈ d.keys

theorem shows_empty : Shows empty ⟨∅, ∅⟩ := by
  constructor <;> simp [empty]

theorem Shows.addNode (h : Shows g d) (n : FileNode) : Shows (g.addNode n) (d.grow (.node n)) := by
  constructor
  case mem_nodes =>
    intro path
    rw [Std.ExtTreeMap.mem_iff_isSome_getElem?, nodes_addNode, Diagram.grow, Finset.mem_union,
      ← h.mem_nodes, Std.ExtTreeMap.mem_iff_isSome_getElem?, Step.keys, Finset.mem_singleton]
    split
    · next hkey => simp [hkey]
    · next hkey => simp [Ne.symm hkey]
  case mem_links =>
    intro l
    simp [Diagram.grow, Step.link?, h.mem_links]
  case path_eq =>
    intro path m hm
    rw [nodes_addNode] at hm
    split at hm
    · next hkey =>
      obtain rfl := Option.some.inj hm
      exact hkey
    · exact h.path_eq path m hm
  case key_eq =>
    intro path hpath
    simp only [Diagram.grow, Step.keys, Finset.mem_union, Finset.mem_singleton] at hpath
    rcases hpath with hpath | rfl
    · exact h.key_eq path hpath
    · exact key_key n.path
  case ends =>
    intro l hl
    have hends := h.ends l (by simpa [Diagram.grow, Step.link?] using hl)
    simp [Diagram.grow, hends]

theorem Shows.addEdge (h : Shows g d) (importer target : Text) :
    Shows (g.addEdge importer target) (d.grow (.edge importer target)) := by
  by_cases hself : key importer = key target
  · have hsame : d.grow (.edge importer target) = d := by
      simp [Diagram.grow, Step.keys, Step.link?, hself]
    rwa [addEdge_self g hself, hsame]
  · have hkeys (path : Text) : path ∈ (d.grow (.edge importer target)).keys ↔
        path = key importer ∨ path = key target ∨ path ∈ d.keys := by
      simp [Diagram.grow, Step.keys, hself]
    have hlinks (l : Link) : l ∈ (d.grow (.edge importer target)).links ↔
        l = ⟨key target, key importer⟩ ∨ l ∈ d.links := by
      simp [Diagram.grow, Step.link?, hself]
    constructor
    case mem_nodes =>
      intro path
      rw [hkeys, ← h.mem_nodes, Std.ExtTreeMap.mem_iff_isSome_getElem?, nodes_addEdge g hself,
        Std.ExtTreeMap.mem_iff_isSome_getElem?]
      split
      · next ht => simp [ht]
      · next ht =>
        split
        · next hi => simp [hi]
        · next hi => simp [ht, hi]
    case mem_links =>
      intro l
      rw [hlinks, links_addEdge, mem_links_link, h.mem_links]
      simp [hself, or_comm]
    case path_eq =>
      intro path n hn
      have hold : (g.nodes[path]?.getD { path }).path = path := by
        cases hg : g.nodes[path]? with
        | none => rfl
        | some m => exact h.path_eq path m hg
      rw [nodes_addEdge g hself] at hn
      split at hn
      · obtain rfl := Option.some.inj hn
        exact hold
      · split at hn
        · obtain rfl := Option.some.inj hn
          exact hold
        · exact h.path_eq path n hn
    case key_eq =>
      intro path hpath
      rcases (hkeys path).mp hpath with rfl | rfl | hpath
      · exact key_key importer
      · exact key_key target
      · exact h.key_eq path hpath
    case ends =>
      intro l hl
      rw [hkeys, hkeys]
      rcases (hlinks l).mp hl with rfl | hl
      · exact ⟨Or.inr (Or.inl rfl), Or.inl rfl⟩
      · obtain ⟨htarget, himporter⟩ := h.ends l hl
        exact ⟨Or.inr (Or.inr htarget), Or.inr (Or.inr himporter)⟩

theorem Shows.grow (h : Shows g d) (s : Step) : Shows (g.grow s) (d.grow s) := by
  cases s with
  | node n => exact h.addNode n
  | edge importer target => exact h.addEdge importer target

theorem shows_ofSteps (steps : List Step) : Shows (ofSteps steps) (Diagram.ofSteps steps) := by
  induction steps using reverseRecOn with
  | nil => exact shows_empty
  | append_singleton steps s ih =>
    rw [ofSteps_append_singleton, Diagram.ofSteps_append_singleton]
    exact ih.grow s

theorem Shows.edgeCount_eq (h : Shows g d) : g.edgeCount = d.links.card := by
  have hlinks : g.links.toList.toFinset = d.links := by
    ext l
    rw [mem_toFinset, Std.ExtTreeSet.mem_toList, h.mem_links]
  rw [edgeCount_eq_size, ← hlinks, toFinset_card_of_nodup (nodup_links g), Std.ExtTreeSet.length_toList]

/-! ## What an edge leaves as it is -/

theorem addEdge_keeps (g : Graph) (importer target : Text) {path : Text} {n : FileNode}
    (hn : g.nodes[path]? = some n) :
    ∃ m, (g.addEdge importer target).nodes[path]? = some m ∧ m.imports = n.imports ∧
      m.exports = n.exports ∧ (path ≠ key target → m = n) := by
  by_cases hself : key importer = key target
  · rw [addEdge_self g hself]
    exact ⟨n, hn, rfl, rfl, fun _ => rfl⟩
  · rw [nodes_addEdge g hself, hn]
    by_cases ht : path = key target
    · rw [if_pos ht]
      exact ⟨_, rfl, rfl, rfl, fun hne => absurd ht hne⟩
    · rw [if_neg ht]
      exact ⟨n, by split <;> rfl, rfl, rfl, fun _ => rfl⟩

theorem addEdge_enters (g : Graph) (importer target : Text) {path : Text} {m : FileNode}
    (hnone : g.nodes[path]? = none) (hm : (g.addEdge importer target).nodes[path]? = some m) :
    m.imports = [] ∧ m.exports = [] ∧ (path ≠ key target → m.dependents = []) := by
  by_cases hself : key importer = key target
  · rw [addEdge_self g hself, hnone] at hm
    cases hm
  · rw [nodes_addEdge g hself, hnone] at hm
    split at hm
    · next ht =>
      obtain rfl := Option.some.inj hm
      exact ⟨rfl, rfl, fun hne => absurd ht hne⟩
    · split at hm
      · obtain rfl := Option.some.inj hm
        exact ⟨rfl, rfl, fun _ => rfl⟩
      · cases hm

/-! ## The views of a grown graph -/

/-- What the views of a graph show after the steps. -/
structure Refines (g : Graph) (steps : List Step) : Prop where
  ascending : ∀ path, Text.Ascending (g.dependentsOf path)
  mem_dependentsOf : ∀ path f, f ∈ g.dependentsOf path ↔
    ∃ importer target, .edge importer target ∈ steps ∧ key target = key path ∧
      key importer ≠ key target ∧ key importer = f
  edgeCount_eq : g.edgeCount = (steps.filterMap Step.link?).toFinset.card
  mem_paths : ∀ path, path ∈ g.paths ↔
    (∃ n, .node n ∈ steps ∧ key n.path = path) ∨
      ∃ importer target, .edge importer target ∈ steps ∧ key importer ≠ key target ∧
        (key importer = path ∨ key target = path)
  path_eq : ∀ path (n : FileNode), g.nodes[path]? = some n → n.path = path ∧ key path = path ∧ '\\' ∉ path
  reverse : ∀ target importers, (target, importers) ∈ g.reverse →
    target ∈ g.paths ∧ importers = g.dependentsOf target ∧ importers ≠ [] ∧
      ∀ importer ∈ importers, importer ∈ g.paths
  /-- One more edge changes no imports and exports, and no dependents but those of its target. -/
  frame : ∀ importer target path (n : FileNode), g.nodes[path]? = some n →
    ∃ m, (g.addEdge importer target).nodes[path]? = some m ∧ m.imports = n.imports ∧
      m.exports = n.exports ∧ (path ≠ key target → m = n)
  /-- The nodes that one more edge enters have no imports, no exports and, but for its target, no
  dependents. -/
  entered : ∀ importer target path (m : FileNode), g.nodes[path]? = none →
    (g.addEdge importer target).nodes[path]? = some m →
      m.imports = [] ∧ m.exports = [] ∧ (path ≠ key target → m.dependents = [])

/-- A grown graph shows the nodes and the edges of its steps, in whatever order and however often they
were entered. -/
theorem refines_ofSteps (steps : List Step) : (ofSteps steps).Refines steps := by
  have hshows := shows_ofSteps steps
  have hpaths (path : Text) : path ∈ (ofSteps steps).paths ↔ path ∈ (Diagram.ofSteps steps).keys := by
    rw [paths, Std.ExtTreeMap.mem_keys, hshows.mem_nodes]
  constructor
  case ascending =>
    intro path
    exact ascending_importersOf _ _
  case mem_dependentsOf =>
    intro path f
    rw [mem_dependentsOf, hshows.mem_links, Diagram.mem_links_ofSteps]
    simp only [Step.link?_eq_some_iff, Link.mk.injEq]
    constructor
    · rintro ⟨s, hs, importer, target, rfl, hne, ht, rfl⟩
      exact ⟨importer, target, hs, ht.symm, hne, rfl⟩
    · rintro ⟨importer, target, hs, ht, hne, rfl⟩
      exact ⟨_, hs, importer, target, rfl, hne, ht.symm, rfl⟩
  case edgeCount_eq =>
    rw [hshows.edgeCount_eq]
    congr 1
    ext l
    rw [Diagram.mem_links_ofSteps, mem_toFinset, mem_filterMap]
  case mem_paths =>
    intro path
    rw [hpaths, Diagram.mem_keys_ofSteps]
    simp only [Step.mem_keys_iff]
    constructor
    · rintro ⟨s, hs, ⟨n, rfl, hn⟩ | ⟨importer, target, rfl, hne, hends⟩⟩
      · exact Or.inl ⟨n, hs, hn⟩
      · exact Or.inr ⟨importer, target, hs, hne, hends⟩
    · rintro (⟨n, hs, hn⟩ | ⟨importer, target, hs, hne, hends⟩)
      · exact ⟨_, hs, Or.inl ⟨n, rfl, hn⟩⟩
      · exact ⟨_, hs, Or.inr ⟨importer, target, rfl, hne, hends⟩⟩
  case path_eq =>
    intro path n hn
    have hmem : path ∈ (Diagram.ofSteps steps).keys := by
      rw [← hshows.mem_nodes, Std.ExtTreeMap.mem_iff_isSome_getElem?, hn]
      rfl
    have hkey := hshows.key_eq path hmem
    exact ⟨hshows.path_eq path n hn, hkey, hkey ▸ backslash_not_mem_key path⟩
  case reverse =>
    intro target importers hreverse
    obtain ⟨⟨importer, hl⟩, rfl⟩ := mem_reverse.mp hreverse
    have htarget := (hshows.ends _ ((hshows.mem_links _).mp hl)).1
    refine ⟨(hpaths target).mpr htarget, ?_, ne_nil_of_mem (mem_importersOf.mpr hl), ?_⟩
    · rw [dependentsOf, hshows.key_eq target htarget]
    · intro f hf
      have hlink := (hshows.mem_links _).mp (mem_importersOf.mp hf)
      exact (hpaths f).mpr (hshows.ends _ hlink).2
  case frame =>
    intro importer target path n hn
    exact addEdge_keeps _ importer target hn
  case entered =>
    intro importer target path m hnone hm
    exact addEdge_enters _ importer target hnone hm

end RepoAtlas.Graph
