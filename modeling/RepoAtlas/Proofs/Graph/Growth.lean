import RepoAtlas.Proofs.Graph.Links
import Mathlib.Data.List.Induction

/-! # Graphs that grow -/

namespace RepoAtlas

open List

namespace Graph

open RepoAtlas.Path

variable {g : Graph} {importer target path : Text}

theorem importersOf_congr {g g' : Graph} (h : ∀ importer, ⟨target, importer⟩ ∈ g'.links ↔
    ⟨target, importer⟩ ∈ g.links) : g'.importersOf target = g.importersOf target := by
  apply (ascending_importersOf g' target).eq_of_mem_iff (ascending_importersOf g target)
  intro importer
  rw [mem_importersOf, mem_importersOf, h]

theorem addEdge_self (g : Graph) (h : key importer = key target) : g.addEdge importer target = g := by
  simp [addEdge, h]

@[simp] theorem links_addEdge (g : Graph) (importer target : Text) :
    (g.addEdge importer target).links = (g.link (key importer) (key target)).links := by
  by_cases h : key importer = key target
  · simp [addEdge, link, h]
  · simp [addEdge, h]

theorem getElem?_insertIfNew (nodes : Std.ExtTreeMap Text FileNode compare) (new path : Text) :
    (nodes.insertIfNew new { path := new })[path]? =
      if path = new then some (nodes[path]?.getD { path }) else nodes[path]? := by
  simp only [Std.ExtTreeMap.getElem?_insertIfNew, Std.LawfulEqCmp.compare_eq_iff_eq,
    Std.ExtTreeMap.mem_iff_isSome_getElem?]
  by_cases hp : path = new
  · subst hp
    cases nodes[path]? <;> simp
  · simp only [if_neg hp, Ne.symm hp, false_and, if_false]

theorem nodes_addEdge (g : Graph) (h : key importer ≠ key target) (path : Text) :
    (g.addEdge importer target).nodes[path]? =
      if path = key target then
        some { g.nodes[path]?.getD { path } with
          dependents := (g.addEdge importer target).importersOf path }
      else if path = key importer then some (g.nodes[path]?.getD { path })
      else g.nodes[path]? := by
  have himporters : (g.addEdge importer target).importersOf (key target) =
      (g.link (key importer) (key target)).importersOf (key target) := by
    rw [importersOf, importersOf, links_addEdge]
  have hnodes : (g.addEdge importer target).nodes =
      (g.nodes.insertIfNew (key importer) { path := key importer }).insert (key target)
        { g.nodes[key target]?.getD { path := key target } with
          dependents := (g.addEdge importer target).importersOf (key target) } := by
    rw [himporters]
    simp only [addEdge, if_neg h, getElem?_insertIfNew, if_neg (Ne.symm h)]
  simp only [hnodes, Std.ExtTreeMap.getElem?_insert, Std.LawfulEqCmp.compare_eq_iff_eq,
    getElem?_insertIfNew]
  by_cases ht : path = key target
  · simp only [ht, if_true]
  · simp only [if_neg ht, if_neg (Ne.symm ht)]

inductive Step
  | node (n : FileNode)
  | edge (importer target : Text)
  deriving DecidableEq

def grow (g : Graph) : Step → Graph
  | .node n => g.addNode n
  | .edge importer target => g.addEdge importer target

def ofSteps (steps : List Step) : Graph :=
  steps.foldl grow empty

@[simp] theorem ofSteps_nil : ofSteps [] = empty := rfl

@[simp] theorem ofSteps_append_singleton (steps : List Step) (s : Step) :
    ofSteps (steps ++ [s]) = (ofSteps steps).grow s := by
  rw [ofSteps, foldl_append]
  rfl

/-- Whether the step gives the node at a key its list of dependents. -/
def Step.settles (path : Text) : Step → Bool
  | .node n => key n.path == path
  | .edge importer target => key target == path && key importer != path

/-- The last step that gave the node at a key its list of dependents. -/
def lastSettled? (steps : List Step) (path : Text) : Option Step :=
  steps.reverse.find? (Step.settles path)

theorem lastSettled?_append_singleton (steps : List Step) (s : Step) (path : Text) :
    lastSettled? (steps ++ [s]) path =
      if s.settles path then some s else lastSettled? steps path := by
  rw [lastSettled?, reverse_append, reverse_singleton, singleton_append, find?_cons]
  cases s.settles path <;> rfl

def carried (g : Graph) (path : Text) : List Text :=
  (g.nodes[path]?.map FileNode.dependents).getD []

theorem carried_addNode (g : Graph) (n : FileNode) (path : Text) :
    (g.addNode n).carried path = if key n.path = path then n.dependents else g.carried path := by
  rw [carried, nodes_addNode]
  split <;> rfl

theorem carried_addEdge (g : Graph) (importer target path : Text) :
    (g.addEdge importer target).carried path =
      if key target = path ∧ key importer ≠ path then (g.addEdge importer target).importersOf path
      else g.carried path := by
  by_cases h : key importer = key target
  · have hno : ¬ (key target = path ∧ key importer ≠ path) := fun hp => hp.2 (h.trans hp.1)
    rw [addEdge_self g h, if_neg hno]
  · rw [carried, nodes_addEdge g h]
    by_cases ht : path = key target
    · subst ht
      rw [if_pos rfl, if_pos ⟨rfl, h⟩]
      rfl
    · have hno : ¬ (key target = path ∧ key importer ≠ path) := fun hp => ht hp.1.symm
      rw [if_neg ht, if_neg hno]
      split
      · cases hn : g.nodes[path]? <;> simp [carried, hn]
      · rfl

theorem importersOf_addEdge_of_ne (g : Graph) (h : ¬ (key target = path ∧ key importer ≠ path)) :
    (g.addEdge importer target).importersOf path = g.importersOf path := by
  apply importersOf_congr
  intro f
  rw [links_addEdge, mem_links_link]
  constructor
  · rintro (hl | ⟨hne, hl⟩)
    · exact hl
    · obtain ⟨rfl, rfl⟩ := Link.mk.inj hl
      exact absurd ⟨rfl, hne⟩ h
  · exact Or.inl

/-- The list that a node carries is the one it was last entered with, unless an edge to the node has
come later: then it is what the links say. -/
theorem carried_ofSteps (steps : List Step) (path : Text) :
    (ofSteps steps).carried path =
      match lastSettled? steps path with
      | some (.node n) => n.dependents
      | _ => (ofSteps steps).importersOf path := by
  induction steps using reverseRecOn with
  | nil => simp [carried, lastSettled?, empty, importersOf]
  | append_singleton steps s ih =>
    rw [ofSteps_append_singleton, lastSettled?_append_singleton]
    cases s with
    | node n =>
      by_cases hn : key n.path = path
      · simp [grow, carried_addNode, Step.settles, hn]
      · have himporters : ((ofSteps steps).addNode n).importersOf path =
            (ofSteps steps).importersOf path := rfl
        simp [grow, carried_addNode, Step.settles, hn, ih, himporters]
    | edge importer target =>
      by_cases he : key target = path ∧ key importer ≠ path
      · simp [grow, carried_addEdge, Step.settles, he]
      · have hset : (Step.edge importer target).settles path = false := by
          simpa [Step.settles] using he
        rw [grow, carried_addEdge, if_neg he, importersOf_addEdge_of_ne _ he, hset]
        simpa using ih

/-- Since the last edge to the node at a key the node has been entered again. -/
def Renewed (steps : List Step) (path : Text) : Prop :=
  ∃ n, lastSettled? steps path = some (.node n)

theorem renewed_iff {steps : List Step} : Renewed steps path ↔
    ∃ before n after, steps = before ++ .node n :: after ∧ key n.path = path ∧
      ∀ s ∈ after, s.settles path = false := by
  simp only [Renewed, lastSettled?, find?_eq_some_iff_append]
  constructor
  · rintro ⟨n, hn, after, before, hsteps, hafter⟩
    refine ⟨before.reverse, n, after.reverse, ?_, by simpa [Step.settles] using hn, ?_⟩
    · rw [← reverse_reverse steps, hsteps]
      simp
    · intro s hs
      simpa using hafter s (List.mem_reverse.mp hs)
  · rintro ⟨before, n, after, rfl, hn, hafter⟩
    refine ⟨n, by simpa [Step.settles] using hn, after.reverse, before.reverse, by simp, ?_⟩
    intro s hs
    simpa using hafter s (List.mem_reverse.mp hs)

/-- When nodes are entered with empty lists, the list that a node carries is current, except where the
node has importers and has been entered again since the last edge to it. -/
theorem dependents_current_iff {steps : List Step} {n : FileNode}
    (hempty : ∀ m, .node m ∈ steps → m.dependents = [])
    (hn : (ofSteps steps).node? path = some n) :
    n.dependents = (ofSteps steps).dependentsOf path ↔
      ¬ (Renewed steps (key path) ∧ (ofSteps steps).dependentsOf path ≠ []) := by
  have hcarried : n.dependents = (ofSteps steps).carried (key path) := by
    rw [carried, show (ofSteps steps).nodes[key path]? = some n from hn]
    rfl
  rw [hcarried, carried_ofSteps, dependentsOf]
  by_cases hr : Renewed steps (key path)
  · obtain ⟨m, hm⟩ := hr
    have hmem : .node m ∈ steps := List.mem_reverse.mp (mem_of_find?_eq_some hm)
    have hrenewed : Renewed steps (key path) := ⟨m, hm⟩
    simp only [hm, hempty m hmem, hrenewed, true_and, ne_eq, not_not]
    exact eq_comm
  · have hno : ∀ m, lastSettled? steps (key path) ≠ some (.node m) := fun m hm => hr ⟨m, hm⟩
    split
    · next m hm => exact absurd hm (hno m)
    · simp [hr]

theorem dependents_current_after_edge :
    ∃ n, (ofSteps [.edge ['b'] ['a'], .node { path := ['a'] }, .edge ['c'] ['a']]).node? ['a'] = some n ∧
      n.dependents = (ofSteps
        [.edge ['b'] ['a'], .node { path := ['a'] }, .edge ['c'] ['a']]).dependentsOf ['a'] := by
  obtain ⟨n, hn⟩ : ∃ n,
      (ofSteps [.edge ['b'] ['a'], .node { path := ['a'] }, .edge ['c'] ['a']]).node? ['a'] = some n :=
    Option.isSome_iff_exists.mp (by decide +kernel)
  refine ⟨n, hn, (dependents_current_iff (by simp) hn).mpr ?_⟩
  rintro ⟨⟨m, hm⟩, -⟩
  have hlast : lastSettled? [.edge ['b'] ['a'], .node { path := ['a'] }, .edge ['c'] ['a']] (key ['a']) =
      some (.edge ['c'] ['a']) := by
    decide
  rw [hlast] at hm
  cases hm

/-- A node entered again loses its list, while the graph keeps the link. -/
theorem dependents_stale_after_node :
    ¬ ∀ steps : List Step, (∀ m, .node m ∈ steps → m.dependents = []) →
      ∀ path n, (ofSteps steps).node? path = some n →
        n.dependents = (ofSteps steps).dependentsOf path := by
  intro hcurrent
  obtain ⟨n, hn, hlist⟩ : ∃ n,
      (ofSteps [.edge ['b'] ['a'], .node { path := ['a'] }]).node? ['a'] = some n ∧ n.dependents = [] :=
    ⟨{ path := ['a'] }, by decide +kernel, rfl⟩
  have hlinks : (ofSteps [.edge ['b'] ['a'], .node { path := ['a'] }]).dependentsOf ['a'] = [['b']] := by
    decide +kernel
  have hsame := hcurrent [.edge ['b'] ['a'], .node { path := ['a'] }] (by simp) ['a'] n hn
  rw [hlist, hlinks] at hsame
  cases hsame

end Graph

end RepoAtlas
