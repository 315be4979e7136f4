import RepoAtlas.Proofs.Graph.Views
import RepoAtlas.Proofs.Graph.Growth

/-! # What the content of one file can change -/

namespace RepoAtlas.Graph

open RepoAtlas.Path List

variable {settings : GraphSettings} {read read' : Contents} {files : List Text}
variable {f path target importer : Text}

theorem fileNode_eq_of_read_eq (h : read path = read' path) :
    fileNode settings read files path = fileNode settings read' files path := by
  rw [fileNode, fileNode, outlineNode, outlineNode, h]

theorem fileNode_of_read_eq_none (settings : GraphSettings) (files : List Text)
    (h : read path = none) : (fileNode settings read files path).imports = [] ∧
      (fileNode settings read files path).exports = [] := by
  rw [fileNode, outlineNode, h]
  exact ⟨rfl, rfl⟩

theorem mem_links_build_of_read_eq (h : read importer = read' importer) :
    ⟨target, importer⟩ ∈ (build settings read files).links ↔
      ⟨target, importer⟩ ∈ (build settings read' files).links := by
  rw [mem_links_build, mem_links_build, fileNode_eq_of_read_eq h]

theorem self_notMem_dependentsOf_build : f ∉ (build settings read files).dependentsOf f := by
  intro hself
  obtain ⟨hmem, hdep⟩ := mem_links_build.mp (mem_dependentsOf.mp hself)
  exact (mem_keys_of_dependency hdep).2 (key_of_mem_keys hmem)

theorem ascending_paths (g : Graph) : Text.Ascending g.paths :=
  Std.ExtTreeMap.ordered_keys

theorem node?_build_of_mem (h : key path ∈ files.map key) :
    (build settings read files).node? path =
      some { fileNode settings read files (key path) with
        dependents := (build settings read files).dependentsOf path } := by
  rw [node?, nodes_build, if_pos h]
  rfl

/-- The graphs differ at the node of `f` only, and in whether `f` is among the dependents of other files. -/
structure SameBut (f : Text) (g g' : Graph) : Prop where
  paths_eq : g.paths = g'.paths
  node : ∀ path n, key path ≠ f → g.node? path = some n →
    ∃ n', g'.node? path = some n' ∧ n'.path = n.path ∧ n'.imports = n.imports ∧ n'.exports = n.exports
  dependents : ∀ path n n', g.node? path = some n → g'.node? path = some n' →
    (n.dependents.filter fun importer => importer != f) =
      n'.dependents.filter fun importer => importer != f
  dependentsOf : ∀ path,
    ((g.dependentsOf path).filter fun importer => importer != f) =
      (g'.dependentsOf path).filter fun importer => importer != f
  /-- Nothing changes for the dependents of `f` itself. -/
  own : g.dependentsOf f = g'.dependentsOf f

theorem filter_dependentsOf_build (h : ∀ path, path ≠ f → read path = read' path) (path : Text) :
    (((build settings read files).dependentsOf path).filter fun importer => importer != f) =
      ((build settings read' files).dependentsOf path).filter fun importer => importer != f := by
  have hleft : Text.Ascending (((build settings read files).dependentsOf path).filter (· != f)) :=
    (ascending_importersOf _ _).filter _
  have hright : Text.Ascending (((build settings read' files).dependentsOf path).filter (· != f)) :=
    (ascending_importersOf _ _).filter _
  apply hleft.eq_of_mem_iff hright
  intro importer
  simp only [mem_filter, bne_iff_ne, mem_dependentsOf]
  constructor
  · rintro ⟨hl, hne⟩
    exact ⟨(mem_links_build_of_read_eq (h importer hne)).mp hl, hne⟩
  · rintro ⟨hl, hne⟩
    exact ⟨(mem_links_build_of_read_eq (h importer hne)).mpr hl, hne⟩

theorem sameBut_build (h : ∀ path, path ≠ f → read path = read' path) :
    SameBut f (build settings read files) (build settings read' files) := by
  constructor
  case paths_eq =>
    apply (ascending_paths _).eq_of_mem_iff (ascending_paths _)
    intro path
    rw [mem_paths_build, mem_paths_build]
  case node =>
    intro path n hne hn
    obtain ⟨hmem, rfl⟩ := node?_build hn
    refine ⟨_, node?_build_of_mem hmem, ?_⟩
    rw [fileNode_eq_of_read_eq (h (key path) hne)]
    exact ⟨rfl, rfl, rfl⟩
  case dependents =>
    intro path n n' hn hn'
    obtain ⟨-, rfl⟩ := node?_build hn
    obtain ⟨-, rfl⟩ := node?_build hn'
    exact filter_dependentsOf_build h path
  case dependentsOf =>
    exact filter_dependentsOf_build h
  case own =>
    have hself : ∀ read : Contents, (((build settings read files).dependentsOf f).filter (· != f)) =
        (build settings read files).dependentsOf f := by
      intro read
      apply filter_eq_self.mpr
      intro importer himporter
      have hne : importer ≠ f := by
        rintro rfl
        exact self_notMem_dependentsOf_build himporter
      simpa using hne
    rw [← hself read, ← hself read', filter_dependentsOf_build h]

structure Unread (g : Graph) (f : Text) (dependents : List Text) : Prop where
  exists_node : ∃ n, g.node? f = some n ∧ n.imports = [] ∧ n.exports = [] ∧ n.dependents = dependents
  mem_iff : ∀ path n, g.node? path = some n → (n.path ∈ dependents ↔ f ∈ n.dependencies)

theorem unread_build (hf : f ∈ files.map key) (hread : read f = none) :
    Unread (build settings read files) f ((build settings read files).dependentsOf f) := by
  have hkey := key_of_mem_keys hf
  constructor
  case exists_node =>
    obtain ⟨himports, hexports⟩ :=
      fileNode_of_read_eq_none settings files (hkey.symm ▸ hread : read (key f) = none)
    exact ⟨_, node?_build_of_mem (hkey.symm ▸ hf), himports, hexports, rfl⟩
  case mem_iff =>
    intro path n hn
    obtain ⟨hmem, rfl⟩ := node?_build hn
    have hpath : (fileNode settings read files (key path)).path = key path :=
      path_outlineNode read (key path)
    rw [mem_dependentsOf, mem_links_build, hkey, hpath]
    exact and_iff_right hmem

/-- The content of one file, or its absence, changes no more than the node of the file and its place among
the dependents of others. A file that cannot be read keeps the dependents that it would have. -/
theorem build_sameBut_of_read_eq (h : ∀ path, path ≠ f → read path = read' path) :
    SameBut f (build settings read files) (build settings read' files) ∧
      (f ∈ files.map key → read f = none →
        Unread (build settings read files) f ((build settings read' files).dependentsOf f)) := by
  have hsame : SameBut f (build settings read files) (build settings read' files) := sameBut_build h
  refine ⟨hsame, ?_⟩
  intro hf hread
  rw [← hsame.own]
  exact unread_build hf hread

/-- Both of two files import `a.ts`, which cannot be read in one of the builds. -/
theorem build_sameBut_of_read_eq_missing :
    ∃ read read' : Contents, (∀ path, path ≠ "a.ts".toList → read path = read' path) ∧
      read "a.ts".toList = none ∧
      SameBut "a.ts".toList (build {} read ["a.ts".toList, "b.ts".toList])
        (build {} read' ["a.ts".toList, "b.ts".toList]) ∧
      Unread (build {} read ["a.ts".toList, "b.ts".toList]) "a.ts".toList ["b.ts".toList] := by
  let files : List Text := ["a.ts".toList, "b.ts".toList]
  let read' : Contents := fun _ => some "import './a';".toList
  let read : Contents := fun path => if path = "a.ts".toList then none else read' path
  have hagree : ∀ path, path ≠ "a.ts".toList → read path = read' path := fun path hp => if_neg hp
  have hread : read "a.ts".toList = none := if_pos rfl
  have hdependents : (build {} read' files).dependentsOf "a.ts".toList = ["b.ts".toList] := by
    decide +kernel
  obtain ⟨hsame, hunread⟩ : SameBut _ (build {} read files) (build {} read' files) ∧ _ :=
    build_sameBut_of_read_eq hagree
  have hempty := hunread (by decide) hread
  rw [hdependents] at hempty
  exact ⟨read, read', hagree, hread, hsame, hempty⟩

end RepoAtlas.Graph
