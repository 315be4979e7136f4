import RepoAtlas.Graph.Build
import RepoAtlas.Proofs.Graph.Links

/-! # What is built -/

namespace RepoAtlas.Graph

open Code RepoAtlas.Path List

theorem outlineNodes_eq_map (batch : Nat) (read : Contents) (paths : List Text) :
    outlineNodes batch read paths = paths.map (outlineNode read) := by
  rw [outlineNodes, flatMap_def, ← map_flatten, chunksOf_flatten]

theorem links_foldl_addNode (g : Graph) (nodes : List FileNode) :
    (nodes.foldl addNode g).links = g.links := by
  induction nodes generalizing g with
  | nil => rfl
  | cons n nodes ih => rw [foldl_cons, ih, links_addNode]

/-- Nodes that are a function of their keys can be entered in any order. -/
theorem nodes_foldl_addNode {f : Text → FileNode} {paths : List Text}
    (hf : ∀ path ∈ paths, key (f path).path = path ∧ (f path).path = path) (g : Graph) (path : Text) :
    ((paths.map f).foldl addNode g).nodes[path]? =
      if path ∈ paths then some (f path) else g.nodes[path]? := by
  induction paths generalizing g with
  | nil => rfl
  | cons p paths ih =>
    obtain ⟨hkey, hpath⟩ := hf p mem_cons_self
    have hnode : { f p with path := key (f p).path } = f p := by
      rw [hkey.trans hpath.symm]
    rw [map_cons, foldl_cons, ih fun q hq => hf q (mem_cons_of_mem p hq), nodes_addNode, hnode, hkey]
    by_cases hmem : path ∈ paths
    · simp [hmem]
    · by_cases hp : p = path
      · simp [hp]
      · simp [hmem, hp, Ne.symm hp]

theorem nodes_foldl_link (g : Graph) (importer : Text) (targets : List Text) :
    (targets.foldl (fun g target => g.link importer target) g).nodes = g.nodes := by
  induction targets generalizing g with
  | nil => rfl
  | cons target targets ih => rw [foldl_cons, ih, nodes_link]

theorem mem_links_foldl_link {g : Graph} {importer : Text} {targets : List Text} {l : Link} :
    l ∈ (targets.foldl (fun g target => g.link importer target) g).links ↔
      l ∈ g.links ∨ importer = l.importer ∧ l.target ∈ targets ∧ l.importer ≠ l.target := by
  induction targets generalizing g with
  | nil => simp
  | cons target targets ih =>
    rw [foldl_cons, ih, mem_links_link]
    obtain ⟨t, f⟩ := l
    simp only [mem_cons, Link.mk.injEq]
    constructor
    · rintro ((h | ⟨hne, rfl, rfl⟩) | ⟨hf, ht, hne⟩)
      · exact Or.inl h
      · exact Or.inr ⟨rfl, Or.inl rfl, hne⟩
      · exact Or.inr ⟨hf, Or.inr ht, hne⟩
    · rintro (h | ⟨rfl, rfl | ht, hne⟩)
      · exact Or.inl (Or.inl h)
      · exact Or.inl (Or.inr ⟨hne, rfl, rfl⟩)
      · exact Or.inr ⟨rfl, ht, hne⟩

def linkImports (nodes : List FileNode) (g : Graph) : Graph :=
  nodes.foldl (fun g n =>
    (n.imports.filterMap (·.target?)).foldl (fun g target => g.link n.path target) g) g

theorem mem_dependencies {n : FileNode} {target : Text} :
    target ∈ n.dependencies ↔ ∃ i ∈ n.imports, i.target? = some target := by
  simp [FileNode.dependencies, mem_eraseDups, mem_filterMap]

@[simp] theorem nodes_linkImports (nodes : List FileNode) (g : Graph) :
    (linkImports nodes g).nodes = g.nodes := by
  induction nodes generalizing g with
  | nil => rfl
  | cons n nodes ih => exact (ih _).trans (nodes_foldl_link g n.path _)

theorem mem_links_linkImports {nodes : List FileNode} {g : Graph} {l : Link} :
    l ∈ (linkImports nodes g).links ↔ l ∈ g.links ∨
      ∃ n ∈ nodes, n.path = l.importer ∧ l.target ∈ n.dependencies ∧ l.importer ≠ l.target := by
  induction nodes generalizing g with
  | nil => simp [linkImports]
  | cons n nodes ih =>
    have htargets : l.target ∈ n.imports.filterMap (·.target?) ↔ l.target ∈ n.dependencies := by
      rw [FileNode.dependencies, mem_eraseDups]
    have hstep : linkImports (n :: nodes) g = linkImports nodes
        ((n.imports.filterMap (·.target?)).foldl (fun g target => g.link n.path target) g) := rfl
    rw [hstep, ih, mem_links_foldl_link, htargets]
    simp [or_assoc]

variable {f : Text → FileNode} {paths : List Text} {path target : Text}

theorem mem_links_ofNodes (hf : ∀ path ∈ paths, (f path).path = path) :
    ⟨target, path⟩ ∈ (ofNodes (paths.map f)).links ↔
      path ∈ paths ∧ target ∈ (f path).dependencies ∧ path ≠ target := by
  have hof : ofNodes (paths.map f) =
      (linkImports (paths.map f) ((paths.map f).foldl addNode empty)).syncDependents := rfl
  rw [hof, links_syncDependents, mem_links_linkImports, links_foldl_addNode]
  constructor
  · rintro (h | ⟨n, hn, hpath, htarget, hne⟩)
    · simp [empty] at h
    · obtain ⟨p, hp, rfl⟩ := mem_map.mp hn
      obtain rfl : p = path := (hf p hp).symm.trans hpath
      exact ⟨hp, htarget, hne⟩
  · rintro ⟨hp, htarget, hne⟩
    exact Or.inr ⟨f path, mem_map_of_mem hp, hf path hp, htarget, hne⟩

theorem nodes_ofNodes (hf : ∀ path ∈ paths, (f path).path = path)
    (hkey : ∀ path ∈ paths, key path = path) (hfresh : ∀ path ∈ paths, (f path).dependents = [])
    (path : Text) :
    (ofNodes (paths.map f)).nodes[path]? =
      if path ∈ paths then
        some { f path with dependents := (ofNodes (paths.map f)).importersOf path }
      else none := by
  have hof : ofNodes (paths.map f) =
      (linkImports (paths.map f) ((paths.map f).foldl addNode empty)).syncDependents := rfl
  have hentered : (linkImports (paths.map f) ((paths.map f).foldl addNode empty)).nodes[path]? =
      if path ∈ paths then some (f path) else none := by
    have hempty : empty.nodes[path]? = none := by simp [empty]
    rw [nodes_linkImports, nodes_foldl_addNode ?_, hempty]
    intro p hp
    rw [hf p hp]
    exact ⟨hkey p hp, rfl⟩
  rw [hof, nodes_syncDependents_of_fresh ?_, hentered]
  · split <;> rfl
  · intro n hn
    rw [hentered] at hn
    split at hn
    · next hp =>
      obtain rfl := Option.some.inj hn
      exact hfresh path hp
    · cases hn

/-- The node of a file among the files of a list, before its dependents are known. -/
def fileNode (settings : GraphSettings) (read : Contents) (files : List Text) (path : Text) :
    FileNode :=
  resolveNode settings.aliases (files.map key).eraseDups.contains (outlineNode read path)

variable {settings : GraphSettings} {read : Contents} {files : List Text}

@[simp] theorem path_outlineNode (read : Contents) (path : Text) :
    (outlineNode read path).path = path := by
  unfold outlineNode
  split <;> rfl

@[simp] theorem path_fileNode : (fileNode settings read files path).path = path :=
  path_outlineNode read path

theorem dependents_fileNode : (fileNode settings read files path).dependents = [] := by
  simp only [fileNode, resolveNode, outlineNode]
  split <;> rfl

theorem known_of_resolve? {aliases : List Alias} {known : Text → Bool} {importer specifier : Text}
    (h : resolve? aliases known importer specifier = some target) : known target = true := by
  simp only [resolve?] at h
  split at h
  · cases h
  · obtain ⟨collapsed, -, hfind⟩ := Option.bind_eq_some_iff.mp h
    exact find?_some hfind

theorem target_of_fileNode {i : Import} (hi : i ∈ (fileNode settings read files path).imports)
    (ht : i.target? = some target) : target ∈ files.map key ∧ target ≠ path := by
  obtain ⟨j, -, rfl⟩ := mem_map.mp hi
  obtain ⟨hresolve, hne⟩ := Option.filter_eq_some_iff.mp ht
  have hknown := known_of_resolve? hresolve
  exact ⟨by simpa [mem_eraseDups] using hknown, by simpa using hne⟩

theorem mem_keys_of_dependency (h : target ∈ (fileNode settings read files path).dependencies) :
    target ∈ files.map key ∧ target ≠ path := by
  obtain ⟨i, hi, ht⟩ := mem_dependencies.mp h
  exact target_of_fileNode hi ht

theorem key_of_mem_keys (h : path ∈ files.map key) : key path = path := by
  obtain ⟨file, -, rfl⟩ := mem_map.mp h
  exact key_key file

theorem build_eq_ofNodes (settings : GraphSettings) (read : Contents) (files : List Text) :
    build settings read files =
      ofNodes ((files.map key).eraseDups.map (fileNode settings read files)) := by
  rw [build, outlineNodes_eq_map, map_map]
  rfl

/-- The links of the built graph are the dependencies of the files. -/
theorem mem_links_build :
    ⟨target, path⟩ ∈ (build settings read files).links ↔
      path ∈ files.map key ∧ target ∈ (fileNode settings read files path).dependencies := by
  rw [build_eq_ofNodes, mem_links_ofNodes fun path _ => path_fileNode, mem_eraseDups]
  constructor
  · rintro ⟨hpath, htarget, -⟩
    exact ⟨hpath, htarget⟩
  · rintro ⟨hpath, htarget⟩
    exact ⟨hpath, htarget, (mem_keys_of_dependency htarget).2.symm⟩

/-- The nodes of the built graph are those of the files, with the files that link to them. -/
theorem nodes_build (settings : GraphSettings) (read : Contents) (files : List Text) (path : Text) :
    (build settings read files).nodes[path]? =
      if path ∈ files.map key then
        some { fileNode settings read files path with
          dependents := (build settings read files).importersOf path }
      else none := by
  have hkey : ∀ path ∈ (files.map key).eraseDups, key path = path :=
    fun path hp => key_of_mem_keys (mem_eraseDups.mp hp)
  rw [build_eq_ofNodes, nodes_ofNodes (fun path _ => path_fileNode) hkey fun path _ => dependents_fileNode]
  simp only [mem_eraseDups]

end RepoAtlas.Graph
