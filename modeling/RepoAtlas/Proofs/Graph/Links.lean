import RepoAtlas.Graph.Basic
import Mathlib.Algebra.GroupWithZero.Nat
import Mathlib.Data.List.Nodup

/-! # Nodes and links of a graph -/

namespace RepoAtlas

open List

def Text.Ascending (texts : List Text) : Prop :=
  texts.Pairwise fun a b => compare a b = .lt

theorem Text.mem_ascending {t : Text} {texts : List Text} : t ∈ ascending texts ↔ t ∈ texts := by
  simp [ascending, Std.ExtTreeSet.mem_toList, Std.ExtTreeSet.mem_ofList]

theorem Text.ascending_ascending (texts : List Text) : Text.Ascending (ascending texts) :=
  Std.ExtTreeSet.ordered_toList

theorem Text.Ascending.nodup {ts : List Text} (h : Text.Ascending ts) : ts.Nodup := by
  apply h.imp
  rintro a b hab rfl
  simp at hab

/-- An ascending list is determined by its members. -/
theorem Text.Ascending.eq_of_mem_iff {ts us : List Text} (ht : Text.Ascending ts)
    (hu : Text.Ascending us) (h : ∀ t, t ∈ ts ↔ t ∈ us) : ts = us := by
  apply ((perm_ext_iff_of_nodup ht.nodup hu.nodup).mpr h).eq_of_pairwise ?_ ht hu
  intro a b _ _ hab hba
  exact absurd hba (Std.OrientedCmp.not_lt_of_lt hab)

theorem Link.order_of_target_eq {a b : Link} (h : a.target = b.target) :
    Link.order a b = compare a.importer b.importer := by
  simp [Link.order, compareLex, compareOn, h]

namespace Graph

open RepoAtlas.Path

variable {g : Graph} {importer target path : Text} {l : Link}

theorem nodup_links (g : Graph) : g.links.toList.Nodup := by
  apply (Std.ExtTreeSet.distinct_toList (t := g.links)).imp
  rintro a b hab rfl
  exact hab Std.ReflCmp.compare_self

theorem mem_importersOf : importer ∈ g.importersOf target ↔ ⟨target, importer⟩ ∈ g.links := by
  simp only [importersOf, mem_map, mem_filter, Std.ExtTreeSet.mem_toList, beq_iff_eq]
  constructor
  · rintro ⟨⟨t, f⟩, ⟨hl, rfl⟩, rfl⟩
    exact hl
  · intro hl
    exact ⟨⟨target, importer⟩, ⟨hl, rfl⟩, rfl⟩

theorem mem_dependentsOf : importer ∈ g.dependentsOf path ↔ ⟨key path, importer⟩ ∈ g.links :=
  mem_importersOf

theorem ascending_importersOf (g : Graph) (target : Text) : Text.Ascending (g.importersOf target) := by
  have hlinks : (g.links.toList.filter fun l => l.target == target).Pairwise
      fun a b => Link.order a b = .lt := (Std.ExtTreeSet.ordered_toList (t := g.links)).filter _
  apply pairwise_map.mpr
  apply hlinks.imp_of_mem
  intro a b ha hb hab
  have hta : a.target = target := by simpa using (mem_filter.mp ha).2
  have htb : b.target = target := by simpa using (mem_filter.mp hb).2
  rwa [Link.order_of_target_eq (hta.trans htb.symm)] at hab

theorem mem_targets : target ∈ g.targets ↔ ∃ importer, ⟨target, importer⟩ ∈ g.links := by
  simp only [targets, Text.mem_ascending, mem_map, Std.ExtTreeSet.mem_toList]
  constructor
  · rintro ⟨⟨t, f⟩, hl, rfl⟩
    exact ⟨f, hl⟩
  · rintro ⟨f, hl⟩
    exact ⟨⟨target, f⟩, hl, rfl⟩

theorem mem_reverse {importers : List Text} :
    (target, importers) ∈ g.reverse ↔
      (∃ importer, ⟨target, importer⟩ ∈ g.links) ∧ importers = g.importersOf target := by
  simp only [reverse, mem_map, mem_targets]
  constructor
  · rintro ⟨t, hl, he⟩
    cases he
    exact ⟨hl, rfl⟩
  · rintro ⟨hl, rfl⟩
    exact ⟨target, hl, rfl⟩

/-- Links can be counted along any list whose entries show each of them once. -/
theorem size_links_eq_sum {α : Type*} {entries : List α} {linksOf : α → List Link}
    (hnodup : (entries.flatMap linksOf).Nodup) (hmem : ∀ l, l ∈ g.links ↔ ∃ e ∈ entries, l ∈ linksOf e) :
    g.links.size = (entries.map fun e => (linksOf e).length).sum := by
  have hperm : g.links.toList ~ entries.flatMap linksOf := by
    apply (perm_ext_iff_of_nodup (nodup_links g) hnodup).mpr
    intro l
    rw [Std.ExtTreeSet.mem_toList, hmem, mem_flatMap]
  rw [← Std.ExtTreeSet.length_toList, hperm.length_eq, length_flatMap]

theorem edgeCount_eq_size (g : Graph) : g.edgeCount = g.links.size := by
  let linksOf (target : Text) : List Link := (g.importersOf target).map fun importer => ⟨target, importer⟩
  have hnodup : (g.targets.flatMap linksOf).Nodup := by
    apply nodup_flatMap.mpr
    constructor
    · intro target _
      apply (ascending_importersOf g target).nodup.map
      intro a b hab
      exact congrArg Link.importer hab
    · apply (Text.ascending_ascending _).nodup.imp
      intro a b hab l hla hlb
      obtain ⟨_, -, rfl⟩ := mem_map.mp hla
      obtain ⟨_, -, hl⟩ := mem_map.mp hlb
      exact hab (congrArg Link.target hl).symm
  have hmem : ∀ l, l ∈ g.links ↔ ∃ target ∈ g.targets, l ∈ linksOf target := by
    intro l
    constructor
    · intro hl
      exact ⟨l.target, mem_targets.mpr ⟨l.importer, hl⟩, mem_map.mpr ⟨_, mem_importersOf.mpr hl, rfl⟩⟩
    · rintro ⟨target, -, hl⟩
      obtain ⟨importer, himporter, rfl⟩ := mem_map.mp hl
      exact mem_importersOf.mp himporter
  rw [size_links_eq_sum hnodup hmem, edgeCount, reverse, foldr_map, sum_eq_foldr, foldr_map]
  simp only [linksOf, length_map]

@[simp] theorem links_addNode (g : Graph) (n : FileNode) : (g.addNode n).links = g.links := rfl

theorem nodes_addNode (g : Graph) (n : FileNode) (path : Text) :
    (g.addNode n).nodes[path]? =
      if key n.path = path then some { n with path := key n.path } else g.nodes[path]? := by
  simp [addNode, Std.ExtTreeMap.getElem?_insert]

@[simp] theorem nodes_link (g : Graph) (importer target : Text) :
    (g.link importer target).nodes = g.nodes := by
  unfold link
  split <;> rfl

theorem mem_links_link :
    l ∈ (g.link importer target).links ↔ l ∈ g.links ∨ importer ≠ target ∧ l = ⟨target, importer⟩ := by
  unfold link
  by_cases h : importer = target
  · simp [h]
  · have hl : (⟨target, importer⟩ : Link) = l ↔ l = ⟨target, importer⟩ := eq_comm
    simp [h, Std.ExtTreeSet.mem_insert, hl, or_comm]

@[simp] theorem links_syncDependents (g : Graph) : g.syncDependents.links = g.links := rfl

theorem getElem?_foldl_modify (dependents : Text → List Text) (targets : List Text)
    (nodes : Std.ExtTreeMap Text FileNode compare) (path : Text) :
    ((targets.map fun t => (t, dependents t)).foldl (fun nodes (target, importers) =>
      nodes.modify target fun n => { n with dependents := importers }) nodes)[path]? =
      nodes[path]?.map fun n => if path ∈ targets then { n with dependents := dependents path } else n := by
  induction targets generalizing nodes with
  | nil => simp
  | cons target targets ih =>
    rw [map_cons, foldl_cons, ih, Std.ExtTreeMap.getElem?_modify]
    by_cases htarget : target = path
    · subst htarget
      cases nodes[target]? <;> simp
    · have hcompare : compare target path ≠ .eq := by simpa using htarget
      simp [hcompare, Ne.symm htarget]

/-- Just the nodes that others import have other dependents afterwards. -/
theorem nodes_syncDependents (g : Graph) (path : Text) :
    g.syncDependents.nodes[path]? = g.nodes[path]?.map fun n =>
      if path ∈ g.targets then { n with dependents := g.importersOf path } else n :=
  getElem?_foldl_modify g.importersOf g.targets g.nodes path

theorem importersOf_eq_nil (h : target ∉ g.targets) : g.importersOf target = [] := by
  apply eq_nil_iff_forall_not_mem.mpr
  intro importer himporter
  exact h (mem_targets.mpr ⟨importer, mem_importersOf.mp himporter⟩)

/-- Nodes that come in without dependents have those of the links afterwards. -/
theorem nodes_syncDependents_of_fresh (h : ∀ n, g.nodes[path]? = some n → n.dependents = []) :
    g.syncDependents.nodes[path]? =
      g.nodes[path]?.map fun n => { n with dependents := g.importersOf path } := by
  rw [nodes_syncDependents]
  cases hnode : g.nodes[path]? with
  | none => rfl
  | some n =>
    by_cases htarget : path ∈ g.targets
    · simp [htarget]
    · have hsame : { n with dependents := [] } = n := by rw [← h n hnode]
      simp [htarget, importersOf_eq_nil htarget, hsame]

end Graph

end RepoAtlas
