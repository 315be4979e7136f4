import RepoAtlas.Graph.Reach
import RepoAtlas.Proofs.Graph.Constructed

/-! # The reach of a change -/

namespace RepoAtlas

open List

namespace Graph

open RepoAtlas.Path

/-! ## Chains -/

/-- A chain of `k` imports leads from a file to a target. -/
inductive Chain (g : Graph) : Nat → Text → Text → Prop
  | refl (path : Text) : Chain g 0 path path
  | step {k path importer target} (h : Chain g k path importer) (hl : ⟨target, importer⟩ ∈ g.links) :
      Chain g (k + 1) path target

variable {g : Graph} {depth hops k n : Nat} {level seen : List Text} {path importer target : Text}

/-! ## Levels -/

def nextLevel (g : Graph) : List Text → List Text → List Text
  | [], _ => []
  | path :: level, seen =>
    let found := g.unseenImporters path seen
    found ++ g.nextLevel level (seen ++ found)

def reach (g : Graph) : Nat → List Text → List Text → List Text
  | 0, _, seen => seen
  | n + 1, level, seen => g.reach n (g.nextLevel level seen) (seen ++ g.nextLevel level seen)

theorem walk_nil (g : Graph) (depth : Nat) (seen : List Text) : g.walk depth [] seen = seen := by
  rw [walk]

theorem walk_cons_of_le (h : depth ≤ hops) (path : Text) (queue : List (Text × Nat))
    (seen : List Text) : g.walk depth ((path, hops) :: queue) seen = g.walk depth queue seen := by
  rw [walk, if_pos h]

theorem walk_cons_of_lt (h : hops < depth) (path : Text) (queue : List (Text × Nat))
    (seen : List Text) :
    g.walk depth ((path, hops) :: queue) seen =
      g.walk depth (queue ++ (g.unseenImporters path seen).map fun importer => (importer, hops + 1))
        (seen ++ g.unseenImporters path seen) := by
  rw [walk, if_neg (Nat.not_le.mpr h)]

/-- A walk leaves a whole level before it leaves any file of the next one. -/
theorem walk_level (g : Graph) (h : hops < depth) (level found seen : List Text) :
    g.walk depth (level.map (·, hops) ++ found.map (·, hops + 1)) seen =
      g.walk depth ((found ++ g.nextLevel level seen).map (·, hops + 1))
        (seen ++ g.nextLevel level seen) := by
  induction level generalizing found seen with
  | nil => simp [nextLevel]
  | cons path level ih =>
    rw [map_cons, cons_append, walk_cons_of_lt h, append_assoc, ← map_append, ih]
    simp only [nextLevel, append_assoc]

theorem walk_eq_seen (h : depth ≤ hops) (level seen : List Text) :
    g.walk depth (level.map (·, hops)) seen = seen := by
  induction level with
  | nil => exact walk_nil g depth seen
  | cons path level ih => rw [map_cons, walk_cons_of_le h, ih]

theorem walk_eq_reach (g : Graph) (n hops : Nat) (level seen : List Text) :
    g.walk (hops + n) (level.map (·, hops)) seen = g.reach n level seen := by
  induction n generalizing hops level seen with
  | zero => exact walk_eq_seen (Nat.le_refl hops) level seen
  | succ n ih =>
    have hlt : hops < hops + (n + 1) := by omega
    have hlevel := g.walk_level hlt level [] seen
    rw [map_nil, append_nil, nil_append] at hlevel
    rw [hlevel, reach, ← ih, Nat.add_right_comm hops 1 n, Nat.add_assoc hops n 1]

/-! ## The front of a walk -/

/-- The walk has come to the files `seen`, which are keys, and has left those that are not in the level. -/
structure Front (g : Graph) (level seen : List Text) : Prop where
  subset : level ⊆ seen
  key_eq : ∀ path ∈ seen, key path = path
  left : ∀ l ∈ g.links, l.target ∈ seen → l.target ∉ level → l.importer ∈ seen

theorem mem_unseenImporters (hkey : key path = path) :
    importer ∈ g.unseenImporters path seen ↔ ⟨path, importer⟩ ∈ g.links ∧ importer ∉ seen := by
  simp [unseenImporters, mem_dependentsOf, hkey]

theorem mem_nextLevel (hkeys : ∀ path ∈ level, key path = path) :
    importer ∈ g.nextLevel level seen ↔ (∃ path ∈ level, ⟨path, importer⟩ ∈ g.links) ∧ importer ∉ seen := by
  induction level generalizing seen with
  | nil => simp [nextLevel]
  | cons path level ih =>
    have hlevel := fun s => @ih s fun p hp => hkeys p (mem_cons_of_mem path hp)
    simp only [nextLevel, mem_append, mem_unseenImporters (hkeys path mem_cons_self), hlevel, mem_cons,
      exists_eq_or_imp]
    by_cases hseen : importer ∈ seen
    · simp [hseen]
    · by_cases hlink : (⟨path, importer⟩ : Link) ∈ g.links <;> simp [hseen, hlink]

theorem nodup_append_nextLevel (g : Graph) (level : List Text) (h : seen.Nodup) :
    (seen ++ g.nextLevel level seen).Nodup := by
  induction level generalizing seen with
  | nil => simpa [nextLevel] using h
  | cons path level ih =>
    have hfound : (g.unseenImporters path seen).Nodup :=
      (ascending_importersOf g (key path)).nodup.filter _
    have hboth : (seen ++ g.unseenImporters path seen).Nodup := by
      apply h.append hfound
      intro p hp hf
      simp [unseenImporters, hp] at hf
    rw [nextLevel, ← append_assoc]
    exact ih hboth

variable (hends : ∀ l ∈ g.links, key l.importer = l.importer)

include hends in
theorem Front.next (h : g.Front level seen) :
    g.Front (g.nextLevel level seen) (seen ++ g.nextLevel level seen) := by
  have hlevel : ∀ path ∈ level, key path = path := fun path hp => h.key_eq path (h.subset hp)
  have hnext : ∀ {importer}, importer ∈ g.nextLevel level seen ↔
      (∃ path ∈ level, ⟨path, importer⟩ ∈ g.links) ∧ importer ∉ seen := mem_nextLevel hlevel
  refine ⟨subset_append_right _ _, ?key_eq, ?left⟩
  case key_eq =>
    intro path hpath
    rcases mem_append.mp hpath with hpath | hpath
    · exact h.key_eq path hpath
    · obtain ⟨⟨target, -, hl⟩, -⟩ := hnext.mp hpath
      exact hends _ hl
  case left =>
    intro l hl ht hnot
    have hseen : l.target ∈ seen := (mem_append.mp ht).resolve_right hnot
    by_cases hold : l.importer ∈ seen
    · exact mem_append_left _ hold
    · have hin : l.target ∈ level := by
        by_contra hout
        exact hold (h.left l hl hseen hout)
      exact mem_append_right _ (hnext.mpr ⟨⟨l.target, hin, hl⟩, hold⟩)

include hends in
/-- Within `n` more hops a walk comes to the files that a chain of at most `n` imports leads from, to one
of the files that it has come to already. -/
theorem mem_reach (h : g.Front level seen) :
    path ∈ g.reach n level seen ↔ ∃ k target, k ≤ n ∧ target ∈ seen ∧ g.Chain k path target := by
  induction n generalizing level seen with
  | zero =>
    constructor
    · intro hpath
      exact ⟨0, path, Nat.le_refl 0, hpath, .refl path⟩
    · rintro ⟨k, target, hk, htarget, hchain⟩
      cases hchain with
      | refl => exact htarget
      | step hchain hl => omega
  | succ n ih =>
    have hfront := h.next hends
    have hnext : ∀ {importer}, importer ∈ g.nextLevel level seen ↔
        (∃ path ∈ level, ⟨path, importer⟩ ∈ g.links) ∧ importer ∉ seen :=
      mem_nextLevel fun path hp => h.key_eq path (h.subset hp)
    rw [reach, ih hfront]
    constructor
    · rintro ⟨k, target, hk, htarget, hchain⟩
      rcases mem_append.mp htarget with htarget | htarget
      · exact ⟨k, target, by omega, htarget, hchain⟩
      · obtain ⟨⟨next, hin, hl⟩, -⟩ := hnext.mp htarget
        exact ⟨k + 1, next, by omega, h.subset hin, hchain.step hl⟩
    · rintro ⟨k, target, hk, htarget, hchain⟩
      cases hchain with
      | refl => exact ⟨0, path, by omega, mem_append_left _ htarget, .refl path⟩
      | @step k _ importer _ hchain hl =>
        -- the last import of the chain leads from a file that the walk comes to on the next level
        refine ⟨k, importer, by omega, ?_, hchain⟩
        by_cases hin : target ∈ level
        · by_cases hold : importer ∈ seen
          · exact mem_append_left _ hold
          · exact mem_append_right _ (hnext.mpr ⟨⟨target, hin, hl⟩, hold⟩)
        · exact mem_append_left _ (h.left _ hl htarget hin)

/-! ## The walk runs out of files -/

theorem reach_nil (g : Graph) (n : Nat) (seen : List Text) : g.reach n [] seen = seen := by
  induction n with
  | zero => rfl
  | succ n ih => rw [reach, nextLevel, append_nil, ih]

theorem reach_of_nextLevel_eq_nil (h : g.nextLevel level seen = []) (n : Nat) :
    g.reach n level seen = seen := by
  cases n with
  | zero => rfl
  | succ n => rw [reach, h, append_nil, reach_nil]

theorem append_nextLevel_subset {files : List Text} (h : g.Front level seen)
    (hfiles : ∀ l ∈ g.links, l.importer ∈ files) (hseen : seen ⊆ files) :
    seen ++ g.nextLevel level seen ⊆ files := by
  apply append_subset.mpr ⟨hseen, ?_⟩
  intro importer himporter
  obtain ⟨⟨path, -, hl⟩, -⟩ := (mem_nextLevel fun path hp => h.key_eq path (h.subset hp)).mp himporter
  exact hfiles _ hl

include hends in
/-- A walk has no more levels than there are files that it has not come to, so it comes to nothing new by
further hops. -/
theorem reach_eq_reach (files : List Text) (h : g.Front level seen)
    (hfiles : ∀ l ∈ g.links, l.importer ∈ files) (hseen : seen ⊆ files) (hnodup : seen.Nodup)
    (hn : files.length ≤ n + seen.length) {m : Nat} (hm : n ≤ m) :
    g.reach m level seen = g.reach n level seen := by
  induction n generalizing level seen m with
  | zero =>
    have hlen := (subperm_of_subset (g.nodup_append_nextLevel level hnodup)
      (append_nextLevel_subset h hfiles hseen)).length_le
    rw [length_append] at hlen
    have hnil : g.nextLevel level seen = [] := length_eq_zero_iff.mp (by omega)
    rw [reach_of_nextLevel_eq_nil hnil, reach_of_nextLevel_eq_nil hnil]
  | succ n ih =>
    obtain ⟨m, rfl⟩ : ∃ i, m = i + 1 := ⟨m - 1, by omega⟩
    by_cases hnil : g.nextLevel level seen = []
    · rw [reach_of_nextLevel_eq_nil hnil, reach_of_nextLevel_eq_nil hnil]
    · have hpos := length_pos_iff.mpr hnil
      rw [reach, reach]
      apply ih (h.next hends) (append_nextLevel_subset h hfiles hseen)
        (g.nodup_append_nextLevel level hnodup) _ (by omega)
      rw [length_append]
      omega

/-! ## Transitive dependents -/

omit hends in
theorem transitiveDependents_eq (g : Graph) (file : Text) (depth : Nat) :
    g.transitiveDependents file depth =
      Text.ascending ((g.reach depth [key file] [key file]).filter fun path => path != key file) := by
  have hwalk := g.walk_eq_reach depth 0 [key file] [key file]
  rw [Nat.zero_add] at hwalk
  rw [← hwalk]
  rfl

theorem front_singleton (hkey : key path = path) : g.Front [path] [path] :=
  ⟨Subset.refl _, by simpa using hkey, fun l _ ht hnot => absurd ht hnot⟩

/-- The walk from a file comes to the files that lead to it, within any number of hops. -/
structure Reaches (g : Graph) (file : Text) : Prop where
  ascending : ∀ depth, Text.Ascending (g.transitiveDependents file depth)
  /-- A file is reached if a chain of imports leads from it to the start and is not too long. -/
  mem_iff : ∀ depth path, path ∈ g.transitiveDependents file depth ↔
    path ≠ key file ∧ ∃ k, 1 ≤ k ∧ k ≤ depth ∧ g.Chain k path (key file)
  mono : ∀ depth most, depth ≤ most →
    g.transitiveDependents file depth ⊆ g.transitiveDependents file most
  /-- As many hops as there are nodes reach all that can be reached. -/
  stable : ∀ depth most, g.nodeCount ≤ depth → depth ≤ most →
    g.transitiveDependents file depth = g.transitiveDependents file most

theorem mem_transitiveDependents (hends : ∀ l ∈ g.links, key l.importer = l.importer) {file : Text} :
    path ∈ g.transitiveDependents file depth ↔
      path ≠ key file ∧ ∃ k, 1 ≤ k ∧ k ≤ depth ∧ g.Chain k path (key file) := by
  rw [transitiveDependents_eq, Text.mem_ascending, mem_filter, mem_reach hends (front_singleton (key_key file))]
  simp only [bne_iff_ne, mem_singleton]
  constructor
  · rintro ⟨⟨k, target, hk, rfl, hchain⟩, hne⟩
    refine ⟨hne, k, ?_, hk, hchain⟩
    cases hchain with
    | refl => exact absurd rfl hne
    | step hchain hl => omega
  · rintro ⟨hne, k, -, hk, hchain⟩
    exact ⟨⟨k, key file, hk, rfl, hchain⟩, hne⟩

theorem transitiveDependents_stable (hends : ∀ l ∈ g.links, key l.importer = l.importer)
    (hnodes : ∀ l ∈ g.links, l.target ∈ g.paths ∧ l.importer ∈ g.paths) (file : Text) {most : Nat}
    (hcount : g.nodeCount ≤ depth) (hle : depth ≤ most) :
    g.transitiveDependents file depth = g.transitiveDependents file most := by
  rw [transitiveDependents_eq, transitiveDependents_eq]
  congr 2
  by_cases hstart : key file ∈ g.paths
  · symm
    refine reach_eq_reach hends g.paths (front_singleton (key_key file)) ?_ ?_ (by simp) ?_ hle
    · exact fun l hl => (hnodes l hl).2
    · simpa using hstart
    · rw [paths, Std.ExtTreeMap.length_keys]
      exact Nat.le_succ_of_le hcount
  · have hnil : g.nextLevel [key file] [key file] = [] := by
      apply eq_nil_iff_forall_not_mem.mpr
      intro importer himporter
      obtain ⟨⟨target, ht, hl⟩, -⟩ := (mem_nextLevel (by simp [key_key])).mp himporter
      obtain rfl := mem_singleton.mp ht
      exact hstart (hnodes _ hl).1
    rw [reach_of_nextLevel_eq_nil hnil, reach_of_nextLevel_eq_nil hnil]

/-- In every graph that comes about the bounded walk finds the bounded chains of imports. -/
theorem reaches_of_constructed (h : g.Constructed) (file : Text) : g.Reaches file := by
  obtain ⟨d, hd⟩ := h.exists_shows
  have hnodes : ∀ l ∈ g.links, l.target ∈ g.paths ∧ l.importer ∈ g.paths := by
    intro l hl
    rw [paths, Std.ExtTreeMap.mem_keys, Std.ExtTreeMap.mem_keys, hd.mem_nodes, hd.mem_nodes]
    exact hd.ends l ((hd.mem_links l).mp hl)
  have hkeys : ∀ l ∈ g.links, key l.importer = l.importer := by
    intro l hl
    exact hd.key_eq _ (hd.ends l ((hd.mem_links l).mp hl)).2
  constructor
  case ascending =>
    intro depth
    exact Text.ascending_ascending _
  case mem_iff =>
    intro depth path
    exact mem_transitiveDependents hkeys
  case mono =>
    intro depth most hle path hpath
    rw [mem_transitiveDependents hkeys] at hpath ⊢
    obtain ⟨hne, k, hpos, hk, hchain⟩ := hpath
    exact ⟨hne, k, hpos, Nat.le_trans hk hle, hchain⟩
  case stable =>
    intro depth most
    exact transitiveDependents_stable hkeys hnodes file

/-- Three files import each other in a circle, and a fourth one imports into it. -/
theorem reaches_of_constructed_circle :
    ∃ g : Graph, g.Constructed ∧ g.Reaches ['a'] ∧ g.transitiveDependents ['a'] 1 = [['c']] ∧
      g.transitiveDependents ['a'] 9 = [['b'], ['c'], ['d']] := by
  let steps : List Step :=
    [.edge ['a'] ['b'], .edge ['b'] ['c'], .edge ['c'] ['a'], .edge ['d'] ['c']]
  have hg : (ofSteps steps).Constructed := constructed_ofSteps steps
  exact ⟨ofSteps steps, hg, reaches_of_constructed hg ['a'], by decide +kernel, by decide +kernel⟩

end Graph

end RepoAtlas
