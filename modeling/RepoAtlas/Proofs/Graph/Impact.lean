import RepoAtlas.Graph.Impact
import RepoAtlas.Proofs.Graph.Reach

/-! # The impact of a change -/

namespace RepoAtlas

open List

/-! ## Radii -/

namespace Radius

theorem level_ofScore (score : Nat) :
    (ofScore score).level =
      (if 5 ≤ score then 1 else 0) + (if 15 ≤ score then 1 else 0) + if 40 ≤ score then 1 else 0 := by
  unfold ofScore criticalFrom
  grind [level]

theorem level_ofScore_mono {m n : Nat} (h : m ≤ n) : (ofScore m).level ≤ (ofScore n).level := by
  have hthreshold (threshold : Nat) :
      (if threshold ≤ m then 1 else 0) ≤ if threshold ≤ n then 1 else 0 := by
    split <;> split <;> omega
  rw [level_ofScore, level_ofScore]
  exact Nat.add_le_add (Nat.add_le_add (hthreshold 5) (hthreshold 15)) (hthreshold 40)

end Radius

/-! ## Impacts -/

structure Impact.LiesWithin (i j : Impact) : Prop where
  score_le : i.score ≤ j.score
  radius_le : i.radius.level ≤ j.radius.level
  direct_subset : i.direct ⊆ j.direct
  dependents_subset : i.direct ++ i.indirect ⊆ j.direct ++ j.indirect

namespace Graph

open RepoAtlas.Path

variable {g g' : Graph} {k depth : Nat} {file path importer target : Text} {direct : List Text}

/-! ## Short chains -/

theorem chain_one_iff : g.Chain 1 path target ↔ ⟨target, path⟩ ∈ g.links := by
  constructor
  · intro h
    cases h with
    | step h hl =>
      cases h with
      | refl => exact hl
  · intro hl
    exact (Chain.refl path).step hl

theorem chain_two_iff :
    g.Chain 2 path target ↔ ∃ importer, ⟨importer, path⟩ ∈ g.links ∧ ⟨target, importer⟩ ∈ g.links := by
  constructor
  · intro h
    cases h with
    | @step _ _ importer _ h hl => exact ⟨importer, chain_one_iff.mp h, hl⟩
  · rintro ⟨importer, hfirst, hl⟩
    exact (chain_one_iff.mpr hfirst).step hl

/-! ## Dependents -/

theorem mem_indirectDependents (hkeys : ∀ p ∈ direct, key p = p) :
    path ∈ g.indirectDependents file direct ↔
      (∃ importer ∈ direct, ⟨importer, path⟩ ∈ g.links) ∧ path ≠ file ∧ path ∉ direct := by
  have hlinks : path ∈ direct.flatMap g.dependentsOf ↔ ∃ importer ∈ direct, ⟨importer, path⟩ ∈ g.links := by
    rw [mem_flatMap]
    constructor
    · rintro ⟨importer, himporter, hl⟩
      exact ⟨importer, himporter, hkeys importer himporter ▸ mem_dependentsOf.mp hl⟩
    · rintro ⟨importer, himporter, hl⟩
      exact ⟨importer, himporter, mem_dependentsOf.mpr ((hkeys importer himporter).symm ▸ hl)⟩
  simp [indirectDependents, Text.mem_ascending, hlinks]

theorem direct_impact (g : Graph) (file : Text) (files : List Text) :
    (g.impact file files).direct = g.dependentsOf file := by
  rw [dependentsOf, ← key_key file]
  rfl

theorem indirect_impact (g : Graph) (file : Text) (files : List Text) :
    (g.impact file files).indirect = g.indirectDependents (key file) (g.impact file files).direct :=
  rfl

section

variable (h : g.Constructed)

include h

theorem Constructed.mem_transitiveDependents :
    path ∈ g.transitiveDependents file depth ↔
      path ≠ key file ∧ ∃ k, 1 ≤ k ∧ k ≤ depth ∧ g.Chain k path (key file) :=
  Graph.mem_transitiveDependents fun _ hl => (h.key_of_link hl).2

theorem Constructed.dependentsOf_eq (file : Text) : g.dependentsOf file = g.transitiveDependents file 1 := by
  have hwalk : Text.Ascending (g.transitiveDependents file 1) := Text.ascending_ascending _
  apply (ascending_importersOf g (key file)).eq_of_mem_iff hwalk
  intro path
  rw [h.mem_transitiveDependents, mem_importersOf]
  constructor
  · intro hl
    exact ⟨h.importer_ne_target hl, 1, Nat.le_refl 1, Nat.le_refl 1, chain_one_iff.mpr hl⟩
  · rintro ⟨-, k, hpos, hle, hchain⟩
    obtain rfl : k = 1 := Nat.le_antisymm hle hpos
    exact chain_one_iff.mp hchain

theorem Constructed.mem_indirect_impact (files : List Text) :
    path ∈ (g.impact file files).indirect ↔
      g.Chain 2 path (key file) ∧ path ≠ key file ∧ path ∉ g.dependentsOf file := by
  have hkeys : ∀ p ∈ g.dependentsOf file, key p = p :=
    fun p hp => (h.key_of_link (mem_dependentsOf.mp hp)).2
  rw [indirect_impact, direct_impact, mem_indirectDependents hkeys, chain_two_iff]
  simp only [mem_dependentsOf, and_comm]

theorem Constructed.mem_two_hops (files : List Text) :
    path ∈ g.transitiveDependents file 2 ↔
      path ∈ (g.impact file files).direct ∨ path ∈ (g.impact file files).indirect := by
  rw [h.mem_transitiveDependents, h.mem_indirect_impact, direct_impact, mem_dependentsOf]
  constructor
  · rintro ⟨hne, k, hpos, hle, hchain⟩
    by_cases hl : ⟨key file, path⟩ ∈ g.links
    · exact Or.inl hl
    · obtain rfl | rfl : k = 1 ∨ k = 2 := by omega
      · exact absurd (chain_one_iff.mp hchain) hl
      · exact Or.inr ⟨hchain, hne, hl⟩
  · rintro (hl | ⟨hchain, hne, -⟩)
    · exact ⟨h.importer_ne_target hl, 1, by omega, by omega, chain_one_iff.mpr hl⟩
    · exact ⟨hne, 2, by omega, by omega, hchain⟩

theorem Constructed.disjoint_impact (file : Text) (files : List Text) :
    (g.impact file files).direct.Disjoint (g.impact file files).indirect := by
  intro path hdirect hindirect
  rw [direct_impact] at hdirect
  exact ((h.mem_indirect_impact files).mp hindirect).2.2 hdirect

theorem Constructed.key_notMem_impact (file : Text) (files : List Text) :
    key file ∉ (g.impact file files).direct ∧ key file ∉ (g.impact file files).indirect := by
  constructor
  · intro hdirect
    rw [direct_impact, mem_dependentsOf] at hdirect
    exact h.importer_ne_target hdirect rfl
  · intro hindirect
    exact ((h.mem_indirect_impact files).mp hindirect).2.1 rfl

end

theorem ascending_direct_impact (g : Graph) (file : Text) (files : List Text) :
    Text.Ascending (g.impact file files).direct := by
  rw [direct_impact]
  exact ascending_importersOf _ _

theorem ascending_indirect_impact (g : Graph) (file : Text) (files : List Text) :
    Text.Ascending (g.impact file files).indirect :=
  Text.ascending_ascending _

theorem score_impact (g : Graph) (file : Text) (files : List Text) :
    (g.impact file files).score =
      3 * (g.impact file files).direct.length + (g.impact file files).indirect.length :=
  rfl

/-! ## The impact and the walk -/

/-- The impact shows what walks to the file find within one hop and within two. -/
structure ShowsWalks (g : Graph) (file : Text) (i : Impact) : Prop where
  direct_eq : i.direct = g.transitiveDependents file 1
  ascending_direct : Text.Ascending i.direct
  ascending_indirect : Text.Ascending i.indirect
  disjoint : i.direct.Disjoint i.indirect
  file_notMem : key file ∉ i.direct ∧ key file ∉ i.indirect
  union_eq : Text.ascending (i.direct ++ i.indirect) = g.transitiveDependents file 2
  score_eq : i.score = 3 * i.direct.length + i.indirect.length

/-- In every graph that comes about the impact of a file agrees with the walk. -/
theorem impact_showsWalks (h : g.Constructed) (file : Text) (files : List Text) :
    g.ShowsWalks file (g.impact file files) := by
  refine ⟨?direct_eq, ascending_direct_impact g file files, ascending_indirect_impact g file files,
    h.disjoint_impact file files, h.key_notMem_impact file files, ?union_eq, score_impact g file files⟩
  case direct_eq =>
    rw [direct_impact, h.dependentsOf_eq]
  case union_eq =>
    have hwalk : Text.Ascending (g.transitiveDependents file 2) := Text.ascending_ascending _
    apply (Text.ascending_ascending _).eq_of_mem_iff hwalk
    intro path
    rw [Text.mem_ascending, mem_append, h.mem_two_hops files]

/-- Four files stand in a circle, and one of them also imports the next but one. -/
theorem impact_showsWalks_circle :
    ∃ g : Graph, g.Constructed ∧ g.ShowsWalks ['a'] (g.impact ['a'] []) ∧
      (g.impact ['a'] []).direct = [['b'], ['c']] ∧ (g.impact ['a'] []).indirect = [['d']] := by
  let steps : List Step :=
    [.edge ['b'] ['a'], .edge ['c'] ['b'], .edge ['c'] ['a'], .edge ['d'] ['c'], .edge ['a'] ['d']]
  have hg : (ofSteps steps).Constructed := constructed_ofSteps steps
  exact ⟨ofSteps steps, hg, impact_showsWalks hg ['a'] [], by decide, by decide⟩

/-! ## Larger graphs -/

/-- The links of a graph are among those of a larger one. -/
def LinksWithin (g g' : Graph) : Prop :=
  ∀ l ∈ g.links, l ∈ g'.links

theorem linksWithin_addEdge (g : Graph) (importer target : Text) :
    g.LinksWithin (g.addEdge importer target) := by
  intro l hl
  rw [links_addEdge, mem_links_link]
  exact Or.inl hl

theorem Chain.mono (hlinks : g.LinksWithin g') (h : g.Chain k path target) : g'.Chain k path target := by
  induction h with
  | refl path => exact .refl path
  | step _ hl ih => exact ih.step (hlinks _ hl)

section

variable (h : g.Constructed) (h' : g'.Constructed) (hlinks : g.LinksWithin g')

include h h' hlinks

theorem transitiveDependents_mono (file : Text) (depth : Nat) :
    g.transitiveDependents file depth ⊆ g'.transitiveDependents file depth := by
  intro path hpath
  rw [h.mem_transitiveDependents] at hpath
  obtain ⟨hne, k, hpos, hle, hchain⟩ := hpath
  exact h'.mem_transitiveDependents.mpr ⟨hne, k, hpos, hle, hchain.mono hlinks⟩

theorem direct_impact_mono (file : Text) (files : List Text) :
    (g.impact file files).direct ⊆ (g'.impact file files).direct := by
  rw [direct_impact, direct_impact, h.dependentsOf_eq, h'.dependentsOf_eq]
  exact transitiveDependents_mono h h' hlinks file 1

theorem dependents_impact_mono (file : Text) (files : List Text) :
    (g.impact file files).direct ++ (g.impact file files).indirect ⊆
      (g'.impact file files).direct ++ (g'.impact file files).indirect := by
  intro path hpath
  rw [mem_append, ← h.mem_two_hops] at hpath
  rw [mem_append, ← h'.mem_two_hops]
  exact transitiveDependents_mono h h' hlinks file 2 hpath

/-- The score counts the direct dependents twice and then all dependents once, so it grows although a
file may pass from the indirect dependents to the direct ones. -/
theorem score_impact_mono (file : Text) (files : List Text) :
    (g.impact file files).score ≤ (g'.impact file files).score := by
  have hdirect := (ascending_direct_impact g file files).nodup
  have hall : ((g.impact file files).direct ++ (g.impact file files).indirect).Nodup :=
    hdirect.append (ascending_indirect_impact g file files).nodup (h.disjoint_impact file files)
  have hfew := (subperm_of_subset hdirect (direct_impact_mono h h' hlinks file files)).length_le
  have hmany := (subperm_of_subset hall (dependents_impact_mono h h' hlinks file files)).length_le
  rw [length_append, length_append] at hmany
  rw [score_impact, score_impact]
  omega

theorem impact_mono (file : Text) (files : List Text) :
    (g.impact file files).LiesWithin (g'.impact file files) := by
  have hscore := score_impact_mono h h' hlinks file files
  exact ⟨hscore, Radius.level_ofScore_mono hscore, direct_impact_mono h h' hlinks file files,
    dependents_impact_mono h h' hlinks file files⟩

end

/-- One more edge makes no impact smaller, and hides no file from a walk. -/
theorem addEdge_impact_mono (h : g.Constructed) (importer target file : Text) (files : List Text) :
    (g.impact file files).LiesWithin ((g.addEdge importer target).impact file files) ∧
      ∀ depth, g.transitiveDependents file depth ⊆
        (g.addEdge importer target).transitiveDependents file depth := by
  have hgrown : (g.addEdge importer target).Constructed := h.grown (.edge importer target)
  have hlinks := linksWithin_addEdge g importer target
  exact ⟨impact_mono h hgrown hlinks file files, transitiveDependents_mono h hgrown hlinks file⟩

/-- An edge that brings `c` nearer to `a` takes it from the indirect dependents. -/
theorem addEdge_impact_mono_nearer :
    ∃ g : Graph, g.Constructed ∧ (g.impact ['a'] []).indirect = [['c']] ∧
      ((g.addEdge ['c'] ['a']).impact ['a'] []).indirect = [] ∧
      (g.impact ['a'] []).LiesWithin ((g.addEdge ['c'] ['a']).impact ['a'] []) := by
  have hg : (ofSteps [.edge ['b'] ['a'], .edge ['c'] ['b']]).Constructed := constructed_ofSteps _
  exact ⟨_, hg, by decide, by decide, (addEdge_impact_mono hg ['c'] ['a'] ['a'] []).1⟩

end Graph

end RepoAtlas
