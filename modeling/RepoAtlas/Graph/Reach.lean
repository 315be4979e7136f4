import RepoAtlas.Graph.Basic

/-! # The files that a change reaches -/

namespace RepoAtlas.Graph

def unseenImporters (g : Graph) (path : Text) (seen : List Text) : List Text :=
  (g.dependentsOf path).filter fun importer => !seen.contains importer

def unseenLinks (g : Graph) (seen : List Text) : List Link :=
  g.links.toList.filter fun l => !seen.contains l.importer

theorem unseenImporters_eq_map (g : Graph) (path : Text) (seen : List Text) :
    g.unseenImporters path seen =
      ((g.unseenLinks seen).filter fun l => l.target == Path.key path).map Link.importer := by
  rw [unseenImporters, dependentsOf, importersOf, List.filter_map, unseenLinks, List.filter_filter,
    List.filter_filter]
  congr 1
  apply List.filter_congr
  intro l _
  exact Bool.and_comm ..

/-- Every file that a walk comes to for the first time uses up a link. -/
theorem length_unseenLinks_append (g : Graph) (path : Text) (seen : List Text) :
    (g.unseenLinks (seen ++ g.unseenImporters path seen)).length +
      (g.unseenImporters path seen).length ≤ (g.unseenLinks seen).length := by
  obtain ⟨found, hf⟩ : ∃ found, g.unseenImporters path seen = found := ⟨_, rfl⟩
  have hfound : found.length ≤ (g.unseenLinks seen).countP fun l => found.contains l.importer := by
    rw [← hf, unseenImporters_eq_map, List.length_map, ← List.countP_eq_length_filter]
    apply List.countP_mono_left
    intro l hl ht
    simpa using ⟨l, ⟨hl, by simpa using ht⟩, rfl⟩
  have hrest : (g.unseenLinks (seen ++ found)).length =
      (g.unseenLinks seen).countP fun l => !found.contains l.importer := by
    rw [unseenLinks, ← List.countP_eq_length_filter, unseenLinks, List.countP_filter]
    apply List.countP_congr
    intro l _
    simp [and_comm]
  have hsplit := List.length_eq_countP_add_countP (fun l : Link => found.contains l.importer)
    (l := g.unseenLinks seen)
  simp only [Bool.not_eq_true, Bool.decide_eq_false] at hsplit
  rw [hf, hrest]
  omega

/-- All files that a walk comes to, when it has come to the files `seen` and has still to leave those of
the queue. It does not leave a file that is `depth` hops from the start. -/
def walk (g : Graph) (depth : Nat) : List (Text × Nat) → List Text → List Text
  | [], seen => seen
  | (path, hops) :: queue, seen =>
    if depth ≤ hops then g.walk depth queue seen
    else
      let found := g.unseenImporters path seen
      g.walk depth (queue ++ found.map fun importer => (importer, hops + 1)) (seen ++ found)
termination_by queue seen => (g.unseenLinks seen).length + queue.length
decreasing_by
  · simp
  · have hlinks := g.length_unseenLinks_append path seen
    simp only [List.length_append, List.length_map, List.length_cons]
    omega

/-- The files that import `file` through a chain of at most `depth` imports, ascending; the file itself
is not among them. -/
def transitiveDependents (g : Graph) (file : Text) (depth : Nat) : List Text :=
  let start := Path.key file
  Text.ascending ((g.walk depth [(start, 0)] [start]).filter fun path => path != start)

end RepoAtlas.Graph
