import RepoAtlas.Graph.Reading
import RepoAtlas.Proofs.Graph.Build
import RepoAtlas.Proofs.Graph.Growth
import RepoAtlas.Proofs.Lists
import RepoAtlas.Proofs.Runs
import Mathlib.Data.List.Forall2

/-! # Reading in any order -/

namespace RepoAtlas.Graph

open Code RepoAtlas.Path List

/-! ## What one event does to a batch -/

inductive Place.Step (read : Contents) : Place → Place → Prop
  | take (reader : Nat) (path : Text) : Step read (.waiting path) (.taken reader path)
  | fill (reader : Nat) (path : Text) : Step read (.taken reader path) (.filled (outlineNode read path))

def Place.StandsFor (read : Contents) (path : Text) : Place → Prop
  | .waiting p => p = path
  | .taken _ p => p = path
  | .filled n => n = outlineNode read path

def Place.work : Place → Nat
  | .waiting _ => 2
  | .taken .. => 1
  | .filled _ => 0

variable {read : Contents}

theorem Place.StandsFor.step {path : Text} {p p' : Place} (h : p.StandsFor read path)
    (hs : p.Step read p') : p'.StandsFor read path := by
  cases hs with
  | take reader q => exact h
  | fill reader q => exact congrArg (outlineNode read) h

theorem Place.Step.work_eq {p p' : Place} (h : p.Step read p') : p.work = p'.work + 1 := by
  cases h <;> rfl

namespace Reading

variable {r : Reading} {batch : List Text} {events : List Event}

/-- An event takes one place a step further, or it changes nothing. -/
theorem step_cases (read : Contents) (r : Reading) (e : Event) :
    r.step read e = r ∨ ∃ (i : Nat) (p p' : Place), r.places[i]? = some p ∧ p.Step read p' ∧
      r.step read e = { r with places := r.places.set i p' } := by
  cases e with
  | take reader place =>
    simp only [step]
    split
    · next path hp =>
      split
      · exact Or.inr ⟨place, _, _, hp, .take reader path, rfl⟩
      · exact Or.inl rfl
    · exact Or.inl rfl
  | fill place =>
    simp only [step]
    split
    · next reader path hp => exact Or.inr ⟨place, _, _, hp, .fill reader path, rfl⟩
    · exact Or.inl rfl

structure Stands (read : Contents) (batch : List Text) (r : Reading) : Prop where
  length_eq : r.places.length = batch.length
  stands : ∀ {i : Nat} {path : Text} {p : Place}, batch[i]? = some path → r.places[i]? = some p →
    p.StandsFor read path
  readers_pos : 0 < r.readers

theorem stands_ofBatch (readers : Nat) (read : Contents) (batch : List Text) :
    Stands read batch (ofBatch readers batch) := by
  refine ⟨by simp [ofBatch], ?_, by simp only [ofBatch]; omega⟩
  intro i path p hpath hp
  obtain rfl : .waiting path = p := by simpa [ofBatch, hpath] using hp
  rfl

theorem Stands.step (h : Stands read batch r) (e : Event) : Stands read batch (r.step read e) := by
  obtain hr | ⟨i, p, p', hp, hs, hr⟩ := step_cases read r e
  · rwa [hr]
  · rw [hr]
    refine ⟨by rw [← h.length_eq]; exact length_set, ?_, h.readers_pos⟩
    intro j path q hpath hq
    by_cases hij : i = j
    · subst hij
      obtain ⟨hlt, -⟩ := List.getElem?_eq_some_iff.mp hp
      obtain rfl : p' = q := by simpa [hlt] using hq
      exact (h.stands hpath hp).step hs
    · exact h.stands hpath (by simpa [hij] using hq)

theorem Stands.run (h : Stands read batch r) (events : List Event) :
    Stands read batch (r.run read events) := by
  induction events generalizing r with
  | nil => exact h
  | cons e events ih => exact ih (h.step e)

/-! ## The nodes of a batch -/

theorem nodes?_eq_some_iff {nodes : List FileNode} :
    r.nodes? = some nodes ↔ r.places = nodes.map .filled := by
  obtain ⟨readers, places⟩ := r
  simp only [nodes?]
  induction places generalizing nodes with
  | nil => cases nodes <;> simp
  | cons p places ih =>
    rw [mapM_cons]
    cases nodes with
    | nil => cases p <;> simp [Place.node?, Option.bind_eq_some_iff]
    | cons n nodes => cases p <;> simp [Place.node?, Option.bind_eq_some_iff, ih, and_comm]

theorem Stands.nodes_eq (h : Stands read batch r) {nodes : List FileNode} (hn : r.nodes? = some nodes) :
    nodes = batch.map (outlineNode read) := by
  have hplaces := nodes?_eq_some_iff.mp hn
  have hlen : nodes.length = batch.length := by
    rw [← h.length_eq, hplaces, length_map]
  apply ext_getElem (by simpa using hlen)
  intro i hi hi'
  have hb : i < batch.length := by simpa using hi'
  have hstands : (Place.filled nodes[i]).StandsFor read batch[i] :=
    h.stands (List.getElem?_eq_getElem hb) (by simp [hplaces, hi])
  rw [getElem_map]
  exact hstands

/-! ## Batches come to their end -/

def remaining (r : Reading) : Nat :=
  (r.places.map Place.work).sum

theorem remaining_ofBatch (readers : Nat) (batch : List Text) :
    (ofBatch readers batch).remaining = 2 * batch.length := by
  induction batch with
  | nil => rfl
  | cons path batch ih =>
    simp only [remaining, ofBatch, map_cons, sum_cons, Place.work, length_cons] at ih ⊢
    omega

theorem remaining_step_lt {e : Event} (h : r.step read e ≠ r) :
    (r.step read e).remaining < r.remaining := by
  obtain hr | ⟨i, p, p', hp, hs, hr⟩ := step_cases read r e
  · exact absurd hr h
  · have hsum := sum_map_set hp Place.work p'
    have hwork := hs.work_eq
    rw [hr]
    simp only [remaining]
    omega

def Busy (read : Contents) : Reading → List Event → Prop :=
  Stirring (fun r e => r.step read e ≠ r) (step read)

theorem Busy.length_le (h : Busy read r events) : events.length ≤ r.remaining :=
  Stirring.length_le remaining_step_lt h

def Quiet (read : Contents) (r : Reading) : Prop :=
  ∀ e, r.step read e = r

theorem exists_quiet (read : Contents) (r : Reading) : ∃ events, Quiet read (r.run read events) := by
  have hwork : ∀ {r : Reading} {e : Event}, r.step read e ≠ r →
      (r.step read e).remaining < r.remaining := remaining_step_lt
  obtain ⟨events, hstill⟩ := exists_still hwork r
  exact ⟨events, fun e => not_not.mp (hstill e)⟩

theorem places_ne_set {i : Nat} {p p' : Place} (hp : r.places[i]? = some p) (h : p ≠ p') :
    { r with places := r.places.set i p' } ≠ r := by
  intro hr
  obtain ⟨hlt, -⟩ := List.getElem?_eq_some_iff.mp hp
  have hi : (r.places.set i p')[i]? = some p := by
    rw [show r.places.set i p' = r.places from congrArg Reading.places hr, hp]
  rw [List.getElem?_set_self hlt] at hi
  exact h (Option.some.inj hi).symm

/-- In a quiet batch nobody holds a place, since its reader could fill it. -/
theorem Quiet.not_taken (h : Quiet read r) {i reader : Nat} {path : Text} :
    r.places[i]? ≠ some (.taken reader path) := by
  intro hp
  have hfill : r.step read (.fill i) =
      { r with places := r.places.set i (.filled (outlineNode read path)) } := by
    simp [step, hp]
  exact places_ne_set hp (by simp) (hfill.symm.trans (h (.fill i)))

/-- In a quiet batch nothing waits either, since the first reader is free. -/
theorem Quiet.not_waiting (h : Quiet read r) (hpos : 0 < r.readers) {i : Nat} {path : Text} :
    r.places[i]? ≠ some (.waiting path) := by
  intro hp
  have hfree : r.isFree 0 = true := by
    simp only [isFree, hpos, decide_true, Bool.true_and, Bool.not_eq_true', any_eq_false]
    intro p hmem
    obtain ⟨j, hj⟩ := mem_iff_getElem?.mp hmem
    cases p with
    | waiting q => simp [Place.isWith]
    | taken reader q => exact absurd hj h.not_taken
    | filled n => simp [Place.isWith]
  have htake : r.step read (.take 0 i) = { r with places := r.places.set i (.taken 0 path) } := by
    simp [step, hp, hfree]
  exact places_ne_set hp (by simp) (htake.symm.trans (h (.take 0 i)))

theorem Stands.nodes?_of_quiet (h : Stands read batch r) (hq : Quiet read r) :
    r.nodes? = some (batch.map (outlineNode read)) := by
  rw [nodes?_eq_some_iff]
  apply ext_getElem (by simpa using h.length_eq)
  intro i hi hi'
  have hb : i < batch.length := by simpa using hi'
  have hp : r.places[i]? = some r.places[i] := List.getElem?_eq_getElem hi
  have hstands := h.stands (List.getElem?_eq_getElem hb) hp
  cases hplace : r.places[i] with
  | waiting path => exact absurd (hplace ▸ hp) (hq.not_waiting h.readers_pos)
  | taken reader path => exact absurd (hplace ▸ hp) hq.not_taken
  | filled n =>
    rw [hplace] at hstands
    rw [getElem_map, getElem_map]
    exact congrArg Place.filled hstands

end Reading

/-! ## All batches -/

/-- Under the events of the schedule every batch comes to its end. -/
def Completes (readers : Nat) (read : Contents) (schedule : List (List Reading.Event))
    (batches : List (List Text)) : Prop :=
  Forall₂ (fun events batch => Reading.Quiet read ((Reading.ofBatch readers batch).run read events))
    schedule batches

variable {readers : Nat} {schedule : List (List Reading.Event)} {batches : List (List Text)}

theorem exists_completes (readers : Nat) (read : Contents) (batches : List (List Text)) :
    ∃ schedule, Completes readers read schedule batches := by
  induction batches with
  | nil => exact ⟨[], .nil⟩
  | cons batch batches ih =>
    obtain ⟨schedule, hschedule⟩ := ih
    obtain ⟨events, hevents⟩ := Reading.exists_quiet read (.ofBatch readers batch)
    exact ⟨events :: schedule, .cons hevents hschedule⟩

theorem readBatches_of_completes (h : Completes readers read schedule batches) :
    readBatches readers read schedule batches = some (batches.flatten.map (outlineNode read)) := by
  induction h with
  | nil => rfl
  | cons hquiet _ ih =>
    have hnodes := (Reading.stands_ofBatch readers read _).run _ |>.nodes?_of_quiet hquiet
    simp [readBatches, hnodes, ih]

theorem nodes_readBatches {nodes : List FileNode}
    (h : readBatches readers read schedule batches = some nodes) :
    nodes = batches.flatten.map (outlineNode read) := by
  induction batches generalizing schedule nodes with
  | nil =>
    simp only [readBatches, Option.some.injEq] at h
    simp [← h]
  | cons batch batches ih =>
    cases schedule with
    | nil => cases h
    | cons events schedule =>
      obtain ⟨first, hfirst, h⟩ := Option.bind_eq_some_iff.mp h
      obtain ⟨others, hothers, h⟩ := Option.bind_eq_some_iff.mp h
      obtain rfl : first ++ others = nodes := Option.some.inj h
      have hbatch := ((Reading.stands_ofBatch readers read batch).run events).nodes_eq hfirst
      rw [hbatch, ih hothers, flatten_cons, map_append]

/-! ## Builds come to their graph -/

variable {settings settings' : GraphSettings} {files files' : List Text} {g : Graph}

/-- Whatever the order in which the readers come, a build comes to the graph. -/
structure ComesTo (settings : GraphSettings) (read : Contents) (files : List Text) (g : Graph) :
    Prop where
  bounded : ∀ batch ∈ Graph.batches settings files, ∀ events,
    Reading.Busy read (.ofBatch settings.readers batch) events → events.length ≤ 2 * batch.length
  completes : ∃ schedule, Completes settings.readers read schedule (Graph.batches settings files)
  /-- A schedule after which nothing more can happen brings the graph. -/
  answers : ∀ schedule, Completes settings.readers read schedule (Graph.batches settings files) →
    buildUnder schedule settings read files = some g
  /-- No schedule brings another graph. -/
  only : ∀ schedule h, buildUnder schedule settings read files = some h → h = g

theorem flatten_batches (settings : GraphSettings) (files : List Text) :
    (Graph.batches settings files).flatten = (files.map key).eraseDups :=
  chunksOf_flatten _ _

theorem comesTo_build (settings : GraphSettings) (read : Contents) (files : List Text) :
    ComesTo settings read files (build settings read files) := by
  have hbuild : build settings read files =
      ofNodes (((Graph.batches settings files).flatten.map (outlineNode read)).map
        (resolveNode settings.aliases (files.map key).eraseDups.contains)) := by
    rw [build, outlineNodes_eq_map, flatten_batches]
  refine ⟨?_, exists_completes _ _ _, ?_, ?_⟩
  · intro batch _ events hbusy
    rw [← Reading.remaining_ofBatch settings.readers]
    exact hbusy.length_le
  · intro schedule hcompletes
    rw [buildUnder, readBatches_of_completes hcompletes, hbuild]
    rfl
  · intro schedule g hg
    obtain ⟨nodes, hnodes, hg⟩ := Option.bind_eq_some_iff.mp hg
    rw [hbuild, ← nodes_readBatches hnodes]
    exact (Option.some.inj hg).symm

/-! ## Only the keys count -/

theorem eq_of_nodes_of_links {g g' : Graph} (hnodes : ∀ path : Text, g.nodes[path]? = g'.nodes[path]?)
    (hlinks : ∀ l, l ∈ g.links ↔ l ∈ g'.links) : g = g' := by
  cases g
  cases g'
  exact congrArg₂ Graph.mk (Std.ExtTreeMap.ext_getElem? hnodes) (Std.ExtTreeSet.ext_mem hlinks)

theorem fileNode_congr (haliases : settings'.aliases = settings.aliases)
    (hkeys : ∀ path, path ∈ files'.map key ↔ path ∈ files.map key) :
    fileNode settings' read files' = fileNode settings read files := by
  have hknown : (files'.map key).eraseDups.contains = (files.map key).eraseDups.contains := by
    funext path
    rw [Bool.eq_iff_iff, contains_iff_mem, contains_iff_mem, mem_eraseDups, mem_eraseDups, hkeys]
  funext path
  rw [fileNode, fileNode, haliases, hknown]

theorem build_congr (haliases : settings'.aliases = settings.aliases)
    (hkeys : ∀ path, path ∈ files'.map key ↔ path ∈ files.map key) :
    build settings' read files' = build settings read files := by
  have hlinks : ∀ l, l ∈ (build settings' read files').links ↔ l ∈ (build settings read files).links := by
    rintro ⟨target, importer⟩
    rw [mem_links_build, mem_links_build, hkeys, fileNode_congr haliases hkeys]
  apply eq_of_nodes_of_links ?_ hlinks
  intro path
  have himporters : (build settings' read files').importersOf path =
      (build settings read files).importersOf path :=
    importersOf_congr fun importer => hlinks _
  rw [nodes_build, nodes_build, fileNode_congr haliases hkeys, himporters]
  simp only [hkeys]

/-- Two builds with the same aliases and the same set of keys come to the same graph, whatever their
batches, their readers and the order in which the readers come, and however their files are written. -/
theorem build_eq_of_same_keys (haliases : settings'.aliases = settings.aliases)
    (hkeys : ∀ path, path ∈ files'.map key ↔ path ∈ files.map key) (read : Contents) :
    build settings' read files' = build settings read files ∧
      ComesTo settings read files (build settings read files) ∧
      ComesTo settings' read files' (build settings read files) := by
  have hbuild : build settings' read files' = build settings read files := build_congr haliases hkeys
  refine ⟨hbuild, comesTo_build settings read files, ?_⟩
  rw [← hbuild]
  exact comesTo_build settings' read files'

/-- A list with a repetition and the other slash, read one file at a time; a file holds its own key. -/
theorem build_eq_of_same_keys_respelled :
    build { batch := 0, readers := 0 } some [['b', '/', 'c'], ['a'], ['a']] =
      build {} some [['a'], ['b', '\\', 'c']] ∧
    ComesTo { batch := 0, readers := 0 } some [['b', '/', 'c'], ['a'], ['a']]
      (build {} some [['a'], ['b', '\\', 'c']]) := by
  have haliases : ({ batch := 0, readers := 0 } : GraphSettings).aliases = ({} : GraphSettings).aliases :=
    rfl
  have hkeys : ∀ path, path ∈ [['b', '/', 'c'], ['a'], ['a']].map key ↔
      path ∈ [['a'], ['b', '\\', 'c']].map key := by
    intro path
    have hwritten : [['b', '/', 'c'], ['a'], ['a']].map key = [['b', '/', 'c'], ['a'], ['a']] := by decide
    have hother : [['a'], ['b', '\\', 'c']].map key = [['a'], ['b', '/', 'c']] := by decide
    rw [hwritten, hother]
    simp [or_comm]
  obtain ⟨hbuild, -, hcomes⟩ := build_eq_of_same_keys haliases hkeys some
  exact ⟨hbuild, hcomes⟩

end RepoAtlas.Graph
