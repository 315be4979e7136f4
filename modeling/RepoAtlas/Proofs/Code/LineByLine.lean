import RepoAtlas.Code.Outline
import RepoAtlas.Proofs.Lists
import RepoAtlas.Proofs.Text.Lines

/-! # Outlines line by line -/

namespace RepoAtlas.Code

open Text List

/-- The import as it stands when `n` more lines are put above it. -/
def Import.below (n : Nat) (i : Import) : Import :=
  { i with line := i.line + n }

namespace Language

variable {l : Language} {i : Import} {numbered : List (Text × Nat)}

theorem importsOfLines_append (l : Language) (above below : List (Text × Nat)) :
    l.importsOfLines (above ++ below) = l.importsOfLines above ++ l.importsOfLines below :=
  flatMap_append

theorem importsOfLines_cons (l : Language) (line : Text) (number : Nat) (numbered : List (Text × Nat)) :
    l.importsOfLines ((line, number) :: numbered) =
      l.importsOfLines [(line, number)] ++ l.importsOfLines numbered :=
  importsOfLines_append l [(line, number)] numbered

theorem exists_line_of_mem (h : i ∈ l.importsOfLines numbered) : ∃ line, (line, i.line) ∈ numbered := by
  simp only [importsOfLines, mem_flatMap, Prod.exists] at h
  obtain ⟨line, number, hline, hi⟩ := h
  split at hi
  · cases hi
  · obtain ⟨found, -, rfl⟩ := mem_map.mp hi
    exact ⟨line, hline⟩

theorem importsOfLines_zipIdx_add (l : Language) (lines : List Text) (first n : Nat) :
    l.importsOfLines (lines.zipIdx (first + n)) =
      (l.importsOfLines (lines.zipIdx first)).map (Import.below n) := by
  induction lines generalizing first with
  | nil => rfl
  | cons line lines ih =>
    have hline : l.importsOfLines [(line, first + n)] =
        (l.importsOfLines [(line, first)]).map (Import.below n) := by
      by_cases hcomment : l.isComment line
      · simp [importsOfLines, hcomment]
      · simp [importsOfLines, hcomment, Import.below]
    have hnext : first + n + 1 = first + 1 + n := by omega
    rw [zipIdx_cons, zipIdx_cons, importsOfLines_cons, hline, hnext, ih, ← map_append,
      ← importsOfLines_cons]

theorem line_of_mem_single {line : Text} {number : Nat} (h : i ∈ l.importsOfLines [(line, number)]) :
    i.line = number := by
  obtain ⟨found, hfound⟩ := exists_line_of_mem h
  exact congrArg Prod.snd (mem_singleton.mp hfound)

theorem line_importsOfLines_zipIdx {lines : List Text} {first : Nat}
    (h : i ∈ l.importsOfLines (lines.zipIdx first)) :
    first ≤ i.line ∧ i.line < first + lines.length := by
  obtain ⟨line, hline⟩ := exists_line_of_mem h
  have hlower := le_snd_of_mem_zipIdx hline
  have hupper := snd_lt_of_mem_zipIdx hline
  exact ⟨hlower, Nat.add_comm first _ ▸ hupper⟩

theorem pairwise_importsOfLines_zipIdx (l : Language) (lines : List Text) (first : Nat) :
    (l.importsOfLines (lines.zipIdx first)).Pairwise fun i j => i.line ≤ j.line := by
  induction lines generalizing first with
  | nil => exact Pairwise.nil
  | cons line lines ih =>
    rw [zipIdx_cons, importsOfLines_cons, pairwise_append]
    refine ⟨?_, ih (first + 1), ?_⟩
    · apply pairwise_of_forall_mem_list
      intro i hi j hj
      exact Nat.le_of_eq ((line_of_mem_single hi).trans (line_of_mem_single hj).symm)
    · intro i hi j hj
      have hlower := (line_importsOfLines_zipIdx hj).1
      rw [line_of_mem_single hi]
      omega

end Language

section Printed

variable {α : Type} {l : Language} {path content : Text} {items : List α} {print : α → Text}

theorem Language.importsOfLines_map {found : α → List Import}
    (hread : ∀ a ∈ items, (if l.isComment (print a) then [] else l.importsOfLine (print a)) = found a)
    (first : Nat) :
    l.importsOfLines ((items.map print).zipIdx first) =
      (items.zipIdx first).flatMap fun (a, n) => (found a).map fun i => { i with line := n } := by
  rw [zipIdx_map, Language.importsOfLines, flatMap_map]
  apply flatMap_congr
  intro (a, n) ha
  have hfound := hread a (fst_mem_of_mem_zipIdx ha)
  simp only [Prod.map_apply, id_eq, ← hfound]
  by_cases hcomment : l.isComment (print a)
  · simp [hcomment]
  · simp [hcomment]

variable (hpath : Language.ofPath? path = some l) (hlines : HasLines content (items.map print))
include hpath hlines

theorem imports_of_lines {found : α → List Import}
    (hread : ∀ a ∈ items, (if l.isComment (print a) then [] else l.importsOfLine (print a)) = found a) :
    imports path content =
      (items.zipIdx 1).flatMap fun (a, n) => (found a).map fun i => { i with line := n } := by
  rw [imports, hpath, hlines.lines_eq]
  exact Language.importsOfLines_map hread 1

theorem exports_of_lines {found : α → List Text}
    (hread : ∀ a ∈ items, (if l.isComment (print a) then [] else l.exportsOfLine (print a)) = found a) :
    exports path content = (items.flatMap found).eraseDups := by
  rw [exports, hpath, hlines.lines_eq]
  simp only [flatMap_map]
  exact congrArg eraseDups (flatMap_congr hread)

end Printed

variable {a : Text}

theorem imports_append (path : Text) (ha : Closed a) (b : Text) :
    imports path (a ++ b) = imports path a ++ (imports path b).map (Import.below (a.count '\n')) := by
  unfold imports
  split
  · rfl
  · next l _ =>
    rw [lines_append ha, zipIdx_append, Language.importsOfLines_append, length_lines ha,
      Language.importsOfLines_zipIdx_add]

theorem exports_append (path : Text) (ha : Closed a) (b : Text) :
    exports path (a ++ b) = (exports path a ++ exports path b).eraseDups := by
  unfold exports
  split
  · rfl
  · rw [lines_append ha, flatMap_append, eraseDups_append_eraseDups]

theorem pairwise_imports (path content : Text) :
    (imports path content).Pairwise fun i j => i.line ≤ j.line := by
  unfold imports
  split
  · exact Pairwise.nil
  · exact Language.pairwise_importsOfLines_zipIdx _ _ 1

theorem line_imports {path content : Text} {i : Import} (h : i ∈ imports path content) :
    1 ≤ i.line ∧ i.line ≤ (lines content).length := by
  unfold imports at h
  split at h
  · cases h
  · obtain ⟨hlower, hupper⟩ := Language.line_importsOfLines_zipIdx h
    exact ⟨hlower, by omega⟩

theorem nodup_exports (path content : Text) : (exports path content).Nodup := by
  unfold exports
  split
  · exact nodup_nil
  · exact nodup_eraseDups _

/-- The outline of a file is put together from those of its parts, wherever it is cut after a line feed.
The imports stand in the order of their lines, which are lines of the file, and no name is exported
twice. -/
theorem outline_line_local (path : Text) :
    (∀ a, Closed a → ∀ b,
      imports path (a ++ b) = imports path a ++ (imports path b).map (Import.below (a.count '\n')) ∧
      exports path (a ++ b) = (exports path a ++ exports path b).eraseDups) ∧
    ∀ content,
      ((imports path content).Pairwise fun i j => i.line ≤ j.line) ∧
      (∀ i ∈ imports path content, 1 ≤ i.line ∧ i.line ≤ (lines content).length) ∧
      (exports path content).Nodup := by
  refine ⟨?_, ?_⟩
  · intro a ha b
    exact ⟨imports_append path ha b, exports_append path ha b⟩
  · intro content
    exact ⟨pairwise_imports path content, fun i => line_imports, nodup_exports path content⟩

/-- A name that both parts export stands where the upper part has it. -/
theorem outline_line_local_twice_exported :
    Closed "import d from './d';\r\nexport const x = 1\n".toList ∧
    (imports "a.ts".toList ("import d from './d';\r\nexport const x = 1\n".toList ++
      "export class x {}\nrequire('y')".toList)).map Import.line = [1, 4] ∧
    exports "a.ts".toList ("import d from './d';\r\nexport const x = 1\n".toList ++
      "export class x {}\nrequire('y')".toList) = ["x".toList] := by
  have hclosed : Closed "import d from './d';\r\nexport const x = 1\n".toList := Or.inr (by decide)
  obtain ⟨himports, hexports⟩ := (outline_line_local "a.ts".toList).1 _ hclosed
    "export class x {}\nrequire('y')".toList
  rw [himports, hexports]
  exact ⟨hclosed, by decide +kernel, by decide +kernel⟩

end RepoAtlas.Code
