import RepoAtlas.Proofs.Graph.Frame
import Mathlib.Data.List.Forall2

/-! # First choices -/

namespace RepoAtlas.Graph

open Code Text RepoAtlas.Path List

variable {aliases : List Alias} {known : Text → Bool} {importer specifier f target : Text}

/-- The files that a path from the root may mean, from the first choice on; there are none if the path
climbs above the root. -/
def meanings (path : Text) : List Text :=
  match collapse? path with
  | none => []
  | some path => candidates (withoutExtension path)

def choices (aliases : List Alias) (importer specifier : Text) : List Text :=
  let specifier := trim specifier
  if specifier.isEmpty || isExternal aliases specifier then []
  else meanings (writtenPath aliases (key importer) specifier)

/-- An import leads to the first choice that is known. -/
theorem resolve?_eq_find?_choices (aliases : List Alias) (known : Text → Bool) (importer specifier : Text) :
    resolve? aliases known importer specifier = (choices aliases importer specifier).find? known := by
  simp only [resolve?, choices, meanings]
  split
  · rfl
  · cases collapse? (writtenPath aliases (key importer) (trim specifier)) <;> rfl

def withFile (f : Text) (known : Text → Bool) : Text → Bool :=
  fun path => path == f || known path

def withoutFile (f : Text) (known : Text → Bool) : Text → Bool :=
  fun path => path != f && known path

theorem withFile_of_known (h : known f = true) : withFile f known = known := by
  funext path
  by_cases hpath : path = f
  · simp [withFile, hpath, h]
  · simp [withFile, hpath]

theorem withoutFile_of_unknown (h : known f = false) : withoutFile f known = known := by
  funext path
  by_cases hpath : path = f
  · simp [withoutFile, hpath, h]
  · simp [withoutFile, hpath]

theorem withFile_withoutFile (f : Text) (known : Text → Bool) :
    withFile f (withoutFile f known) = withFile f known := by
  funext path
  simp only [withFile, withoutFile, bne]
  cases path == f <;> rfl

theorem find?_withFile (f : Text) (known : Text → Bool) (paths : List Text) :
    paths.find? (withFile f known) = paths.find? known ∨ paths.find? (withFile f known) = some f := by
  induction paths with
  | nil => exact Or.inl rfl
  | cons path paths ih =>
    by_cases hpath : path = f
    · have hnew : withFile f known path = true := by simp [withFile, hpath]
      rw [find?_cons_of_pos hnew, hpath]
      exact Or.inr rfl
    · have hold : withFile f known path = known path := by simp [withFile, hpath]
      rw [find?_cons, find?_cons, hold]
      cases known path with
      | true => exact Or.inl rfl
      | false => exact ih

theorem resolve?_withFile (f : Text) (aliases : List Alias) (known : Text → Bool)
    (importer specifier : Text) :
    resolve? aliases (withFile f known) importer specifier = resolve? aliases known importer specifier ∨
      resolve? aliases (withFile f known) importer specifier = some f := by
  simp only [resolve?_eq_find?_choices]
  exact find?_withFile f known _

theorem resolve?_withoutFile (h : resolve? aliases known importer specifier ≠ some f) :
    resolve? aliases (withoutFile f known) importer specifier =
      resolve? aliases known importer specifier := by
  cases hf : known f with
  | false => rw [withoutFile_of_unknown hf]
  | true =>
    have hback : withFile f (withoutFile f known) = known := by
      rw [withFile_withoutFile, withFile_of_known hf]
    have hcases := resolve?_withFile f aliases (withoutFile f known) importer specifier
    rw [hback] at hcases
    rcases hcases with heq | hsome
    · exact heq.symm
    · exact absurd hsome h

/-- The import leads to known files only, and it is turned by no file but the one that it is turned to or
from. -/
structure ResolvesSteadily (aliases : List Alias) (known : Text → Bool) (importer specifier : Text) :
    Prop where
  isKnown : ∀ target, resolve? aliases known importer specifier = some target → known target = true
  arrival : ∀ f,
    resolve? aliases (withFile f known) importer specifier = resolve? aliases known importer specifier ∨
      resolve? aliases (withFile f known) importer specifier = some f
  departure : ∀ f, resolve? aliases known importer specifier ≠ some f →
    resolve? aliases (withoutFile f known) importer specifier =
      resolve? aliases known importer specifier

theorem resolvesSteadily (aliases : List Alias) (known : Text → Bool) (importer specifier : Text) :
    ResolvesSteadily aliases known importer specifier := by
  refine ⟨?_, fun f => resolve?_withFile f aliases known importer specifier,
    fun f h => resolve?_withoutFile h⟩
  intro target h
  exact known_of_resolve? h

/-- The import is the same as before, but it may lead to `f` now. -/
def DrawnTo (f : Text) (i i' : Import) : Prop :=
  i' = i ∨ i' = { i with target? := some f }

theorem drawnTo_resolveImport (h : f = importer → known f = true) (aliases : List Alias) (i : Import) :
    DrawnTo f (resolveImport aliases known importer i)
      (resolveImport aliases (withFile f known) importer i) := by
  by_cases hf : f = importer
  · rw [withFile_of_known (h hf)]
    exact Or.inl rfl
  · have hkeep : (some f).filter (· != importer) = some f := by simp [Option.filter, hf]
    rcases resolve?_withFile f aliases known importer i.specifier with heq | hsome
    · exact Or.inl (by rw [resolveImport, heq, resolveImport])
    · exact Or.inr (by rw [resolveImport, hsome, hkeep, resolveImport])

variable {settings : GraphSettings} {read : Contents} {before after : List Text} {new path : Text}

theorem contains_keys_insert (before after : List Text) (new : Text) :
    ((before ++ new :: after).map key).eraseDups.contains =
      withFile (key new) ((before ++ after).map key).eraseDups.contains := by
  funext path
  rw [Bool.eq_iff_iff]
  simp only [withFile, contains_iff_mem, mem_eraseDups, map_append, map_cons, mem_append, mem_cons,
    Bool.or_eq_true, beq_iff_eq]
  tauto

theorem drawnTo_fileNode (h : path ∈ (before ++ after).map key) :
    Forall₂ (DrawnTo (key new)) (fileNode settings read (before ++ after) path).imports
      (fileNode settings read (before ++ new :: after) path).imports := by
  have hknown (hnew : key new = path) : ((before ++ after).map key).eraseDups.contains (key new) = true := by
    rw [hnew, contains_iff_mem, mem_eraseDups]
    exact h
  simp only [fileNode, resolveNode, contains_keys_insert, path_outlineNode, forall₂_map_left_iff,
    forall₂_map_right_iff, forall₂_same]
  intro i _
  exact drawnTo_resolveImport hknown settings.aliases i

/-- Every import leads to the first known one among paths that do not depend on the files, so a file that
comes or goes turns only the imports that lead to it. In a graph with one more file in its list, each old
file has its old imports, and each of these leads where it led or to the new file. -/
theorem resolve?_steady :
    (∀ aliases known importer specifier, ResolvesSteadily aliases known importer specifier) ∧
    ∀ settings read before after new path n, (build settings read (before ++ after)).node? path = some n →
      ∃ n', (build settings read (before ++ new :: after)).node? path = some n' ∧
        Forall₂ (DrawnTo (key new)) n.imports n'.imports := by
  refine ⟨resolvesSteadily, ?_⟩
  intro settings read before after new path n hn
  obtain ⟨hmem, rfl⟩ := node?_build hn
  have hmem' : key path ∈ (before ++ new :: after).map key := by
    simp only [map_append, map_cons, mem_append, mem_cons] at hmem ⊢
    tauto
  exact ⟨_, node?_build_of_mem hmem', drawnTo_fileNode hmem⟩

end RepoAtlas.Graph
