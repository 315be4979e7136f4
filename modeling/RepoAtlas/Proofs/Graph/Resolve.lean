import RepoAtlas.Graph.Resolve
import RepoAtlas.Proofs.Path.Collapse

/-! # What a relative import leads to -/

namespace RepoAtlas

open Unicode List

namespace Path

variable {path t : Text}

theorem key_of_not_mem (h : '\\' ∉ t) : key t = t :=
  Text.map_replace_of_not_mem h '/'

theorem suffix_key_iff (hslash : '/' ∉ t) (hback : '\\' ∉ t) : t <:+ key path ↔ t <:+ path := by
  constructor
  · rintro ⟨front, hfront⟩
    obtain ⟨before, after, rfl, -, rfl⟩ := map_eq_append_iff.mp hfront.symm
    have hclean : '\\' ∉ after := fun hmem => hslash (mem_map.mpr ⟨'\\', hmem, rfl⟩)
    have hkey : key after = after := key_of_not_mem hclean
    exact ⟨before, congrArg (before ++ ·) hkey⟩
  · rintro ⟨front, rfl⟩
    have hkey : key (front ++ t) = key front ++ key t := map_append
    rw [hkey, key_of_not_mem hback]
    exact suffix_append _ _

end Path

namespace Graph

open Text RepoAtlas.Path

variable {aliases : List Alias} {known : Text → Bool} {importer specifier path base extension : Text}
variable {other otherBase : Text}

/-- An extension that is taken off is a dot and letters, so it is what follows the last dot. -/
theorem cutLast?_append_removable (h : extension ∈ removable) (base : Text) :
    cutLast? '.' (base ++ extension) = some (base, extension.tail) := by
  have hall : ∀ e ∈ removable, e = '.' :: e.tail ∧ '.' ∉ e.tail := by decide
  obtain ⟨hdot, htail⟩ := hall extension h
  rw [cutLast?_eq_some_iff, ← hdot]
  exact ⟨rfl, htail⟩

theorem eq_of_append_removable (h : extension ∈ removable) (hother : other ∈ removable)
    (heq : base ++ extension = otherBase ++ other) : base = otherBase := by
  have hcut := cutLast?_append_removable h base
  rw [heq, cutLast?_append_removable hother] at hcut
  exact (Prod.mk.inj (Option.some.inj hcut)).1.symm

theorem withoutExtension_append (h : extension ∈ removable) (hbase : (cutName base).2 ≠ []) :
    withoutExtension (base ++ extension) = base := by
  have hfind : removable.findSome? (dropTail? · (base ++ extension)) = some base := by
    cases hfind : removable.findSome? (dropTail? · (base ++ extension)) with
    | none =>
      have hnone := findSome?_eq_none_iff.mp hfind extension h
      rw [dropTail?_eq_some_iff.mpr rfl] at hnone
      cases hnone
    | some rest =>
      obtain ⟨other, hother, hrest⟩ := exists_of_findSome?_eq_some hfind
      rw [eq_of_append_removable h hother (dropTail?_eq_some_iff.mp hrest)]
  obtain ⟨hne, hlast⟩ := ne_nil_of_name hbase
  rw [withoutExtension, hfind]
  simp [hne, hlast]

theorem withoutExtension_eq_self (h : ∀ extension ∈ removable, ¬ extension <:+ path) :
    withoutExtension path = path := by
  have hfind : removable.findSome? (dropTail? · path) = none := by
    apply findSome?_eq_none_iff.mpr
    intro extension hextension
    cases hdrop : dropTail? extension path with
    | none => rfl
    | some rest =>
      rw [dropTail?_eq_some_iff] at hdrop
      exact absurd (hdrop ▸ suffix_append rest extension) (h extension hextension)
  rw [withoutExtension, hfind]

theorem isBlank_of_getLast?_removable (h : extension ∈ removable) :
    ∀ c ∈ (base ++ extension).getLast?, isBlank c = false := by
  have hall : ∀ e ∈ removable, e ≠ [] ∧ e.getLast?.any isBlank = false := by decide
  obtain ⟨hne, hlast⟩ := hall extension h
  intro c hc
  rw [getLast?_append_of_ne_nil _ hne] at hc
  rwa [Option.mem_def.mp hc] at hlast

theorem mem_candidates_of_completion (hbase : (cutName base).2 ≠ []) (h : extension ∈ completions) :
    base ++ extension ∈ candidates base := by
  have hne : ¬ base.isEmpty = true := fun hempty => (ne_nil_of_name hbase).1 (isEmpty_iff.mp hempty)
  rw [candidates, if_neg hne]
  exact mem_append_left _ (mem_map_of_mem h)

/-- The specifier is relative, no alias replaces its lead, and from the directory of the importing file
it collapses to the path. -/
structure LeadsTo (aliases : List Alias) (importer specifier path : Text) : Prop where
  dot : ['.'] <+: specifier
  noAlias : ∀ a ∈ aliases, ¬ a.lead <+: specifier
  /-- A file that writes module names with dots uses a slash to name a path. -/
  slash : ".py".toList <:+ importer → '/' ∈ specifier
  path_eq : collapse? ((cutName (key importer)).1 ++ '/' :: specifier) = some path

theorem LeadsTo.writtenPath_eq (h : LeadsTo aliases importer specifier path) :
    writtenPath aliases (key importer) specifier = (cutName (key importer)).1 ++ '/' :: specifier := by
  have halias : aliasOf? aliases specifier = none := by
    apply find?_eq_none.mpr
    intro a ha hlead
    have hlead := isPrefixOf_iff_prefix.mp hlead
    exact h.noAlias a ha hlead
  have hplain : (writesDots (key importer) && !specifier.contains '/') = false := by
    by_cases hdots : ".py".toList <:+ importer
    · simp [h.slash hdots]
    · have hno : ¬ writesDots (key importer) = true := by
        rwa [writesDots, isSuffixOf_iff_suffix, suffix_key_iff (by decide) (by decide)]
      simp [hno]
  simp only [writtenPath, halias, hplain, Bool.false_eq_true, if_false]

theorem LeadsTo.trim_eq (h : LeadsTo aliases importer specifier path)
    (hlast : ∀ c ∈ path.getLast?, isBlank c = false) : trim specifier = specifier := by
  apply trim_eq_self
  · obtain ⟨rest, rfl⟩ := h.dot
    intro c hc
    obtain rfl : '.' = c := by simpa using hc
    rfl
  · intro c hc
    by_contra hblank
    -- a blank is neither a slash nor a dot, so the path would end in it, too
    have hne (d : Char) (hd : isBlank d = false) : c ≠ d := fun hcd => hblank (hcd ▸ hd)
    exact hblank (hlast c (getLast?_of_collapse? h.path_eq hc (hne '/' rfl) (hne '.' rfl)))

theorem LeadsTo.resolve?_eq (h : LeadsTo aliases importer specifier path)
    (hlast : ∀ c ∈ path.getLast?, isBlank c = false) (known : Text → Bool) :
    resolve? aliases known importer specifier = (candidates (withoutExtension path)).find? known := by
  have hinside : (specifier.isEmpty || isExternal aliases specifier) = false := by
    obtain ⟨rest, rfl⟩ := h.dot
    rfl
  simp only [resolve?, h.trim_eq hlast, hinside, Bool.false_eq_true, if_false, h.writtenPath_eq, h.path_eq]
  rfl

/-- An import that names a known source file, whose name is more than its extension, is lost just if this
extension completes no path and none of the paths that the import may mean is known. -/
theorem named_file_lost_iff (h : LeadsTo aliases importer specifier (base ++ extension))
    (hbase : (cutName base).2 ≠ []) (hextension : extension ∈ removable)
    (hknown : known (base ++ extension) = true) :
    resolve? aliases known importer specifier = none ↔
      (extension = ".mts".toList ∨ extension = ".cts".toList) ∧
        ∀ path ∈ candidates base, known path = false := by
  rw [h.resolve?_eq (isBlank_of_getLast?_removable hextension), withoutExtension_append hextension hbase,
    find?_eq_none]
  simp only [Bool.not_eq_true, iff_and_self]
  intro hnone
  have hall : ∀ e ∈ removable, e ∉ completions → e = ".mts".toList ∨ e = ".cts".toList := by
    decide
  apply hall extension hextension
  intro hcompletion
  rw [hnone _ (mem_candidates_of_completion hbase hcompletion)] at hknown
  cases hknown

/-- A file that completes no path is not lost where an entry file stands in its place. -/
theorem named_file_lost_iff_entry_file :
    ∃ known : Text → Bool, known "lib/b.cts".toList = true ∧
      LeadsTo [] "src/a.ts".toList "../lib/b.cts".toList "lib/b.cts".toList ∧
      resolve? [] known "src/a.ts".toList "../lib/b.cts".toList ≠ none := by
  let known : Text → Bool := (["lib/b.cts", "lib/b/index.ts"].map String.toList).contains
  have hknown : known ("lib/b".toList ++ ".cts".toList) = true := by decide
  have hleads : LeadsTo [] "src/a.ts".toList "../lib/b.cts".toList ("lib/b".toList ++ ".cts".toList) :=
    ⟨by decide, by decide, by decide, by decide⟩
  have hlost := named_file_lost_iff hleads (by decide) (by decide) hknown
  refine ⟨known, hknown, hleads, ?_⟩
  intro hnone
  have hentry := (hlost.mp hnone).2 "lib/b/index.ts".toList (by decide)
  exact absurd hentry (by decide)

/-- An import of `./b.mts` does not find the known file `b.mts` beside the importing file. -/
theorem named_file_lost :
    ¬ ∀ (aliases : List Alias) (known : Text → Bool) (importer specifier base extension : Text),
      LeadsTo aliases importer specifier (base ++ extension) → (cutName base).2 ≠ [] →
        extension ∈ removable → known (base ++ extension) = true →
          (resolve? aliases known importer specifier).isSome = true := by
  intro hfound
  let aliases : List Alias := ({} : GraphSettings).aliases
  let known : Text → Bool := (["src/a.mts", "src/b.mts"].map String.toList).contains
  have hleads : LeadsTo aliases "src/a.mts".toList "./b.mts".toList ("src/b".toList ++ ".mts".toList) :=
    ⟨by decide, by decide, by decide, by decide⟩
  have hsome := hfound aliases known "src/a.mts".toList "./b.mts".toList "src/b".toList ".mts".toList hleads
    (by decide) (by decide) (by decide)
  exact absurd hsome (by decide)

end Graph

end RepoAtlas
