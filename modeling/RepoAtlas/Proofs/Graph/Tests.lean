import RepoAtlas.Proofs.Graph.Impact
import RepoAtlas.Proofs.Path.Collapse
import RepoAtlas.Proofs.Text.Letters

/-! # The tests of a file -/

namespace RepoAtlas.Graph

open Text RepoAtlas.Path List

variable {stem name path file : Text} {directories files : List Text}

/-- The stem of a name is what stands before its last dot, or the whole name if nothing stands there. -/
inductive HasStem : Text → Text → Prop
  | plain {t : Text} (h : '.' ∉ t) : HasStem t t
  | hidden {rest : Text} (h : '.' ∉ rest) : HasStem ('.' :: rest) ('.' :: rest)
  | extended {front rest : Text} (hne : front ≠ []) (h : '.' ∉ rest) : HasStem (front ++ '.' :: rest) front

theorem stemOf_eq_iff : stemOf name = stem ↔ HasStem name stem := by
  constructor
  · rintro rfl
    cases hcut : cutLast? '.' name with
    | none =>
      rw [stemOf, hcut]
      exact .plain (cutLast?_eq_none_iff.mp hcut)
    | some parts =>
      obtain ⟨front, rest⟩ := parts
      obtain ⟨rfl, hdot⟩ := cutLast?_eq_some_iff.mp hcut
      cases front with
      | nil =>
        rw [stemOf, hcut]
        exact .hidden hdot
      | cons c front =>
        rw [stemOf, hcut]
        exact .extended (cons_ne_nil c front) hdot
  · rintro (h | @⟨rest, h⟩ | ⟨hne, h⟩)
    · rw [stemOf, cutLast?_eq_none_iff.mpr h]
    · have hcut : cutLast? '.' ('.' :: rest) = some ([], rest) := cutLast?_eq_some_iff.mpr ⟨rfl, h⟩
      rw [stemOf, hcut]
      rfl
    · rw [stemOf, cutLast?_eq_some_iff.mpr ⟨rfl, h⟩]
      simp [hne]

theorem HasStem.isPrefix (h : HasStem name stem) : stem <+: name := by
  cases h with
  | plain => exact prefix_refl _
  | hidden => exact prefix_refl _
  | extended => exact prefix_append _ _

def customs : List (String × String) :=
  [("", ".test."), ("", ".spec."), ("", "_test."), ("", "-test."), ("test_", ".")]

/-- By the custom, a file of this name in these directories is a test for files with the stem. The case of
letters does not matter. -/
def IsTestBy (stem : Text) (directories : List Text) (name : Text) : Prop :=
  (∃ custom ∈ customs, BeginsLike (custom.1.toList ++ stem ++ custom.2.toList) name) ∨
    BeginsLike (stem ++ ['.']) name ∧
      ∃ directory ∈ directories, ∃ t ∈ ["__tests__", "test", "tests"], SameLetters directory t.toList

def IsTestPath (stem path : Text) : Prop :=
  ∃ directories name, path = join ['/'] (directories ++ [name]) ∧ (∀ s ∈ directories ++ [name], '/' ∉ s) ∧
    IsTestBy stem directories name

theorem testLeads_eq_map (stem : Text) :
    testLeads stem = customs.map fun custom => custom.1.toList ++ stem ++ custom.2.toList := by
  simp [testLeads, customs]

/-- A stem in lower case, between marks, begins a name in lower case just if it begins the name in some
case. -/
theorem isPrefixOf_lower_iff (lead tail : Text) (hstem : IsAscii stem) (hname : IsAscii name)
    (hlead : IsAscii lead ∧ lead.map Char.toLower = lead)
    (htail : IsAscii tail ∧ tail.map Char.toLower = tail) :
    (lead ++ lower stem ++ tail).isPrefixOf (lower name) = true ↔ BeginsLike (lead ++ stem ++ tail) name := by
  have hall := (hlead.1.append hstem).append htail.1
  have hlower : lower (lead ++ stem ++ tail) = lead ++ lower stem ++ tail := by
    rw [lower_of_isAscii hall, lower_of_isAscii hstem, map_append, map_append, hlead.2, htail.2]
  rw [List.isPrefixOf_iff_prefix, ← hlower, lower_prefix_lower_iff hall hname]

theorem any_testLeads_iff (hstem : IsAscii stem) (hname : IsAscii name) :
    (testLeads (lower stem)).any (·.isPrefixOf (lower name)) = true ↔
      ∃ custom ∈ customs, BeginsLike (custom.1.toList ++ stem ++ custom.2.toList) name := by
  have hsmall : ∀ custom ∈ customs,
      (IsAscii custom.1.toList ∧ custom.1.toList.map Char.toLower = custom.1.toList) ∧
        IsAscii custom.2.toList ∧ custom.2.toList.map Char.toLower = custom.2.toList := by
    decide
  rw [testLeads_eq_map, any_map, any_eq_true]
  apply exists_congr
  intro custom
  rw [and_congr_right_iff]
  intro hcustom
  exact isPrefixOf_lower_iff _ _ hstem hname (hsmall custom hcustom).1 (hsmall custom hcustom).2

theorem any_testDirectories_iff (hdirectories : ∀ directory ∈ directories, IsAscii directory) :
    directories.any (fun s => testDirectories.contains (lower s)) = true ↔
      ∃ directory ∈ directories, ∃ t ∈ ["__tests__", "test", "tests"], SameLetters directory t.toList := by
  have hsmall : ∀ t ∈ ["__tests__", "test", "tests"], t.toList.map Char.toLower = t.toList := by decide
  rw [any_eq_true]
  apply exists_congr
  intro directory
  rw [and_congr_right_iff]
  intro hdirectory
  rw [contains_iff_mem, lower_of_isAscii (hdirectories directory hdirectory), testDirectories, mem_map]
  apply exists_congr
  intro t
  rw [and_congr_right_iff]
  intro ht
  rw [SameLetters, hsmall t ht, eq_comm]

theorem isTestFor_join_iff (hstem : IsAscii stem) (hpath : IsAscii (join ['/'] (directories ++ [name])))
    (hslash : ∀ s ∈ directories ++ [name], '/' ∉ s) :
    isTestFor (lower stem) (join ['/'] (directories ++ [name])) = true ↔ IsTestBy stem directories name := by
  obtain ⟨hdirectories, hname⟩ := forall_mem_append.mp hslash
  have hascii : ∀ s ∈ directories ++ [name], IsAscii s := fun s hs => hpath.of_infix (infix_join hs)
  obtain ⟨hascii, hnameAscii⟩ := forall_mem_append.mp hascii
  have hnameAscii := hnameAscii name (mem_singleton_self name)
  have hplain : (lower stem ++ ['.']).isPrefixOf (lower name) = true ↔ BeginsLike (stem ++ ['.']) name :=
    isPrefixOf_lower_iff [] ['.'] hstem hnameAscii (by decide) (by decide)
  -- a path without directories is cut into one empty directory, which is none of tests
  have hcut : (Text.splitOn '/' (join ['/'] directories)).any (fun s => testDirectories.contains (lower s)) =
      directories.any fun s => testDirectories.contains (lower s) := by
    by_cases hnil : directories = []
    · rw [hnil]
      decide
    · rw [splitOn_join hnil hdirectories]
  simp only [isTestFor, cutName_join_concat (hname name (mem_singleton_self name)), hcut, Bool.or_eq_true,
    Bool.and_eq_true, any_testLeads_iff hstem hnameAscii, any_testDirectories_iff hascii, hplain]
  rfl

theorem isTestFor_iff (hstem : IsAscii stem) (hpath : IsAscii path) :
    isTestFor (lower stem) path = true ↔ IsTestPath stem path := by
  constructor
  · intro h
    obtain ⟨directories, name, rfl, hslash⟩ := exists_eq_join path
    exact ⟨directories, name, rfl, hslash, (isTestFor_join_iff hstem hpath hslash).mp h⟩
  · rintro ⟨directories, name, rfl, hslash, h⟩
    exact (isTestFor_join_iff hstem hpath hslash).mpr h

theorem isAscii_key (h : IsAscii path) : IsAscii (key path) := by
  intro c hc
  obtain ⟨d, hd, rfl⟩ := mem_map.mp hc
  split
  · decide
  · exact h d hd

theorem tests_impact (g : Graph) (file : Text) (files : List Text) :
    (g.impact file files).tests = relatedTests (key file) files :=
  rfl

theorem relatedTests_congr {files' : List Text} (h : ∀ path, path ∈ files'.map key ↔ path ∈ files.map key)
    (file : Text) : relatedTests file files' = relatedTests file files := by
  simp only [relatedTests]
  split
  · rfl
  · apply (Text.ascending_ascending _).eq_of_mem_iff (Text.ascending_ascending _)
    intro path
    rw [Text.mem_ascending, Text.mem_ascending, mem_filter, mem_filter, h]

theorem ascending_relatedTests (file : Text) (files : List Text) :
    Text.Ascending (relatedTests file files) := by
  simp only [relatedTests]
  split
  · exact Pairwise.nil
  · exact Text.ascending_ascending _

theorem mem_relatedTests_iff (hascii : ∀ path ∈ files, IsAscii path) (hname : IsAscii name)
    (hslash : '/' ∉ name) (hstem : HasStem name stem) (hne : stem ≠ []) :
    path ∈ relatedTests (join ['/'] (directories ++ [name])) files ↔
      path ∈ files.map key ∧ path ≠ join ['/'] (directories ++ [name]) ∧ IsTestPath stem path := by
  have hstemAscii := hname.of_infix hstem.isPrefix.isInfix
  have hlower : ¬ (lower stem).isEmpty = true := by
    rw [lower_of_isAscii hstemAscii]
    simpa using hne
  rw [relatedTests, cutName_join_concat hslash, stemOf_eq_iff.mpr hstem, if_neg hlower, Text.mem_ascending,
    mem_filter, Bool.and_eq_true, bne_iff_ne]
  apply and_congr_right
  intro hpath
  apply and_congr_right
  intro _
  obtain ⟨f, hf, rfl⟩ := mem_map.mp hpath
  exact isTestFor_iff hstemAscii (isAscii_key (hascii f hf))

/-- Among files with names in ASCII, those that are tests by the custom are found, in ascending order. Another
list of the same files, or another spelling of them, makes no difference. -/
theorem tests_by_custom (g : Graph) (file : Text) (files directories : List Text) (name stem : Text)
    (hascii : ∀ path ∈ file :: files, IsAscii path)
    (hfile : key file = join ['/'] (directories ++ [name])) (hslash : '/' ∉ name) (hstem : HasStem name stem)
    (hne : stem ≠ []) :
    Text.Ascending (g.impact file files).tests ∧
      (∀ path, path ∈ (g.impact file files).tests ↔
        path ∈ files.map key ∧ path ≠ key file ∧ IsTestPath stem path) ∧
      ∀ file' files', key file' = key file → (∀ path, path ∈ files'.map key ↔ path ∈ files.map key) →
        (g.impact file' files').tests = (g.impact file files).tests := by
  obtain ⟨hfileAscii, hfiles⟩ := forall_mem_cons.mp hascii
  have hname : IsAscii name := by
    have hkey := isAscii_key hfileAscii
    rw [hfile] at hkey
    exact hkey.of_infix (suffix_join_concat _ _ _).isInfix
  simp only [tests_impact]
  refine ⟨ascending_relatedTests _ _, ?_, ?_⟩
  · intro path
    rw [hfile]
    exact mem_relatedTests_iff hfiles hname hslash hstem hne
  · intro file' files' hkey hfiles'
    rw [hkey]
    exact relatedTests_congr hfiles' _

/-- A name with two dots, other cases and other slashes, and the file itself in the list. -/
theorem tests_by_custom_two_dots :
    let file := "src\\Api.v2.ts".toList
    let files := ["src/Api.v2.ts", "src/test_api.v2.py", "TEST\\api.V2.js", "src/api.v2.test"].map String.toList
    (∀ path ∈ file :: files, IsAscii path) ∧ key file = join ['/'] (["src".toList] ++ ["Api.v2.ts".toList]) ∧
      HasStem "Api.v2.ts".toList "Api.v2".toList ∧
      (empty.impact file files).tests = ["TEST/api.V2.js".toList, "src/test_api.v2.py".toList] ∧
      (empty.impact "src/Api.v2.ts".toList files.reverse).tests = (empty.impact file files).tests ∧
      IsTestPath "Api.v2".toList "TEST/api.V2.js".toList ∧
      ¬ IsTestPath "Api.v2".toList "src/api.v2.test".toList := by
  intro file files
  have hascii : ∀ path ∈ file :: files, IsAscii path := by decide
  have hfile : key file = join ['/'] (["src".toList] ++ ["Api.v2.ts".toList]) := by decide
  have hstem : HasStem ("Api.v2".toList ++ '.' :: "ts".toList) "Api.v2".toList :=
    .extended (by decide) (by decide)
  obtain ⟨-, hmem, hsame⟩ := tests_by_custom empty file files _ _ _ hascii hfile (by decide) hstem (by decide)
  have htests : (empty.impact file files).tests = ["TEST/api.V2.js".toList, "src/test_api.v2.py".toList] := by
    decide
  refine ⟨hascii, hfile, hstem, htests, hsame _ _ (by decide) (by simp), ?_, ?_⟩
  · exact ((hmem "TEST/api.V2.js".toList).mp (by rw [htests]; decide)).2.2
  · intro hcustom
    have hfound := (hmem "src/api.v2.test".toList).mpr ⟨by decide, by decide, hcustom⟩
    rw [htests] at hfound
    exact absurd hfound (by decide)

end RepoAtlas.Graph
