import RepoAtlas.Proofs.Graph.Choices
import RepoAtlas.Proofs.Graph.Resolve
import RepoAtlas.Proofs.Text.Blanks
import RepoAtlas.Unicode.Word

/-! # Imports that climb -/

namespace RepoAtlas.Graph

open Text Unicode RepoAtlas.Path List

variable {aliases : List Alias} {known : Text → Bool} {importer specifier s t name a : Text}
variable {directories names : List Text}

/-- The aliases of graph building, unless others are set. -/
def usualAliases : List Alias :=
  ({} : GraphSettings).aliases

theorem key_join (hdirectories : ∀ d ∈ directories, '\\' ∉ d) (hname : '\\' ∉ name) :
    key (join ['/'] (directories ++ [name])) = join ['/'] (directories ++ [name]) := by
  apply key_of_not_mem
  apply not_mem_join (by decide)
  intro segment hsegment
  rcases mem_append.mp hsegment with hsegment | hsegment
  · exact hdirectories segment hsegment
  · rwa [mem_singleton.mp hsegment]

/-! ## Specifiers -/

theorem choices_alias {a : Alias} (ha : a ∈ usualAliases) (importer t : Text) :
    choices usualAliases importer (a.lead ++ t) = meanings ("src/".toList ++ trimEnd t) := by
  have hleads : ∀ a ∈ usualAliases, a.lead ≠ [] ∧ (a.lead.head?.any isBlank = false ∧
      a.lead.getLast?.any isBlank = false) := by decide
  obtain ⟨hne, hhead, hlast⟩ := hleads a ha
  have htrim : trim (a.lead ++ t) = a.lead ++ trimEnd t := by
    apply trim_append hne
    · intro c hc
      rwa [Option.mem_def.mp hc] at hhead
    · intro c hc
      rwa [Option.mem_def.mp hc] at hlast
  simp only [choices, htrim]
  rcases mem_cons.mp ha with rfl | ha
  · rfl
  · rw [mem_singleton.mp ha]
    rfl

theorem choices_of_dot (h : trim specifier = '.' :: t) (importer : Text) :
    choices usualAliases importer specifier =
      meanings (writtenPath usualAliases (key importer) ('.' :: t)) := by
  simp only [choices, h]
  rfl

theorem writtenPath_of_slash (hslash : '/' ∈ t) (importer : Text) :
    writtenPath usualAliases importer ('.' :: t) = (cutName importer).1 ++ '/' :: '.' :: t := by
  have halias : aliasOf? usualAliases ('.' :: t) = none := rfl
  have hcontains : ('.' :: t).contains '/' = true := by simp [hslash]
  simp only [writtenPath, halias, hcontains, Bool.not_true, Bool.and_false, Bool.false_eq_true, if_false]

theorem writtenPath_of_dots (hdots : writesDots importer = true) (hslash : '/' ∉ t) :
    writtenPath usualAliases importer ('.' :: t) = (cutName importer).1 ++ '/' :: dottedPath ('.' :: t) := by
  have halias : aliasOf? usualAliases ('.' :: t) = none := rfl
  have hcontains : ('.' :: t).contains '/' = false := by simp [hslash]
  simp only [writtenPath, halias, hdots, hcontains, Bool.not_false, Bool.and_true, if_true]

/-! ## Climbing to the root -/

/-- The segment stays when a path is collapsed, and it has no slash of either kind. -/
structure IsDirectory (d : Text) : Prop where
  kept : IsKept d
  slash : '/' ∉ d
  backslash : '\\' ∉ d

/-- The specifier that climbs from the file to the root and goes on as an alias of the root does. -/
theorem choices_climb_to_root (hdirectories : ∀ d ∈ directories, IsDirectory d) (hslash : '/' ∉ name)
    (hback : '\\' ∉ name) (t : Text) :
    choices usualAliases (join ['/'] (directories ++ [name]))
        (climb directories.length ++ "src/".toList ++ t) =
      meanings ("src/".toList ++ trimEnd t) := by
  obtain ⟨u, hclimb⟩ := exists_climb_eq directories.length
  have htrim : trim (climb directories.length ++ "src/".toList ++ t) =
      climb directories.length ++ ("src/".toList ++ trimEnd t) := by
    rw [trim_append, append_assoc]
    · simp
    · intro c hc
      obtain rfl : '.' = c := by simpa [hclimb] using hc
      rfl
    · intro c hc
      rw [getLast?_append_of_ne_nil _ (by decide)] at hc
      obtain rfl : '/' = c := by simpa using hc
      rfl
  have hdot : climb directories.length ++ ("src/".toList ++ trimEnd t) =
      '.' :: (u ++ '/' :: ("src/".toList ++ trimEnd t)) := by
    rw [hclimb]
    simp
  have hcollapse := collapse?_climb (fun d hd => ⟨(hdirectories d hd).kept, (hdirectories d hd).slash⟩)
    directories.length ("src/".toList ++ trimEnd t)
  rw [if_pos (Nat.le_refl _), drop_eq_nil_of_le (by simp)] at hcollapse
  rw [choices_of_dot (htrim.trans hdot), writtenPath_of_slash (by simp), ← hdot,
    key_join (fun d hd => (hdirectories d hd).backslash) hback, cutName_join_concat hslash, meanings, hcollapse]
  rfl

/-- What the usual aliases lead to is the same in every file, and the relative specifier that climbs from a
file to the root first leads there, too. A path that climbs above the root leads nowhere. -/
theorem resolve?_alias_eq_relative (known : Text → Bool) (directories : List Text) (name t : Text)
    (hdirectories : ∀ d ∈ directories, IsDirectory d) (hslash : '/' ∉ name) (hback : '\\' ∉ name) :
    let importer := join ['/'] (directories ++ [name])
    let target? := (meanings ("src/".toList ++ trimEnd t)).find? known
    (∀ other, resolve? usualAliases known other ("@/".toList ++ t) = target? ∧
      resolve? usualAliases known other ("~/".toList ++ t) = target?) ∧
    resolve? usualAliases known importer (climb directories.length ++ "src/".toList ++ t) = target? ∧
    (collapse? ("src/".toList ++ trimEnd t) = none → target? = none) := by
  simp only [resolve?_eq_find?_choices]
  refine ⟨?_, ?_, ?_⟩
  · intro other
    have hat : (⟨"@/".toList, "src/".toList⟩ : Alias) ∈ usualAliases := by decide
    have htilde : (⟨"~/".toList, "src/".toList⟩ : Alias) ∈ usualAliases := by decide
    exact ⟨congrArg (find? known) (choices_alias hat other t),
      congrArg (find? known) (choices_alias htilde other t)⟩
  · rw [choices_climb_to_root hdirectories hslash hback]
  · intro hnone
    rw [meanings, hnone]
    rfl

/-- From a file two directories deep, out of the directory of the aliases and back, and above the root. -/
theorem resolve?_alias_eq_relative_two_deep :
    let known : Text → Bool := ["lib/c.ts".toList].contains
    (∀ d ∈ ["d".toList, "e".toList], IsDirectory d) ∧
      resolve? usualAliases known "a.ts".toList "@/../lib/c ".toList = some "lib/c.ts".toList ∧
      resolve? usualAliases known "d/e/f.py".toList "../../src/../lib/c ".toList = some "lib/c.ts".toList ∧
      resolve? usualAliases known "d/e/f.py".toList "../../src/../../c".toList = none := by
  intro known
  have hdirectories : ∀ d ∈ ["d".toList, "e".toList], IsDirectory d := by
    have hall : ∀ d ∈ ["d".toList, "e".toList], d ≠ [] ∧ '.' ∉ d ∧ '/' ∉ d ∧ '\\' ∉ d := by decide
    intro d hd
    obtain ⟨hne, hdot, hslash, hback⟩ := hall d hd
    exact ⟨isKept_of_not_mem hne hdot, hslash, hback⟩
  have hlib := resolve?_alias_eq_relative known _ "f.py".toList "../lib/c ".toList hdirectories
    (by decide) (by decide)
  have habove := resolve?_alias_eq_relative known _ "f.py".toList "../../c".toList hdirectories
    (by decide) (by decide)
  refine ⟨hdirectories, (hlib.1 "a.ts".toList).1.trans ?_, hlib.2.1.trans ?_, habove.2.1.trans ?_⟩
  · decide
  · decide
  · exact habove.2.2 (by decide)

/-! ## Dots -/

/-- A directory that names a package: there is no dot in it. -/
structure IsPackage (d : Text) : Prop where
  ne_nil : d ≠ []
  dot : '.' ∉ d
  slash : '/' ∉ d
  backslash : '\\' ∉ d

structure IsDottable (a : Text) : Prop where
  ne_nil : a ≠ []
  dot : '.' ∉ a
  slash : '/' ∉ a
  blank : ∀ c ∈ a, isBlank c = false

theorem isDottable_of_isWordChar (hne : a ≠ []) (h : a.all isWordChar = true) : IsDottable a := by
  have hword : ∀ c ∈ a, isWordChar c = true := all_eq_true.mp h
  have hclean {c : Char} (hc : isWordChar c = false) : c ∉ a := by
    intro hmem
    rw [hword c hmem] at hc
    cases hc
  refine ⟨hne, hclean (by decide), hclean (by decide), ?_⟩
  intro c hc
  by_contra hblank
  have hno : isWordChar c = false :=
    of_isBlank (P := fun c => isWordChar c = false) (by decide +kernel) (by simpa using hblank)
  exact hclean hno hc

def moduleFiles (path : Text) : List Text :=
  (if path = [] then [] else completions.map (path ++ ·)) ++
    ["index.ts", "index.tsx", "index.js", "index.jsx", "__init__.py"].map fun file =>
      if path = [] then file.toList else path ++ '/' :: file.toList

theorem withoutExtension_of_not_mem (h : '.' ∉ t) : withoutExtension t = t := by
  have hdots : ∀ extension ∈ removable, '.' ∈ extension := by decide
  apply withoutExtension_eq_self
  intro extension hextension hsuffix
  exact h (hsuffix.subset (hdots extension hextension))

theorem candidates_eq_moduleFiles (path : Text) : candidates path = moduleFiles path := by
  cases path with
  | nil => rfl
  | cons c path => rfl

/-- The first dot says that the path is relative, each further one climbs, and those behind a name divide. -/
theorem dottedPath_append (h : ∀ c ∈ t.head?, c ≠ '.') (n : Nat) :
    dottedPath (replicate (n + 1) '.' ++ t) = climb n ++ t.map fun c => if c = '.' then '/' else c := by
  have hdots : ∀ c ∈ replicate (n + 1) '.', (c == '.') = true := by
    intro c hc
    simpa using eq_of_mem_replicate hc
  have hrest : t.takeWhile (· == '.') = [] := by
    cases t with
    | nil => rfl
    | cons c t => simp [h c rfl]
  have hlength : (replicate (n + 1) '.').length = n + 1 := length_replicate
  simp only [dottedPath, takeWhile_append_of_pos hdots, hrest, append_nil, drop_left' hlength, hlength,
    Nat.add_eq_right, Nat.add_sub_cancel]
  rfl

theorem not_isBlank_of_mem_dotted (hnames : ∀ a ∈ names, IsDottable a) (dots : Nat) :
    ∀ c ∈ replicate dots '.' ++ join ['.'] names, isBlank c = false ∧ c ≠ '/' := by
  rw [forall_mem_append]
  constructor
  · intro c hc
    rw [eq_of_mem_replicate hc]
    decide
  · apply forall_mem_join
    · exact forall_mem_singleton.mpr (by decide)
    · intro a ha c hc
      exact ⟨(hnames a ha).blank c hc, fun hslash => (hnames a ha).slash (hslash ▸ hc)⟩

theorem dottedPath_eq (hnames : ∀ a ∈ names, IsDottable a) (n : Nat) :
    dottedPath (replicate (n + 1) '.' ++ join ['.'] names) = climb n ++ join ['/'] names := by
  have hslashes : (join ['.'] names).map (fun c => if c = '.' then '/' else c) = join ['/'] names := by
    have hsame : names.map (List.map fun c => if c = '.' then '/' else c) = names := by
      refine (map_congr_left (g := id) ?_).trans (map_id names)
      intro a ha
      exact map_replace_of_not_mem (hnames a ha).dot '/'
    rw [map_join, hsame]
    rfl
  have hhead : ∀ c ∈ (join ['.'] names).head?, c ≠ '.' := by
    cases names with
    | nil => simp [join]
    | cons a names =>
      obtain ⟨c, a, rfl⟩ := exists_cons_of_ne_nil (hnames a mem_cons_self).ne_nil
      have hc : c ≠ '.' := fun hdot => (hnames _ mem_cons_self).dot (hdot ▸ mem_cons_self)
      cases names with
      | nil => simpa using hc
      | cons b names => simpa [join_cons_cons] using hc
  rw [dottedPath_append hhead, hslashes]

/-- The specifier that begins with `n + 1` dots means the path that climbs `n` directories and goes down
along the names. -/
theorem choices_dotted (hdirectories : ∀ d ∈ directories, IsPackage d) (hslash : '/' ∉ name)
    (hback : '\\' ∉ name) (hpython : ".py".toList <:+ name) (hnames : ∀ a ∈ names, IsDottable a) (n : Nat) :
    choices usualAliases (join ['/'] (directories ++ [name])) (replicate (n + 1) '.' ++ join ['.'] names) =
      meanings (join ['/'] directories ++ '/' :: (climb n ++ join ['/'] names)) := by
  have hclean := not_isBlank_of_mem_dotted hnames (n + 1)
  have htrim : trim (replicate (n + 1) '.' ++ join ['.'] names) =
      '.' :: (replicate n '.' ++ join ['.'] names) :=
    trim_eq_self (fun c hc => (hclean c (mem_of_mem_head? hc)).1)
      fun c hc => (hclean c (mem_of_mem_getLast? hc)).1
  have hdots : writesDots (join ['/'] (directories ++ [name])) = true := by
    rw [writesDots, isSuffixOf_iff_suffix]
    exact hpython.trans (suffix_join_concat _ _ _)
  have hplain : '/' ∉ replicate n '.' ++ join ['.'] names := fun hc =>
    (hclean '/' (mem_cons_of_mem '.' hc)).2 rfl
  rw [choices_of_dot htrim, key_join (fun d hd => (hdirectories d hd).backslash) hback,
    writtenPath_of_dots hdots hplain, cutName_join_concat hslash, ← dottedPath_eq hnames]
  rfl

/-- In a Python file, a specifier of dots and names leads to the first known file of the module that lies
along the names, from the directory of the file or, with more dots than one, from as many directories above
it. Dots that climb above the root lead nowhere. -/
theorem resolve?_dotted (known : Text → Bool) (directories names : List Text) (name : Text) (n : Nat)
    (hdirectories : ∀ d ∈ directories, IsPackage d) (hslash : '/' ∉ name) (hback : '\\' ∉ name)
    (hpython : ".py".toList <:+ name) (hnames : ∀ a ∈ names, IsDottable a) :
    resolve? usualAliases known (join ['/'] (directories ++ [name]))
        (replicate (n + 1) '.' ++ join ['.'] names) =
      if n ≤ directories.length then
        (moduleFiles (join ['/'] (directories.take (directories.length - n) ++ names))).find? known
      else none := by
  have hkept : ∀ d ∈ directories, IsKept d ∧ '/' ∉ d := by
    intro d hd
    obtain ⟨hne, hdot, hslash, -⟩ := hdirectories d hd
    exact ⟨isKept_of_not_mem hne hdot, hslash⟩
  have hpath : collapseAfter (directories.reverse.drop n) (Text.splitOn '/' (join ['/'] names)) =
      some (directories.take (directories.length - n) ++ names) := by
    have hnames : ∀ a ∈ names, IsKept a ∧ '/' ∉ a := by
      intro a ha
      exact ⟨isKept_of_not_mem (hnames a ha).ne_nil (hnames a ha).dot, (hnames a ha).slash⟩
    have hdown := collapseAfter_splitOn_join hnames (directories.reverse.drop n) []
    rw [append_nil] at hdown
    rw [hdown]
    simp [collapseAfter, drop_reverse]
  have hdot : '.' ∉ join ['/'] (directories.take (directories.length - n) ++ names) := by
    apply not_mem_join (by decide)
    intro segment hsegment
    rcases mem_append.mp hsegment with hsegment | hsegment
    · exact (hdirectories segment (mem_of_mem_take hsegment)).dot
    · exact (hnames segment hsegment).dot
  rw [resolve?_eq_find?_choices, choices_dotted hdirectories hslash hback hpython hnames, meanings,
    collapse?_climb hkept, hpath]
  by_cases hn : n ≤ directories.length
  · simp only [hn, if_true, Option.map_some, withoutExtension_of_not_mem hdot, candidates_eq_moduleFiles]
  · simp only [hn, if_false]
    rfl

/-- From a file two directories deep: a module beside its directory, the package at the root, and no
further. -/
theorem resolve?_dotted_two_deep :
    let known : Text → Bool :=
      (["app/models/user.py", "app/models/user/__init__.py", "__init__.py"].map String.toList).contains
    let importer := "app/core/main.py".toList
    (∀ d ∈ ["app".toList, "core".toList], IsPackage d) ∧
      (∀ a ∈ ["models".toList, "user".toList], IsDottable a) ∧
      resolve? usualAliases known importer "..models.user".toList = some "app/models/user.py".toList ∧
      resolve? usualAliases known importer "...".toList = some "__init__.py".toList ∧
      resolve? usualAliases known importer "....models.user".toList = none := by
  intro known importer
  have hdirectories : ∀ d ∈ ["app".toList, "core".toList], IsPackage d := by
    have hall : ∀ d ∈ ["app".toList, "core".toList], d ≠ [] ∧ '.' ∉ d ∧ '/' ∉ d ∧ '\\' ∉ d := by decide
    intro d hd
    obtain ⟨hne, hdot, hslash, hback⟩ := hall d hd
    exact ⟨hne, hdot, hslash, hback⟩
  have hnames : ∀ a ∈ ["models".toList, "user".toList], IsDottable a := by
    have hall : ∀ a ∈ ["models".toList, "user".toList], a ≠ [] ∧ a.all isWordChar = true := by decide
    intro a ha
    exact isDottable_of_isWordChar (hall a ha).1 (hall a ha).2
  have hpython : ".py".toList <:+ "main.py".toList := by decide
  refine ⟨hdirectories, hnames, ?_, ?_, ?_⟩
  · exact (resolve?_dotted known _ _ "main.py".toList 1 hdirectories (by decide) (by decide) hpython
      hnames).trans (by decide)
  · exact (resolve?_dotted known _ [] "main.py".toList 2 hdirectories (by decide) (by decide) hpython
      (by simp)).trans (by decide)
  · exact (resolve?_dotted known _ _ "main.py".toList 3 hdirectories (by decide) (by decide) hpython
      hnames).trans (by decide)

end RepoAtlas.Graph
