import RepoAtlas.Proofs.Graph.Climbing

/-! # Extensions that are left out -/

namespace RepoAtlas.Graph

open Text Unicode RepoAtlas.Path List

variable {known : Text → Bool} {importer specifier extension before s t : Text}

theorem join_concat_append (ss : List Text) (s t : Text) :
    join ['/'] (ss ++ [s ++ t]) = join ['/'] (ss ++ [s]) ++ t := by
  by_cases hss : ss = []
  · subst hss
    rw [nil_append, nil_append, join_singleton, join_singleton]
  · rw [join_concat _ _ hss, join_concat _ _ hss, append_assoc _ s t]

theorem slash_notMem_removable (h : extension ∈ removable) : '/' ∉ extension := by
  have hall : ∀ e ∈ removable, '/' ∉ e := by decide
  exact hall extension h

theorem exists_eq_withoutExtension_append {path : Text} (hname : (cutName path).2 ≠ []) :
    ∃ tail, path = withoutExtension path ++ tail ∧ '/' ∉ tail ∧ (cutName (withoutExtension path)).2 ≠ [] := by
  rw [withoutExtension]
  split
  · exact ⟨[], by simp, not_mem_nil, hname⟩
  · next stem hstem =>
    obtain ⟨extension, hextension, hdrop⟩ := exists_of_findSome?_eq_some hstem
    have hpath := dropTail?_eq_some_iff.mp hdrop
    split
    · exact ⟨[], by simp, not_mem_nil, hname⟩
    · next hstays =>
      refine ⟨extension, hpath, slash_notMem_removable hextension, ?_⟩
      intro hnil
      have hlast := getLast?_name stem
      rw [hnil, getLast?_nil] at hlast
      cases hc : stem.getLast? with
      | none => exact hstays (by simp [getLast?_eq_none_iff.mp hc])
      | some c =>
        rw [hc] at hlast
        by_cases hslash : c = '/'
        · exact hstays (by simp [hc, hslash])
        · simp [Option.filter, hslash] at hlast

/-- A segment with an extension is too long to be empty, `.` or `..`. -/
theorem isKept_append_removable (h : extension ∈ removable) (s : Text) : IsKept (s ++ extension) := by
  have hall : ∀ e ∈ removable, 3 ≤ e.length := by decide
  have hlength := hall extension h
  have hlong : 3 ≤ (s ++ extension).length := by
    rw [length_append]
    omega
  have hne (t : Text) (ht : t.length < 3) : s ++ extension ≠ t := by
    rintro rfl
    omega
  exact ⟨hne _ (by decide), hne _ (by decide), hne _ (by decide)⟩

theorem meanings_append_extension (h : extension ∈ removable) (hs : IsKept s) (hslash : '/' ∉ s)
    (hbare : ∀ e ∈ removable, ¬ e <:+ s) (before : Text) :
    meanings (before ++ '/' :: (s ++ extension)) = meanings (before ++ '/' :: s) := by
  have hslash' : '/' ∉ s ++ extension := fun hmem =>
    (mem_append.mp hmem).elim hslash (slash_notMem_removable h)
  rw [meanings, meanings, collapse?_append (isKept_append_removable h s) hslash', collapse?_append hs hslash]
  cases collapseAfter [] (Text.splitOn '/' before) with
  | none => rfl
  | some kept =>
    have hname : (cutName (join ['/'] (kept ++ [s]))).2 = s := by rw [cutName_join_concat hslash]
    have hself : withoutExtension (join ['/'] (kept ++ [s])) = join ['/'] (kept ++ [s]) := by
      apply withoutExtension_eq_self
      intro e he hsuffix
      rw [← suffix_name_iff (slash_notMem_removable he), hname] at hsuffix
      exact hbare e he hsuffix
    have hne : (cutName (join ['/'] (kept ++ [s]))).2 ≠ [] := hname.symm ▸ hs.1
    simp only [Option.map_some, join_concat_append, withoutExtension_append h hne, hself]

theorem choices_relative (hslash : '/' ∈ t) (hblank : ∀ c ∈ ('.' :: t).getLast?, isBlank c = false)
    (importer : Text) :
    choices usualAliases importer ('.' :: t) = meanings ((cutName (key importer)).1 ++ '/' :: '.' :: t) := by
  have hhead : ∀ c ∈ ('.' :: t).head?, isBlank c = false := by
    intro c hc
    obtain rfl : '.' = c := by simpa using hc
    rfl
  rw [choices_of_dot (trim_eq_self hhead hblank), writtenPath_of_slash hslash]

/-- The specifier is relative and ends in a name that has no source extension. -/
structure IsBare (specifier : Text) : Prop where
  relative : "./".toList <+: specifier ∨ "../".toList <+: specifier
  blank : ∀ c ∈ specifier.getLast?, isBlank c = false
  kept : IsKept (cutName specifier).2
  bare : ∀ e ∈ removable, ¬ e <:+ (cutName specifier).2

/-- A relative specifier leads to the same file with a source extension and without, whatever the extension
and the importing file are. -/
theorem resolve?_append_extension (h : IsBare specifier) (hextension : extension ∈ removable)
    (known : Text → Bool) (importer : Text) :
    resolve? usualAliases known importer (specifier ++ extension) =
      resolve? usualAliases known importer specifier := by
  obtain ⟨t, rfl, hslash⟩ : ∃ t, specifier = '.' :: t ∧ '/' ∈ t := by
    rcases h.relative with ⟨rest, rfl⟩ | ⟨rest, rfl⟩
    · exact ⟨'/' :: rest, rfl, mem_cons_self⟩
    · exact ⟨'.' :: '/' :: rest, rfl, mem_cons_of_mem _ mem_cons_self⟩
  obtain ⟨directory, name, hpath, hname, hcut⟩ :=
    (cutName_cases ('.' :: t)).resolve_left fun hno => hno.1 (mem_cons_of_mem '.' hslash)
  obtain ⟨-, hblank, hkept, hbare⟩ := h
  rw [hcut] at hkept hbare
  have hlast : ∀ c ∈ ('.' :: t ++ extension).getLast?, isBlank c = false :=
    isBlank_of_getLast?_removable hextension
  have hlonger := choices_relative (mem_append_left extension hslash) hlast importer
  rw [resolve?_eq_find?_choices, resolve?_eq_find?_choices, cons_append, hlonger,
    choices_relative hslash hblank importer, ← cons_append, hpath]
  have hmeanings := meanings_append_extension hextension hkept hname hbare
    ((cutName (key importer)).1 ++ '/' :: directory)
  simp only [append_assoc, cons_append] at hmeanings ⊢
  rw [hmeanings]

/-- A name that begins with a dot and has another one leads to a directory, with every extension. -/
theorem resolve?_append_extension_hidden :
    let known : Text → Bool := ["lib/.conf.v2/index.ts".toList].contains
    IsBare "../lib/.conf.v2".toList ∧
      resolve? usualAliases known "src/main.py".toList "../lib/.conf.v2".toList =
        some "lib/.conf.v2/index.ts".toList ∧
      ∀ extension ∈ removable,
        resolve? usualAliases known "src/main.py".toList ("../lib/.conf.v2".toList ++ extension) =
          some "lib/.conf.v2/index.ts".toList := by
  intro known
  have hbare : IsBare "../lib/.conf.v2".toList := by
    refine ⟨by decide, ?_, by unfold IsKept; decide, by decide⟩
    intro c hc
    obtain rfl : '2' = c := Option.some.inj hc
    rfl
  have hfound : resolve? usualAliases known "src/main.py".toList "../lib/.conf.v2".toList =
      some "lib/.conf.v2/index.ts".toList := by
    decide
  refine ⟨hbare, hfound, ?_⟩
  intro extension hextension
  rw [resolve?_append_extension hbare hextension, hfound]

end RepoAtlas.Graph
