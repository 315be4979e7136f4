import RepoAtlas.Code.Language
import RepoAtlas.Proofs.Graph.Extensions
import RepoAtlas.Proofs.Path.Normal
import RepoAtlas.Proofs.Text.Letters

/-! # What an import takes from the importing file -/

namespace RepoAtlas.Graph

open Code Text Unicode RepoAtlas.Path List

variable {aliases : List Alias} {importer importer' directory specifier s t f : Text} {ss : List Text}

/-! ## Choices from a directory -/

def choicesFrom (aliases : List Alias) (directory : Text) (divides : Bool) (specifier : Text) : List Text :=
  let specifier := trim specifier
  if specifier.isEmpty || isExternal aliases specifier then []
  else match aliasOf? aliases specifier with
    | some a => meanings (a.target ++ specifier.drop a.lead.length)
    | none => meanings (directory ++ '/' ::
        if divides && !specifier.contains '/' then dottedPath specifier else specifier)

theorem choices_eq_choicesFrom (aliases : List Alias) (importer specifier : Text) :
    choices aliases importer specifier =
      choicesFrom aliases (cutName (key importer)).1 (writesDots (key importer)) specifier := by
  simp only [choices, choicesFrom, writtenPath]
  cases aliasOf? aliases (trim specifier) <;> rfl

/-- The specifier names a module by dots: it begins with a dot, has neither an alias nor a slash, and is more
than the one or two dots that name a directory anyway. -/
structure NamesModule (aliases : List Alias) (specifier : Text) : Prop where
  dot : ['.'] <+: trim specifier
  noAlias : aliasOf? aliases (trim specifier) = none
  slash : '/' ∉ trim specifier
  ne_here : trim specifier ≠ ['.']
  ne_above : trim specifier ≠ ['.', '.']

theorem choicesFrom_of_namesModule (h : NamesModule aliases specifier) (directory : Text) (divides : Bool) :
    choicesFrom aliases directory divides specifier =
      meanings (directory ++ '/' :: if divides then dottedPath (trim specifier) else trim specifier) := by
  obtain ⟨t, ht⟩ := h.dot
  have hinside : ((trim specifier).isEmpty || isExternal aliases (trim specifier)) = false := by
    rw [← ht]
    rfl
  have hcontains : (trim specifier).contains '/' = false := by simpa using h.slash
  simp only [choicesFrom, hinside, Bool.false_eq_true, if_false, h.noAlias, hcontains, Bool.not_false,
    Bool.and_true]

/-! ## Where dots make no difference -/

theorem collapse?_append_of_none (h : collapse? directory = none) (s : Text) :
    collapse? (directory ++ '/' :: s) = none := by
  rw [collapse?, Option.map_eq_none_iff] at h ⊢
  rw [splitOn_append, collapseAfter_append, h]
  rfl

/-- One dot and two name the same directory as steps of a path and as the front of a module name. -/
theorem meanings_dottedPath_of_dots (h : s = ['.'] ∨ s = ['.', '.']) (directory : Text) :
    meanings (directory ++ '/' :: dottedPath s) = meanings (directory ++ '/' :: s) := by
  have hsteps : ∀ kept, collapseAfter kept (Text.splitOn '/' (dottedPath s)) =
      collapseAfter kept (Text.splitOn '/' s) := by
    rcases h with rfl | rfl
    · exact fun kept => rfl
    · rintro (_ | _) <;> rfl
  have hcollapse : collapse? (directory ++ '/' :: dottedPath s) = collapse? (directory ++ '/' :: s) := by
    rw [collapse?, collapse?, splitOn_append, splitOn_append, collapseAfter_append, collapseAfter_append]
    simp only [hsteps]
  rw [meanings, meanings, hcollapse]

theorem choicesFrom_congr (h : ¬ NamesModule aliases specifier ∨ collapse? directory = none) :
    choicesFrom aliases directory true specifier = choicesFrom aliases directory false specifier := by
  simp only [choicesFrom]
  split
  · rfl
  next hinside =>
  cases halias : aliasOf? aliases (trim specifier) with
  | some a => rfl
  | none =>
    by_cases hslash : '/' ∈ trim specifier
    · simp [hslash]
    by_cases hdots : trim specifier = ['.'] ∨ trim specifier = ['.', '.']
    · simpa [hslash] using meanings_dottedPath_of_dots hdots directory
    · have hdot : ['.'] <+: trim specifier := by
        simp only [isExternal, halias, Bool.or_eq_true, not_or] at hinside
        simpa using hinside.2
      obtain ⟨hhere, habove⟩ := not_or.mp hdots
      have hnone := h.resolve_left (not_not.mpr ⟨hdot, halias, hslash, hhere, habove⟩)
      simp only [meanings, collapse?_append_of_none hnone]

/-! ## Where dots make a difference -/

theorem head?_candidates (h : (cutName s).2 ≠ []) : (candidates s).head? = some (s ++ ".ts".toList) := by
  rw [candidates, if_neg (by simpa using (ne_nil_of_name h).1)]
  rfl

theorem exists_head?_candidates (hss : ∀ s ∈ ss, IsKept s ∧ '/' ∉ s) :
    ∃ f, (candidates (withoutExtension (join ['/'] ss))).head? = some f ∧
      (cutName f).1 = join ['/'] ss.dropLast ∧ ∀ s ∈ ss.getLast?, (cutName f).2.head? = s.head? := by
  rcases eq_nil_or_concat' ss with rfl | ⟨front, s, rfl⟩
  · exact ⟨"index.ts".toList, rfl, rfl, by simp⟩
  · obtain ⟨hs, hslash⟩ := hss s (mem_append_right front mem_cons_self)
    have hcut := cutName_join_concat hslash front
    have hname : (cutName (join ['/'] (front ++ [s]))).2 ≠ [] := by
      rw [hcut]
      exact hs.1
    obtain ⟨tail, hpath, htail, hstem⟩ := exists_eq_withoutExtension_append hname
    generalize withoutExtension (join ['/'] (front ++ [s])) = stem at hpath hstem ⊢
    rw [hpath, cutName_append_of_not_mem htail] at hcut
    obtain ⟨hdirectory, hsegment⟩ := Prod.mk.inj hcut
    have hfirst := cutName_append_of_not_mem (t := ".ts".toList) (by decide) stem
    refine ⟨_, head?_candidates hstem, ?_, ?_⟩
    · rw [hfirst, hdirectory, dropLast_concat]
    · intro u hu
      obtain rfl : s = u := by simpa using hu
      rw [hfirst, ← hsegment, head?_append_of_ne_nil _ hstem, head?_append_of_ne_nil _ hstem]

theorem exists_eq_replicate_append (t : Text) :
    ∃ n rest, t = replicate n '.' ++ rest ∧ ∀ c ∈ rest.head?, c ≠ '.' := by
  induction t with
  | nil => exact ⟨0, [], rfl, by simp⟩
  | cons c t ih =>
    by_cases hc : c = '.'
    · obtain ⟨n, rest, rfl, hrest⟩ := ih
      exact ⟨n + 1, rest, by rw [hc]; rfl, hrest⟩
    · exact ⟨0, c :: t, rfl, by simpa using hc⟩

section

variable {passed : List Text} (hpassed : collapseAfter [] (Text.splitOn '/' directory) = some passed)

include hpassed

/-- A module name climbs by its first dots and goes down along its names. -/
theorem meanings_dottedPath (ht : ∀ c ∈ t.head?, c ≠ '.') (n : Nat) :
    meanings (directory ++ '/' :: dottedPath (replicate (n + 1) '.' ++ t)) =
      if n ≤ passed.length then
        candidates (withoutExtension (join ['/']
          (passed.take (passed.length - n) ++ steps (t.map fun c => if c = '.' then '/' else c))))
      else [] := by
  have hdot := not_mem_map_replace (c := '.') (d := '/') (by decide) t
  rw [dottedPath_append ht, meanings, collapse?, splitOn_append, collapseAfter_append, hpassed,
    Option.bind_some, collapseAfter_splitOn_climb, length_reverse]
  by_cases hn : n ≤ passed.length
  · rw [if_pos hn, if_pos hn, collapseAfter_splitOn_of_not_mem hdot, drop_reverse, reverse_reverse]
    rfl
  · rw [if_neg hn, if_neg hn]
    rfl

variable (hstay : ∀ s ∈ passed, IsKept s ∧ '/' ∉ s)

include hstay

theorem exists_head?_meanings_file (hkept : IsKept ('.' :: t)) (hslash : '/' ∉ '.' :: t) :
    ∃ f, (meanings (directory ++ '/' :: '.' :: t)).head? = some f ∧ (cutName f).1 = join ['/'] passed ∧
      (cutName f).2.head? = some '.' := by
  have hwhole : ∀ s ∈ passed ++ ['.' :: t], IsKept s ∧ '/' ∉ s :=
    forall_mem_append.mpr ⟨hstay, forall_mem_singleton.mpr ⟨hkept, hslash⟩⟩
  obtain ⟨f, hf, hdirectory, hname⟩ := exists_head?_candidates hwhole
  rw [dropLast_concat] at hdirectory
  refine ⟨f, ?_, hdirectory, hname ('.' :: t) (by simp)⟩
  rw [meanings, collapse?_append hkept hslash, hpassed]
  exact hf

theorem directory_of_dots {n : Nat}
    (h : (meanings (directory ++ '/' :: dottedPath (replicate (n + 1) '.'))).head? = some f) :
    n ≤ passed.length ∧ (cutName f).1 = join ['/'] (passed.take (passed.length - n)).dropLast := by
  have hmodule := meanings_dottedPath hpassed (t := []) (by simp) n
  rw [append_nil] at hmodule
  rw [hmodule] at h
  split at h
  · next hn =>
    have habove : ∀ s ∈ passed.take (passed.length - n), IsKept s ∧ '/' ∉ s :=
      fun s hs => hstay s (mem_of_mem_take hs)
    obtain ⟨f', hf', hdirectory, -⟩ := exists_head?_candidates habove
    have hsteps : steps (([] : Text).map fun c => if c = '.' then '/' else c) = [] := by decide
    rw [hsteps, append_nil, hf'] at h
    exact ⟨hn, Option.some.inj h ▸ hdirectory⟩
  · cases h

theorem name_of_module {n : Nat} (ht : ∀ c ∈ t.head?, c ≠ '.') (hslash : '/' ∉ t) (hne : t ≠ [])
    (h : (meanings (directory ++ '/' :: dottedPath (replicate (n + 1) '.' ++ t))).head? = some f) :
    (cutName f).2.head? ≠ some '.' := by
  rw [meanings_dottedPath hpassed ht] at h
  split at h
  · have hdot := not_mem_map_replace (c := '.') (d := '/') (by decide) t
    have hdown : ∀ s ∈ passed.take (passed.length - n) ++ steps (t.map fun c => if c = '.' then '/' else c),
        IsKept s ∧ '/' ∉ s := by
      rw [forall_mem_append]
      constructor
      · exact fun s hs => hstay s (mem_of_mem_take hs)
      · intro s hs
        obtain ⟨hkept, -, hs⟩ := of_mem_steps hdot hs
        exact ⟨hkept, hs⟩
    obtain ⟨c, t, rfl⟩ := exists_cons_of_ne_nil hne
    have hc : c ≠ '.' := ht c rfl
    have hnames : steps ((c :: t).map fun c => if c = '.' then '/' else c) ≠ [] := by
      apply steps_ne_nil (c := c) _ (fun hcs => hslash (hcs ▸ mem_cons_self)) hc
      rw [map_cons, if_neg hc]
      exact mem_cons_self
    obtain ⟨f', hf', -, hname⟩ := exists_head?_candidates hdown
    obtain rfl : f' = f := Option.some.inj (hf'.symm.trans h)
    have hlast := getLast_mem hnames
    rw [hname _ (by rw [getLast?_append_of_ne_nil _ hnames, getLast?_eq_some_getLast hnames]; rfl)]
    intro hhead
    exact (of_mem_steps hdot hlast).2.1 (mem_of_mem_head? hhead)
  · cases h

end

/-- From below the root, a module name does not mean what a file name of the same letters means. -/
theorem head?_meanings_dottedPath_ne (hdirectory : collapse? directory ≠ none) (hdot : ['.'] <+: t)
    (hslash : '/' ∉ t) (hhere : t ≠ ['.']) (habove : t ≠ ['.', '.']) :
    (meanings (directory ++ '/' :: dottedPath t)).head? ≠ (meanings (directory ++ '/' :: t)).head? := by
  intro hsame
  obtain ⟨collapsed, hcollapsed⟩ := Option.ne_none_iff_exists'.mp hdirectory
  obtain ⟨passed, hpassed, -, hstay⟩ := exists_of_collapse? hcollapsed
  obtain ⟨u, rfl⟩ := hdot
  obtain ⟨f, hf, hfdirectory, hfname⟩ :=
    exists_head?_meanings_file hpassed hstay ⟨cons_ne_nil '.' u, hhere, habove⟩ hslash
  have hmodule := hsame.trans hf
  obtain ⟨n, rest, rfl, hrest⟩ := exists_eq_replicate_append u
  by_cases hnil : rest = []
  · subst hnil
    -- three dots and more climb out of the directory
    have htwo : 2 ≤ n := by
      rcases n with _ | _ | n
      · exact absurd rfl hhere
      · exact absurd rfl habove
      · omega
    rw [append_nil] at hmodule
    obtain ⟨hn, hdirectory⟩ := directory_of_dots hpassed hstay hmodule
    have hstay' : ∀ s ∈ (passed.take (passed.length - n)).dropLast, IsKept s ∧ '/' ∉ s :=
      fun s hs => hstay s (mem_of_mem_take (dropLast_subset _ hs))
    have hlength := congrArg length (eq_of_join_eq hstay' hstay (hdirectory.symm.trans hfdirectory))
    rw [length_dropLast, length_take] at hlength
    omega
  · have hslash : '/' ∉ rest := fun hmem => hslash (mem_append_right _ (mem_append_right _ hmem))
    exact name_of_module hpassed hstay hrest hslash hnil hmodule hfname

/-! ## The case of an extension -/

def IsExtension (extension : Text) : Prop :=
  ∀ c ∈ extension, c ≠ '.' ∧ c ≠ '/' ∧ c ≠ '\\'

instance : DecidablePred IsExtension := fun extension => List.decidableBAll _ extension

/-- The paths are the same but for the case of the letters in their extension. -/
inductive Recased : Text → Text → Prop
  | intro (front e e' : Text) (he : IsExtension e) (he' : IsExtension e') (h : SameLetters e e') :
      Recased (front ++ '.' :: e) (front ++ '.' :: e')

theorem Recased.ofPath?_eq (h : Recased importer importer') :
    Language.ofPath? importer = Language.ofPath? importer' := by
  cases h with
  | intro front e e' he he' h =>
    have hcut (extension : Text) (hextension : IsExtension extension) :
        cutLast? '.' (front ++ '.' :: extension) = some (front, extension) :=
      cutLast?_eq_some_iff.mpr ⟨rfl, fun hmem => (hextension _ hmem).1 rfl⟩
    have h : e.map Char.toLower = e'.map Char.toLower := h
    simp only [Language.ofPath?, hcut e he, hcut e' he', Option.bind_some, h]

theorem cutName_key_append (front : Text) {e : Text} (he : IsExtension e) :
    (cutName (key (front ++ '.' :: e))).1 = (cutName (key front)).1 := by
  have hplain : ∀ c ∈ '.' :: e, c ≠ '/' ∧ c ≠ '\\' :=
    forall_mem_cons.mpr ⟨by decide, fun c hc => (he c hc).2⟩
  have hback : '\\' ∉ '.' :: e := fun hmem => (hplain _ hmem).2 rfl
  have hslash : '/' ∉ '.' :: e := fun hmem => (hplain _ hmem).1 rfl
  have hkey : key (front ++ '.' :: e) = key front ++ key ('.' :: e) := map_append
  rw [hkey, key_of_not_mem hback, cutName_append_of_not_mem hslash]

theorem writesDots_key_iff (importer : Text) :
    writesDots (key importer) = true ↔ ".py".toList <:+ importer := by
  rw [writesDots, isSuffixOf_iff_suffix, suffix_key_iff (by decide) (by decide)]

theorem resolve?_of_all_known (aliases : List Alias) (importer specifier : Text) :
    resolve? aliases (fun _ => true) importer specifier = (choices aliases importer specifier).head? := by
  rw [resolve?_eq_find?_choices]
  cases choices aliases importer specifier <;> rfl

/-- Files of one directory give an import the same choices, unless it names a module, the dots divide names in
just one of the files, and the directory lies below the root. -/
theorem choices_eq_of_directory (hdirectory : (cutName (key importer)).1 = (cutName (key importer')).1)
    (h : (".py".toList <:+ importer ↔ ".py".toList <:+ importer') ∨ ¬ NamesModule aliases specifier ∨
      collapse? (cutName (key importer)).1 = none) :
    choices aliases importer specifier = choices aliases importer' specifier := by
  rw [← writesDots_key_iff, ← writesDots_key_iff, ← Bool.eq_iff_iff] at h
  rw [choices_eq_choicesFrom, choices_eq_choicesFrom, ← hdirectory]
  rcases h with h | h
  · rw [h]
  · have hcongr := choicesFrom_congr h
    cases writesDots (key importer) <;> cases writesDots (key importer') <;> simp only [hcongr]

theorem head?_choices_ne (hdirectory : (cutName (key importer)).1 = (cutName (key importer')).1)
    (hdots : ¬ (".py".toList <:+ importer ↔ ".py".toList <:+ importer'))
    (hmodule : NamesModule aliases specifier) (hbelow : collapse? (cutName (key importer)).1 ≠ none) :
    (choices aliases importer specifier).head? ≠ (choices aliases importer' specifier).head? := by
  rw [← writesDots_key_iff, ← writesDots_key_iff, ← Bool.eq_iff_iff] at hdots
  have hne := head?_meanings_dottedPath_ne hbelow hmodule.dot hmodule.slash hmodule.ne_here hmodule.ne_above
  rw [choices_eq_choicesFrom, choices_eq_choicesFrom, ← hdirectory, choicesFrom_of_namesModule hmodule,
    choicesFrom_of_namesModule hmodule]
  cases hleft : writesDots (key importer) <;> cases hright : writesDots (key importer')
  · exact absurd (hleft.trans hright.symm) hdots
  · exact hne.symm
  · exact hne
  · exact absurd (hleft.trans hright.symm) hdots

/-- The case of the letters in its extension does not change what a file is scanned for. It changes the file
that an import leads to just if only one of the spellings is `.py`, the import names a module, and the
directory of the file lies below the root. -/
theorem recased_import_differs_iff (h : Recased importer importer') (aliases : List Alias) (specifier : Text) :
    Language.ofPath? importer = Language.ofPath? importer' ∧
      ((∃ known, resolve? aliases known importer specifier ≠ resolve? aliases known importer' specifier) ↔
        ¬ (".py".toList <:+ importer ↔ ".py".toList <:+ importer') ∧ NamesModule aliases specifier ∧
          collapse? (cutName (key importer)).1 ≠ none) := by
  have hdirectory : (cutName (key importer)).1 = (cutName (key importer')).1 := by
    cases h with
    | intro front _ _ he he' => rw [cutName_key_append front he, cutName_key_append front he']
  refine ⟨h.ofPath?_eq, ?_, ?_⟩
  · rintro ⟨known, hne⟩
    by_contra hno
    apply hne
    rw [resolve?_eq_find?_choices, resolve?_eq_find?_choices, choices_eq_of_directory hdirectory]
    tauto
  · rintro ⟨hdots, hmodule, hbelow⟩
    refine ⟨fun _ => true, ?_⟩
    rw [resolve?_of_all_known, resolve?_of_all_known]
    exact head?_choices_ne hdirectory hdots hmodule hbelow

theorem recased_py : Recased "app/core/a.py".toList "app/core/a.PY".toList :=
  .intro "app/core/a".toList "py".toList "PY".toList (by decide) (by decide) (by decide)

/-- Two dots lead to the package above, from a file with either extension. A module beside the file is not
found from both. -/
theorem recased_import_differs_iff_package :
    Recased "app/core/a.py".toList "app/core/a.PY".toList ∧
      (∀ known, resolve? usualAliases known "app/core/a.py".toList "..".toList =
        resolve? usualAliases known "app/core/a.PY".toList "..".toList) ∧
      ∃ known, resolve? usualAliases known "app/core/a.py".toList ".models".toList ≠
        resolve? usualAliases known "app/core/a.PY".toList ".models".toList := by
  obtain ⟨-, hdots⟩ := recased_import_differs_iff recased_py usualAliases "..".toList
  obtain ⟨-, hmodels⟩ := recased_import_differs_iff recased_py usualAliases ".models".toList
  refine ⟨recased_py, ?_, ?_⟩
  · intro known
    by_contra hne
    exact (hdots.mp ⟨known, hne⟩).2.1.ne_above (by decide)
  · exact hmodels.mpr ⟨by decide, ⟨by decide, by decide, by decide, by decide, by decide⟩, by decide⟩

theorem recased_import_lost :
    ¬ ∀ (aliases : List Alias) (known : Text → Bool) (importer importer' specifier : Text),
      Recased importer importer' →
        resolve? aliases known importer specifier = resolve? aliases known importer' specifier := by
  intro hsame
  let known : Text → Bool := (["app/core/a.PY", "app/core/models.py"].map String.toList).contains
  have hfound := hsame usualAliases known _ _ ".models".toList recased_py
  have hpy : resolve? usualAliases known "app/core/a.py".toList ".models".toList =
      some "app/core/models.py".toList := by
    decide
  have hPY : resolve? usualAliases known "app/core/a.PY".toList ".models".toList = none := by decide
  rw [hpy, hPY] at hfound
  cases hfound

end RepoAtlas.Graph
