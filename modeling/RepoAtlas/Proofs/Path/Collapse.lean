import RepoAtlas.Path.Basic
import RepoAtlas.Path.Collapse
import RepoAtlas.Proofs.Text.Words
import Mathlib.Data.List.Basic

/-! # Collapsed paths -/

namespace RepoAtlas.Path

open Text List

variable {before path s t : Text} {c : Char}

/-! ## Names -/

theorem cutName_of_not_mem (h : '/' ∉ s) : cutName s = ([], s) := by
  rw [cutName, cutLast?_eq_none_iff.mpr h]
  rfl

theorem cutName_append (h : '/' ∉ s) (before : Text) : cutName (before ++ '/' :: s) = (before, s) := by
  rw [cutName, cutLast?_eq_some_iff.mpr ⟨rfl, h⟩]
  rfl

theorem cutName_cases (path : Text) :
    ('/' ∉ path ∧ cutName path = ([], path)) ∨
      ∃ directory name, path = directory ++ '/' :: name ∧ '/' ∉ name ∧ cutName path = (directory, name) := by
  cases hcut : cutLast? '/' path with
  | none =>
    have hno := cutLast?_eq_none_iff.mp hcut
    exact Or.inl ⟨hno, cutName_of_not_mem hno⟩
  | some parts =>
    obtain ⟨directory, name⟩ := parts
    obtain ⟨rfl, hno⟩ := cutLast?_eq_some_iff.mp hcut
    exact Or.inr ⟨directory, name, rfl, hno, cutName_append hno directory⟩

theorem cutName_append_of_not_mem (h : '/' ∉ t) (path : Text) :
    cutName (path ++ t) = ((cutName path).1, (cutName path).2 ++ t) := by
  rcases cutName_cases path with ⟨hno, hcut⟩ | ⟨directory, name, rfl, hno, hcut⟩
  · have hboth : '/' ∉ path ++ t := fun hmem => (mem_append.mp hmem).elim hno h
    rw [cutName_of_not_mem hboth, hcut]
  · have hboth : '/' ∉ name ++ t := fun hmem => (mem_append.mp hmem).elim hno h
    rw [append_assoc, cons_append, cutName_append hboth, hcut]

theorem slash_not_mem_name (path : Text) : '/' ∉ (cutName path).2 := by
  rcases cutName_cases path with ⟨hno, hcut⟩ | ⟨directory, name, -, hno, hcut⟩
  · rwa [hcut]
  · rwa [hcut]

theorem getLast?_name (path : Text) :
    (cutName path).2.getLast? = path.getLast?.filter (· != '/') := by
  rcases cutName_cases path with ⟨hno, hcut⟩ | ⟨directory, name, rfl, hno, hcut⟩
  · rw [hcut]
    cases hlast : path.getLast? with
    | none => rfl
    | some c =>
      have hc : c ≠ '/' := fun h => hno (h ▸ mem_of_getLast? hlast)
      simp [Option.filter, hc]
  · rw [hcut, getLast?_append_of_ne_nil _ (cons_ne_nil _ _), getLast?_cons]
    cases hlast : name.getLast? with
    | none => rfl
    | some c =>
      have hc : c ≠ '/' := fun h => hno (h ▸ mem_of_getLast? hlast)
      simp [Option.filter, hc]

theorem ne_nil_of_name (h : (cutName path).2 ≠ []) : path ≠ [] ∧ path.getLast? ≠ some '/' := by
  constructor
  · intro hnil
    exact h (by rw [hnil]; rfl)
  · intro hslash
    have hlast := getLast?_name path
    rw [hslash] at hlast
    exact h (getLast?_eq_none_iff.mp hlast)

theorem suffix_name_iff (h : '/' ∉ t) : t <:+ (cutName path).2 ↔ t <:+ path := by
  rcases cutName_cases path with ⟨-, hcut⟩ | ⟨directory, name, rfl, -, hcut⟩
  · rw [hcut]
  · rw [hcut]
    constructor
    · intro hsuffix
      exact hsuffix.trans ((suffix_cons '/' name).trans (suffix_append directory _))
    · intro hsuffix
      rcases suffix_or_suffix_of_suffix hsuffix (suffix_append directory ('/' :: name)) with hname | hlong
      · rcases suffix_cons_iff.mp hname with rfl | hname
        · exact absurd mem_cons_self h
        · exact hname
      · exact absurd (hlong.subset mem_cons_self) h

theorem exists_eq_join (path : Text) :
    ∃ directories name, path = join ['/'] (directories ++ [name]) ∧ ∀ s ∈ directories ++ [name], '/' ∉ s := by
  have hne : Text.splitOn '/' path ≠ [] := splitBy_ne_nil _ _
  have hconcat := dropLast_append_getLast hne
  refine ⟨(Text.splitOn '/' path).dropLast, (Text.splitOn '/' path).getLast hne, ?_, ?_⟩
  · rw [hconcat, join_splitOn]
  · rw [hconcat]
    exact fun s hs => not_mem_of_mem_splitOn hs

/-! ## Segments that stay -/

/-- The segment is neither empty nor `.` nor `..`. -/
def IsKept (s : Text) : Prop :=
  s ≠ [] ∧ s ≠ ['.'] ∧ s ≠ ['.', '.']

/-- A segment that ends in anything but a dot stays. -/
theorem isKept_of_getLast? (h : s.getLast? = some c) (hdot : c ≠ '.') : IsKept s := by
  have hne (t : Text) (ht : t.getLast? ≠ some c) : s ≠ t := fun hs => ht (hs ▸ h)
  have hend : some '.' ≠ some c := fun hc => hdot (Option.some.inj hc).symm
  exact ⟨hne [] (by simp), hne ['.'] hend, hne ['.', '.'] hend⟩

theorem isKept_of_not_mem (hne : s ≠ []) (hdot : '.' ∉ s) : IsKept s := by
  refine ⟨hne, ?_, ?_⟩
  · rintro rfl
    exact hdot mem_cons_self
  · rintro rfl
    exact hdot mem_cons_self

theorem collapseAfter_cons (kept : List Text) (s : Text) (segments : List Text) :
    collapseAfter kept (s :: segments) =
      if s = [] ∨ s = ['.'] then collapseAfter kept segments
      else if s = ['.', '.'] then
        match kept with
        | [] => none
        | _ :: kept => collapseAfter kept segments
      else collapseAfter (s :: kept) segments :=
  rfl

theorem collapseAfter_cons_of_isKept (hs : IsKept s) (kept segments : List Text) :
    collapseAfter kept (s :: segments) = collapseAfter (s :: kept) segments := by
  obtain ⟨hne, hdot, hdots⟩ := hs
  simp [collapseAfter, hne, hdot, hdots]

/-- Segments that follow are passed from what the segments before them have left. -/
theorem collapseAfter_append (kept segments more : List Text) :
    collapseAfter kept (segments ++ more) =
      (collapseAfter kept segments).bind fun passed => collapseAfter passed.reverse more := by
  induction segments generalizing kept with
  | nil => simp [collapseAfter]
  | cons s segments ih =>
    rw [cons_append, collapseAfter_cons, collapseAfter_cons]
    split
    · exact ih kept
    · split
      · cases kept with
        | nil => rfl
        | cons _ kept => exact ih kept
      · exact ih (s :: kept)

theorem collapseAfter_concat (hs : IsKept s) (kept segments : List Text) :
    collapseAfter kept (segments ++ [s]) = (collapseAfter kept segments).map (· ++ [s]) := by
  have hlast (passed : List Text) : collapseAfter passed.reverse [s] = some (passed ++ [s]) := by
    rw [collapseAfter_cons_of_isKept hs]
    simp [collapseAfter]
  rw [collapseAfter_append, Option.map_eq_bind]
  exact congrArg _ (funext hlast)

theorem collapse?_append (hs : IsKept s) (hslash : '/' ∉ s) (before : Text) :
    collapse? (before ++ '/' :: s) =
      (collapseAfter [] (Text.splitOn '/' before)).map fun kept => join ['/'] (kept ++ [s]) := by
  rw [collapse?, splitOn_append, splitOn_of_not_mem hslash, collapseAfter_concat hs, Option.map_map]
  rfl

theorem cutName_join_concat (hslash : '/' ∉ s) (kept : List Text) :
    cutName (join ['/'] (kept ++ [s])) = (join ['/'] kept, s) := by
  by_cases hkept : kept = []
  · subst hkept
    rw [nil_append, join_singleton, cutName_of_not_mem hslash]
    rfl
  · rw [join_concat _ _ hkept, append_assoc, singleton_append, cutName_append hslash]

theorem name_of_collapse? (hs : IsKept s) (hslash : '/' ∉ s)
    (h : collapse? (before ++ '/' :: s) = some path) : (cutName path).2 = s := by
  rw [collapse?_append hs hslash] at h
  obtain ⟨kept, -, rfl⟩ := Option.map_eq_some_iff.mp h
  rw [cutName_join_concat hslash]

theorem getLast?_of_collapse? (h : collapse? (before ++ '/' :: t) = some path)
    (hlast : t.getLast? = some c) (hslash : c ≠ '/') (hdot : c ≠ '.') : path.getLast? = some c := by
  have hname : (cutName t).2.getLast? = some c := by
    rw [getLast?_name, hlast]
    simp [hslash]
  obtain ⟨lead, hlead⟩ : ∃ lead, before ++ '/' :: t = lead ++ '/' :: (cutName t).2 := by
    rcases cutName_cases t with ⟨-, hcut⟩ | ⟨directory, name, rfl, -, hcut⟩
    · exact ⟨before, by rw [hcut]⟩
    · exact ⟨before ++ '/' :: directory, by simp [hcut]⟩
  rw [hlead] at h
  have hpath := name_of_collapse? (isKept_of_getLast? hname hdot) (slash_not_mem_name t) h
  rw [← hpath, getLast?_name] at hname
  exact (Option.filter_eq_some_iff.mp hname).1

/-! ## Going down and climbing -/

theorem collapseAfter_of_isKept {ss : List Text} (hss : ∀ s ∈ ss, IsKept s) (kept : List Text) :
    collapseAfter kept ss = some (kept.reverse ++ ss) := by
  induction ss generalizing kept with
  | nil => simp [collapseAfter]
  | cons s ss ih =>
    obtain ⟨hs, hss⟩ := forall_mem_cons.mp hss
    rw [collapseAfter_cons_of_isKept hs, ih hss, reverse_cons, append_assoc]
    rfl

/-- The same for segments that are joined to a path, which may be the empty one. -/
theorem collapseAfter_splitOn_join {ss : List Text} (hss : ∀ s ∈ ss, IsKept s ∧ '/' ∉ s)
    (kept segments : List Text) :
    collapseAfter kept (Text.splitOn '/' (join ['/'] ss) ++ segments) =
      collapseAfter (ss.reverse ++ kept) segments := by
  by_cases hnil : ss = []
  · subst hnil
    rfl
  · rw [splitOn_join hnil fun s hs => (hss s hs).2, collapseAfter_append,
      collapseAfter_of_isKept fun s hs => (hss s hs).1, Option.bind_some, reverse_append, reverse_reverse]

theorem collapseAfter_replicate_dots (n : Nat) (kept segments : List Text) :
    collapseAfter kept (replicate n ['.', '.'] ++ segments) =
      if n ≤ kept.length then collapseAfter (kept.drop n) segments else none := by
  induction n generalizing kept with
  | zero => rfl
  | succ n ih =>
    cases kept with
    | nil => rfl
    | cons s kept =>
      rw [replicate_succ, cons_append]
      simp [collapseAfter, ih]

/-- What a path that climbs `n` directories begins with. -/
def climb (n : Nat) : Text :=
  if n = 0 then ['.', '/'] else (replicate n ['.', '.', '/']).flatten

theorem exists_climb_eq (n : Nat) : ∃ t, climb n = '.' :: (t ++ ['/']) := by
  have hdots (n : Nat) : ∃ t, (replicate (n + 1) ['.', '.', '/']).flatten = '.' :: (t ++ ['/']) := by
    induction n with
    | zero => exact ⟨['.'], rfl⟩
    | succ n ih =>
      obtain ⟨t, ht⟩ := ih
      exact ⟨'.' :: '/' :: '.' :: t, by rw [replicate_succ, flatten_cons, ht]; rfl⟩
  cases n with
  | zero => exact ⟨[], rfl⟩
  | succ n => exact hdots n

theorem collapseAfter_splitOn_climb (n : Nat) (kept : List Text) (t : Text) :
    collapseAfter kept (Text.splitOn '/' (climb n ++ t)) =
      if n ≤ kept.length then collapseAfter (kept.drop n) (Text.splitOn '/' t) else none := by
  have hdots (n : Nat) : Text.splitOn '/' ((replicate n ['.', '.', '/']).flatten ++ t) =
      replicate n ['.', '.'] ++ Text.splitOn '/' t := by
    induction n with
    | zero => rfl
    | succ n ih =>
      rw [replicate_succ, flatten_cons, append_assoc]
      exact (splitOn_append '/' ['.', '.'] _).trans (congrArg (['.', '.'] :: ·) ih)
  by_cases hn : n = 0
  · have hhere : Text.splitOn '/' (['.', '/'] ++ t) = ['.'] :: Text.splitOn '/' t :=
      splitOn_append '/' ['.'] t
    subst hn
    rw [climb, if_pos rfl, hhere]
    rfl
  · rw [climb, if_neg hn, hdots, collapseAfter_replicate_dots]

/-- From a directory, a path climbs as far as the directory lies below the root, and goes on from there. -/
theorem collapse?_climb {directories : List Text} (h : ∀ d ∈ directories, IsKept d ∧ '/' ∉ d) (n : Nat)
    (t : Text) :
    collapse? (join ['/'] directories ++ '/' :: (climb n ++ t)) =
      if n ≤ directories.length then
        (collapseAfter (directories.reverse.drop n) (Text.splitOn '/' t)).map (join ['/'])
      else none := by
  rw [collapse?, splitOn_append, collapseAfter_splitOn_join h, collapseAfter_splitOn_climb, append_nil,
    length_reverse]
  split <;> rfl

end RepoAtlas.Path
