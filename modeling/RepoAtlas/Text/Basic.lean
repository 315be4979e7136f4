import RepoAtlas.Unicode.Blank

/-! # Cutting and searching texts -/

namespace RepoAtlas

abbrev Text := List Char

namespace Text

open Unicode

/-! ## Size -/

def byteLength (t : Text) : Nat :=
  t.foldr (fun c n => c.utf8Size + n) 0

@[simp] theorem byteLength_nil : byteLength [] = 0 := rfl

@[simp] theorem byteLength_cons (c : Char) (t : Text) :
    byteLength (c :: t) = c.utf8Size + byteLength t := rfl

@[simp] theorem byteLength_append (s t : Text) :
    byteLength (s ++ t) = byteLength s + byteLength t := by
  induction s with
  | nil => simp
  | cons c s ih => simp [ih, Nat.add_assoc]

/-! ## Trimming -/

def trimStart (t : Text) : Text :=
  t.dropWhile isBlank

def trimEnd (t : Text) : Text :=
  (t.reverse.dropWhile isBlank).reverse

def trim (t : Text) : Text :=
  trimEnd (trimStart t)

/-! ## Cutting at separators -/

/-- The pieces between the separating characters, empty ones included: one more than there are
separators. -/
def splitBy (isSeparator : Char → Bool) : Text → List Text
  | [] => [[]]
  | c :: t =>
    if isSeparator c then [] :: splitBy isSeparator t
    else (splitBy isSeparator t).modifyHead (c :: ·)

def splitOn (separator : Char) (t : Text) : List Text :=
  splitBy (· == separator) t

def pieces (isSeparator : Char → Bool) (t : Text) : List Text :=
  (splitBy isSeparator t).filter fun p => !p.isEmpty

def words (t : Text) : List Text :=
  pieces isBlank t

theorem splitBy_ne_nil (isSeparator : Char → Bool) (t : Text) : splitBy isSeparator t ≠ [] := by
  cases t with
  | nil => simp [splitBy]
  | cons c t =>
    have ih := splitBy_ne_nil isSeparator t
    simp only [splitBy]
    split
    · simp
    · cases h : splitBy isSeparator t with
      | nil => exact absurd h ih
      | cons p ps => simp [List.modifyHead]

theorem not_isSeparator_of_mem_splitBy {isSeparator : Char → Bool} {t p : Text} {c : Char}
    (hp : p ∈ splitBy isSeparator t) (hc : c ∈ p) : isSeparator c = false := by
  induction t generalizing p with
  | nil => simp_all [splitBy]
  | cons d t ih =>
    simp only [splitBy] at hp
    split at hp
    · rcases List.mem_cons.mp hp with rfl | hp
      · simp at hc
      · exact ih hp hc
    · next hd =>
      cases hs : splitBy isSeparator t with
      | nil => exact absurd hs (splitBy_ne_nil _ _)
      | cons q qs =>
        rw [hs] at hp ih
        simp only [List.modifyHead, List.mem_cons] at hp
        rcases hp with rfl | hp
        · rcases List.mem_cons.mp hc with rfl | hc
          · simpa using hd
          · exact ih (List.mem_cons_self ..) hc
        · exact ih (List.mem_cons_of_mem _ hp) hc

/-! ## Lines -/

def dropCarriage (line : Text) : Text :=
  if line.getLast? = some '\r' then line.dropLast else line

/-- The lines among the pieces between line feeds: what follows the last line feed is a line only if
there is something, and keeps a carriage return at its end. -/
def terminated : List Text → List Text
  | [] => []
  | [rest] => if rest.isEmpty then [] else [rest]
  | line :: lines => dropCarriage line :: terminated lines

def lines (t : Text) : List Text :=
  terminated (splitOn '\n' t)

/-! ## Searching -/

def occursIn (needle : Text) : Text → Bool
  | [] => needle.isEmpty
  | c :: t => needle.isPrefixOf (c :: t) || occursIn needle t

theorem occursIn_iff {needle t : Text} : occursIn needle t = true ↔ ∃ a b, t = a ++ needle ++ b := by
  induction t with
  | nil =>
    cases needle <;> simp [occursIn]
  | cons c t ih =>
    simp only [occursIn, Bool.or_eq_true, List.isPrefixOf_iff_prefix, ih]
    constructor
    · rintro (⟨b, hb⟩ | ⟨a, b, rfl⟩)
      · exact ⟨[], b, by simp [hb]⟩
      · exact ⟨c :: a, b, by simp⟩
    · rintro ⟨a, b, h⟩
      cases a with
      | nil => exact Or.inl ⟨b, by simpa using h.symm⟩
      | cons d a =>
        simp only [List.cons_append, List.cons.injEq] at h
        exact Or.inr ⟨a, b, by simpa using h.2⟩

/-- What follows `lead`, if the text begins with it. -/
def dropLead? (lead : Text) (t : Text) : Option Text :=
  if lead.isPrefixOf t then some (t.drop lead.length) else none

theorem dropLead?_eq_some_iff {lead t rest : Text} :
    dropLead? lead t = some rest ↔ t = lead ++ rest := by
  simp only [dropLead?]
  constructor
  · intro h
    split at h
    · next hp =>
      obtain ⟨b, rfl⟩ := List.isPrefixOf_iff_prefix.mp hp
      simp_all
    · cases h
  · rintro rfl
    simp

def dropTail? (tail : Text) (t : Text) : Option Text :=
  (dropLead? tail.reverse t.reverse).map List.reverse

theorem dropTail?_eq_some_iff {tail t rest : Text} :
    dropTail? tail t = some rest ↔ t = rest ++ tail := by
  simp only [dropTail?, Option.map_eq_some_iff, dropLead?_eq_some_iff]
  constructor
  · rintro ⟨r, h, rfl⟩
    simpa using congrArg List.reverse h
  · rintro rfl
    exact ⟨rest.reverse, by simp⟩

def cutAt? (mark : Text) : Text → Option (Text × Text)
  | [] => if mark.isEmpty then some ([], []) else none
  | c :: t =>
    match dropLead? mark (c :: t) with
    | some rest => some ([], rest)
    | none => (cutAt? mark t).map fun (before, after) => (c :: before, after)

def cutLast? (mark : Char) : Text → Option (Text × Text)
  | [] => none
  | c :: t =>
    match cutLast? mark t with
    | some (before, after) => some (c :: before, after)
    | none => if c = mark then some ([], t) else none

theorem cutLast?_eq_none_iff {mark : Char} {t : Text} : cutLast? mark t = none ↔ mark ∉ t := by
  induction t with
  | nil => simp [cutLast?]
  | cons c t ih =>
    cases h : cutLast? mark t with
    | some p =>
      have hm : mark ∈ t := by
        by_cases hm : mark ∈ t
        · exact hm
        · rw [ih.mpr hm] at h
          cases h
      simp [cutLast?, h, hm]
    | none =>
      have hm := ih.mp h
      by_cases hc : c = mark
      · simp [cutLast?, h, hc]
      · simp [cutLast?, h, hc, Ne.symm hc, hm]

/-- The cut is at the last occurrence: the mark does not occur after it. -/
theorem cutLast?_eq_some_iff {mark : Char} {t before after : Text} :
    cutLast? mark t = some (before, after) ↔ t = before ++ mark :: after ∧ mark ∉ after := by
  induction t generalizing before with
  | nil => simp [cutLast?]
  | cons c t ih =>
    cases h : cutLast? mark t with
    | some p =>
      obtain ⟨b, a⟩ := p
      have hm : mark ∈ t := by
        by_cases hm : mark ∈ t
        · exact hm
        · rw [cutLast?_eq_none_iff.mpr hm] at h
          cases h
      cases before with
      | nil =>
        simp only [cutLast?, h, Option.some.injEq, Prod.mk.injEq, reduceCtorEq, false_and,
          List.nil_append, List.cons.injEq, false_iff]
        rintro ⟨⟨-, rfl⟩, hn⟩
        exact hn hm
      | cons x before =>
        have e := @ih before
        rw [h] at e
        simp only [Option.some.injEq, Prod.mk.injEq] at e
        simp only [cutLast?, h, Option.some.injEq, Prod.mk.injEq, List.cons.injEq,
          List.cons_append]
        rw [and_assoc, e, and_assoc]
    | none =>
      have hn := cutLast?_eq_none_iff.mp h
      by_cases hc : c = mark
      · subst hc
        simp only [cutLast?, h, ↓reduceIte, Option.some.injEq, Prod.mk.injEq]
        cases before with
        | nil => simp only [true_and, List.nil_append, List.cons.injEq]; constructor
                 · rintro rfl; exact ⟨rfl, hn⟩
                 · exact fun e => e.1
        | cons x before =>
          simp only [reduceCtorEq, false_and, List.cons_append, List.cons.injEq, false_iff]
          rintro ⟨⟨-, rfl⟩, -⟩
          simp at hn
      · simp only [cutLast?, h, hc, ↓reduceIte, reduceCtorEq, false_iff]
        rintro ⟨e, -⟩
        cases before with
        | nil => exact hc (List.cons.inj e).1
        | cons x before =>
          rw [(List.cons.inj e).2] at hn
          simp at hn

/-! ## Joining -/

def join (separator : Text) (texts : List Text) : Text :=
  separator.intercalate texts

def ofNat (n : Nat) : Text :=
  (Nat.repr n).toList

end Text

end RepoAtlas
