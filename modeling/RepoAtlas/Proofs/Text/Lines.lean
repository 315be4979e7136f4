import RepoAtlas.Proofs.Text.Words

/-! # Lines -/

namespace RepoAtlas.Text

open List

variable {s t : Text}

/-- The text has no line that is still open: it is empty, or its last character is a line feed. -/
def Closed (t : Text) : Prop :=
  t = [] ∨ t.getLast? = some '\n'

theorem Closed.eq_nil_or_concat (h : Closed t) : t = [] ∨ ∃ s, t = s ++ ['\n'] := by
  rcases h with rfl | hlast
  · exact Or.inl rfl
  · exact Or.inr (getLast?_eq_some_iff.mp hlast)

theorem length_splitOn (separator : Char) (t : Text) :
    (splitOn separator t).length = t.count separator + 1 := by
  induction t with
  | nil => rfl
  | cons c t ih =>
    rw [splitOn] at ih
    rw [splitOn, splitBy, count_cons]
    cases hc : c == separator with
    | true => simp [ih]
    | false => simp [ih]

theorem terminated_append {lines : List Text} (front : List Text) (hne : lines ≠ []) :
    terminated (front ++ lines) = front.map dropCarriage ++ terminated lines := by
  induction front with
  | nil => rfl
  | cons line front ih =>
    have hrest : front ++ lines ≠ [] := append_ne_nil_of_right_ne_nil front hne
    obtain ⟨next, rest, hcons⟩ := exists_cons_of_ne_nil hrest
    rw [cons_append, map_cons, cons_append, ← ih, hcons]
    rfl

theorem lines_append_feed (s t : Text) :
    lines (s ++ '\n' :: t) = (splitOn '\n' s).map dropCarriage ++ lines t := by
  have hne : splitOn '\n' t ≠ [] := splitBy_ne_nil _ t
  rw [lines, splitOn_append, terminated_append _ hne]
  rfl

@[simp] theorem lines_nil : lines [] = [] := rfl

theorem lines_cons {line : Text} (hfeed : '\n' ∉ line) (t : Text) :
    lines (line ++ '\n' :: t) = dropCarriage line :: lines t := by
  rw [lines_append_feed, splitOn_of_not_mem hfeed]
  rfl

theorem lines_append (hs : Closed s) (t : Text) : lines (s ++ t) = lines s ++ lines t := by
  rcases hs.eq_nil_or_concat with rfl | ⟨s, rfl⟩
  · rfl
  · rw [append_assoc, singleton_append, lines_append_feed, lines_append_feed, lines_nil, append_nil]

theorem length_lines (hs : Closed s) : (lines s).length = s.count '\n' := by
  rcases hs.eq_nil_or_concat with rfl | ⟨s, rfl⟩
  · rfl
  · rw [lines_append_feed, lines_nil, append_nil, length_map, length_splitOn, count_append,
      count_singleton_self]

variable {texts : List Text}

/-- The text is made of these lines. Each of them is ended by a line feed, perhaps with a carriage return
before it, and the last one may be left open. -/
inductive HasLines : Text → List Text → Prop
  | nil : HasLines [] []
  | open {s : Text} (hne : s ≠ []) (hfeed : '\n' ∉ s) : HasLines s [s]
  | feed {s t : Text} {texts : List Text} (hfeed : '\n' ∉ s) (hcarriage : s.getLast? ≠ some '\r')
      (h : HasLines t texts) : HasLines (s ++ '\n' :: t) (s :: texts)
  | carriage {s t : Text} {texts : List Text} (hfeed : '\n' ∉ s) (h : HasLines t texts) :
      HasLines (s ++ '\r' :: '\n' :: t) (s :: texts)

theorem HasLines.lines_eq (h : HasLines t texts) : lines t = texts := by
  induction h with
  | nil => rfl
  | @«open» s hne hfeed =>
    rw [lines, splitOn_of_not_mem hfeed, terminated, if_neg]
    simpa using hne
  | @feed s t texts hfeed hcarriage h ih =>
    rw [lines_cons hfeed, dropCarriage, if_neg hcarriage, ih]
  | @carriage s t texts hfeed h ih =>
    have hline : '\n' ∉ s ++ ['\r'] := by simpa using hfeed
    rw [append_cons, lines_cons hline, dropCarriage, if_pos getLast?_concat, dropLast_concat, ih]

theorem HasLines.feed_not_mem (h : HasLines t texts) : ∀ s ∈ texts, '\n' ∉ s := by
  induction h with
  | nil => exact forall_mem_nil _
  | @«open» s hne hfeed => exact forall_mem_singleton.mpr hfeed
  | feed hfeed _ _ ih => exact forall_mem_cons.mpr ⟨hfeed, ih⟩
  | carriage hfeed _ ih => exact forall_mem_cons.mpr ⟨hfeed, ih⟩

theorem hasLines_lines (t : Text) : HasLines t (lines t) := by
  have hpieces (pieces : List Text) (hne : pieces ≠ []) (hfeed : ∀ p ∈ pieces, '\n' ∉ p) :
      HasLines (join ['\n'] pieces) (terminated pieces) := by
    induction pieces with
    | nil => exact absurd rfl hne
    | cons s pieces ih =>
      obtain ⟨hs, hpieces⟩ := forall_mem_cons.mp hfeed
      cases pieces with
      | nil =>
        rw [join_singleton, terminated]
        split
        · next hempty => exact isEmpty_iff.mp hempty ▸ .nil
        · next hempty => exact .open (by simpa using hempty) hs
      | cons u pieces =>
        have hrest := ih (cons_ne_nil _ _) hpieces
        rw [join_cons_cons, append_assoc, terminated, dropCarriage]
        split
        · next hlast =>
          obtain ⟨front, rfl⟩ := getLast?_eq_some_iff.mp hlast
          rw [dropLast_concat, append_assoc]
          exact .carriage (fun h => hs (mem_append_left _ h)) hrest
        · next hlast => exact .feed hs hlast hrest
        · exact cons_ne_nil _ _
  have hsplit := hpieces (splitOn '\n' t) (splitBy_ne_nil _ t) fun p hp => not_mem_of_mem_splitOn hp
  rwa [join_splitOn] at hsplit

theorem hasLines_iff : HasLines t texts ↔ lines t = texts :=
  ⟨HasLines.lines_eq, fun h => h ▸ hasLines_lines t⟩

/-- The text is a line as it stands: it has a character, and none that ends a line. -/
def IsLine (t : Text) : Prop :=
  t ≠ [] ∧ '\n' ∉ t ∧ t.getLast? ≠ some '\r'

theorem IsLine.lines_cons (hs : IsLine s) (t : Text) : lines (s ++ '\n' :: t) = s :: lines t := by
  obtain ⟨-, hfeed, hcarriage⟩ := hs
  rw [Text.lines_cons hfeed, dropCarriage, if_neg hcarriage]

theorem IsLine.lines_eq (hs : IsLine s) : lines s = [s] := by
  obtain ⟨hne, hfeed, -⟩ := hs
  exact (HasLines.open hne hfeed).lines_eq

theorem lines_join (h : ∀ t ∈ texts, IsLine t) : lines (join ['\n'] texts) = texts := by
  induction texts with
  | nil => rfl
  | cons s texts ih =>
    obtain ⟨hs, htexts⟩ := forall_mem_cons.mp h
    cases texts with
    | nil => rw [join_singleton, hs.lines_eq]
    | cons t texts =>
      rw [join_cons_cons, append_assoc, singleton_append, hs.lines_cons, ih htexts]

theorem lines_flatMap (h : ∀ t ∈ texts, IsLine t) : lines (texts.flatMap (· ++ ['\n'])) = texts := by
  induction texts with
  | nil => rfl
  | cons s texts ih =>
    obtain ⟨hs, htexts⟩ := forall_mem_cons.mp h
    rw [flatMap_cons, append_assoc, singleton_append, hs.lines_cons, ih htexts]

end RepoAtlas.Text
