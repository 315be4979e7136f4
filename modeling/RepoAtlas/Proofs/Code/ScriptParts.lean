import RepoAtlas.Code.Script
import RepoAtlas.Proofs.Code.Readings
import RepoAtlas.Proofs.Text.Blanks

/-! # Parts of script statements -/

namespace RepoAtlas.Code.Script

open Scan Text Unicode List

variable {α : Type} {b : Option Char} {c q : Char} {k : Nat} {n s list t rest : Text}

/-- Whether the text is an identifier, such as those that match `[A-Za-z_$][A-Za-z0-9_$]*`. -/
def isName : Text → Bool
  | [] => false
  | c :: t => isNameStart c && t.all isNameChar

theorem isNameChar_of_isNameStart (h : isNameStart c = true) : isNameChar c = true := by
  simp only [isNameStart, Bool.or_eq_true, beq_iff_eq] at h
  rcases h with (halpha | rfl) | rfl
  · have hascii : c.toNat < 0x80 := by
      have hcase : (c.isUpper || c.isLower) = true := halpha
      have hlast : c.val ≤ 'z'.val := by
        rcases Bool.or_eq_true_iff.mp hcase with hupper | hlower
        · have hfirst : c.val ≤ 'Z'.val := (of_decide_eq_true hupper).2
          exact UInt32.le_trans hfirst (by decide)
        · exact of_decide_eq_true (Bool.and_eq_true_iff.mp hlower).2
      exact Nat.lt_of_le_of_lt (UInt32.le_iff_toNat_le.mp hlast) (by decide)
    simp [isNameChar, isWordChar, hascii, Char.isAlphanum, halpha]
  · decide
  · decide

theorem isBlank_of_isNameChar (h : isNameChar c = true) : isBlank c = false := by
  rw [Bool.eq_false_iff]
  intro hblank
  have hno := of_isBlank (P := fun c => isNameChar c = false) (by decide +kernel) hblank
  simp [h] at hno

theorem isQuote_of_isNameStart (h : isNameStart c = true) : isQuote c = false := by
  rw [Bool.eq_false_iff]
  intro hquote
  simp only [isQuote, Bool.or_eq_true, beq_iff_eq] at hquote
  rcases hquote with rfl | rfl <;> revert h <;> decide

theorem isBlank_of_isQuote (h : isQuote q = true) : isBlank q = false := by
  simp only [isQuote, Bool.or_eq_true, beq_iff_eq] at h
  rcases h with rfl | rfl <;> decide

theorem isNameChar_of_mem (hn : isName n = true) (hc : c ∈ n) : isNameChar c = true := by
  cases n with
  | nil => cases hc
  | cons d n =>
    obtain ⟨hstart, hrest⟩ := Bool.and_eq_true_iff.mp hn
    rcases mem_cons.mp hc with rfl | hc
    · exact isNameChar_of_isNameStart hstart
    · exact all_eq_true.mp hrest c hc

theorem exists_head_of_isName (hn : isName n = true) : ∃ c u, n = c :: u ∧ isNameStart c = true := by
  cases n with
  | nil => cases hn
  | cons c u => exact ⟨c, u, rfl, (Bool.and_eq_true_iff.mp hn).1⟩

theorem stops_name {kind : Char → Bool} (hn : isName n = true)
    (hkind : ∀ c, isNameStart c = true → kind c = false) (t : Text) : Stops kind (n ++ t) := by
  obtain ⟨c, u, rfl, hc⟩ := exists_head_of_isName hn
  exact Stops.cons (hkind c hc) (u ++ t)

theorem stops_isBlank_name (hn : isName n = true) (t : Text) : Stops isBlank (n ++ t) :=
  stops_name hn (fun _ hc => isBlank_of_isNameChar (isNameChar_of_isNameStart hc)) t

theorem head?_name_ne (hn : isName n = true) (hc : isNameStart c = false) (t : Text) :
    (n ++ t).head? ≠ some c := by
  obtain ⟨d, u, rfl, hd⟩ := exists_head_of_isName hn
  rintro ⟨⟩
  simp [hc] at hd

theorem gap_append (blanks : Text) (hblanks : ∀ c ∈ blanks, isBlank c = true) (ht : Stops isBlank t) :
    gap ⟨b, blanks ++ t⟩ = [((), ⟨blanks.getLast?.or b, t⟩)] := by
  rw [gap, bind_of_eq_singleton (run_append hblanks ht)]
  rfl

theorem gap_of_stops (ht : Stops isBlank t) : gap ⟨b, t⟩ = [((), ⟨b, t⟩)] :=
  gap_append [] (by simp) ht

theorem gap_space (ht : Stops isBlank t) : gap ⟨b, ' ' :: t⟩ = [((), ⟨some ' ', t⟩)] :=
  gap_append [' '] (forall_mem_singleton.mpr (by decide)) ht

theorem isBlank_of_mem_replicate (hc : c ∈ replicate k ' ') : isBlank c = true := by
  rw [eq_of_mem_replicate hc]
  decide

theorem gap_replicate (k : Nat) (ht : Stops isBlank t) :
    gap ⟨none, replicate k ' ' ++ t⟩ = [((), ⟨(replicate k ' ').getLast?, t⟩)] := by
  rw [gap_append _ (fun _ => isBlank_of_mem_replicate) ht, Option.or_none]

theorem space_space (ht : Stops isBlank t) : space ⟨b, ' ' :: t⟩ = [((), ⟨some ' ', t⟩)] := by
  have hread : run1 isBlank ⟨b, [' '] ++ t⟩ = [([' '], ⟨some ' ', t⟩)] :=
    run1_append (forall_mem_singleton.mpr (by decide)) (by simp) ht
  exact bind_of_eq_singleton hread _

theorem space_of_stops (ht : Stops isBlank t) : space ⟨b, t⟩ = [] :=
  bind_of_eq_nil (run1_of_stops ht) _

def spacedWord (w : String) : Scan Unit := do
  word w
  space

theorem spacedWord_append {w : String} (ht : Stops isBlank t) :
    spacedWord w ⟨b, w.toList ++ ' ' :: t⟩ = [((), ⟨some ' ', t⟩)] := by
  rw [spacedWord, word, bind_of_eq_singleton (literal_append _ _), space_space ht]

theorem spacedWord_eq_nil {w : String} (h : ¬w.toList <+: t) : spacedWord w ⟨b, t⟩ = [] :=
  bind_of_eq_nil (word_eq_nil h) _

theorem mark_cons (c : Char) (t : Text) : mark c ⟨b, c :: t⟩ = [((), ⟨some c, t⟩)] := by
  have hread : one (· == c) ⟨b, c :: t⟩ = [(c, ⟨some c, t⟩)] := by simp [one]
  exact bind_of_eq_singleton hread _

theorem mark_of_head?_ne (h : t.head? ≠ some c) : mark c ⟨b, t⟩ = [] := by
  have hstop : Stops (· == c) t := by
    intro d hd
    rw [beq_eq_false_iff_ne]
    rintro rfl
    exact h hd
  exact bind_of_eq_nil (one_of_stops hstop) _

theorem identifier_append (hn : isName n = true) (ht : Stops isNameChar t) :
    identifier ⟨b, n ++ t⟩ = [(n, ⟨n.getLast?, t⟩)] := by
  obtain ⟨c, u, rfl, hc⟩ := exists_head_of_isName hn
  have hu : ∀ d ∈ u, isNameChar d = true := fun d hd => isNameChar_of_mem hn (mem_cons_of_mem c hd)
  rw [identifier, cons_append, bind_of_eq_singleton (one_cons hc _),
    bind_of_eq_singleton (run_append hu ht), getLast?_cons]
  cases u.getLast? <;> rfl

theorem identifier_of_stops (ht : Stops isNameStart t) : identifier ⟨b, t⟩ = [] :=
  bind_of_eq_nil (one_of_stops ht) _

/-- The whole identifier is the preferred one of its beginnings. -/
theorem exists_identifierPart_append (hn : isName n = true) (ht : Stops isNameChar t) :
    ∃ more, identifierPart ⟨b, n ++ t⟩ = ((), ⟨n.getLast?, t⟩) :: more := by
  obtain ⟨c, u, rfl, hc⟩ := exists_head_of_isName hn
  have hu : ∀ d ∈ u, isNameChar d = true := fun d hd => isNameChar_of_mem hn (mem_cons_of_mem c hd)
  obtain ⟨more, hmore⟩ := exists_anyRun_append (b := some c) hu ht
  refine ⟨more, ?_⟩
  rw [identifierPart, cons_append, bind_of_eq_singleton (one_cons hc _), hmore, getLast?_cons]
  cases u.getLast? <;> rfl

theorem braced_append (hlist : '\x7d' ∉ list) (t : Text) :
    braced ⟨b, '\x7b' :: (list ++ '\x7d' :: t)⟩ = [(list, ⟨some '\x7d', t⟩)] := by
  have hrun : ∀ c ∈ list, (c != '\x7d') = true := by
    intro c hc
    rw [bne_iff_ne]
    rintro rfl
    exact hlist hc
  have hstop : Stops (· != '\x7d') ('\x7d' :: t) := Stops.cons rfl t
  rw [braced, bind_of_eq_singleton (mark_cons '\x7b' _), bind_of_eq_singleton (run_append hrun hstop),
    bind_of_eq_singleton (mark_cons '\x7d' t)]
  rfl

theorem braced_of_head?_ne (h : t.head? ≠ some '\x7b') : braced ⟨b, t⟩ = [] :=
  bind_of_eq_nil (mark_of_head?_ne h) _

def isSpecifier (s : Text) : Bool :=
  !s.isEmpty && s.all fun c => !isQuote c

def quoted (q : Char) (s t : Text) : Text :=
  q :: (s ++ q :: t)

theorem stops_isBlank_quoted (hq : isQuote q = true) (s t : Text) : Stops isBlank (quoted q s t) :=
  Stops.cons (isBlank_of_isQuote hq) _

theorem specifier_quoted (hq : isQuote q = true) (hs : isSpecifier s = true) (t : Text) :
    specifier ⟨b, quoted q s t⟩ = [(s, ⟨some q, t⟩)] := by
  obtain ⟨hne, hclean⟩ := Bool.and_eq_true_iff.mp hs
  have hrun : ∀ c ∈ s, (!isQuote c) = true := all_eq_true.mp hclean
  have hstop : Stops (fun c => !isQuote c) (q :: t) := Stops.cons (by simp [hq]) t
  rw [specifier, quoted, bind_of_eq_singleton (one_cons hq _),
    bind_of_eq_singleton (run1_append hrun (by simpa using hne) hstop),
    bind_of_eq_singleton (one_cons hq t)]
  rfl

theorem specifier_of_stops (h : Stops isQuote t) : specifier ⟨b, t⟩ = [] :=
  bind_of_eq_nil (one_of_stops h) _

def sourced (q : Char) (s t : Text) : Text :=
  "from".toList ++ ' ' :: quoted q s t

theorem stops_isBlank_sourced (q : Char) (s t : Text) : Stops isBlank (sourced q s t) :=
  Stops.cons (by decide) _

theorem source_sourced (hq : isQuote q = true) (hs : isSpecifier s = true) (t : Text) :
    source ⟨b, sourced q s t⟩ = [(s, ⟨some q, t⟩)] := by
  rw [source, sourced, word, bind_of_eq_singleton (literal_append _ _),
    bind_of_eq_singleton (gap_space (stops_isBlank_quoted hq s t)), specifier_quoted hq hs]

theorem argument_quoted (hq : isQuote q = true) (hs : isSpecifier s = true) (t : Text) :
    argument ⟨b, '(' :: quoted q s (')' :: t)⟩ = [(s, ⟨some ')', t⟩)] := by
  rw [argument, bind_of_eq_singleton (gap_of_stops (Stops.cons (by decide) _)),
    bind_of_eq_singleton (mark_cons '(' _),
    bind_of_eq_singleton (gap_of_stops (stops_isBlank_quoted hq s _)),
    bind_of_eq_singleton (specifier_quoted hq hs _),
    bind_of_eq_singleton (gap_of_stops (Stops.cons (by decide) t)),
    bind_of_eq_singleton (mark_cons ')' t)]
  rfl

end RepoAtlas.Code.Script
