import RepoAtlas.Proofs.Code.Statements
import Mathlib.Data.List.Count

/-! # Calls in a line -/

namespace RepoAtlas.Code.Script

open Scan Text Unicode List

variable {b : Option Char} {c c' : Cursor} {q : Char} {s t u w lead list back : Text} {i : Import}

/-! ## What a call needs -/

/-- The word is called somewhere in the text, with two quotes behind the parenthesis. -/
def Calls (w t : Text) : Prop :=
  ∃ front blanks after, t = front ++ (w ++ (blanks ++ '(' :: after)) ∧
    (∀ c ∈ blanks, isBlank c = true) ∧ 2 ≤ after.countP isQuote

theorem Calls.of_suffix (h : Calls w u) (hu : u <:+ t) : Calls w t := by
  obtain ⟨front, blanks, after, rfl, hblanks, hquotes⟩ := h
  obtain ⟨lead, rfl⟩ := hu
  exact ⟨lead ++ front, blanks, after, by rw [append_assoc], hblanks, hquotes⟩

theorem Calls.paren_mem (h : Calls w t) : '(' ∈ t := by
  obtain ⟨front, blanks, after, rfl, -, -⟩ := h
  simp

theorem countP_of_mem_specifier (h : (s, c') ∈ specifier c) : 2 ≤ c.rest.countP isQuote := by
  obtain ⟨q, c₁, hq, h⟩ := mem_bind.mp h
  obtain ⟨text, c₂, htext, h⟩ := mem_bind.mp h
  obtain ⟨q', c₃, hq', -⟩ := mem_bind.mp h
  obtain ⟨hquote, hrest⟩ := rest_of_mem_one hq
  obtain ⟨hquote', hrest'⟩ := rest_of_mem_one hq'
  have hsuffix : c₂.rest.countP isQuote ≤ c₁.rest.countP isQuote :=
    (advances_run1 _ _ _ _ htext).sublist.countP_le
  rw [hrest', countP_cons_of_pos hquote'] at hsuffix
  rw [hrest, countP_cons_of_pos hquote]
  omega

theorem rest_of_mem_mark {d : Char} {x : Unit} (h : (x, c') ∈ mark d c) : c.rest = d :: c'.rest := by
  obtain ⟨e, c₁, he, h⟩ := mem_bind.mp h
  cases mem_singleton.mp h
  obtain ⟨hd, hrest⟩ := rest_of_mem_one he
  rwa [beq_iff_eq.mp hd] at hrest

theorem rest_of_mem_gap {x : Unit} (h : (x, c') ∈ gap c) :
    ∃ blanks, (∀ c ∈ blanks, isBlank c = true) ∧ c.rest = blanks ++ c'.rest := by
  obtain ⟨blanks, c₁, hrun, h⟩ := mem_bind.mp h
  cases mem_singleton.mp h
  exact ⟨blanks, rest_of_mem_run hrun⟩

theorem calls_of_mem_argument (h : (s, c') ∈ argument c) (w : Text) : Calls w (w ++ c.rest) := by
  obtain ⟨_, c₁, hgap, h⟩ := mem_bind.mp h
  obtain ⟨_, c₂, hmark, h⟩ := mem_bind.mp h
  obtain ⟨_, c₃, hgap', h⟩ := mem_bind.mp h
  obtain ⟨s', c₄, hspecifier, -⟩ := mem_bind.mp h
  obtain ⟨blanks, hblanks, hrest⟩ := rest_of_mem_gap hgap
  obtain ⟨blanks', -, hrest'⟩ := rest_of_mem_gap hgap'
  refine ⟨[], blanks, c₂.rest, ?_, hblanks, ?_⟩
  · rw [nil_append, hrest, rest_of_mem_mark hmark]
  · have hquotes := countP_of_mem_specifier hspecifier
    rw [hrest', countP_append]
    omega

/-! ## The scans of calls -/

theorem advances_mark (d : Char) : Advances (mark d) :=
  (advances_one _).bind fun _ => advances_pure ()

theorem advances_gap : Advances gap :=
  (advances_run _).bind fun _ => advances_pure ()

theorem advances_space : Advances space :=
  (advances_run1 _).bind fun _ => advances_pure ()

theorem advances_identifier : Advances identifier :=
  (advances_one _).bind fun _ => (advances_run _).bind fun _ => advances_pure _

theorem advances_braced : Advances braced :=
  (advances_mark _).bind fun _ => (advances_run _).bind fun _ => (advances_mark _).bind fun _ =>
    advances_pure _

theorem advances_bindingLead : Advances bindingLead :=
  advances_edge.bind fun _ => (advances_oneOf _).bind fun _ => advances_space.bind fun _ =>
    ((advances_identifier.map _).orElse (advances_braced.map _)).bind fun _ =>
      advances_gap.bind fun _ => (advances_mark _).bind fun _ => advances_gap.bind fun _ => advances_pure _

def ReadsCalls (w : Text) (scan : Scan Import) : Prop :=
  ∀ i c c', (i, c') ∈ scan c → Calls w c.rest

theorem readsCalls_dynamicImport : ReadsCalls "import".toList dynamicImport := by
  intro i c c' h
  obtain ⟨_, c₁, hedge, h⟩ := mem_bind.mp h
  obtain ⟨_, c₂, hword, h⟩ := mem_bind.mp h
  obtain ⟨s, c₃, hargument, -⟩ := mem_bind.mp h
  have hcalls := calls_of_mem_argument hargument "import".toList
  rw [← rest_of_mem_literal hword] at hcalls
  exact hcalls.of_suffix (advances_edge _ _ _ hedge)

theorem readsCalls_requireCall : ReadsCalls "require".toList requireCall := by
  intro i c c' h
  obtain ⟨_, c₁, hlead, h⟩ := mem_bind.mp h
  obtain ⟨_, c₂, hedge, h⟩ := mem_bind.mp h
  obtain ⟨_, c₃, hword, h⟩ := mem_bind.mp h
  obtain ⟨s, c₄, hargument, -⟩ := mem_bind.mp h
  have hcalls := calls_of_mem_argument hargument "require".toList
  rw [← rest_of_mem_literal hword] at hcalls
  exact hcalls.of_suffix
    ((advances_edge _ _ _ hedge).trans (advances_bindingLead.optional _ _ _ hlead))

namespace ReadsCalls

variable {scan : Scan Import}

theorem eq_nil (hscan : ReadsCalls w scan) (h : ¬Calls w t) (hu : u <:+ t) : scan ⟨b, u⟩ = [] := by
  rw [eq_nil_iff_forall_not_mem]
  rintro ⟨i, c'⟩ hi
  exact h ((hscan i _ c' hi).of_suffix hu)

theorem all_eq_nil (hscan : ReadsCalls w scan) (h : ¬Calls w t) : scan.all t = [] :=
  Scan.all_eq_nil fun _ _ hu => hscan.eq_nil h hu

end ReadsCalls

/-! ## The calls of a line -/

section Line

variable (hq : isQuote q = true) (hs : isSpecifier s = true) (hback : ∀ c ∈ back, isQuote c = false)
include hq hs hback

/-- A call has its parenthesis before the first of two quotes. -/
theorem exists_lead_of_calls (h : Calls w (lead ++ quoted q s back)) :
    ∃ front blanks rest, lead = front ++ (w ++ (blanks ++ '(' :: rest)) ∧
      ∀ c ∈ blanks, isBlank c = true := by
  obtain ⟨front, blanks, after, hline, hblanks, hquotes⟩ := h
  have hparen : q ≠ '(' := ne_of_kind hq (by decide)
  have htwo : (quoted q s back).countP isQuote = 2 := by
    have hspecifier : s.countP isQuote = 0 := by
      rw [countP_eq_zero]
      intro c hc
      simpa using all_eq_true.mp (Bool.and_eq_true_iff.mp hs).2 c hc
    have hend : back.countP isQuote = 0 := by
      rw [countP_eq_zero]
      intro c hc
      simp [hback c hc]
    simp [quoted, hq, hspecifier, hend]
  have hassoc : lead ++ quoted q s back = (front ++ (w ++ blanks)) ++ '(' :: after := by
    simpa using hline
  rcases append_eq_append_iff.mp hassoc with ⟨t, -, ht⟩ | ⟨t, rfl, ht⟩
  · -- the two quotes would stand behind the parenthesis
    rw [ht, countP_append, countP_cons_of_neg (by decide)] at htwo
    have hnone : t.countP isQuote = 0 := by omega
    cases t with
    | nil => exact absurd (cons_eq_cons.mp ht).1 hparen
    | cons d t =>
      obtain ⟨rfl, -⟩ := cons_eq_cons.mp ht
      simp [hq] at hnone
  · cases t with
    | nil => exact absurd (cons_eq_cons.mp ht).1.symm hparen
    | cons d t =>
      obtain ⟨rfl, -⟩ := cons_eq_cons.mp ht
      exact ⟨front, blanks, t, by simp, hblanks⟩

theorem not_calls_of_paren_notMem (hlead : '(' ∉ lead) : ¬Calls w (lead ++ quoted q s back) := by
  intro h
  obtain ⟨front, blanks, rest, rfl, -⟩ := exists_lead_of_calls hq hs hback h
  exact hlead (by simp)

theorem getLast?_of_calls (hlead : '(' ∉ lead) {d : Char} (hlast : lead.getLast? = some d)
    (hd : isBlank d = false) (hw : w ≠ []) (h : Calls w (lead ++ '(' :: quoted q s back)) :
    w.getLast? = some d := by
  rw [append_cons] at h
  obtain ⟨front, blanks, rest, hfront, hblanks⟩ := exists_lead_of_calls hq hs hback h
  have hassoc : lead ++ ['('] = (front ++ (w ++ blanks)) ++ '(' :: rest := by
    simpa using hfront
  have hcalled : lead = front ++ (w ++ blanks) := by
    rcases append_eq_append_iff.mp hassoc with ⟨t, ht, hrest⟩ | ⟨t, ht, hrest⟩
    · cases t with
      | nil => simpa using ht.symm
      | cons e t => simp at hrest
    · cases t with
      | nil => simpa using ht
      | cons e t =>
        obtain ⟨rfl, -⟩ := cons_eq_cons.mp hrest
        exact absurd (ht ▸ mem_append_right _ mem_cons_self) hlead
  have hnone : blanks = [] := by
    by_contra hne
    rw [hcalled, ← append_assoc, getLast?_append_of_ne_nil _ hne] at hlast
    rw [hblanks d (mem_of_getLast? hlast)] at hd
    cases hd
  rw [hcalled, hnone, append_nil, getLast?_append_of_ne_nil _ hw] at hlast
  exact hlast

end Line

/-! ## Reading a call -/

theorem edge_of_isWordChar {d : Char} (hb : b.any isWordChar = false) (hd : isWordChar d = true) (t : Text) :
    edge ⟨b, d :: t⟩ = [((), ⟨b, d :: t⟩)] := by
  simp [edge, hb, hd]

theorem edge_cases (c : Cursor) : edge c = [((), c)] ∨ edge c = [] := by
  unfold edge
  split
  · exact Or.inl rfl
  · exact Or.inr rfl

theorem edge_bind_of_eq_nil {α : Type} {f : Unit → Scan α} (h : f () c = []) : (edge >>= f) c = [] := by
  rcases edge_cases c with hedge | hedge
  · rw [bind_of_eq_singleton hedge, h]
  · exact bind_of_eq_nil hedge f

theorem bindingLead_of_head?_ne (h : ∀ k : Keyword, k.word.toList.head? ≠ t.head?) :
    bindingLead ⟨b, t⟩ = [] := by
  have hwords : oneOf ["const", "let", "var"] ⟨b, t⟩ = [] := by
    have hconst := word_of_head?_ne (b := b) (w := "const") rfl (h .ofConst).symm
    have hlet := word_of_head?_ne (b := b) (w := "let") rfl (h .ofLet).symm
    have hvar := word_of_head?_ne (b := b) (w := "var") rfl (h .ofVar).symm
    simp only [oneOf, orElse_apply, hconst, hlet, hvar, nil_append]
    rfl
  exact edge_bind_of_eq_nil (bind_of_eq_nil hwords _)

theorem dynamicImport_space (t : Text) : dynamicImport ⟨b, ' ' :: t⟩ = [] :=
  edge_bind_of_eq_nil (bind_of_eq_nil (word_of_head?_ne (d := 'i') rfl (by simp)) _)

theorem requireCall_space (t : Text) : requireCall ⟨b, ' ' :: t⟩ = [] := by
  have hlead : bindingLead ⟨b, ' ' :: t⟩ = [] := by
    apply bindingLead_of_head?_ne
    intro k
    cases k <;> simp [Keyword.word]
  rw [requireCall, bind_of_eq_singleton (optional_of_eq_nil hlead)]
  exact edge_bind_of_eq_nil (bind_of_eq_nil (word_of_head?_ne (d := 'r') rfl (by simp)) _)

/-- A call behind the blanks that a line begins with is read once. -/
theorem all_indented {α : Type} {s : Scan α} {a : α} {rest : Text}
    (hspace : ∀ b t, s ⟨b, ' ' :: t⟩ = [])
    (hread : ∀ b, b.any isWordChar = false → ∃ b' more, s ⟨b, t⟩ = (a, ⟨b', rest⟩) :: more)
    (hrest : ∀ b u, u <:+ rest → s ⟨b, u⟩ = []) (k : Nat) :
    s.all (replicate k ' ' ++ t) = [a] := by
  have hbefore : (replicate k ' ').getLast?.any isWordChar = false := by
    cases hlast : (replicate k ' ').getLast? with
    | none => rfl
    | some d =>
      rw [eq_of_mem_replicate (mem_of_getLast? hlast)]
      decide
  obtain ⟨b, more, hmore⟩ := hread _ hbefore
  apply all_eq_singleton _ hmore hrest
  intro b u hu hne
  obtain ⟨d, v, rfl⟩ := exists_cons_of_ne_nil hne
  rw [eq_of_mem_replicate (hu.mem mem_cons_self)]
  exact hspace b _

theorem oneOf_keyword (k : Keyword) (t : Text) :
    oneOf ["const", "let", "var"] ⟨b, k.word.toList ++ ' ' :: t⟩ =
      [((), ⟨k.word.toList.getLast?.or b, ' ' :: t⟩)] := by
  apply oneOf_append
  · cases k <;> decide
  · decide
  · decide

theorem binding_target (target : Target) (s t : Text) :
    ∃ x b', (.name <$> identifier <|> .pattern <$> braced : Scan Binding) ⟨b, target.print ++ ' ' :: t⟩ =
      [(x, ⟨b', ' ' :: t⟩)] ∧ Script.required s (some x) = target.import s := by
  cases target with
  | name d =>
    refine ⟨.name d.text, d.text.getLast?, ?_, rfl⟩
    rw [orElse_apply, Scan.map_apply, Scan.map_apply, Target.print,
      identifier_append d.isName (Stops.cons (by decide) t),
      braced_of_head?_ne (head?_name_ne d.isName (by decide) _)]
    rfl
  | pattern items =>
    have hprint : (Target.pattern items).print ++ ' ' :: t =
        '\x7b' :: (itemList ": ".toList items ++ '\x7d' :: ' ' :: t) := by
      simp [Target.print, braces]
    refine ⟨.pattern (itemList ": ".toList items), some '\x7d', ?_, ?_⟩
    · rw [orElse_apply, Scan.map_apply, Scan.map_apply, hprint,
        identifier_of_stops (Stops.cons (by decide) _),
        braced_append (brace_notMem_itemList (by decide) items)]
      rfl
    · rw [Script.required, map_itemList, importedNames_patternItems]
      rfl

theorem bindingLead_append (k : Keyword) (target : Target) (hb : b.any isWordChar = false) (s : Text)
    (ht : Stops isBlank t) :
    ∃ x, bindingLead ⟨b, declaration (some (k, target)) ++ t⟩ = [(x, ⟨some ' ', t⟩)] ∧
      Script.required s (some x) = target.import s := by
  have hprint : declaration (some (k, target)) ++ t =
      k.word.toList ++ ' ' :: (target.print ++ ' ' :: '=' :: ' ' :: t) := by
    simp [declaration]
  have hedge : edge ⟨b, k.word.toList ++ ' ' :: (target.print ++ ' ' :: '=' :: ' ' :: t)⟩ =
      [((), ⟨b, k.word.toList ++ ' ' :: (target.print ++ ' ' :: '=' :: ' ' :: t)⟩)] := by
    cases k <;> exact edge_of_isWordChar hb (by decide) _
  have htarget : Stops isBlank (target.print ++ ' ' :: '=' :: ' ' :: t) := by
    cases target with
    | name d => exact stops_isBlank_name d.isName _
    | pattern items => exact Stops.cons (by decide) _
  obtain ⟨x, b', hbinding, himport⟩ := binding_target (b := some ' ') target s ('=' :: ' ' :: t)
  refine ⟨x, ?_, himport⟩
  rw [hprint, bindingLead, bind_of_eq_singleton hedge, bind_of_eq_singleton (oneOf_keyword k _),
    bind_of_eq_singleton (space_space htarget), bind_of_eq_singleton hbinding,
    bind_of_eq_singleton (gap_space (Stops.cons (by decide) _)), bind_of_eq_singleton (mark_cons '=' _),
    bind_of_eq_singleton (gap_space ht)]
  rfl

section Own

variable (hq : isQuote q = true) (hs : isSpecifier s = true) (hb : b.any isWordChar = false)
include hq hs hb

theorem dynamicImport_call :
    dynamicImport ⟨b, "import".toList ++ '(' :: quoted q s (')' :: back)⟩ =
      [({ specifier := s, isDynamic := true }, ⟨some ')', back⟩)] := by
  have hedge : edge ⟨b, "import".toList ++ '(' :: quoted q s (')' :: back)⟩ =
      [((), ⟨b, "import".toList ++ '(' :: quoted q s (')' :: back)⟩)] :=
    edge_of_isWordChar hb (by decide) _
  rw [dynamicImport, bind_of_eq_singleton hedge, Scan.word, bind_of_eq_singleton (literal_append _ _),
    bind_of_eq_singleton (argument_quoted hq hs back)]
  rfl

/-- A call of `require` is read with the declaration in front of it. -/
theorem requireCall_call (declared? : Option (Keyword × Target)) :
    ∃ more, requireCall ⟨b, declaration declared? ++ ("require".toList ++ '(' :: quoted q s (')' :: back))⟩ =
      (requiredImport s declared?, ⟨some ')', back⟩) :: more := by
  have hcall (x : Option Binding) (b : Option Char) (hb : b.any isWordChar = false) :
      (do edge; word "require"; let s ← argument; return Script.required s x : Scan Import)
        ⟨b, "require".toList ++ '(' :: quoted q s (')' :: back)⟩ =
          [(Script.required s x, ⟨some ')', back⟩)] := by
    have hedge : edge ⟨b, "require".toList ++ '(' :: quoted q s (')' :: back)⟩ =
        [((), ⟨b, "require".toList ++ '(' :: quoted q s (')' :: back)⟩)] :=
      edge_of_isWordChar hb (by decide) _
    rw [bind_of_eq_singleton hedge, Scan.word, bind_of_eq_singleton (literal_append _ _),
      bind_of_eq_singleton (argument_quoted hq hs back)]
    rfl
  rcases declared? with _ | ⟨k, target⟩
  · have hlead : bindingLead ⟨b, "require".toList ++ '(' :: quoted q s (')' :: back)⟩ = [] := by
      apply bindingLead_of_head?_ne
      intro k
      cases k <;> simp [Keyword.word]
    refine ⟨[], ?_⟩
    rw [requireCall, declaration, nil_append, bind_of_eq_singleton (optional_of_eq_nil hlead),
      hcall none b hb]
    rfl
  · have hword : Stops isBlank ("require".toList ++ '(' :: quoted q s (')' :: back)) :=
      Stops.word rfl (by decide) _
    obtain ⟨x, hlead, himport⟩ := bindingLead_append k target hb s hword
    rw [requireCall, bind_of_eq_cons (optional_of_eq_cons hlead), hcall (some x) (some ' ') (by decide),
      himport]
    exact ⟨_, rfl⟩

end Own

end RepoAtlas.Code.Script
