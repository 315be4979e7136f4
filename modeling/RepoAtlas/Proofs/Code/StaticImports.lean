import RepoAtlas.Proofs.Code.Statements

/-! # Static imports -/

namespace RepoAtlas.Code.Script

open Scan Text Unicode List

variable {b : Option Char} {q : Char} {n s t w rest back : Text} {clause : Scan Import} {c : Clause}

/-! ## Clauses -/

def defaultAndNamedClause : Scan Import := do
  let d ← identifier
  gap
  mark ','
  gap
  let list ← braced
  gap
  let s ← source
  return { specifier := s, names := d :: importedNames list, isDefault := true }

def leadingDefault : Scan Unit := do
  let _ ← identifier
  gap
  mark ','
  gap

def namespacePart : Scan Import := do
  mark '*'
  gap
  word "as"
  space
  let _ ← identifier
  space
  let s ← source
  return { specifier := s, isDefault := true }

def namespacedClause : Scan Import := do
  let _ ← optional leadingDefault
  namespacePart

def namedClause : Scan Import := do
  let list ← braced
  gap
  let s ← source
  return { specifier := s, names := importedNames list }

def defaultedClause : Scan Import := do
  let d ← identifier
  space
  let s ← source
  return { specifier := s, names := [d], isDefault := true }

def importStatement (clause : Scan Import) : Scan Import := do
  importLead
  typeMark
  clause

theorem staticImport_eq :
    staticImport =
      (sideEffect <|> importStatement defaultAndNamedClause <|> importStatement namespacedClause <|>
        importStatement namedClause <|> importStatement defaultedClause <|> reExport) := rfl

/-! ## A lone name

Behind the mark of a type, or where `type` is a name, a clause is looked for at a name that stands alone.
Only a default import begins with such a name. -/

def Lone (t : Text) : Prop :=
  ∃ n w, isName n = true ∧ t = n ++ ' ' :: w ∧ Stops isBlank w ∧ w.head? ≠ some ','

theorem defaultAndNamedClause_of_lone (h : Lone t) : defaultAndNamedClause ⟨b, t⟩ = [] := by
  obtain ⟨n, w, hn, rfl, hw, hcomma⟩ := h
  rw [defaultAndNamedClause, bind_of_eq_singleton (identifier_append hn (Stops.cons (by decide) w)),
    bind_of_eq_singleton (gap_space hw), bind_of_eq_nil (mark_of_head?_ne hcomma)]

theorem namespacedClause_of_lone (h : Lone t) : namespacedClause ⟨b, t⟩ = [] := by
  obtain ⟨n, w, hn, rfl, hw, hcomma⟩ := h
  have hdefault : leadingDefault ⟨b, n ++ ' ' :: w⟩ = [] := by
    rw [leadingDefault, bind_of_eq_singleton (identifier_append hn (Stops.cons (by decide) w)),
      bind_of_eq_singleton (gap_space hw), bind_of_eq_nil (mark_of_head?_ne hcomma)]
  rw [namespacedClause, bind_of_eq_singleton (optional_of_eq_nil hdefault), namespacePart,
    bind_of_eq_nil (mark_of_head?_ne (head?_name_ne hn (by decide) _))]

theorem namedClause_of_lone (h : Lone t) : namedClause ⟨b, t⟩ = [] := by
  obtain ⟨n, w, hn, rfl, -, -⟩ := h
  exact bind_of_eq_nil (braced_of_head?_ne (head?_name_ne hn (by decide) _)) _

/-- Behind the name `from` there is no other `from`. -/
theorem defaultedClause_sourced (hq : isQuote q = true) (s back : Text) :
    defaultedClause ⟨b, sourced q s back⟩ = [] := by
  have hfrom : (quoted q s back).head? ≠ some 'f' := by
    rintro ⟨⟩
    cases hq
  rw [defaultedClause, sourced,
    bind_of_eq_singleton (identifier_append (by decide) (Stops.cons (by decide) _)),
    bind_of_eq_singleton (space_space (stops_isBlank_quoted hq s back))]
  exact bind_of_eq_nil (bind_of_eq_nil (word_of_head?_ne rfl hfrom) _) _

theorem lone_sourced (hq : isQuote q = true) (s back : Text) : Lone (sourced q s back) := by
  refine ⟨"from".toList, quoted q s back, by decide, rfl, stops_isBlank_quoted hq s back, ?_⟩
  rintro ⟨⟩
  cases hq

theorem lone_type (ht : Stops isBlank t) (hcomma : t.head? ≠ some ',') : Lone ("type".toList ++ ' ' :: t) :=
  ⟨"type".toList, t, by decide, rfl, ht, hcomma⟩

/-! ## The mark of a type -/

theorem typeMark_of_eq_nil {c : Cursor} (h : (do word "type"; space : Scan Unit) c = []) :
    typeMark c = [((), c)] :=
  bind_of_eq_singleton (optional_of_eq_nil h) _

theorem typeMark_of_head?_ne (h : t.head? ≠ some 't') : typeMark ⟨b, t⟩ = [((), ⟨b, t⟩)] :=
  typeMark_of_eq_nil (bind_of_eq_nil (word_of_head?_ne rfl h) _)

theorem typeMark_type (ht : Stops isBlank t) :
    typeMark ⟨b, "type".toList ++ ' ' :: t⟩ =
      [((), ⟨some ' ', t⟩), ((), ⟨b, "type".toList ++ ' ' :: t⟩)] := by
  have hmark : (do word "type"; space : Scan Unit) ⟨b, "type".toList ++ ' ' :: t⟩ =
      [((), ⟨some ' ', t⟩)] := spacedWord_append ht
  rw [typeMark, bind_of_eq_cons (optional_of_eq_cons hmark)]
  rfl

theorem stops_isBlank_of_name (hn : isName n = true) (hw : Stops isNameChar w)
    (h : n = "type".toList → Stops isBlank w) (hrest : n ++ w = "type".toList ++ rest) :
    Stops isBlank rest := by
  rcases append_eq_append_iff.mp hrest with ⟨u, htype, rfl⟩ | ⟨u, rfl, rfl⟩
  · cases u with
    | nil => exact h (by simpa using htype.symm)
    | cons d u =>
      have hd : isNameChar d = true := by
        have hall : ∀ d ∈ "type".toList, isNameChar d = true := all_eq_true.mp (by decide)
        exact hall d (htype ▸ mem_append_right n mem_cons_self)
      rw [hw.head] at hd
      cases hd
  · cases u with
    | nil => exact h (append_nil _)
    | cons d u =>
      have hd : isNameChar d = true := isNameChar_of_mem hn (mem_append_right _ mem_cons_self)
      exact Stops.cons (isBlank_of_isNameChar hd) _

theorem typeMark_name (hn : isName n = true) (hw : Stops isNameChar w)
    (h : n = "type".toList → Stops isBlank w) : typeMark ⟨b, n ++ w⟩ = [((), ⟨b, n ++ w⟩)] := by
  apply typeMark_of_eq_nil
  cases hmark : dropLead? "type".toList (n ++ w) with
  | none =>
    apply bind_of_eq_nil
    simp only [Scan.word, literal, hmark]
  | some rest =>
    have hrest : n ++ w = "type".toList ++ rest := dropLead?_eq_some_iff.mp hmark
    rw [hrest, Scan.word, bind_of_eq_singleton (literal_append _ _),
      space_of_stops (stops_isBlank_of_name hn hw h hrest)]

/-! ## The text of a clause -/

section ClauseText

def Clause.text (c : Clause) (source : Text) : Text :=
  c.print ++ ' ' :: source

theorem text_defaultAndNamed (d : Name) (items : List Item) (t : Text) :
    (Clause.defaultAndNamed d items).text t =
      d.text ++ ',' :: ' ' :: '\x7b' :: (itemList " as ".toList items ++ '\x7d' :: ' ' :: t) := by
  simp [Clause.text, Clause.print, importList, braces]

theorem text_namespaced (d : Name) (t : Text) :
    (Clause.namespaced d).text t = '*' :: ' ' :: ("as".toList ++ ' ' :: (d.text ++ ' ' :: t)) := by
  simp [Clause.text, Clause.print]

theorem text_defaultAndNamespaced (d m : Name) (t : Text) :
    (Clause.defaultAndNamespaced d m).text t =
      d.text ++ ',' :: ' ' :: '*' :: ' ' :: ("as".toList ++ ' ' :: (m.text ++ ' ' :: t)) := by
  simp [Clause.text, Clause.print]

theorem text_named (items : List Item) (t : Text) :
    (Clause.named items).text t = '\x7b' :: (itemList " as ".toList items ++ '\x7d' :: ' ' :: t) := by
  simp [Clause.text, Clause.print, importList, braces]

theorem text_defaulted (d : Name) (t : Text) : (Clause.defaulted d).text t = d.text ++ ' ' :: t := rfl

variable (c : Clause) (t : Text)

theorem exists_head_text :
    ∃ d u, c.text t = d :: u ∧ (isNameStart d = true ∨ d = '*' ∨ d = '\x7b') := by
  have hname (n : Name) (w : Text) :
      ∃ d u, n.text ++ w = d :: u ∧ (isNameStart d = true ∨ d = '*' ∨ d = '\x7b') := by
    obtain ⟨d, u, htext, hd⟩ := exists_head_of_isName n.isName
    exact ⟨d, u ++ w, by rw [htext, cons_append], Or.inl hd⟩
  cases c with
  | defaultAndNamed d items => exact text_defaultAndNamed d items t ▸ hname d _
  | namespaced d => exact ⟨'*', _, text_namespaced d t, by simp⟩
  | defaultAndNamespaced d m => exact text_defaultAndNamespaced d m t ▸ hname d _
  | named items => exact ⟨'\x7b', _, text_named items t, by simp⟩
  | defaulted d => exact hname d _

theorem stops_text {kind : Char → Bool} (hname : ∀ d, isNameStart d = true → kind d = false)
    (hstar : kind '*' = false) (hbrace : kind '\x7b' = false) : Stops kind (c.text t) := by
  obtain ⟨d, u, htext, hd⟩ := exists_head_text c t
  rw [htext]
  apply Stops.cons
  rcases hd with hd | rfl | rfl
  · exact hname d hd
  · exact hstar
  · exact hbrace

theorem stops_isBlank_text : Stops isBlank (c.text t) :=
  stops_text c t (fun _ hd => isBlank_of_isNameChar (isNameChar_of_isNameStart hd)) (by decide) (by decide)

theorem stops_isQuote_text : Stops isQuote (c.text t) :=
  stops_text c t (fun _ hd => isQuote_of_isNameStart hd) (by decide) (by decide)

theorem head?_text_ne : (c.text t).head? ≠ some ',' := by
  intro hcomma
  have hstop : Stops (· == ',') (c.text t) := by
    apply stops_text c t _ (by decide) (by decide)
    intro d hd
    exact beq_eq_false_iff_ne.mpr (ne_of_kind hd (by decide))
  simpa using hstop _ hcomma

/-- Only a default import of `type` seems to begin with the mark of a type. -/
theorem typeMark_text (h : ∀ d, c = .defaulted d → d.text ≠ "type".toList) :
    typeMark ⟨b, c.text t⟩ = [((), ⟨b, c.text t⟩)] := by
  have hcomma (u : Text) : Stops isNameChar (',' :: u) ∧ Stops isBlank (',' :: u) :=
    ⟨Stops.cons (by decide) u, Stops.cons (by decide) u⟩
  cases c with
  | defaultAndNamed d items =>
    rw [text_defaultAndNamed]
    exact typeMark_name d.isName (hcomma _).1 fun _ => (hcomma _).2
  | namespaced d =>
    rw [text_namespaced]
    exact typeMark_of_head?_ne (by simp)
  | defaultAndNamespaced d m =>
    rw [text_defaultAndNamespaced]
    exact typeMark_name d.isName (hcomma _).1 fun _ => (hcomma _).2
  | named items =>
    rw [text_named]
    exact typeMark_of_head?_ne (by simp)
  | defaulted d =>
    rw [text_defaulted]
    exact typeMark_name d.isName (Stops.cons (by decide) t) fun hd => absurd hd (h d rfl)

end ClauseText

/-! ## Import statements -/

theorem importLead_append (ht : Stops isBlank t) (k : Nat) :
    importLead ⟨none, replicate k ' ' ++ ("import".toList ++ ' ' :: t)⟩ = [((), ⟨some ' ', t⟩)] := by
  have hword : Stops isBlank ("import".toList ++ ' ' :: t) := Stops.word rfl (by decide) _
  rw [importLead, bind_of_eq_singleton (gap_replicate k hword), Scan.word,
    bind_of_eq_singleton (literal_append _ _), space_space ht]

def clauseLine (k : Nat) (isType : Bool) (c : Clause) (source : Text) : Text :=
  replicate k ' ' ++ ("import".toList ++ ' ' ::
    ((if isType then "type ".toList else []) ++ c.text source))

/-- The mark of a type is read, or not, so that the clause follows. The other readings leave a name that
stands alone; such a reading is preferred only where `type` is the name of a default import. -/
theorem typeMark_clause (q : Char) (s back : Text) (isType : Bool) (c : Clause) :
    ∃ before after b', typeMark ⟨b, (if isType then "type ".toList else []) ++
          c.text (sourced q s back)⟩ =
        before ++ ((), ⟨b', c.text (sourced q s back)⟩) :: after ∧
      (∀ r ∈ before, r.2.rest = sourced q s back) ∧ ∀ r ∈ after, Lone r.2.rest := by
  cases isType with
  | true =>
    refine ⟨[], [((), ⟨b, "type".toList ++ ' ' :: c.text (sourced q s back)⟩)], some ' ', ?_, by simp, ?_⟩
    · exact typeMark_type (stops_isBlank_text c _)
    · simpa using lone_type (stops_isBlank_text c _) (head?_text_ne c _)
  | false =>
    by_cases htype : ∃ d, c = .defaulted d ∧ d.text = "type".toList
    · obtain ⟨d, rfl, hd⟩ := htype
      refine ⟨[((), ⟨some ' ', sourced q s back⟩)], [], b, ?_, by simp, by simp⟩
      rw [text_defaulted, hd]
      exact typeMark_type (stops_isBlank_sourced q s back)
    · refine ⟨[], [], b, typeMark_text c _ ?_, by simp, by simp⟩
      intro d hc hd
      exact htype ⟨d, hc, hd⟩

theorem stops_mark_text {kind : Char → Bool} (htype : kind 't' = false) (h : Stops kind (c.text t))
    (isType : Bool) : Stops kind ((if isType then "type ".toList else []) ++ c.text t) := by
  cases isType with
  | true => exact Stops.cons htype _
  | false => exact h

theorem sideEffect_clauseLine (k : Nat) (isType : Bool) (c : Clause) (t : Text) :
    sideEffect ⟨none, clauseLine k isType c t⟩ = [] := by
  have hblank := stops_mark_text (by decide) (stops_isBlank_text c t) isType
  have hquote := stops_mark_text (by decide) (stops_isQuote_text c t) isType
  rw [sideEffect, clauseLine, bind_of_eq_singleton (importLead_append hblank k),
    bind_of_eq_nil (specifier_of_stops hquote)]

theorem importStatement_clauseLine (clause : Scan Import) (k : Nat) (isType : Bool) (c : Clause) (t : Text) :
    importStatement clause ⟨none, clauseLine k isType c t⟩ =
      (typeMark >>= fun _ => clause) ⟨some ' ', (if isType then "type ".toList else []) ++ c.text t⟩ := by
  have hstop := stops_mark_text (by decide) (stops_isBlank_text c t) isType
  rw [importStatement, clauseLine, bind_of_eq_singleton (importLead_append hstop k)]

theorem importStatement_eq_nil (hq : isQuote q = true) (hlone : ∀ b t, Lone t → clause ⟨b, t⟩ = [])
    (hclause : ∀ b, clause ⟨b, c.text (sourced q s back)⟩ = []) (k : Nat) (isType : Bool) :
    importStatement clause ⟨none, clauseLine k isType c (sourced q s back)⟩ = [] := by
  obtain ⟨before, after, b, hmark, hbefore, hafter⟩ := typeMark_clause q s back isType c
  rw [importStatement_clauseLine, bind_apply, hmark, flatMap_eq_nil_iff]
  intro r hr
  rcases mem_append.mp hr with hr | hr
  · exact hlone _ _ (hbefore r hr ▸ lone_sourced hq s back)
  · rcases mem_cons.mp hr with rfl | hr
    · exact hclause b
    · exact hlone _ _ (hafter r hr)

theorem importStatement_preferred {i : Import} (hsource : ∀ b, clause ⟨b, sourced q s back⟩ = [])
    (hclause : ∀ b, clause.preferred? ⟨b, c.text (sourced q s back)⟩ = some i) (k : Nat) (isType : Bool) :
    (importStatement clause).preferred? ⟨none, clauseLine k isType c (sourced q s back)⟩ = some i := by
  obtain ⟨before, after, b, hmark, hbefore, -⟩ := typeMark_clause q s back isType c
  have hnone : (before.flatMap fun r => clause r.2) = [] := by
    rw [flatMap_eq_nil_iff]
    rintro ⟨u, b', rest⟩ hr
    cases hbefore _ hr
    exact hsource b'
  have hread := hclause b
  rw [preferred?] at hread
  rw [preferred?, importStatement_clauseLine, bind_apply, hmark, flatMap_append, flatMap_cons]
  simp only [hnone, nil_append, head?_append, Option.map_or, hread, Option.some_or]

/-! ## Clauses of the other forms -/

section Others

variable (d m : Name) (items : List Item) (t : Text)

theorem defaultAndNamedClause_namespaced : defaultAndNamedClause ⟨b, (Clause.namespaced d).text t⟩ = [] := by
  rw [text_namespaced]
  exact bind_of_eq_nil (identifier_of_stops (Stops.cons (by decide) _)) _

theorem defaultAndNamedClause_defaultAndNamespaced :
    defaultAndNamedClause ⟨b, (Clause.defaultAndNamespaced d m).text t⟩ = [] := by
  rw [text_defaultAndNamespaced, defaultAndNamedClause,
    bind_of_eq_singleton (identifier_append d.isName (Stops.cons (by decide) _)),
    bind_of_eq_singleton (gap_of_stops (Stops.cons (by decide) _)),
    bind_of_eq_singleton (mark_cons ',' _),
    bind_of_eq_singleton (gap_space (Stops.cons (by decide) _)),
    bind_of_eq_nil (braced_of_head?_ne (by simp))]

theorem defaultAndNamedClause_named : defaultAndNamedClause ⟨b, (Clause.named items).text t⟩ = [] := by
  rw [text_named]
  exact bind_of_eq_nil (identifier_of_stops (Stops.cons (by decide) _)) _

theorem namespacedClause_named : namespacedClause ⟨b, (Clause.named items).text t⟩ = [] := by
  have hdefault : leadingDefault ⟨b, (Clause.named items).text t⟩ = [] := by
    rw [text_named]
    exact bind_of_eq_nil (identifier_of_stops (Stops.cons (by decide) _)) _
  rw [namespacedClause, bind_of_eq_singleton (optional_of_eq_nil hdefault), text_named, namespacePart,
    bind_of_eq_nil (mark_of_head?_ne (by simp))]

end Others

/-! ## Clauses of the own form -/

section Own

variable (hq : isQuote q = true) (hs : isSpecifier s = true)
  (d m : Name) (items : List Item) (b : Option Char)
include hq hs

theorem defaultAndNamedClause_defaultAndNamed :
    defaultAndNamedClause.preferred? ⟨b, (Clause.defaultAndNamed d items).text (sourced q s back)⟩ =
      some ((Clause.defaultAndNamed d items).import s) := by
  rw [preferred?, text_defaultAndNamed, defaultAndNamedClause,
    bind_of_eq_singleton (identifier_append d.isName (Stops.cons (by decide) _)),
    bind_of_eq_singleton (gap_of_stops (Stops.cons (by decide) _)),
    bind_of_eq_singleton (mark_cons ',' _),
    bind_of_eq_singleton (gap_space (Stops.cons (by decide) _)),
    bind_of_eq_singleton (braced_append (brace_notMem_itemList (by decide) items) _),
    bind_of_eq_singleton (gap_space (stops_isBlank_sourced q s back)),
    bind_of_eq_singleton (source_sourced hq hs back), importedNames_importItems]
  rfl

theorem namespacePart_append :
    namespacePart ⟨b, '*' :: ' ' :: ("as".toList ++ ' ' :: (d.text ++ ' ' :: sourced q s back))⟩ =
      [({ specifier := s, isDefault := true }, ⟨some q, back⟩)] := by
  have has : Stops isBlank ("as".toList ++ ' ' :: (d.text ++ ' ' :: sourced q s back)) :=
    Stops.word rfl (by decide) _
  rw [namespacePart, bind_of_eq_singleton (mark_cons '*' _), bind_of_eq_singleton (gap_space has),
    Scan.word, bind_of_eq_singleton (literal_append _ _),
    bind_of_eq_singleton (space_space (stops_isBlank_name d.isName _)),
    bind_of_eq_singleton (identifier_append d.isName (Stops.cons (by decide) _)),
    bind_of_eq_singleton (space_space (stops_isBlank_sourced q s back)),
    bind_of_eq_singleton (source_sourced hq hs back)]
  rfl

theorem namespacedClause_namespaced :
    namespacedClause.preferred? ⟨b, (Clause.namespaced d).text (sourced q s back)⟩ =
      some ((Clause.namespaced d).import s) := by
  have hdefault : leadingDefault ⟨b, (Clause.namespaced d).text (sourced q s back)⟩ = [] := by
    rw [text_namespaced]
    exact bind_of_eq_nil (identifier_of_stops (Stops.cons (by decide) _)) _
  rw [preferred?, namespacedClause, bind_of_eq_singleton (optional_of_eq_nil hdefault),
    text_namespaced, namespacePart_append hq hs]
  rfl

theorem namespacedClause_defaultAndNamespaced :
    namespacedClause.preferred? ⟨b, (Clause.defaultAndNamespaced d m).text (sourced q s back)⟩ =
      some ((Clause.defaultAndNamespaced d m).import s) := by
  have hdefault : leadingDefault ⟨b, (Clause.defaultAndNamespaced d m).text (sourced q s back)⟩ =
      [((), ⟨some ' ', '*' :: ' ' :: ("as".toList ++ ' ' :: (m.text ++ ' ' :: sourced q s back))⟩)] := by
    rw [text_defaultAndNamespaced, leadingDefault,
      bind_of_eq_singleton (identifier_append d.isName (Stops.cons (by decide) _)),
      bind_of_eq_singleton (gap_of_stops (Stops.cons (by decide) _)),
      bind_of_eq_singleton (mark_cons ',' _), gap_space (Stops.cons (by decide) _)]
  rw [namespacedClause, preferred?_bind_of_eq_cons (optional_of_eq_cons hdefault), preferred?,
    namespacePart_append hq hs]
  rfl

theorem namedClause_named :
    namedClause.preferred? ⟨b, (Clause.named items).text (sourced q s back)⟩ =
      some ((Clause.named items).import s) := by
  rw [preferred?, text_named, namedClause,
    bind_of_eq_singleton (braced_append (brace_notMem_itemList (by decide) items) _),
    bind_of_eq_singleton (gap_space (stops_isBlank_sourced q s back)),
    bind_of_eq_singleton (source_sourced hq hs back), importedNames_importItems]
  rfl

theorem defaultedClause_defaulted :
    defaultedClause.preferred? ⟨b, (Clause.defaulted d).text (sourced q s back)⟩ =
      some ((Clause.defaulted d).import s) := by
  rw [preferred?, text_defaulted, defaultedClause,
    bind_of_eq_singleton (identifier_append d.isName (Stops.cons (by decide) _)),
    bind_of_eq_singleton (space_space (stops_isBlank_sourced q s back)),
    bind_of_eq_singleton (source_sourced hq hs back)]
  rfl

end Own

/-! ## Exports of other files -/

def exportedPart : Scan (Option Text) :=
  (do allNames; return none) <|> some <$> braced

theorem reExport_eq :
    reExport = (do
      gap
      word "export"
      space
      typeMark
      let list? ← exportedPart
      gap
      let s ← source
      return { specifier := s, names := (list?.map importedNames).getD [] }) := rfl

theorem allNames_star (ht : Stops isBlank t) (h : t.head? ≠ some 'a') :
    allNames ⟨b, '*' :: ' ' :: t⟩ = [((), ⟨some '*', ' ' :: t⟩)] := by
  have hname : (do space; word "as"; space; identifierPart : Scan Unit) ⟨some '*', ' ' :: t⟩ = [] := by
    rw [bind_of_eq_singleton (space_space ht), bind_of_eq_nil (word_of_head?_ne rfl h)]
  rw [allNames, bind_of_eq_singleton (mark_cons '*' _)]
  exact bind_of_eq_singleton (optional_of_eq_nil hname) _

theorem exists_allNames_as (d : Name) (t : Text) :
    ∃ b' more, allNames ⟨b, '*' :: ' ' :: ("as".toList ++ ' ' :: (d.text ++ ' ' :: t))⟩ =
      ((), ⟨b', ' ' :: t⟩) :: more := by
  have has : Stops isBlank ("as".toList ++ ' ' :: (d.text ++ ' ' :: t)) := Stops.word rfl (by decide) _
  obtain ⟨more, hmore⟩ := exists_identifierPart_append (b := some ' ') d.isName
    (Stops.cons (by decide) t : Stops isNameChar (' ' :: t))
  have hname : (do space; word "as"; space; identifierPart : Scan Unit)
      ⟨some '*', ' ' :: ("as".toList ++ ' ' :: (d.text ++ ' ' :: t))⟩ =
        ((), ⟨d.text.getLast?, ' ' :: t⟩) :: more := by
    rw [bind_of_eq_singleton (space_space has), Scan.word, bind_of_eq_singleton (literal_append _ _),
      bind_of_eq_singleton (space_space (stops_isBlank_name d.isName _)), hmore]
  rw [allNames, bind_of_eq_singleton (mark_cons '*' _), bind_of_eq_cons (optional_of_eq_cons hname)]
  exact ⟨d.text.getLast?, _, rfl⟩

theorem exportedPart_append (s : Text) (b : Option Char) (e : Exported) (t : Text) (h : t.head? ≠ some 'a')
    (ht : Stops isBlank t) :
    ∃ list? b' more, exportedPart ⟨b, e.print ++ ' ' :: t⟩ = (list?, ⟨b', ' ' :: t⟩) :: more ∧
      (list?.map importedNames).getD [] = (e.import s).names := by
  cases e with
  | named items =>
    have hprint : (Exported.named items).print ++ ' ' :: t =
        '\x7b' :: (itemList " as ".toList items ++ '\x7d' :: ' ' :: t) := by
      simp [Exported.print, importList, braces]
    refine ⟨some (itemList " as ".toList items), some '\x7d', [], ?_, importedNames_importItems items⟩
    have hall : allNames ⟨b, '\x7b' :: (itemList " as ".toList items ++ '\x7d' :: ' ' :: t)⟩ = [] :=
      bind_of_eq_nil (mark_of_head?_ne (by simp)) _
    rw [hprint, exportedPart, orElse_apply, bind_of_eq_nil hall, Scan.map_apply,
      braced_append (brace_notMem_itemList (by decide) items)]
    rfl
  | all =>
    refine ⟨none, some '*', (some <$> braced) ⟨b, Exported.all.print ++ ' ' :: t⟩, ?_, rfl⟩
    have hall : allNames ⟨b, Exported.all.print ++ ' ' :: t⟩ = [((), ⟨some '*', ' ' :: t⟩)] :=
      allNames_star ht h
    rw [exportedPart, orElse_apply, bind_of_eq_singleton hall]
    rfl
  | allAs d =>
    have hprint : (Exported.allAs d).print ++ ' ' :: t =
        '*' :: ' ' :: ("as".toList ++ ' ' :: (d.text ++ ' ' :: t)) := by
      simp [Exported.print]
    obtain ⟨b', more, hall⟩ := exists_allNames_as (b := b) d t
    rw [hprint, exportedPart, orElse_apply, bind_of_eq_cons hall]
    exact ⟨none, b', _, rfl, rfl⟩

/-! ## The static import of a line -/

theorem staticImport_of_importLead {c : Cursor} (h : importLead c = []) :
    staticImport.preferred? c = reExport.preferred? c := by
  have heffect : sideEffect c = [] := bind_of_eq_nil h _
  have himport (clause : Scan Import) : importStatement clause c = [] := bind_of_eq_nil h _
  simp only [staticImport_eq, preferred?_orElse, preferred?_eq_none heffect,
    preferred?_eq_none (himport _), Option.none_or]

theorem importLead_of_head?_ne (k : Nat) (hblank : Stops isBlank t) (h : t.head? ≠ some 'i') :
    importLead ⟨none, replicate k ' ' ++ t⟩ = [] := by
  rw [importLead, bind_of_eq_singleton (gap_replicate k hblank),
    bind_of_eq_nil (word_of_head?_ne rfl h)]

theorem reExport_of_head?_ne (k : Nat) (hblank : Stops isBlank t) (h : t.head? ≠ some 'e') :
    reExport ⟨none, replicate k ' ' ++ t⟩ = [] := by
  rw [reExport, bind_of_eq_singleton (gap_replicate k hblank),
    bind_of_eq_nil (word_of_head?_ne rfl h)]

theorem staticImport_of_head?_ne (k : Nat) (hblank : Stops isBlank t) (himport : t.head? ≠ some 'i')
    (hexport : t.head? ≠ some 'e') : staticImport.preferred? ⟨none, replicate k ' ' ++ t⟩ = none := by
  rw [staticImport_of_importLead (importLead_of_head?_ne k hblank himport),
    preferred?_eq_none (reExport_of_head?_ne k hblank hexport)]

/-- A call of `import` is no import statement. -/
theorem staticImport_call (k : Nat) (t : Text) :
    staticImport.preferred? ⟨none, replicate k ' ' ++ ("import".toList ++ '(' :: t)⟩ = none := by
  have hword : Stops isBlank ("import".toList ++ '(' :: t) := Stops.word rfl (by decide) _
  have hlead : importLead ⟨none, replicate k ' ' ++ ("import".toList ++ '(' :: t)⟩ = [] := by
    rw [importLead, bind_of_eq_singleton (gap_replicate k hword), Scan.word,
      bind_of_eq_singleton (literal_append _ _), space_of_stops (Stops.cons (by decide) t)]
  rw [staticImport_of_importLead hlead, preferred?_eq_none (reExport_of_head?_ne k hword (by simp))]

section Static

variable (hq : isQuote q = true) (hs : isSpecifier s = true) (k : Nat)
include hq hs

theorem staticImport_effect :
    staticImport.preferred? ⟨none, replicate k ' ' ++ ("import".toList ++ ' ' :: quoted q s back)⟩ =
      some { specifier := s } := by
  rw [staticImport_eq, preferred?_orElse, preferred?, sideEffect,
    bind_of_eq_singleton (importLead_append (stops_isBlank_quoted hq s back) k),
    bind_of_eq_singleton (specifier_quoted hq hs back)]
  rfl

theorem staticImport_clause (isType : Bool) (c : Clause) :
    staticImport.preferred? ⟨none, clauseLine k isType c (sourced q s back)⟩ = some (c.import s) := by
  have heffect := preferred?_eq_none (sideEffect_clauseLine k isType c (sourced q s back))
  have hother {clause : Scan Import} (hlone : ∀ b t, Lone t → clause ⟨b, t⟩ = [])
      (hclause : ∀ b, clause ⟨b, c.text (sourced q s back)⟩ = []) :
      (importStatement clause).preferred? ⟨none, clauseLine k isType c (sourced q s back)⟩ = none :=
    preferred?_eq_none (importStatement_eq_nil hq hlone hclause k isType)
  have hlone := lone_sourced hq s back
  simp only [staticImport_eq, preferred?_orElse, heffect, Option.none_or]
  cases c with
  | defaultAndNamed d items =>
    have hown := importStatement_preferred (fun b => defaultAndNamedClause_of_lone hlone)
      (defaultAndNamedClause_defaultAndNamed hq hs d items) k isType
    rw [hown, Option.some_or]
  | namespaced d =>
    have hfirst := hother (fun b t => defaultAndNamedClause_of_lone)
      fun b => defaultAndNamedClause_namespaced d _
    have hown := importStatement_preferred (fun b => namespacedClause_of_lone hlone)
      (namespacedClause_namespaced hq hs d) k isType
    rw [hfirst, hown, Option.none_or, Option.some_or]
  | defaultAndNamespaced d m =>
    have hfirst := hother (fun b t => defaultAndNamedClause_of_lone)
      fun b => defaultAndNamedClause_defaultAndNamespaced d m _
    have hown := importStatement_preferred (fun b => namespacedClause_of_lone hlone)
      (namespacedClause_defaultAndNamespaced hq hs d m) k isType
    rw [hfirst, hown, Option.none_or, Option.some_or]
  | named items =>
    have hfirst := hother (fun b t => defaultAndNamedClause_of_lone)
      fun b => defaultAndNamedClause_named items _
    have hsecond := hother (fun b t => namespacedClause_of_lone) fun b => namespacedClause_named items _
    have hown := importStatement_preferred (fun b => namedClause_of_lone hlone)
      (namedClause_named hq hs items) k isType
    rw [hfirst, hsecond, hown, Option.none_or, Option.none_or, Option.some_or]
  | defaulted d =>
    -- a default is a lone name itself
    have hown_lone : Lone ((Clause.defaulted d).text (sourced q s back)) :=
      ⟨d.text, sourced q s back, d.isName, rfl, stops_isBlank_sourced q s back, by simp [sourced]⟩
    have hfirst := hother (fun b t => defaultAndNamedClause_of_lone)
      fun b => defaultAndNamedClause_of_lone hown_lone
    have hsecond := hother (fun b t => namespacedClause_of_lone) fun b => namespacedClause_of_lone hown_lone
    have hthird := hother (fun b t => namedClause_of_lone) fun b => namedClause_of_lone hown_lone
    have hown := importStatement_preferred (fun b => defaultedClause_sourced hq s back)
      (defaultedClause_defaulted hq hs d) k isType
    rw [hfirst, hsecond, hthird, hown, Option.none_or, Option.none_or, Option.none_or, Option.some_or]

theorem staticImport_exported (e : Exported) :
    staticImport.preferred? ⟨none, replicate k ' ' ++
        ("export".toList ++ ' ' :: (e.print ++ ' ' :: sourced q s back))⟩ = some (e.import s) := by
  obtain ⟨list?, b, more, hlist, hnames⟩ := exportedPart_append s (some ' ') e (sourced q s back)
    (by simp [sourced]) (stops_isBlank_sourced q s back)
  have hmark : typeMark ⟨some ' ', e.print ++ ' ' :: sourced q s back⟩ =
      [((), ⟨some ' ', e.print ++ ' ' :: sourced q s back⟩)] := by
    apply typeMark_of_head?_ne
    cases e <;> simp [Exported.print, importList, braces]
  have hblank : Stops isBlank (e.print ++ ' ' :: sourced q s back) := by
    cases e <;> exact Stops.cons (by decide) _
  have hword : Stops isBlank ("export".toList ++ ' ' :: (e.print ++ ' ' :: sourced q s back)) :=
    Stops.word rfl (by decide) _
  rw [staticImport_of_importLead (importLead_of_head?_ne k hword (by simp)), preferred?, reExport_eq,
    bind_of_eq_singleton (gap_replicate k hword), Scan.word, bind_of_eq_singleton (literal_append _ _),
    bind_of_eq_singleton (space_space hblank), bind_of_eq_singleton hmark, bind_of_eq_cons hlist,
    bind_of_eq_singleton (gap_space (stops_isBlank_sourced q s back)),
    bind_of_eq_singleton (source_sourced hq hs back), hnames]
  cases e <;> rfl

end Static

end RepoAtlas.Code.Script
