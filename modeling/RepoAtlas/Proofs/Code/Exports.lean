import RepoAtlas.Code.Language
import RepoAtlas.Proofs.Code.Statements

/-! # Export statements of scripts -/

namespace RepoAtlas.Code.Script

open Scan Text Unicode List

variable {b : Option Char} {t : Text} {v w : String}

/-! ## Statements -/

inductive Kind
  | ofFunction
  | ofGenerator
  | ofConst
  | ofLet
  | ofVar
  | ofClass
  | ofInterface
  | ofType
  | ofEnum

/-- A declaration, with what follows its name. In `const enum` the second word is not the name. -/
structure Declaration where
  isDeclared : Bool := false
  isAbstract : Bool := false
  isAsync : Bool := false
  kind : Kind
  name : Name
  rest : Tail isNameChar
  named : kind = .ofConst → name.text ≠ "enum".toList

inductive Export
  | declaration (d : Declaration)
  | list (isType : Bool) (items : List Item) (rest : Text)
  | ofDefault (rest : Tail isWordChar)

/-! ## Printing -/

def Kind.word : Kind → String
  | ofFunction => "function"
  | ofGenerator => "function*"
  | ofConst => "const"
  | ofLet => "let"
  | ofVar => "var"
  | ofClass => "class"
  | ofInterface => "interface"
  | ofType => "type"
  | ofEnum => "enum"

def marked (isThere : Bool) (w : String) (t : Text) : Text :=
  if isThere then w.toList ++ ' ' :: t else t

def Declaration.print (d : Declaration) : Text :=
  marked d.isDeclared "declare" <| marked d.isAbstract "abstract" <| marked d.isAsync "async" <|
    d.kind.word.toList ++ ' ' :: (d.name.text ++ d.rest.text)

def Export.body : Export → Text
  | declaration d => d.print
  | list isType items rest => marked isType "type" (importList items ++ rest)
  | ofDefault rest => "default".toList ++ rest.text

def Export.print (e : Export) : Text :=
  "export".toList ++ ' ' :: e.body

/-! ## Exported names -/

def Item.exported (i : Item) : Name :=
  i.alias?.getD i.name

def Export.names : Export → List Text
  | declaration d => [d.name.text]
  | list _ items _ => items.map fun i => i.exported.text
  | ofDefault _ => ["default".toList]

/-! ## Items -/

theorem Name.space_notMem (n : Name) : ' ' ∉ n.text := by
  intro h
  have hclean := n.isBlank_of_mem ' ' h
  revert hclean
  decide

theorem Name.isTrimmed (n : Name) : IsTrimmed n.text :=
  .of_forall n.text_ne_nil n.isBlank_of_mem

theorem Item.isTrimmed_print (i : Item) (between : Text) : IsTrimmed (i.print between) := by
  rw [Item.print]
  cases i.alias? with
  | none =>
    rw [Option.elim_none, append_nil]
    exact i.name.isTrimmed
  | some m =>
    rw [Option.elim_some, ← append_assoc]
    exact i.name.isTrimmed.append between m.isTrimmed

theorem exportedName_print (i : Item) : exportedName (i.print " as ".toList) = i.exported.text := by
  obtain ⟨ws, hwords, hmark⟩ := i.words_print "as ".toList
  have hbare : bareItem (i.print " as ".toList) = i.print " as ".toList := by
    have htrim := bareItem_eq_trim hwords hmark
    rw [(i.isTrimmed_print _).trim_eq, (i.isTrimmed_print _).trim_eq] at htrim
    exact htrim
  rw [exportedName, hbare, Item.print, Item.exported]
  cases i.alias? with
  | none =>
    have hcut : cutAt? " as ".toList i.name.text = none := cutAt?_of_not_mem _ i.name.space_notMem
    rw [Option.elim_none, append_nil, hcut]
    rfl
  | some m =>
    have hcut : cutAt? " as ".toList (i.name.text ++ (" as ".toList ++ m.text)) =
        some (i.name.text, m.text) := cutAt?_append "as ".toList i.name.space_notMem
    rw [Option.elim_some, hcut]
    exact m.isTrimmed.trim_eq

theorem exportedNames_importItems (items : List Item) :
    exportedNames (itemList " as ".toList items) = items.map fun i => i.exported.text := by
  have hclean : ∀ t ∈ items.map (Item.print " as ".toList), ',' ∉ t :=
    forall_mem_map.mpr fun i _ => i.comma_notMem_print (by decide)
  calc
    exportedNames (itemList " as ".toList items)
      = ((items.map (Item.print " as ".toList)).map exportedName).filter fun name => !name.isEmpty :=
        exportedNames_join (fun _ => isBlank_of_mem_space) (fun _ => isBlank_of_mem_space) hclean
    _ = (items.map fun i => i.exported.text).filter fun name => !name.isEmpty := by
        rw [map_map]
        congr 2
        exact funext exportedName_print
    _ = items.map fun i => i.exported.text := by
        rw [filter_eq_self]
        intro name hname
        obtain ⟨i, -, rfl⟩ := mem_map.mp hname
        simp [i.exported.text_ne_nil]

/-! ## Words in front -/

theorem not_prefix_marked (hv : ' ' ∉ v.toList) (hvw : ¬v.toList <+: w.toList) (ht : ¬v.toList <+: t)
    (isThere : Bool) : ¬v.toList <+: marked isThere w t := by
  cases isThere with
  | false => exact ht
  | true => exact fun h => hvw (prefix_of_prefix_append_cons hv h)

theorem stops_isBlank_marked {d : Char} (hw : w.toList.head? = some d) (hd : isBlank d = false)
    (ht : Stops isBlank t) (isThere : Bool) : Stops isBlank (marked isThere w t) := by
  cases isThere with
  | false => exact ht
  | true => exact Stops.word hw hd _

theorem modifier_absent (h : ¬w.toList <+: t) : modifier w ⟨b, t⟩ = [((), ⟨b, t⟩)] :=
  bind_of_eq_singleton (optional_of_eq_nil (spacedWord_eq_nil h)) _

theorem prefers_modifier (ht : Stops isBlank t) (h : ¬w.toList <+: t) (isThere : Bool) :
    Prefers (modifier w) ⟨some ' ', marked isThere w t⟩ () ⟨some ' ', t⟩ := by
  cases isThere with
  | false => exact .of_eq_singleton (modifier_absent h)
  | true =>
    have hword : Prefers (spacedWord w) ⟨some ' ', w.toList ++ ' ' :: t⟩ () ⟨some ' ', t⟩ :=
      .of_eq_singleton (spacedWord_append ht)
    exact hword.optional.bind (.pure () _)

theorem exportLead_append (ht : Stops isBlank t) :
    exportLead ⟨none, "export".toList ++ ' ' :: t⟩ = [((), ⟨some ' ', t⟩)] := by
  rw [exportLead, bind_of_eq_singleton (gap_of_stops (Stops.word rfl (by decide) _)), Scan.word,
    bind_of_eq_singleton (literal_append _ _), space_space ht]

/-! ## Kinds -/

def plainKinds : List String :=
  ["const", "let", "var", "class", "interface", "type", "enum"]

def kindWord : Scan Unit :=
  (do word "function"; gap; let _ ← optional (mark '*'); gap) <|> (do oneOf plainKinds; space)

theorem exportDeclaration_eq :
    exportDeclaration = (do
      exportLead
      modifier "declare"
      modifier "abstract"
      modifier "async"
      kindWord
      let name ← identifier
      return [name]) := rfl

theorem oneOf_plainKinds (hw : w ∈ plainKinds) (t : Text) :
    oneOf plainKinds ⟨b, w.toList ++ ' ' :: t⟩ = [((), ⟨w.toList.getLast?.or b, ' ' :: t⟩)] :=
  oneOf_append hw (by decide) (by decide) t

theorem kindWord_plain (hw : w ∈ plainKinds) (ht : Stops isBlank t) :
    kindWord ⟨b, w.toList ++ ' ' :: t⟩ = [((), ⟨some ' ', t⟩)] := by
  have hfunction : ¬"function".toList <+: w.toList ++ ' ' :: t := by
    intro h
    have hno : ∀ w ∈ plainKinds, ¬"function".toList <+: w.toList := by decide
    exact hno w hw (prefix_of_prefix_append_cons (by decide) h)
  rw [kindWord, orElse_apply, bind_of_eq_nil (word_eq_nil hfunction), nil_append,
    bind_of_eq_singleton (oneOf_plainKinds hw t), space_space ht]

theorem prefers_kindWord (k : Kind) (ht : Stops isBlank t) (hstar : t.head? ≠ some '*') :
    Prefers kindWord ⟨b, k.word.toList ++ ' ' :: t⟩ () ⟨some ' ', t⟩ := by
  cases k with
  | ofFunction =>
    have hread : (do word "function"; gap; let _ ← optional (mark '*'); gap : Scan Unit)
        ⟨b, "function".toList ++ ' ' :: t⟩ = [((), ⟨some ' ', t⟩)] := by
      rw [word, bind_of_eq_singleton (literal_append _ _), bind_of_eq_singleton (gap_space ht),
        bind_of_eq_singleton (optional_of_eq_nil (mark_of_head?_ne hstar)), gap_of_stops ht]
    exact Prefers.orElse_left (.of_eq_singleton hread) _
  | ofGenerator =>
    have hword : word "function" ⟨b, "function".toList ++ '*' :: ' ' :: t⟩ =
        [((), ⟨some 'n', '*' :: ' ' :: t⟩)] := literal_append _ _
    have hgap : gap ⟨some 'n', '*' :: ' ' :: t⟩ = [((), ⟨some 'n', '*' :: ' ' :: t⟩)] :=
      gap_of_stops (Stops.cons (by decide) _)
    have hmark : Prefers (mark '*') ⟨some 'n', '*' :: ' ' :: t⟩ () ⟨some '*', ' ' :: t⟩ :=
      .of_eq_singleton (mark_cons '*' _)
    have hread : Prefers (do word "function"; gap; let _ ← optional (mark '*'); gap)
        ⟨b, "function".toList ++ '*' :: ' ' :: t⟩ () ⟨some ' ', t⟩ := by
      refine .bind (.of_eq_singleton hword) ?_
      refine .bind (.of_eq_singleton hgap) ?_
      exact hmark.optional.bind (.of_eq_singleton (gap_space ht))
    exact hread.orElse_left _
  | ofConst | ofLet | ofVar | ofClass | ofInterface | ofType | ofEnum =>
    exact .of_eq_singleton (kindWord_plain (by decide) ht)

/-! ## Declarations -/

def frontWords : List String :=
  ["default", "declare", "abstract", "async"]

theorem space_notMem_frontWord (hv : v ∈ frontWords) : ' ' ∉ v.toList := by
  revert v
  decide

theorem Kind.not_prefix_word (k : Kind) : ∀ v ∈ frontWords, ¬v.toList <+: k.word.toList := by
  cases k <;> decide

theorem Kind.not_prefix_text (k : Kind) (hv : v ∈ frontWords) (t : Text) :
    ¬v.toList <+: k.word.toList ++ ' ' :: t :=
  fun h => k.not_prefix_word v hv (prefix_of_prefix_append_cons (space_notMem_frontWord hv) h)

theorem Kind.stops_isBlank (k : Kind) (t : Text) : Stops isBlank (k.word.toList ++ t) := by
  cases k <;> exact Stops.word rfl (by decide) t

theorem Declaration.stops_isBlank_print (d : Declaration) : Stops isBlank d.print :=
  stops_isBlank_marked rfl (by decide) (stops_isBlank_marked rfl (by decide)
    (stops_isBlank_marked rfl (by decide) (d.kind.stops_isBlank _) _) _) _

theorem Declaration.default_not_prefix_print (d : Declaration) : ¬"default".toList <+: d.print :=
  not_prefix_marked (by decide) (by decide) (not_prefix_marked (by decide) (by decide)
    (not_prefix_marked (by decide) (by decide) (d.kind.not_prefix_text (by decide) _) _) _) _

theorem prefers_exportDeclaration (d : Declaration) :
    Prefers exportDeclaration ⟨none, "export".toList ++ ' ' :: d.print⟩ [d.name.text]
      ⟨d.name.text.getLast?, d.rest.text⟩ := by
  have hname : Stops isBlank (d.name.text ++ d.rest.text) := stops_isBlank_name d.name.isName _
  have hkind := d.kind.stops_isBlank (' ' :: (d.name.text ++ d.rest.text))
  have hasync := stops_isBlank_marked (w := "async") rfl (by decide) hkind d.isAsync
  have habstract := stops_isBlank_marked (w := "abstract") rfl (by decide) hasync d.isAbstract
  have hnot {v : String} (hv : v ∈ frontWords) := d.kind.not_prefix_text hv (d.name.text ++ d.rest.text)
  rw [exportDeclaration_eq]
  refine .bind (.of_eq_singleton (exportLead_append d.stops_isBlank_print)) ?_
  refine .bind (prefers_modifier habstract (not_prefix_marked (by decide) (by decide)
    (not_prefix_marked (by decide) (by decide) (hnot (by decide)) _) _) d.isDeclared) ?_
  refine .bind (prefers_modifier hasync (not_prefix_marked (by decide) (by decide)
    (hnot (by decide)) _) d.isAbstract) ?_
  refine .bind (prefers_modifier hkind (hnot (by decide)) d.isAsync) ?_
  refine .bind (prefers_kindWord d.kind hname (head?_name_ne d.name.isName (by decide) _)) ?_
  exact .bind (.of_eq_singleton (identifier_append d.name.isName d.rest.stops)) (.pure _ _)

/-! ## Lists -/

theorem frontWord_not_prefix_list (hv : v ∈ frontWords) (isType : Bool) (t : Text) :
    ¬v.toList <+: marked isType "type" ('\x7b' :: t) := by
  have hwords : ∀ v ∈ frontWords,
      ¬v.toList <+: "type".toList ∧ v.toList.head?.any (· != '\x7b') = true := by
    decide
  obtain ⟨htype, hbrace⟩ := hwords v hv
  exact not_prefix_marked (space_notMem_frontWord hv) htype (not_prefix_cons hbrace t) isType

theorem stops_isBlank_list (isType : Bool) (t : Text) :
    Stops isBlank (marked isType "type" ('\x7b' :: t)) :=
  stops_isBlank_marked rfl (by decide) (Stops.cons (by decide) t) isType

theorem importList_append (items : List Item) (t : Text) :
    importList items ++ t = '\x7b' :: (itemList " as ".toList items ++ '\x7d' :: t) := by
  simp [importList, braces]

/-- A list is no declaration, although the mark of a type begins one. -/
theorem exportDeclaration_list (isType : Bool) (t : Text) :
    exportDeclaration ⟨none, "export".toList ++ ' ' :: marked isType "type" ('\x7b' :: t)⟩ = [] := by
  have hkind : (do kindWord; let name ← identifier; return [name] : Scan (List Text))
      ⟨some ' ', marked isType "type" ('\x7b' :: t)⟩ = [] := by
    cases isType with
    | false =>
      have hno : ∀ w ∈ plainKinds, w.toList.head?.any (· != '\x7b') = true := by decide
      have hplain : oneOf plainKinds ⟨some ' ', '\x7b' :: t⟩ = [] :=
        oneOf_eq_nil fun w hw => not_prefix_cons (hno w hw) t
      have hnone : kindWord ⟨some ' ', '\x7b' :: t⟩ = [] := by
        rw [kindWord, orElse_apply, bind_of_eq_nil (word_eq_nil (not_prefix_cons (by decide) t)),
          bind_of_eq_nil hplain, nil_append]
      exact bind_of_eq_nil hnone _
    | true =>
      have hread : kindWord ⟨some ' ', "type".toList ++ ' ' :: '\x7b' :: t⟩ =
          [((), ⟨some ' ', '\x7b' :: t⟩)] :=
        kindWord_plain (by decide) (Stops.cons (by decide) t)
      exact (bind_of_eq_singleton hread _).trans
        (bind_of_eq_nil (identifier_of_stops (Stops.cons (by decide) t)) _)
  have hmodifier {v : String} (hv : v ∈ frontWords) :=
    modifier_absent (b := some ' ') (frontWord_not_prefix_list hv isType t)
  rw [exportDeclaration_eq, bind_of_eq_singleton (exportLead_append (stops_isBlank_list isType t)),
    bind_of_eq_singleton (hmodifier (by decide)), bind_of_eq_singleton (hmodifier (by decide)),
    bind_of_eq_singleton (hmodifier (by decide))]
  exact hkind

theorem prefers_exportList (isType : Bool) {list : Text} (hlist : '\x7d' ∉ list) (t : Text) :
    Prefers exportList
      ⟨none, "export".toList ++ ' ' :: marked isType "type" ('\x7b' :: (list ++ '\x7d' :: t))⟩
      (exportedNames list) ⟨some '\x7d', t⟩ := by
  have hbrace : Stops isBlank ('\x7b' :: (list ++ '\x7d' :: t)) := Stops.cons (by decide) _
  have hmark : ¬"type".toList <+: '\x7b' :: (list ++ '\x7d' :: t) := not_prefix_cons (by decide) _
  refine .bind (.of_eq_singleton (exportLead_append (stops_isBlank_list isType _))) ?_
  -- the mark of a type is read as a modifier is
  refine .bind (prefers_modifier hbrace hmark isType) ?_
  exact .bind (.of_eq_singleton (braced_append hlist t)) (.pure _ _)

/-! ## The default -/

theorem exportDefault_absent (ht : Stops isBlank t) (h : ¬"default".toList <+: t) :
    exportDefault ⟨none, "export".toList ++ ' ' :: t⟩ = [] := by
  rw [exportDefault, bind_of_eq_singleton (exportLead_append ht), bind_of_eq_nil (word_eq_nil h)]

theorem prefers_exportDefault (ht : Stops isWordChar t) :
    Prefers exportDefault ⟨none, "export".toList ++ ' ' :: ("default".toList ++ t)⟩ ["default".toList]
      ⟨some 't', t⟩ := by
  have hword : word "default" ⟨some ' ', "default".toList ++ t⟩ = [((), ⟨some 't', t⟩)] :=
    literal_append _ t
  have hedge : edge ⟨some 't', t⟩ = [((), ⟨some 't', t⟩)] := by
    have hbefore : isWordChar 't' = true := by decide
    have hafter : t.head?.any isWordChar = false := by
      cases t with
      | nil => rfl
      | cons c t => simpa using ht.head
    simp [edge, hbefore, hafter]
  refine .bind (.of_eq_singleton (exportLead_append (Stops.word rfl (by decide) t))) ?_
  exact .bind (.of_eq_singleton hword) (.bind (.of_eq_singleton hedge) (.pure _ _))

/-! ## Lines -/

/-- A printed line is read as the statement that it is, and as none of those that are tried before. -/
theorem exists_prefers_print (e : Export) :
    ∃ c, Prefers (exportDefault <|> exportDeclaration <|> exportList) ⟨none, e.print⟩ e.names c := by
  cases e with
  | declaration d =>
    have hdefault := exportDefault_absent d.stops_isBlank_print d.default_not_prefix_print
    exact ⟨_, .orElse_right hdefault ((prefers_exportDeclaration d).orElse_left _)⟩
  | list isType items rest =>
    have hprint : (Export.list isType items rest).print = "export".toList ++ ' ' ::
        marked isType "type" ('\x7b' :: (itemList " as ".toList items ++ '\x7d' :: rest)) := by
      rw [← importList_append]
      rfl
    have hbrace : '\x7d' ∉ itemList " as ".toList items := brace_notMem_itemList (by decide) items
    have hdefault := exportDefault_absent (stops_isBlank_list isType _)
      (frontWord_not_prefix_list (by decide) isType (itemList " as ".toList items ++ '\x7d' :: rest))
    have hlist := prefers_exportList isType hbrace rest
    rw [exportedNames_importItems] at hlist
    rw [hprint]
    exact ⟨_, .orElse_right hdefault (.orElse_right (exportDeclaration_list isType _) hlist)⟩
  | ofDefault rest => exact ⟨_, (prefers_exportDefault rest.stops).orElse_left _⟩

/-- A printed line exports what its statement does. -/
theorem exportsOfLine_print (e : Export) : exportsOfLine e.print = e.names := by
  obtain ⟨c, hread⟩ := exists_prefers_print e
  rw [exportsOfLine, first?_eq, hread.preferred?_eq, Option.getD_some]

theorem Export.isComment_print (e : Export) : Language.script.isComment e.print = false := rfl

end RepoAtlas.Code.Script
