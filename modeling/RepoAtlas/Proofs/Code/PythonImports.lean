import RepoAtlas.Proofs.Code.LineByLine
import RepoAtlas.Proofs.Code.NameLists
import RepoAtlas.Proofs.Code.PythonParts

/-! # Import statements of Python -/

namespace RepoAtlas.Code.Python

open Scan Text Unicode List

variable {b : Option Char} {t : Text}

/-! ## Statements -/

structure Module where
  text : Text
  ne_nil : text ≠ []
  clean : text.all (fun c => isWordChar c || c == '.') = true

structure ImportedModule where
  module : Module
  alias? : Option Name := none

/-- An imported name, perhaps under another one. Before another name, `type` would be the mark of a type. -/
structure Item where
  name : Name
  alias? : Option Name := none
  unmarked : alias?.isSome → name.text ≠ "type".toList

inductive Form
  | modules (first : ImportedModule) (others : List ImportedModule)
  | names (source : Module) (first : Item) (others : List Item) (isEnclosed : Bool)
  | all (source : Module)

structure Blanks where
  text : Text
  isBlank : ∀ c ∈ text, Unicode.isBlank c = true

structure Statement where
  indent : Blanks
  form : Form
  trail : Blanks
  comment? : Option Text

/-! ## Printing -/

def aliased (n : Text) (alias? : Option Name) : Text :=
  n ++ alias?.elim [] fun m => " as ".toList ++ m.text

def ImportedModule.print (m : ImportedModule) : Text :=
  aliased m.module.text m.alias?

def Item.print (i : Item) : Text :=
  aliased i.name.text i.alias?

def itemList (items : List Item) : Text :=
  join ", ".toList (items.map Item.print)

def moduleList (ms : List ImportedModule) : Text :=
  join ", ".toList (ms.map ImportedModule.print)

def enclosed (isEnclosed : Bool) (list : Text) : Text :=
  if isEnclosed then '(' :: (list ++ [')']) else list

def Form.list : Form → Text
  | modules first others => moduleList (first :: others)
  | names _ first others isEnclosed => enclosed isEnclosed (itemList (first :: others))
  | all _ => ['*']

def Form.lead (t : Text) : Form → Text
  | modules _ _ => "import".toList ++ ' ' :: t
  | names source _ _ _ | all source =>
    "from".toList ++ ' ' :: (source.text ++ ' ' :: ("import".toList ++ ' ' :: t))

namespace Statement

def code (st : Statement) : Text :=
  st.indent.text ++ st.form.lead (st.form.list ++ st.trail.text)

def print (st : Statement) : Text :=
  st.code ++ st.comment?.elim [] fun comment => '#' :: comment

end Statement

/-! ## Imports -/

def namesImport (source : Module) (names : List Text) : Import :=
  { specifier := source.text, names }

def Form.imports : Form → List Import
  | modules first others => (first :: others).map fun m => { specifier := m.module.text }
  | names source first others _ => [namesImport source ((first :: others).map fun i => i.name.text)]
  | all source => [namesImport source []]

/-- The imports of statements whose lines are numbered from one on. -/
def numberedImports (sts : List Statement) : List Import :=
  (sts.zipIdx 1).flatMap fun (st, n) => st.form.imports.map fun i => { i with line := n }

/-! ## Characters of printed parts -/

theorem Module.isBlank_of_mem (m : Module) : ∀ c ∈ m.text, isBlank c = false := by
  intro c hc
  have hclean := all_eq_true.mp m.clean c hc
  rcases Bool.or_eq_true_iff.mp hclean with hword | hdot
  · exact Script.isBlank_of_isNameChar (by rw [Script.isNameChar, hword, Bool.true_or])
  · rw [beq_iff_eq.mp hdot]
    decide

theorem isTrimmed_aliased {n : Text} (hn : IsTrimmed n) (alias? : Option Name) :
    IsTrimmed (aliased n alias?) := by
  cases alias? with
  | none => simpa [aliased] using hn
  | some m =>
    have hm : IsTrimmed m.text := .of_forall m.text_ne_nil m.isBlank_of_mem
    simpa [aliased] using hn.append " as ".toList hm

theorem words_aliased {n : Text} (hne : n ≠ []) (hn : ∀ c ∈ n, isBlank c = false) (alias? : Option Name) :
    ∃ ws, words (aliased n alias?) = n :: ws ∧ (ws ≠ [] → alias?.isSome) := by
  have hname : words n = [n] := pieces_of_forall hn hne
  cases alias? with
  | none => exact ⟨[], by simpa [aliased] using hname, fun h => absurd rfl h⟩
  | some m =>
    refine ⟨words ("as ".toList ++ m.text), ?_, fun _ => rfl⟩
    have hprint : aliased n (some m) = n ++ ' ' :: ("as ".toList ++ m.text) := rfl
    rw [hprint, words_append (by decide), hname]
    rfl

/-! ## Characters -/

def isItemChar (c : Char) : Bool :=
  Script.isNameChar c || c == '.' || c == ' '

def isListChar (c : Char) : Bool :=
  isItemChar c || c == ','

def isPlain (c : Char) : Bool :=
  isListChar c || isBlank c || "()*".toList.contains c

theorem isItemChar_of_isNameChar {c : Char} (h : Script.isNameChar c = true) : isItemChar c = true := by
  rw [isItemChar, h, Bool.true_or, Bool.true_or]

theorem isListChar_of_isItemChar {c : Char} (h : isItemChar c = true) : isListChar c = true := by
  rw [isListChar, h, Bool.true_or]

theorem isPlain_of_isListChar {c : Char} (h : isListChar c = true) : isPlain c = true := by
  rw [isPlain, h, Bool.true_or, Bool.true_or]

theorem isPlain_of_isBlank {c : Char} (h : isBlank c = true) : isPlain c = true := by
  rw [isPlain, h, Bool.or_true, Bool.true_or]

theorem isItemChar_aliased {n : Text} (hn : ∀ c ∈ n, isItemChar c = true) (alias? : Option Name) :
    ∀ c ∈ aliased n alias?, isItemChar c = true := by
  rw [aliased, forall_mem_append]
  refine ⟨hn, ?_⟩
  cases alias? with
  | none => exact forall_mem_nil _
  | some m =>
    rw [Option.elim_some, forall_mem_append]
    exact ⟨all_eq_true.mp (by decide), fun c hc => isItemChar_of_isNameChar (m.isNameChar_of_mem c hc)⟩

theorem Module.isItemChar_of_mem (m : Module) : ∀ c ∈ m.text, isItemChar c = true := by
  intro c hc
  rcases Bool.or_eq_true_iff.mp (all_eq_true.mp m.clean c hc) with hword | hdot
  · exact isItemChar_of_isNameChar (by rw [Script.isNameChar, hword, Bool.true_or])
  · rw [isItemChar, hdot, Bool.or_true, Bool.true_or]

theorem Item.isItemChar_print (i : Item) : ∀ c ∈ i.print, isItemChar c = true :=
  isItemChar_aliased (fun c hc => isItemChar_of_isNameChar (i.name.isNameChar_of_mem c hc)) i.alias?

theorem ImportedModule.isItemChar_print (m : ImportedModule) : ∀ c ∈ m.print, isItemChar c = true :=
  isItemChar_aliased m.module.isItemChar_of_mem m.alias?

/-! ## Lists -/

section Lists

variable {texts : List Text} (h : ∀ t ∈ texts, ∀ c ∈ t, isItemChar c = true)
include h

theorem comma_notMem : ∀ t ∈ texts, ',' ∉ t :=
  fun t ht hc => ne_of_kind (h t ht ',' hc) (by decide) rfl

theorem isListChar_join : ∀ c ∈ join ", ".toList texts, isListChar c = true := by
  apply forall_mem_join
  · exact all_eq_true.mp (by decide)
  · exact fun t ht c hc => isListChar_of_isItemChar (h t ht c hc)

end Lists

theorem Item.isTrimmed_print (i : Item) : IsTrimmed i.print :=
  isTrimmed_aliased (.of_forall i.name.text_ne_nil i.name.isBlank_of_mem) i.alias?

theorem ImportedModule.isTrimmed_print (m : ImportedModule) : IsTrimmed m.print :=
  isTrimmed_aliased (.of_forall m.module.ne_nil m.module.isBlank_of_mem) m.alias?

theorem isTrimmed_itemList {items : List Item} (hne : items ≠ []) : IsTrimmed (itemList items) :=
  .join (by simpa using hne) (forall_mem_map.mpr fun i _ => i.isTrimmed_print)

theorem isTrimmed_moduleList {ms : List ImportedModule} (hne : ms ≠ []) : IsTrimmed (moduleList ms) :=
  .join (by simpa using hne) (forall_mem_map.mpr fun m _ => m.isTrimmed_print)

theorem isListChar_itemList (items : List Item) : ∀ c ∈ itemList items, isListChar c = true :=
  isListChar_join (forall_mem_map.mpr fun i _ => i.isItemChar_print)

theorem isListChar_moduleList (ms : List ImportedModule) : ∀ c ∈ moduleList ms, isListChar c = true :=
  isListChar_join (forall_mem_map.mpr fun m _ => m.isItemChar_print)

theorem isTrimmed_enclosed (ht : IsTrimmed t) (isEnclosed : Bool) : IsTrimmed (enclosed isEnclosed t) := by
  cases isEnclosed with
  | false => exact ht
  | true =>
    have hopen : IsTrimmed ['('] := .of_forall (by simp) (forall_mem_singleton.mpr (by decide))
    have hclose : IsTrimmed [')'] := .of_forall (by simp) (forall_mem_singleton.mpr (by decide))
    exact hopen.append t hclose

theorem isPlain_enclosed (ht : ∀ c ∈ t, isPlain c = true) (isEnclosed : Bool) :
    ∀ c ∈ enclosed isEnclosed t, isPlain c = true := by
  cases isEnclosed with
  | false => exact ht
  | true =>
    rw [enclosed, if_pos rfl, forall_mem_cons, forall_mem_append]
    exact ⟨by decide, ht, forall_mem_singleton.mpr (by decide)⟩

namespace Form

theorem isTrimmed_list (f : Form) : IsTrimmed f.list := by
  cases f with
  | modules first others => exact isTrimmed_moduleList (cons_ne_nil _ _)
  | names source first others isEnclosed =>
    exact isTrimmed_enclosed (isTrimmed_itemList (cons_ne_nil _ _)) isEnclosed
  | all source => exact .of_forall (cons_ne_nil _ _) (forall_mem_singleton.mpr (by decide))

theorem isPlain_list (f : Form) : ∀ c ∈ f.list, isPlain c = true := by
  cases f with
  | modules first others => exact fun c hc => isPlain_of_isListChar (isListChar_moduleList _ c hc)
  | names source first others isEnclosed =>
    exact isPlain_enclosed (fun c hc => isPlain_of_isListChar (isListChar_itemList _ c hc)) isEnclosed
  | all source => exact forall_mem_singleton.mpr (by decide)

theorem isPlain_lead (f : Form) (ht : ∀ c ∈ t, isPlain c = true) : ∀ c ∈ f.lead t, isPlain c = true := by
  have himport : ∀ c ∈ "import".toList ++ ' ' :: t, isPlain c = true :=
    forall_mem_append.mpr ⟨all_eq_true.mp (by decide), forall_mem_cons.mpr ⟨by decide, ht⟩⟩
  have hfrom (m : Module) :
      ∀ c ∈ "from".toList ++ ' ' :: (m.text ++ ' ' :: ("import".toList ++ ' ' :: t)), isPlain c = true := by
    rw [forall_mem_append, forall_mem_cons, forall_mem_append, forall_mem_cons]
    have hmodule : ∀ c ∈ m.text, isPlain c = true :=
      fun c hc => isPlain_of_isListChar (isListChar_of_isItemChar (m.isItemChar_of_mem c hc))
    exact ⟨all_eq_true.mp (by decide), by decide, hmodule, by decide, himport⟩
  cases f with
  | modules first others => exact himport
  | names source first others isEnclosed => exact hfrom source
  | all source => exact hfrom source

end Form

/-! ## Comments -/

namespace Statement

variable (st : Statement)

theorem isPlain_code : ∀ c ∈ st.code, isPlain c = true := by
  have hblank (blanks : Blanks) : ∀ c ∈ blanks.text, isPlain c = true :=
    fun c hc => isPlain_of_isBlank (blanks.isBlank c hc)
  rw [code, forall_mem_append]
  exact ⟨hblank st.indent,
    st.form.isPlain_lead (forall_mem_append.mpr ⟨st.form.isPlain_list, hblank st.trail⟩)⟩

theorem takeWhile_print : st.print.takeWhile (· != '#') = st.code := by
  have hcode : ∀ c ∈ st.code, (c != '#') = true := by
    intro c hc
    rw [bne_iff_ne]
    exact ne_of_kind (st.isPlain_code c hc) (by decide)
  rw [print, takeWhile_append_of_pos hcode]
  cases st.comment? with
  | none => simp
  | some comment => simp

end Statement

/-! ## Reading lists -/

/-- Parentheses around a list without any are taken off, and so are the blanks behind them. -/
theorem withoutParentheses_enclosed (ht : IsTrimmed t) (hparens : ∀ c ∈ t, c ≠ '(' ∧ c ≠ ')')
    (isEnclosed : Bool) (trail : Blanks) :
    withoutParentheses (enclosed isEnclosed t ++ trail.text) = t := by
  have htrim : trim (enclosed isEnclosed t ++ trail.text) = enclosed isEnclosed t :=
    (trim_between (forall_mem_nil _) trail.isBlank _).trans
      (isTrimmed_enclosed ht isEnclosed).trim_eq
  have hopen (u : Text) : (t ++ u).dropWhile (· == '(') = t ++ u := by
    apply Stops.dropWhile_eq
    intro c hc
    rw [head?_append_of_ne_nil _ ht.ne_nil] at hc
    simp [(hparens c (mem_of_head? hc)).1]
  have hclose : t.reverse.dropWhile (· == ')') = t.reverse := by
    apply Stops.dropWhile_eq
    intro c hc
    rw [head?_reverse] at hc
    simp [(hparens c (mem_of_getLast? hc)).2]
  rw [withoutParentheses, htrim]
  cases isEnclosed with
  | false =>
    have hplain := hopen []
    rw [append_nil] at hplain
    rw [enclosed, if_neg Bool.false_ne_true, hplain, hclose, reverse_reverse]
  | true =>
    rw [enclosed, if_pos rfl, dropWhile_cons_of_pos (by decide), hopen, reverse_append, reverse_singleton,
      singleton_append, dropWhile_cons_of_pos (by decide), hclose, reverse_reverse]

theorem listedNames_itemList {items : List Item} (hne : items ≠ []) (isEnclosed : Bool) (trail : Blanks) :
    listedNames (enclosed isEnclosed (itemList items) ++ trail.text) = items.map fun i => i.name.text := by
  have htrimmed := isTrimmed_itemList hne
  have hkind := isListChar_itemList items
  have hparens : ∀ c ∈ itemList items, c ≠ '(' ∧ c ≠ ')' :=
    fun c hc => ⟨ne_of_kind (hkind c hc) (by decide), ne_of_kind (hkind c hc) (by decide)⟩
  have hstar : itemList items ≠ ['*'] := by
    intro h
    have hno := hkind '*' (h ▸ mem_singleton_self _)
    revert hno
    decide
  have hcomma : ∀ t ∈ items.map Item.print, ',' ∉ t :=
    comma_notMem (forall_mem_map.mpr fun i _ => i.isItemChar_print)
  have hitem (i : Item) : importedName? i.print = some i.name.text := by
    obtain ⟨ws, hwords, halias⟩ := words_aliased i.name.text_ne_nil i.name.isBlank_of_mem i.alias?
    exact importedName?_eq hwords fun h => i.unmarked (halias h)
  have hjoin := importedNames_join (forall_mem_nil _) (forall_mem_nil _) hcomma
  rw [nil_append, append_nil] at hjoin
  calc
    listedNames (enclosed isEnclosed (itemList items) ++ trail.text)
      = importedNames (itemList items) := by
        rw [listedNames, withoutParentheses_enclosed htrimmed hparens]
        simp only [htrimmed.trim_eq, if_neg hstar]
    _ = (items.map Item.print).filterMap importedName? := hjoin
    _ = items.filterMap fun i => some i.name.text := by
        rw [filterMap_map]
        exact filterMap_congr fun i _ => hitem i
    _ = items.map fun i => i.name.text := congrFun filterMap_eq_map items

theorem listedNames_star (trail : Blanks) : listedNames ('*' :: trail.text) = [] := by
  have hstar : IsTrimmed ['*'] := .of_forall (by simp) (forall_mem_singleton.mpr (by decide))
  have hlist : withoutParentheses ('*' :: trail.text) = ['*'] :=
    withoutParentheses_enclosed hstar (forall_mem_singleton.mpr (by decide)) false trail
  rw [listedNames, hlist]
  rfl

def moduleOf? (item : Text) : Option Import :=
  (words item).head?.map fun module => { specifier := module }

theorem modulesOf_moduleList (ms : List ImportedModule) (trail : Blanks) :
    (Text.splitOn ',' (moduleList ms ++ trail.text)).filterMap moduleOf? =
      ms.map fun m => { specifier := m.module.text } := by
  have hcomma : ∀ t ∈ ms.map ImportedModule.print, ',' ∉ t :=
    comma_notMem (forall_mem_map.mpr fun m _ => m.isItemChar_print)
  have hitem (m : ImportedModule) : moduleOf? m.print = some { specifier := m.module.text } := by
    obtain ⟨ws, hwords, -⟩ := words_aliased m.module.ne_nil m.module.isBlank_of_mem m.alias?
    rw [moduleOf?, ImportedModule.print, hwords]
    rfl
  have htrim (s t : Text) (h : trim s = trim t) : moduleOf? s = moduleOf? t := by
    rw [moduleOf?, ← words_trim, h, words_trim, ← moduleOf?]
  have hjoin := filterMap_splitOn_join htrim rfl (forall_mem_nil _) trail.isBlank hcomma
  rw [nil_append] at hjoin
  rw [moduleList, hjoin, filterMap_map]
  exact (filterMap_congr fun m _ => hitem m).trans (congrFun filterMap_eq_map _)

/-! ## Reading lines -/

section Lines

variable (hblank : Stops isBlank t) (hne : t ≠ []) (hfeed : '\n' ∉ t)
include hblank hne hfeed

theorem spaceAndRest_space : ∃ c, spaceAndRest ⟨b, ' ' :: t⟩ = [(t, c)] := by
  have hspace : run1 isBlank ⟨b, ' ' :: t⟩ = [([' '], ⟨some ' ', t⟩)] :=
    run1_append (forall_mem_singleton.mpr (show isBlank ' ' = true by decide)) (by simp) hblank
  have hrest : run (· != '\n') ⟨some ' ', t ++ []⟩ = [(t, ⟨t.getLast?.or (some ' '), []⟩)] := by
    apply run_append _ Stops.nil
    intro c hc
    rw [bne_iff_ne]
    intro h
    exact hfeed (h ▸ hc)
  rw [append_nil] at hrest
  refine ⟨⟨t.getLast?.or (some ' '), []⟩, ?_⟩
  rw [spaceAndRest, bind_of_eq_singleton hspace, bind_of_eq_singleton hrest]
  cases t with
  | nil => exact absurd rfl hne
  | cons c t => rfl

theorem moduleImport_append (indent : Blanks) :
    ∃ c, moduleImport ⟨none, indent.text ++ ("import".toList ++ ' ' :: t)⟩ =
      [((Text.splitOn ',' t).filterMap moduleOf?, c)] := by
  obtain ⟨c, hlist⟩ := spaceAndRest_space (b := some 't') hblank hne hfeed
  have hword : word "import" ⟨indent.text.getLast?.or none, "import".toList ++ ' ' :: t⟩ =
      [((), ⟨some 't', ' ' :: t⟩)] := literal_append _ _
  refine ⟨c, ?_⟩
  rw [moduleImport, gap_eq,
    bind_of_eq_singleton (Script.gap_append _ indent.isBlank (Stops.word rfl (by decide) _)),
    bind_of_eq_singleton hword, bind_of_eq_singleton hlist]
  rfl

theorem fromImport_append (indent : Blanks) (m : Module) :
    ∃ c, fromImport
        ⟨none, indent.text ++ ("from".toList ++ ' ' :: (m.text ++ ' ' :: ("import".toList ++ ' ' :: t)))⟩ =
      [([namesImport m (listedNames t)], c)] := by
  obtain ⟨c, hlist⟩ := spaceAndRest_space (b := some 't') hblank hne hfeed
  have hsource : run1 (fun c => !isBlank c) ⟨some ' ', m.text ++ ' ' :: ("import".toList ++ ' ' :: t)⟩ =
      [(m.text, ⟨m.text.getLast?.or (some ' '), ' ' :: ("import".toList ++ ' ' :: t)⟩)] := by
    apply run1_append _ m.ne_nil (Stops.cons (by decide) _)
    intro d hd
    rw [m.isBlank_of_mem d hd, Bool.not_false]
  have hmodule : Stops isBlank (m.text ++ ' ' :: ("import".toList ++ ' ' :: t)) := by
    intro d hd
    rw [head?_append_of_ne_nil _ m.ne_nil] at hd
    exact m.isBlank_of_mem d (mem_of_head? hd)
  have hword : word "import" ⟨some ' ', "import".toList ++ ' ' :: t⟩ = [((), ⟨some 't', ' ' :: t⟩)] :=
    literal_append _ _
  refine ⟨c, ?_⟩
  rw [fromImport, gap_eq, space_eq,
    bind_of_eq_singleton (Script.gap_append _ indent.isBlank (Stops.word rfl (by decide) _)), word,
    bind_of_eq_singleton (literal_append _ _), bind_of_eq_singleton (Script.space_space hmodule),
    bind_of_eq_singleton hsource, bind_of_eq_singleton (Script.space_space (Stops.word rfl (by decide) _)),
    bind_of_eq_singleton hword, bind_of_eq_singleton hlist]
  rfl

end Lines

theorem fromImport_import (indent : Blanks) (t : Text) :
    fromImport ⟨none, indent.text ++ ("import".toList ++ t)⟩ = [] := by
  rw [fromImport, gap_eq,
    bind_of_eq_singleton (Script.gap_append _ indent.isBlank (Stops.word rfl (by decide) _)),
    bind_of_eq_nil (word_of_head?_ne (d := 'f') rfl (by simp))]

theorem Form.suffix_lead (f : Form) (t : Text) : t <:+ f.lead t := by
  have hspace (w t : Text) : t <:+ w ++ ' ' :: t := (suffix_cons ' ' t).trans (suffix_append w _)
  have himport := hspace "import".toList t
  cases f with
  | modules first others => exact himport
  | names source _ _ _ | all source =>
    exact himport.trans ((hspace source.text _).trans (hspace "from".toList _))

namespace Statement

variable (st : Statement)

/-- A statement is read as what it is. An import of modules does not begin as one of names does. -/
theorem exists_prefers_code (hfeed : '\n' ∉ st.print) :
    ∃ c, Prefers (fromImport <|> moduleImport) ⟨none, st.code⟩ st.form.imports c := by
  obtain ⟨indent, form, trail, comment?⟩ := st
  have hlist : '\n' ∉ form.list ++ trail.text := by
    intro h
    exact hfeed (mem_append_left _ (mem_append_right _ ((form.suffix_lead _).mem h)))
  have hblank : Stops isBlank (form.list ++ trail.text) := by
    intro c hc
    rw [head?_append_of_ne_nil _ form.isTrimmed_list.ne_nil] at hc
    exact form.isTrimmed_list.head c hc
  have hne : form.list ++ trail.text ≠ [] := append_ne_nil_of_left_ne_nil form.isTrimmed_list.ne_nil _
  cases form with
  | modules first others =>
    obtain ⟨c, hread⟩ := moduleImport_append hblank hne hlist indent
    have hmodules := modulesOf_moduleList (first :: others) trail
    exact ⟨c, .orElse_right (fromImport_import indent _)
      (.of_eq_singleton (hread.trans (congrArg (fun found => [(found, c)]) hmodules)))⟩
  | names source first others isEnclosed =>
    obtain ⟨c, hread⟩ := fromImport_append hblank hne hlist indent source
    have hnames := listedNames_itemList (cons_ne_nil first others) isEnclosed trail
    exact ⟨c, .orElse_left (.of_eq_singleton (hread.trans
      (congrArg (fun names => [([namesImport source names], c)]) hnames))) _⟩
  | all source =>
    obtain ⟨c, hread⟩ := fromImport_append hblank hne hlist indent source
    exact ⟨c, .orElse_left (.of_eq_singleton (hread.trans
      (congrArg (fun names => [([namesImport source names], c)]) (listedNames_star trail)))) _⟩

theorem importsOfLine_print (hfeed : '\n' ∉ st.print) : importsOfLine st.print = st.form.imports := by
  obtain ⟨c, hread⟩ := st.exists_prefers_code hfeed
  rw [importsOfLine, takeWhile_print, first?_eq, hread.preferred?_eq, Option.getD_some]

theorem isComment_print : Language.python.isComment st.print = false := by
  obtain ⟨indent, form, trail, comment?⟩ := st
  have htrim : trimStart (print ⟨indent, form, trail, comment?⟩) =
      form.lead (form.list ++ trail.text) ++ comment?.elim [] fun comment => '#' :: comment := by
    rw [trimStart, print, code, append_assoc, dropWhile_append_of_pos indent.isBlank]
    cases form <;> exact Stops.dropWhile_eq (Stops.cons (by decide) _)
  rw [Language.isComment, htrim]
  cases form <;> rfl

end Statement

/-- A file with a statement on each line has the imports of the statements, in the order and with the
numbers of the lines: one for each module, or one with the names that are taken from a module. -/
theorem imports_of_statements {path content : Text} (hpath : Language.ofPath? path = some .python)
    (sts : List Statement) (hlines : HasLines content (sts.map Statement.print)) :
    imports path content = numberedImports sts := by
  have hread : ∀ st ∈ sts, (if Language.python.isComment st.print then []
      else Language.python.importsOfLine st.print) = st.form.imports := by
    intro st hst
    rw [st.isComment_print]
    exact st.importsOfLine_print (hlines.feed_not_mem _ (mem_map_of_mem hst))
  exact imports_of_lines hpath hlines hread

/-- Modules that are named like the words of a statement, and names that are `type` and `as`. -/
def wordyImports : List Statement :=
  let type : Name := ⟨"type".toList, by decide⟩
  let as : Name := ⟨"as".toList, by decide⟩
  let nothing : Blanks := ⟨[], forall_mem_nil _⟩
  let tab : Blanks := ⟨['\t'], forall_mem_singleton.mpr (by decide)⟩
  [⟨nothing, .modules ⟨⟨"from.importer".toList, by decide, by decide⟩, none⟩
      [⟨⟨"b".toList, by decide, by decide⟩, some as⟩], tab, some "two, of them".toList⟩,
    ⟨tab, .names ⟨"..imports".toList, by decide, by decide⟩ ⟨type, none, nofun⟩
      [⟨as, some type, fun _ => by decide⟩] true, tab, none⟩,
    ⟨tab, .all ⟨['.'], by decide, by decide⟩, nothing, some "all".toList⟩]

theorem imports_of_statements_wordy :
    Language.ofPath? "a/b.py".toList = some .python ∧
    imports "a/b.py".toList ("import from.importer, b as as\t#two, of them\r\n".toList ++
        "\tfrom ..imports import (type, as as type)\t\n\tfrom . import *#all".toList) =
      [{ specifier := "from.importer".toList, line := 1 }, { specifier := "b".toList, line := 1 },
        { specifier := "..imports".toList, names := ["type".toList, "as".toList], line := 2 },
        { specifier := ['.'], line := 3 }] := by
  have hpath : Language.ofPath? "a/b.py".toList = some .python := by decide
  rw [imports_of_statements hpath wordyImports (hasLines_iff.mpr (by decide +kernel))]
  exact ⟨hpath, by decide +kernel⟩

end RepoAtlas.Code.Python
