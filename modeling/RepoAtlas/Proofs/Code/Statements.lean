import RepoAtlas.Proofs.Code.NameLists
import RepoAtlas.Proofs.Code.ScriptParts

/-! # Import statements of scripts -/

namespace RepoAtlas.Code.Script

open Text Unicode List

/-! ## Statements -/

structure Name where
  text : Text
  isName : Script.isName text = true

/-- A specifier that can stand between quotes on one line. -/
structure Specifier where
  text : Text
  isSpecifier : Script.isSpecifier text = true
  noFeed : '\n' ∉ text

inductive Quote
  | single
  | double

/-- An imported name, perhaps under another one. Before another name, `type` would be the mark of a type. -/
structure Item where
  name : Name
  alias? : Option Name := none
  unmarked : alias?.isSome → name.text ≠ "type".toList

inductive Clause
  | defaultAndNamed (d : Name) (items : List Item)
  | namespaced (d : Name)
  | defaultAndNamespaced (d m : Name)
  | named (items : List Item)
  | defaulted (d : Name)

inductive Exported
  | named (items : List Item)
  | all
  | allAs (d : Name)

inductive Keyword
  | ofConst
  | ofLet
  | ofVar

inductive Target
  | name (d : Name)
  | pattern (items : List Item)

inductive Form
  | effect
  | clause (isType : Bool) (c : Clause)
  | exported (e : Exported)
  | dynamic
  | required (declared? : Option (Keyword × Target))

/-- A statement as it stands on its line. -/
structure Statement where
  form : Form
  specifier : Specifier
  quote : Quote
  indent : Nat
  semicolon : Bool

/-! ## Printing -/

def Quote.char : Quote → Char
  | single => '\''
  | double => '"'

/-- The item, with a text between its names. -/
def Item.print (between : Text) (i : Item) : Text :=
  i.name.text ++ i.alias?.elim [] fun m => between ++ m.text

def itemList (between : Text) (items : List Item) : Text :=
  ' ' :: (join ", ".toList (items.map (Item.print between)) ++ [' '])

def braces (list : Text) : Text :=
  '\x7b' :: (list ++ ['\x7d'])

def importList (items : List Item) : Text :=
  braces (itemList " as ".toList items)

def Clause.print : Clause → Text
  | defaultAndNamed d items => d.text ++ ", ".toList ++ importList items
  | namespaced d => '*' :: (" as ".toList ++ d.text)
  | defaultAndNamespaced d m => d.text ++ ", * as ".toList ++ m.text
  | named items => importList items
  | defaulted d => d.text

def Exported.print : Exported → Text
  | named items => importList items
  | all => ['*']
  | allAs d => '*' :: (" as ".toList ++ d.text)

def Keyword.word : Keyword → String
  | ofConst => "const"
  | ofLet => "let"
  | ofVar => "var"

def Target.print : Target → Text
  | name d => d.text
  | pattern items => braces (itemList ": ".toList items)

def declaration : Option (Keyword × Target) → Text
  | none => []
  | some (k, target) => k.word.toList ++ " ".toList ++ target.print ++ " = ".toList

namespace Form

def isCall : Form → Bool
  | dynamic | required _ => true
  | _ => false

/-- What stands before the word that makes the statement an import. -/
def before : Form → Text
  | required declared? => declaration declared?
  | _ => []

def word : Form → String
  | effect | clause _ _ | dynamic => "import"
  | exported _ => "export"
  | required _ => "require"

/-- What stands between that word and the specifier, or its parentheses. -/
def after : Form → Text
  | effect => [' ']
  | clause isType c => ' ' :: ((if isType then "type ".toList else []) ++ c.print ++ " from ".toList)
  | exported e => ' ' :: (e.print ++ " from ".toList)
  | dynamic | required _ => []

def front (f : Form) : Text :=
  f.before ++ (f.word.toList ++ f.after)

def openMark (f : Form) : Text :=
  if f.isCall then ['('] else []

def closeMark (f : Form) : Text :=
  if f.isCall then [')'] else []

end Form

namespace Statement

def lead (st : Statement) : Text :=
  replicate st.indent ' ' ++ st.form.front

def ending (st : Statement) : Text :=
  if st.semicolon then [';'] else []

def back (st : Statement) : Text :=
  st.form.closeMark ++ st.ending

def print (st : Statement) : Text :=
  st.lead ++ (st.form.openMark ++ quoted st.quote.char st.specifier.text st.back)

end Statement

/-! ## Imports -/

def names (items : List Item) : List Text :=
  items.map fun i => i.name.text

def Clause.import (specifier : Text) : Clause → Import
  | defaultAndNamed d items => { specifier, names := d.text :: names items, isDefault := true }
  | namespaced _ | defaultAndNamespaced _ _ => { specifier, isDefault := true }
  | named items => { specifier, names := names items }
  | defaulted d => { specifier, names := [d.text], isDefault := true }

def Exported.import (specifier : Text) : Exported → Import
  | named items => { specifier, names := names items }
  | all | allAs _ => { specifier }

def Target.import (specifier : Text) : Target → Import
  | name d => { specifier, names := [d.text], isDefault := true }
  | pattern items => { specifier, names := names items }

def requiredImport (specifier : Text) : Option (Keyword × Target) → Import
  | none => { specifier }
  | some (_, target) => target.import specifier

def Form.import (specifier : Text) : Form → Import
  | effect => { specifier }
  | clause _ c => c.import specifier
  | exported e => e.import specifier
  | dynamic => { specifier, isDynamic := true }
  | required declared? => requiredImport specifier declared?

def Statement.import (st : Statement) : Import :=
  st.form.import st.specifier.text

/-! ## Characters of printed parts -/

section Characters

variable {P : Char → Prop} {between : Text}

theorem Item.forall_mem_print (hname : ∀ c, isNameChar c = true → P c) (hbetween : ∀ c ∈ between, P c)
    (i : Item) : ∀ c ∈ i.print between, P c := by
  have htext (n : Name) : ∀ c ∈ n.text, P c := fun c hc => hname c (isNameChar_of_mem n.isName hc)
  rw [Item.print, forall_mem_append]
  refine ⟨htext i.name, ?_⟩
  cases i.alias? with
  | none => simp
  | some m => exact forall_mem_append.mpr ⟨hbetween, htext m⟩

theorem forall_mem_itemList (hname : ∀ c, isNameChar c = true → P c) (hbetween : ∀ c ∈ between, P c)
    (hcomma : P ',') (hspace : P ' ') (items : List Item) : ∀ c ∈ itemList between items, P c := by
  have hjoin : ∀ c ∈ join ", ".toList (items.map (Item.print between)), P c := by
    apply forall_mem_join
    · simp [hcomma, hspace]
    · intro t ht
      obtain ⟨i, -, rfl⟩ := mem_map.mp ht
      exact i.forall_mem_print hname hbetween
  rw [itemList, forall_mem_cons, forall_mem_append]
  exact ⟨hspace, hjoin, by simpa using hspace⟩

end Characters

theorem brace_notMem_itemList {between : Text} (hbetween : '\x7d' ∉ between) (items : List Item) :
    '\x7d' ∉ itemList between items := by
  have hne : ∀ c ∈ itemList between items, c ≠ '\x7d' := by
    apply forall_mem_itemList (fun c hc => ne_of_kind hc (by decide))
    · rintro c hc rfl
      exact hbetween hc
    · decide
    · decide
  exact fun h => hne _ h rfl

def isPlain (c : Char) : Bool :=
  isNameChar c || " ,:*=\x7b\x7d".toList.contains c

section Plain

theorem isPlain_name (n : Name) : ∀ c ∈ n.text, isPlain c = true := by
  intro c hc
  rw [isPlain, isNameChar_of_mem n.isName hc, Bool.true_or]

theorem isPlain_braces {between : Text} (hbetween : ∀ c ∈ between, isPlain c = true) (items : List Item) :
    ∀ c ∈ braces (itemList between items), isPlain c = true := by
  have hlist : ∀ c ∈ itemList between items, isPlain c = true := by
    apply forall_mem_itemList (fun c hc => by rw [isPlain, hc, Bool.true_or]) hbetween
    · decide
    · decide
  rw [braces, forall_mem_cons, forall_mem_append]
  exact ⟨by decide, hlist, forall_mem_singleton.mpr (by decide)⟩

theorem isPlain_importList (items : List Item) : ∀ c ∈ importList items, isPlain c = true :=
  isPlain_braces (all_eq_true.mp (by decide)) items

theorem Clause.isPlain_print (c : Clause) : ∀ d ∈ c.print, isPlain d = true := by
  cases c with
  | defaultAndNamed d items =>
    simp only [print, forall_mem_append]
    exact ⟨⟨isPlain_name d, all_eq_true.mp (by decide)⟩, isPlain_importList items⟩
  | namespaced d =>
    simp only [print, forall_mem_cons, forall_mem_append]
    exact ⟨by decide, all_eq_true.mp (by decide), isPlain_name d⟩
  | defaultAndNamespaced d m =>
    simp only [print, forall_mem_append]
    exact ⟨⟨isPlain_name d, all_eq_true.mp (by decide)⟩, isPlain_name m⟩
  | named items => exact isPlain_importList items
  | defaulted d => exact isPlain_name d

theorem Exported.isPlain_print (e : Exported) : ∀ d ∈ e.print, isPlain d = true := by
  cases e with
  | named items => exact isPlain_importList items
  | all => exact all_eq_true.mp (by decide)
  | allAs d =>
    simp only [print, forall_mem_cons, forall_mem_append]
    exact ⟨by decide, all_eq_true.mp (by decide), isPlain_name d⟩

theorem Target.isPlain_print (t : Target) : ∀ d ∈ t.print, isPlain d = true := by
  cases t with
  | name d => exact isPlain_name d
  | pattern items => exact isPlain_braces (all_eq_true.mp (by decide)) items

theorem isPlain_declaration (declared? : Option (Keyword × Target)) :
    ∀ c ∈ declaration declared?, isPlain c = true := by
  rcases declared? with _ | ⟨k, target⟩
  · intro c hc
    cases hc
  · have hword : ∀ c ∈ k.word.toList, isPlain c = true := by
      cases k <;> exact all_eq_true.mp (by decide)
    simp only [declaration, forall_mem_append]
    exact ⟨⟨⟨hword, all_eq_true.mp (by decide)⟩, target.isPlain_print⟩, all_eq_true.mp (by decide)⟩

theorem Form.isPlain_front (f : Form) : ∀ c ∈ f.front, isPlain c = true := by
  have hword : ∀ c ∈ f.word.toList, isPlain c = true := by
    cases f <;> simp only [word] <;> exact all_eq_true.mp (by decide)
  simp only [front, forall_mem_append]
  cases f with
  | effect => exact ⟨by simp [before], hword, all_eq_true.mp (by decide)⟩
  | clause isType c =>
    have hmark : ∀ d ∈ (if isType then "type ".toList else []), isPlain d = true := by
      cases isType <;> exact all_eq_true.mp (by decide)
    simp only [after, forall_mem_cons, forall_mem_append]
    exact ⟨by simp [before], hword, by decide, ⟨hmark, c.isPlain_print⟩, all_eq_true.mp (by decide)⟩
  | exported e =>
    simp only [after, forall_mem_cons, forall_mem_append]
    exact ⟨by simp [before], hword, by decide, e.isPlain_print, all_eq_true.mp (by decide)⟩
  | dynamic => exact ⟨by simp [before], hword, by simp [after]⟩
  | required declared? => exact ⟨isPlain_declaration declared?, hword, by simp [after]⟩

end Plain

/-! ## Names of printed lists -/

section Lists

variable {between : Text}

theorem Name.isBlank_of_mem (n : Name) : ∀ c ∈ n.text, isBlank c = false :=
  fun _ hc => isBlank_of_isNameChar (isNameChar_of_mem n.isName hc)

theorem Name.text_ne_nil (n : Name) : n.text ≠ [] := by
  obtain ⟨c, u, htext, -⟩ := exists_head_of_isName n.isName
  rw [htext]
  exact cons_ne_nil c u

theorem Item.words_print (i : Item) (between : Text) :
    ∃ ws, words (i.print (' ' :: between)) = i.name.text :: ws ∧
      (ws ≠ [] → i.name.text ≠ "type".toList) := by
  have hname : words i.name.text = [i.name.text] :=
    pieces_of_forall i.name.isBlank_of_mem i.name.text_ne_nil
  cases halias : i.alias? with
  | none =>
    refine ⟨[], ?_, fun h => absurd rfl h⟩
    rw [Item.print, halias, Option.elim_none, append_nil, hname]
  | some m =>
    refine ⟨words (between ++ m.text), ?_, fun _ => i.unmarked (by rw [halias, Option.isSome_some])⟩
    rw [Item.print, halias, Option.elim_some, cons_append, words_append (by decide), hname]
    rfl

theorem Item.comma_notMem_print (hcomma : ',' ∉ between) (i : Item) : ',' ∉ i.print between := by
  have hne : ∀ c ∈ i.print between, c ≠ ',' := by
    apply Item.forall_mem_print (fun c hc => ne_of_kind hc (by decide))
    rintro c hc rfl
    exact hcomma hc
  exact fun h => hne _ h rfl

theorem isBlank_of_mem_space {c : Char} (hc : c ∈ [' ']) : isBlank c = true := by
  rw [mem_singleton.mp hc]
  decide

theorem importedNames_itemList (hcomma : ',' ∉ between) (items : List Item) :
    importedNames (itemList (' ' :: between) items) = names items := by
  have hclean : ∀ t ∈ items.map (Item.print (' ' :: between)), ',' ∉ t :=
    forall_mem_map.mpr fun i _ => i.comma_notMem_print (by simp [hcomma])
  have hitem (i : Item) : importedName? (i.print (' ' :: between)) = some i.name.text := by
    obtain ⟨ws, hwords, hmark⟩ := i.words_print between
    exact importedName?_eq hwords hmark
  calc
    importedNames (itemList (' ' :: between) items)
      = (items.map (Item.print (' ' :: between))).filterMap importedName? :=
        importedNames_join (fun _ => isBlank_of_mem_space) (fun _ => isBlank_of_mem_space) hclean
    _ = items.filterMap fun i => some i.name.text := by
        rw [filterMap_map]
        exact filterMap_congr fun i _ => hitem i
    _ = names items := congrFun filterMap_eq_map items

theorem importedNames_importItems (items : List Item) :
    importedNames (itemList " as ".toList items) = names items :=
  importedNames_itemList (by decide) items

/-- The colons of a pattern are read as blanks. -/
theorem map_itemList (items : List Item) :
    (itemList ": ".toList items).map (fun c => if c = ':' then ' ' else c) =
      itemList "  ".toList items := by
  have hname (n : Name) : n.text.map (fun c => if c = ':' then ' ' else c) = n.text := by
    apply map_replace_of_not_mem
    intro hc
    exact ne_of_kind (isNameChar_of_mem n.isName hc) (by decide) rfl
  have hitem (i : Item) : (i.print ": ".toList).map (fun c => if c = ':' then ' ' else c) =
      i.print "  ".toList := by
    rw [Item.print, Item.print, map_append, hname]
    cases i.alias? with
    | none => rfl
    | some m =>
      rw [Option.elim_some, Option.elim_some, map_append, hname]
      rfl
  rw [itemList, map_cons, map_append, map_join, map_map]
  congr 4
  funext i
  exact hitem i

theorem importedNames_patternItems (items : List Item) :
    importedNames (itemList "  ".toList items) = names items :=
  importedNames_itemList (by decide) items

end Lists

end RepoAtlas.Code.Script
