import RepoAtlas.Proofs.Code.Exports
import RepoAtlas.Proofs.Code.LineByLine
import RepoAtlas.Proofs.Code.PythonParts

/-! # Files of exports -/

namespace RepoAtlas.Code

open Scan Text Unicode List

namespace Python

variable {b : Option Char} {t : Text} {w : String}

inductive DefinitionWords
  | ofDef
  | ofAsyncDef
  | ofClass

/-- A function or a class, with what follows its name. -/
structure Definition where
  words : DefinitionWords
  name : Name
  rest : Tail isWordChar

/-- A line that is indented, or a comment. -/
structure Inner where
  text : Text
  begins : ∀ c ∈ text.head?, isBlank c = true ∨ c = '#'

inductive Line
  | definition (d : Definition)
  | inner (i : Inner)

def DefinitionWords.lead (t : Text) : DefinitionWords → Text
  | ofDef => "def".toList ++ ' ' :: t
  | ofAsyncDef => "async".toList ++ ' ' :: ("def".toList ++ ' ' :: t)
  | ofClass => "class".toList ++ ' ' :: t

def Line.print : Line → Text
  | definition d => d.words.lead (d.name.text ++ d.rest.text)
  | inner i => i.text

def Line.name? : Line → Option Text
  | definition d => some d.name.text
  | inner _ => none

def definitionWords : List String :=
  ["def", "class"]

def definedName : Scan Text := do
  oneOf definitionWords
  space
  let start ← one isNameStart
  let rest ← run isWordChar
  return start :: rest

theorem definition_eq :
    Python.definition = (do
      let _ ← optional (Script.spacedWord "async")
      definedName) := rfl

theorem definedName_append (hw : w ∈ definitionWords) (n : Name) (rest : Tail isWordChar) :
    ∃ c, definedName ⟨b, w.toList ++ ' ' :: (n.text ++ rest.text)⟩ = [(n.text, c)] := by
  obtain ⟨d, u, htext, hd, hu⟩ := n.exists_eq_cons
  have hblank := n.stops_isBlank rest.text
  have hword : oneOf definitionWords ⟨b, w.toList ++ ' ' :: (n.text ++ rest.text)⟩ =
      [((), ⟨w.toList.getLast?.or b, ' ' :: (n.text ++ rest.text)⟩)] :=
    oneOf_append hw (by decide) (by decide) _
  refine ⟨⟨u.getLast?.or (some d), rest.text⟩, ?_⟩
  rw [definedName, bind_of_eq_singleton hword, space_eq, bind_of_eq_singleton (Script.space_space hblank),
    htext, cons_append, bind_of_eq_singleton (one_cons hd _),
    bind_of_eq_singleton (run_append hu rest.stops)]
  rfl

theorem exists_prefers_definition (d : Definition) :
    ∃ c, Prefers Python.definition ⟨none, (Line.definition d).print⟩ d.name.text c := by
  have hplain {w : String} (hw : w ∈ definitionWords) :
      ∃ c, Prefers Python.definition ⟨none, w.toList ++ ' ' :: (d.name.text ++ d.rest.text)⟩
        d.name.text c := by
    obtain ⟨c, hname⟩ := definedName_append (b := none) hw d.name d.rest
    have hno : ∀ w ∈ definitionWords, ¬"async".toList <+: w.toList := by decide
    have hasync : Script.spacedWord "async" ⟨none, w.toList ++ ' ' :: (d.name.text ++ d.rest.text)⟩ = [] :=
      Script.spacedWord_eq_nil fun h => hno w hw (prefix_of_prefix_append_cons (by decide) h)
    rw [definition_eq]
    exact ⟨c, .bind (.of_eq_singleton (optional_of_eq_nil hasync)) (.of_eq_singleton hname)⟩
  obtain ⟨words, name, rest⟩ := d
  cases words with
  | ofDef => exact hplain (w := "def") (by decide)
  | ofClass => exact hplain (w := "class") (by decide)
  | ofAsyncDef =>
    obtain ⟨c, hname⟩ := definedName_append (b := some ' ') (w := "def") (by decide) name rest
    have hblank : Stops isBlank ("def".toList ++ ' ' :: (name.text ++ rest.text)) :=
      Stops.word rfl (by decide) _
    have hasync := Prefers.of_eq_singleton (Script.spacedWord_append (w := "async") (b := none) hblank)
    rw [definition_eq]
    exact ⟨c, hasync.optional.bind (.of_eq_singleton hname)⟩

theorem definition_inner (i : Inner) : Python.definition ⟨none, i.text⟩ = [] := by
  have hstops : Stops (fun c => !isBlank c && c != '#') i.text := by
    intro c hc
    rcases i.begins c hc with hblank | hsharp
    · simp [hblank]
    · simp [hsharp]
  have hwords : ∀ w ∈ "async" :: definitionWords,
      w.toList.head?.any (fun c => !isBlank c && c != '#') = true := by decide
  have hnot : ∀ w ∈ "async" :: definitionWords, ¬w.toList <+: i.text :=
    fun w hw => not_prefix_of_stops (hwords w hw) hstops
  have hasync : Script.spacedWord "async" ⟨none, i.text⟩ = [] :=
    Script.spacedWord_eq_nil (hnot _ mem_cons_self)
  have hplain : oneOf definitionWords ⟨none, i.text⟩ = [] :=
    oneOf_eq_nil fun w hw => hnot w (mem_cons_of_mem _ hw)
  rw [definition_eq, bind_of_eq_singleton (optional_of_eq_nil hasync), definedName, bind_of_eq_nil hplain]

/-- Whether the name is meant for others. -/
def isPublic (name : Text) : Bool :=
  name.head? != some '_'

theorem exportsOfLine_print (l : Line) : exportsOfLine l.print = l.name?.toList.filter isPublic := by
  cases l with
  | definition d =>
    obtain ⟨c, hread⟩ := exists_prefers_definition d
    rw [exportsOfLine, first?_eq, hread.preferred?_eq]
    rfl
  | inner i =>
    rw [exportsOfLine, first?_eq, Line.print, preferred?_eq_none (definition_inner i)]
    rfl

theorem isComment_definition (d : Definition) :
    Language.python.isComment (Line.definition d).print = false := by
  obtain ⟨words, name, rest⟩ := d
  cases words <;> rfl

theorem Line.reads (l : Line) :
    (if Language.python.isComment l.print then [] else exportsOfLine l.print) =
      l.name?.toList.filter isPublic := by
  cases l with
  | definition d =>
    rw [isComment_definition, ← exportsOfLine_print]
    rfl
  | inner i =>
    -- no matter whether the line is passed over, it has no name
    have hnone := exportsOfLine_print (.inner i)
    rw [hnone]
    exact ite_self _

end Python

/-- A script of export statements exports the names that they declare or list, and a file of Python those
of its functions and classes at the left edge that are meant for others. Each name stands where it is met
first. -/
theorem exports_of_declarations (path content : Text) :
    (Language.ofPath? path = some .script → ∀ es : List Script.Export,
      HasLines content (es.map Script.Export.print) →
        exports path content = (es.flatMap Script.Export.names).eraseDups) ∧
    (Language.ofPath? path = some .python → ∀ ls : List Python.Line,
      HasLines content (ls.map Python.Line.print) →
        exports path content = ((ls.filterMap Python.Line.name?).filter Python.isPublic).eraseDups) := by
  constructor
  · intro hpath es hlines
    apply exports_of_lines hpath hlines
    intro e he
    rw [e.isComment_print]
    exact Script.exportsOfLine_print e
  · intro hpath ls hlines
    rw [exports_of_lines hpath hlines fun l _ => l.reads, filterMap_eq_flatMap_toList, filter_flatMap]

/-- Names that begin with words of the statements, a name that is `type`, and one that is met twice. -/
def wordyExports : List Script.Export :=
  let task : Script.Name := ⟨"asyncTask".toList, by decide⟩
  let function1 : Script.Name := ⟨"function1".toList, by decide⟩
  let type : Script.Name := ⟨"type".toList, rfl⟩
  [.declaration ⟨false, false, true, .ofGenerator, function1, ⟨'(' :: ") \x7b".toList, .cons (by decide) _⟩,
      nofun⟩,
    .declaration ⟨true, true, false, .ofClass, task, ⟨' ' :: "\x7b\x7d".toList, .cons (by decide) _⟩, nofun⟩,
    .list true [⟨type, none, nofun⟩, ⟨task, some function1, fun _ => by decide⟩] " from './a'".toList,
    .ofDefault ⟨'(' :: "0)".toList, .cons (by decide) _⟩]

/-- A definition inside of another one, one that is hidden, and one that is made twice. -/
def nestedDefinitions : List Python.Line :=
  let load : Python.Name := ⟨"load".toList, by decide⟩
  let hidden : Python.Name := ⟨"_Hidden".toList, by decide⟩
  [.definition ⟨.ofAsyncDef, load, ⟨'(' :: "x):".toList, .cons (by decide) _⟩⟩,
    .inner ⟨' ' :: "  def inner():".toList, by rintro c ⟨⟩; decide⟩,
    .definition ⟨.ofClass, hidden, ⟨[':'], .cons (by decide) _⟩⟩,
    .inner ⟨'#' :: " def none():".toList, by rintro c ⟨⟩; decide⟩,
    .definition ⟨.ofDef, load, ⟨'(' :: "):".toList, .cons (by decide) _⟩⟩]

theorem exports_of_declarations_wordy :
    exports "a.ts".toList ("export async function* function1() \x7b\r\n".toList ++
        "export declare abstract class asyncTask \x7b\x7d\n".toList ++
        "export type \x7b type, asyncTask as function1 \x7d from './a'\n".toList ++
        "export default(0)".toList) =
      ["function1".toList, "asyncTask".toList, "type".toList, "default".toList] ∧
    exports "a.py".toList ("async def load(x):\r\n   def inner():\nclass _Hidden:\n".toList ++
        "# def none():\ndef load():\n".toList) = ["load".toList] := by
  constructor
  · rw [(exports_of_declarations _ _).1 (by decide) wordyExports (hasLines_iff.mpr (by decide +kernel))]
    decide +kernel
  · rw [(exports_of_declarations _ _).2 (by decide) nestedDefinitions (hasLines_iff.mpr (by decide +kernel))]
    decide +kernel

end RepoAtlas.Code
