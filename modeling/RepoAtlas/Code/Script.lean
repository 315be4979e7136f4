import RepoAtlas.Code.Import
import RepoAtlas.Code.Scan

/-! # Lines of scripts -/

namespace RepoAtlas.Code.Script

open Scan Unicode

/-! ## Parts -/

def isNameStart (c : Char) : Bool :=
  c.isAlpha || c == '_' || c == '$'

def isNameChar (c : Char) : Bool :=
  isWordChar c || c == '$'

def isQuote (c : Char) : Bool :=
  c == '\'' || c == '"'

def gap : Scan Unit := do
  let _ ← run isBlank

def space : Scan Unit := do
  let _ ← run1 isBlank

def mark (c : Char) : Scan Unit := do
  let _ ← one (· == c)

def identifier : Scan Text := do
  let start ← one isNameStart
  let rest ← run isNameChar
  return start :: rest

/-- An identifier or a beginning of one. -/
def identifierPart : Scan Unit := do
  let _ ← one isNameStart
  anyRun isNameChar

def specifier : Scan Text := do
  let _ ← one isQuote
  let text ← run1 fun c => !isQuote c
  let _ ← one isQuote
  return text

def braced : Scan Text := do
  mark '\x7b'
  let list ← run (· != '\x7d')
  mark '\x7d'
  return list

def typeMark : Scan Unit := do
  let _ ← optional (do word "type"; space)

def source : Scan Text := do
  word "from"
  gap
  specifier

/-! ## Static imports -/

def importLead : Scan Unit := do
  gap
  word "import"
  space

/-- An import for its effects: `import 's'`. -/
def sideEffect : Scan Import := do
  importLead
  let s ← specifier
  return { specifier := s }

/-- An import of the default and of names: `import d, { a } from 's'`. -/
def defaultAndNamed : Scan Import := do
  importLead
  typeMark
  let d ← identifier
  gap
  mark ','
  gap
  let list ← braced
  gap
  let s ← source
  return { specifier := s, names := d :: importedNames list, isDefault := true }

/-- An import of all names under one: `import * as d from 's'`, perhaps after a default. -/
def namespaced : Scan Import := do
  importLead
  typeMark
  let _ ← optional (do
    let _ ← identifier
    gap
    mark ','
    gap)
  mark '*'
  gap
  word "as"
  space
  let _ ← identifier
  space
  let s ← source
  return { specifier := s, isDefault := true }

def named : Scan Import := do
  importLead
  typeMark
  let list ← braced
  gap
  let s ← source
  return { specifier := s, names := importedNames list }

def defaulted : Scan Import := do
  importLead
  typeMark
  let d ← identifier
  space
  let s ← source
  return { specifier := s, names := [d], isDefault := true }

def allNames : Scan Unit := do
  mark '*'
  let _ ← optional (do
    space
    word "as"
    space
    identifierPart)

/-- An export of what another file exports: `export { a } from 's'` or `export * from 's'`. -/
def reExport : Scan Import := do
  gap
  word "export"
  space
  typeMark
  let list? ← (do allNames; return none) <|> some <$> braced
  gap
  let s ← source
  return { specifier := s, names := (list?.map importedNames).getD [] }

def staticImport : Scan Import :=
  sideEffect <|> defaultAndNamed <|> namespaced <|> named <|> defaulted <|> reExport

/-! ## Calls -/

def argument : Scan Text := do
  gap
  mark '('
  gap
  let s ← specifier
  gap
  mark ')'
  return s

def dynamicImport : Scan Import := do
  edge
  word "import"
  let s ← argument
  return { specifier := s, isDynamic := true }

inductive Binding
  | name (n : Text)
  | pattern (list : Text)

/-- The beginning of a declaration: `const a =` or `let { a } =`. -/
def bindingLead : Scan Binding := do
  edge
  oneOf ["const", "let", "var"]
  space
  let b ← .name <$> identifier <|> .pattern <$> braced
  gap
  mark '='
  gap
  return b

/-- The import that a call of `require` makes, by what it is bound to. -/
def required (specifier : Text) : Option Binding → Import
  | none => { specifier }
  | some (.name n) => { specifier, names := [n], isDefault := true }
  | some (.pattern list) =>
    { specifier, names := importedNames (list.map fun c => if c = ':' then ' ' else c) }

def requireCall : Scan Import := do
  let b ← optional bindingLead
  edge
  word "require"
  let s ← argument
  return required s b

/-- The imports of a line: a static one, then the calls of `import`, then those of `require`. -/
def importsOfLine (line : Text) : List Import :=
  (staticImport.first? line).toList ++ dynamicImport.all line ++ requireCall.all line

/-! ## Exports -/

def exportLead : Scan Unit := do
  gap
  word "export"
  space

def exportDefault : Scan (List Text) := do
  exportLead
  word "default"
  edge
  return ["default".toList]

def modifier (w : String) : Scan Unit := do
  let _ ← optional (do word w; space)

/-- An export of a declaration: `export async function f` or `export const a`. -/
def exportDeclaration : Scan (List Text) := do
  exportLead
  modifier "declare"
  modifier "abstract"
  modifier "async"
  (do word "function"; gap; let _ ← optional (mark '*'); gap) <|>
    (do oneOf ["const", "let", "var", "class", "interface", "type", "enum"]; space)
  let name ← identifier
  return [name]

def exportList : Scan (List Text) := do
  exportLead
  typeMark
  let list ← braced
  return exportedNames list

def exportsOfLine (line : Text) : List Text :=
  ((exportDefault <|> exportDeclaration <|> exportList).first? line).getD []

end RepoAtlas.Code.Script
