import RepoAtlas.Path.Record

/-! # Kinds of files -/

namespace RepoAtlas.Search

open Text

def sourceExtensions : List Text :=
  [".ts", ".tsx", ".js", ".jsx", ".mjs", ".cjs", ".mts", ".cts", ".py", ".rs", ".go", ".java", ".kt",
    ".swift", ".c", ".cc", ".cpp", ".cxx", ".h", ".hpp", ".cs", ".rb", ".php", ".scala", ".vue",
    ".svelte"].map String.toList

def markupExtensions : List Text :=
  [".md", ".mdx", ".json", ".yaml", ".yml", ".toml", ".html", ".css", ".scss", ".xml", ".txt", ".ini",
    ".cfg"].map String.toList

/-- An extension that a query can ask for. -/
def isKnownExtension (extension : Text) : Bool :=
  sourceExtensions.contains extension || markupExtensions.contains extension

def extensionWeight (extension : Text) : Nat :=
  if sourceExtensions.contains extension then 20
  else if markupExtensions.contains extension then 5
  else 0

def definitionWords : List Text :=
  ["model", "models", "schema", "schemas", "entity", "entities", "type", "types", "interface",
    "interfaces", "dto", "dtos"].map String.toList

def implementationWords : List Text :=
  ["service", "services", "controller", "controllers", "handler", "handlers", "manager",
    "managers"].map String.toList

def testWords : List Text :=
  ["test", "tests", "spec", "specs", "e2e", "mock", "mocks"].map String.toList

/-- The words of a word form: what stands between slashes, full stops and blanks. -/
def pathWords (wordForm : Text) : List Text :=
  splitBy (fun c => c == '/' || c == '.' || Unicode.isBlank c) wordForm

def tells (telling : List Text) (r : PathRecord) : Bool :=
  (pathWords r.wordForm).any telling.contains

def wordWeight (r : PathRecord) : Int :=
  (if tells definitionWords r then 60 else 0) + (if tells implementationWords r then 30 else 0)
    - (if tells testWords r then 150 else 0)

end RepoAtlas.Search
