import RepoAtlas.Path.Basic
import RepoAtlas.Path.Collapse
import RepoAtlas.Settings.Basic

/-! # From a specifier to a file -/

namespace RepoAtlas.Graph

open Text

def completions : List Text :=
  [".ts", ".tsx", ".js", ".jsx", ".mjs", ".cjs", ".py", ".json"].map String.toList

def entryFiles : List Text :=
  ["index.ts", "index.tsx", "index.js", "index.jsx", "__init__.py"].map String.toList

/-- The extensions that a written path may have; they are taken off before others are tried. -/
def removable : List Text :=
  [".ts", ".tsx", ".js", ".jsx", ".mjs", ".cjs", ".mts", ".cts", ".py", ".json"].map String.toList

/-- The path without its extension, if something remains of its last segment. -/
def withoutExtension (path : Text) : Text :=
  match removable.findSome? fun extension => dropTail? extension path with
  | none => path
  | some stem => if stem.isEmpty || stem.getLast? = some '/' then path else stem

def candidates (stem : Text) : List Text :=
  if stem.isEmpty then entryFiles
  else completions.map (stem ++ ·) ++ entryFiles.map (stem ++ '/' :: ·)

def aliasOf? (aliases : List Alias) (specifier : Text) : Option Alias :=
  aliases.find? fun a => a.lead.isPrefixOf specifier

/-- Whether the specifier names something outside: it begins neither with a dot nor with an alias. -/
def isExternal (aliases : List Alias) (specifier : Text) : Bool :=
  !(['.'].isPrefixOf specifier) && (aliasOf? aliases specifier).isNone

/-- The path that a dotted module name means: `.mod` is `./mod`, and each further dot climbs once. -/
def dottedPath (specifier : Text) : Text :=
  let dots := (specifier.takeWhile (· == '.')).length
  let names := (specifier.drop dots).map fun c => if c = '.' then '/' else c
  (if dots = 1 then "./".toList else (List.replicate (dots - 1) "../".toList).flatten) ++ names

def writesDots (importer : Text) : Bool :=
  ".py".toList.isSuffixOf importer

/-- The path, not yet collapsed, that a specifier means in a file known under the key `importer`. -/
def writtenPath (aliases : List Alias) (importer specifier : Text) : Text :=
  match aliasOf? aliases specifier with
  | some a => a.target ++ specifier.drop a.lead.length
  | none =>
    let relative :=
      if writesDots importer && !specifier.contains '/' then dottedPath specifier else specifier
    (Path.cutName importer).1 ++ '/' :: relative

def resolve? (aliases : List Alias) (known : Text → Bool) (importer specifier : Text) : Option Text :=
  let specifier := trim specifier
  if specifier.isEmpty || isExternal aliases specifier then none
  else do
    let path ← Path.collapse? (writtenPath aliases (Path.key importer) specifier)
    (candidates (withoutExtension path)).find? known

end RepoAtlas.Graph
