import RepoAtlas.Chunks
import RepoAtlas.Code.Outline
import RepoAtlas.Graph.Basic
import RepoAtlas.Graph.Resolve

/-! # The graph of a list of files -/

namespace RepoAtlas.Graph

open Code

/-- The contents of files by key; a file that cannot be read has none. -/
abbrev Contents := Text → Option Text

/-- The node of a file, with its imports not yet resolved. -/
def outlineNode (read : Contents) (path : Text) : FileNode :=
  match read path with
  | none => { path }
  | some content => { path, imports := Code.imports path content, exports := Code.exports path content }

def outlineNodes (batch : Nat) (read : Contents) (paths : List Text) : List FileNode :=
  (chunksOf batch paths).flatMap (·.map (outlineNode read))

/-- The import with the file it leads to, which is not the importing file itself. -/
def resolveImport (aliases : List Alias) (known : Text → Bool) (importer : Text) (i : Import) : Import :=
  { i with target? := (resolve? aliases known importer i.specifier).filter (· != importer) }

def resolveNode (aliases : List Alias) (known : Text → Bool) (n : FileNode) : FileNode :=
  { n with imports := n.imports.map (resolveImport aliases known n.path) }

/-- The graph of nodes, with a link for every resolved import. -/
def ofNodes (nodes : List FileNode) : Graph :=
  let entered := nodes.foldl addNode empty
  let linked := nodes.foldl (fun g n =>
    (n.imports.filterMap (·.target?)).foldl (fun g target => g.link n.path target) g) entered
  linked.syncDependents

def build (settings : GraphSettings) (read : Contents) (files : List Text) : Graph :=
  let paths := (files.map Path.key).eraseDups
  let nodes := outlineNodes settings.batch read paths
  ofNodes (nodes.map (resolveNode settings.aliases paths.contains))

end RepoAtlas.Graph
