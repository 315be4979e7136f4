import RepoAtlas.Graph.Node

/-! # Dependency graphs -/

namespace RepoAtlas

/-- Nodes by path, and links between paths. All paths are keys, and no file is linked to itself. -/
structure Graph where
  nodes : Std.ExtTreeMap Text FileNode compare
  links : Std.ExtTreeSet Link Link.order

namespace Graph

open RepoAtlas.Path

def empty : Graph :=
  ⟨∅, ∅⟩

def node? (g : Graph) (path : Text) : Option FileNode :=
  g.nodes[key path]?

def hasNode (g : Graph) (path : Text) : Bool :=
  (g.node? path).isSome

def paths (g : Graph) : List Text :=
  g.nodes.keys

def importersOf (g : Graph) (target : Text) : List Text :=
  (g.links.toList.filter fun l => l.target == target).map Link.importer

def dependentsOf (g : Graph) (path : Text) : List Text :=
  g.importersOf (key path)

def targets (g : Graph) : List Text :=
  Text.ascending (g.links.toList.map Link.target)

/-- The imported paths, each with the files that import it. -/
def reverse (g : Graph) : List (Text × List Text) :=
  g.targets.map fun t => (t, g.importersOf t)

def nodeCount (g : Graph) : Nat :=
  g.nodes.size

def edgeCount (g : Graph) : Nat :=
  g.reverse.foldr (fun (_, importers) count => importers.length + count) 0

/-- Enters a node, in place of one of the same path. Links are kept. -/
def addNode (g : Graph) (n : FileNode) : Graph :=
  { g with nodes := g.nodes.insert (key n.path) { n with path := key n.path } }

def link (g : Graph) (importer target : Text) : Graph :=
  if importer = target then g else { g with links := g.links.insert ⟨target, importer⟩ }

/-- Enters that the file `importer` imports the file `target`, with nodes for both, and brings the
dependents of the target up to date. A file does not import itself. -/
def addEdge (g : Graph) (importer target : Text) : Graph :=
  let importer := key importer
  let target := key target
  if importer = target then g
  else
    let linked := g.link importer target
    let nodes := g.nodes.insertIfNew importer { path := importer }
    let old := nodes[target]?.getD { path := target }
    { linked with nodes := nodes.insert target { old with dependents := linked.importersOf target } }

def syncDependents (g : Graph) : Graph :=
  { g with
    nodes := g.reverse.foldl (fun nodes (target, importers) =>
      nodes.modify target fun n => { n with dependents := importers }) g.nodes }

end Graph

end RepoAtlas
