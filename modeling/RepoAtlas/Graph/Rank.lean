import RepoAtlas.Graph.Basic

/-! # Import ranks -/

namespace RepoAtlas.Graph

/-- The share of `count` in `top`, in hundredths, with halves rounded up. -/
def hundredths (count top : Nat) : Nat :=
  (200 * count + top) / (2 * top)

def topCount (g : Graph) : Nat :=
  (g.reverse.map fun (_, importers) => importers.length).foldl max 0

/-- The imported files with their ranks, ascending by path. -/
def ranks (g : Graph) : List (Text × Nat) :=
  let top := g.topCount
  if top = 0 then []
  else
    (g.reverse.filter fun (_, importers) => !importers.isEmpty).map fun (path, importers) =>
      (path, hundredths importers.length top)

end RepoAtlas.Graph
