import RepoAtlas.Search.Hit
import RepoAtlas.Search.Score

/-! # Catalogs of paths -/

namespace RepoAtlas.Search

structure Catalog where
  records : List PathRecord
  deriving DecidableEq

namespace Catalog

def ofPaths (paths : List Text) : Catalog :=
  ⟨paths.map PathRecord.ofPath⟩

def size (c : Catalog) : Nat :=
  c.records.length

/-- The records that a query finds, with their scores, in the order of the catalog. -/
def hits (c : Catalog) (q : Query) : List Hit :=
  (c.records.map fun r => ⟨r.path, .ofScore (score r q)⟩).filter fun h => 0 < h.score

def search (c : Catalog) (text : Text) (limit : Nat) : List Hit :=
  let q := Query.ofText text
  if q.isEmpty || limit = 0 then [] else best limit (c.hits q)

end Catalog

end RepoAtlas.Search
