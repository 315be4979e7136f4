import RepoAtlas.Pool.Search
import RepoAtlas.Settings.Basic

/-! # The search engine -/

namespace RepoAtlas

open Search

inductive Engine
  | single (catalog : Catalog)
  | pooled (pool : Pool)

namespace Engine

def start (settings : SearchSettings) (cores : Nat) (files : List Text) :
    Except Pool.Error Engine :=
  if files.length < settings.splitFrom then .ok (.single (.ofPaths files))
  else .pooled <$> Pool.ofPaths files (settings.shards?.getD (Pool.shardsFor cores))

/-- The answer of a search whose call, if the engine has a pool, runs through the given events, and the
engine after it. -/
def searchUnder (events : List Pool.Event) (e : Engine) (query : Text) (limit : Nat) :
    Option (Except Pool.Error (List Hit)) × Engine :=
  match e with
  | .single catalog => (some (.ok (catalog.search query limit)), e)
  | .pooled pool =>
    let (answer, pool) := pool.searchUnder events query limit
    (answer, .pooled pool)

def search (e : Engine) (query : Text) (limit : Nat) :
    Option (Except Pool.Error (List Hit)) × Engine :=
  match e with
  | .single catalog => (some (.ok (catalog.search query limit)), e)
  | .pooled pool =>
    let (answer, pool) := pool.search query limit
    (answer, .pooled pool)

def isPooled : Engine → Bool
  | .single _ => false
  | .pooled _ => true

end Engine

end RepoAtlas
