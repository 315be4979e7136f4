import RepoAtlas.Chunks
import RepoAtlas.Search.Catalog

/-! # Pools of workers -/

namespace RepoAtlas.Pool

open Search

inductive Failure
  /-- The backend gave up; the causes from the outermost to the root. -/
  | error (causes : List Text)
  | panic (message : Option Text)
  deriving DecidableEq

def Failure.message : Failure → Text
  | .error causes => Text.join ": ".toList causes
  | .panic (some text) => "panicked: ".toList ++ text
  | .panic none => "panicked".toList

inductive Error
  | noShards
  | shardFailed (shard : Nat) (failure : Failure)
  | shardLost (shard : Nat)
  | closed
  deriving DecidableEq

def Error.message : Error → Text
  | .noShards => "shard count must be at least 1".toList
  | .shardFailed shard failure =>
    "shard ".toList ++ Text.ofNat shard ++ " failed: ".toList ++ failure.message
  | .shardLost shard =>
    "shard ".toList ++ Text.ofNat shard ++ " disconnected before replying".toList
  | .closed => "search orchestrator has been terminated".toList

inductive Outcome
  | found (hits : List Hit)
  | failed (failure : Failure)
  /-- The worker ends without an answer. -/
  | lost
  deriving DecidableEq

abbrev Backend := Text → Nat → Outcome

def Backend.ofCatalog (c : Catalog) : Backend :=
  fun text limit => .found (c.search text limit)

structure Request where
  ticket : Nat
  query : Text
  limit : Nat
  deriving DecidableEq

inductive Status
  | running
  /-- It serves no more requests, but its inbox still takes them. -/
  | ending
  | ended
  deriving DecidableEq

/-- A worker: its backend, its status, and its requests from the oldest on. -/
structure Worker where
  backend : Backend
  status : Status
  inbox : List Request

end Pool

/-- The workers in shard order, whether the pool is closed, and the number of calls made so far. -/
structure Pool where
  workers : List Pool.Worker
  closed : Bool
  calls : Nat

namespace Pool

/-- The files shared out among at most `shards` workers, in chunks as large as the largest needs to be. -/
def chunks (shards : Nat) (files : List α) : List (List α) :=
  chunksOf ((files.length + shards - 1) / shards) files

abbrev Built := Except (Option Text) Backend

def Built.breakdown? (shard : Nat) : Built → Option Error
  | .ok _ => none
  | .error message => some (.shardFailed shard (.panic message))

def Built.worker? : Built → Option Worker
  | .ok backend => some ⟨backend, .running, []⟩
  | .error _ => none

/-- The first breakdown among the reports of the shards, which arrive in the order given. -/
def firstBreakdown? (built : List Built) (arrival : List Nat) : Option Error :=
  arrival.findSome? fun shard => built[shard]?.bind (Built.breakdown? shard)

/-- A pool over the files, with each chunk built by `build`, when the shards report in the order
`arrival`. -/
def startUnder (arrival : List Nat) (build : List Text → Built) (files : List Text) (shards : Nat) :
    Except Error Pool :=
  if shards = 0 then .error .noShards
  else
    let built := (chunks shards files).map build
    match firstBreakdown? built arrival with
    | some e => .error e
    | none => .ok ⟨built.filterMap Built.worker?, false, 0⟩

def start (build : List Text → Built) (files : List Text) (shards : Nat) : Except Error Pool :=
  startUnder (List.range (chunks shards files).length) build files shards

def buildCatalog (chunk : List Text) : Built :=
  .ok (.ofCatalog (.ofPaths chunk))

def ofPaths (files : List Text) (shards : Nat) : Except Error Pool :=
  start buildCatalog files shards

/-- The number of shards that suits a machine: one for each core but one, and at least two. -/
def shardsFor (cores : Nat) : Nat :=
  max (cores - 1) 2

def size (p : Pool) : Nat :=
  p.workers.length

end RepoAtlas.Pool
