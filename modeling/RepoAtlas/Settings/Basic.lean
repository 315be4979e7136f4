import RepoAtlas.Text.Quoted

/-! # Settings -/

namespace RepoAtlas

open Text

/-- A rule that replaces the lead of an import specifier by a path from the root. -/
structure Alias where
  lead : Text
  target : Text
  deriving DecidableEq

structure SearchSettings where
  splitFrom : Nat := 5000
  /-- The number of shards; left to the machine when absent. -/
  shards? : Option Nat := none
  deriving DecidableEq

structure GraphSettings where
  readers : Nat := 16
  batch : Nat := 256
  aliases : List Alias := [⟨"@/".toList, "src/".toList⟩, ⟨"~/".toList, "src/".toList⟩]
  deriving DecidableEq

structure Settings where
  search : SearchSettings := {}
  graph : GraphSettings := {}
  deriving DecidableEq

namespace Settings

inductive Flaw
  | noReaders
  | emptyBatch
  | noShards
  | emptyLead (target : Text)
  deriving DecidableEq

def Flaw.message : Flaw → Text
  | .noReaders => "graph.read_concurrency must be at least 1".toList
  | .emptyBatch => "graph.batch_size must be at least 1".toList
  | .noShards => "search.shard_count must be at least 1 when set".toList
  | .emptyLead target => "alias prefix for target ".toList ++ quoted target ++ " is empty".toList

/-- The first flaw of the settings: readers, then batches, then shards, then aliases in order. -/
def flaw? (s : Settings) : Option Flaw :=
  if s.graph.readers = 0 then some .noReaders
  else if s.graph.batch = 0 then some .emptyBatch
  else if s.search.shards? = some 0 then some .noShards
  else (s.graph.aliases.find? fun a => a.lead.isEmpty).map fun a => .emptyLead a.target

end Settings

end RepoAtlas
