import RepoAtlas.Graph.Build

/-! # Files read by several readers -/

namespace RepoAtlas.Graph

open Code

inductive Place
  | waiting (path : Text)
  | taken (reader : Nat) (path : Text)
  | filled (node : FileNode)
  deriving DecidableEq

namespace Place

def isWith (reader : Nat) : Place → Bool
  | taken r _ => r == reader
  | _ => false

def node? : Place → Option FileNode
  | filled n => some n
  | _ => none

end Place

structure Reading where
  readers : Nat
  places : List Place
  deriving DecidableEq

namespace Reading

inductive Event
  | take (reader place : Nat)
  | fill (place : Nat)
  deriving DecidableEq

def ofBatch (readers : Nat) (batch : List Text) : Reading :=
  ⟨max 1 readers, batch.map .waiting⟩

/-- Whether the reader is there and has no place. -/
def isFree (r : Reading) (reader : Nat) : Bool :=
  reader < r.readers && !r.places.any (·.isWith reader)

/-- Nothing fixes the order of the events, and one that cannot happen changes nothing. -/
def step (read : Contents) (r : Reading) : Event → Reading
  | .take reader place =>
    match r.places[place]? with
    | some (.waiting path) =>
      if r.isFree reader then { r with places := r.places.set place (.taken reader path) } else r
    | _ => r
  | .fill place =>
    match r.places[place]? with
    | some (.taken _ path) => { r with places := r.places.set place (.filled (outlineNode read path)) }
    | _ => r

def run (read : Contents) (r : Reading) (events : List Event) : Reading :=
  events.foldl (step read) r

/-- The nodes of the batch in the order of its files, once all places are filled. -/
def nodes? (r : Reading) : Option (List FileNode) :=
  r.places.mapM Place.node?

end Reading

/-- The nodes of the batches, which are read one after the other, each under its own events. There are
none when some events do not bring their batch to its end. -/
def readBatches (readers : Nat) (read : Contents) :
    List (List Reading.Event) → List (List Text) → Option (List FileNode)
  | _, [] => some []
  | [], _ :: _ => none
  | events :: schedule, batch :: batches => do
    let nodes ← ((Reading.ofBatch readers batch).run read events).nodes?
    let others ← readBatches readers read schedule batches
    return nodes ++ others

def batches (settings : GraphSettings) (files : List Text) : List (List Text) :=
  chunksOf settings.batch (files.map Path.key).eraseDups

def buildUnder (schedule : List (List Reading.Event)) (settings : GraphSettings) (read : Contents)
    (files : List Text) : Option Graph := do
  let nodes ← readBatches settings.readers read schedule (batches settings files)
  let known := (files.map Path.key).eraseDups.contains
  return ofNodes (nodes.map (resolveNode settings.aliases known))

end RepoAtlas.Graph
