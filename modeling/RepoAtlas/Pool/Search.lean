import RepoAtlas.Pool.Call

/-! # Searching and closing a pool -/

namespace RepoAtlas.Pool

open Search

def call (p : Pool) (query : Text) (limit : Nat) : Call :=
  { ticket := p.calls, query, limit, workers := p.workers, mailbox := [], stage := .sending 0 }

/-- The answer of a search whose call runs through the given events, and the pool after it. There is no
answer when the events do not bring the call to its end. -/
def searchUnder (events : List Event) (p : Pool) (query : Text) (limit : Nat) :
    Option (Except Error (List Hit)) × Pool :=
  if p.closed then (some (.error .closed), p)
  else if limit = 0 || p.workers.isEmpty then (some (.ok []), p)
  else
    let c := (p.call query limit).run events
    (c.answer?, { p with workers := c.workers, calls := p.calls + 1 })

/-- Each request is served as soon as it is sent, and all replies are taken after that. -/
def prompt (shards : Nat) : List Event :=
  (List.range shards).flatMap (fun shard => [.send, .serve shard, .leave shard])
    ++ List.replicate (shards + 1) .take

def search (p : Pool) (query : Text) (limit : Nat) : Option (Except Error (List Hit)) × Pool :=
  searchUnder (prompt p.size) p query limit

def close (p : Pool) : Pool :=
  if p.closed then p else { p with workers := [], closed := true }

theorem close_close (p : Pool) : p.close.close = p.close := by
  by_cases h : p.closed <;> simp [close, h]

end RepoAtlas.Pool
