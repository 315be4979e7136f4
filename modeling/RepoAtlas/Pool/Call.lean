import RepoAtlas.Pool.Basic

/-! # Calls: searches of a pool under way -/

namespace RepoAtlas.Pool

open Search

structure Reply where
  shard : Nat
  result : Except Failure (List Hit)

inductive Stage
  /-- It has sent the request to the shards before `next`. -/
  | sending (next : Nat)
  /-- It has sent all requests, and has taken the hits of the shards `replied`. -/
  | gathering (replied : List Nat) (hits : List Hit)
  | answered (answer : Except Error (List Hit))

/-- A search under way; `mailbox` holds the replies not yet taken, from the oldest on. -/
structure Call where
  ticket : Nat
  query : Text
  limit : Nat
  workers : List Worker
  mailbox : List Reply
  stage : Stage

inductive Event
  | send
  | serve (shard : Nat)
  | leave (shard : Nat)
  | take
  deriving DecidableEq

namespace Call

def answer? (c : Call) : Option (Except Error (List Hit)) :=
  match c.stage with
  | .answered a => some a
  | _ => none

def request (c : Call) : Request :=
  ⟨c.ticket, c.query, c.limit⟩

/-- The caller sends the request to a shard; a worker that has ended cannot be sent to. -/
def send (c : Call) (shard : Nat) : Call :=
  match c.workers[shard]? with
  | none => c
  | some w =>
    if w.status = .ended then { c with stage := .answered (.error (.shardLost shard)) }
    else
      { c with
        workers := c.workers.set shard { w with inbox := w.inbox ++ [c.request] }
        stage := if shard + 1 < c.workers.length then .sending (shard + 1) else .gathering [] [] }

/-- A worker puts its result into the mailbox of the call that asked for it. -/
def deliver (c : Call) (ticket : Nat) (reply : Reply) : Call :=
  if ticket = c.ticket then { c with mailbox := c.mailbox ++ [reply] } else c

def serve (c : Call) (shard : Nat) : Call :=
  match c.workers[shard]? with
  | some ⟨backend, .running, r :: rest⟩ =>
    let after (status : Status) : Call :=
      { c with workers := c.workers.set shard ⟨backend, status, rest⟩ }
    match backend r.query r.limit with
    | .found hits => (after .running).deliver r.ticket ⟨shard, .ok hits⟩
    | .failed failure => (after .running).deliver r.ticket ⟨shard, .error failure⟩
    | .lost => after .ending
  | _ => c

def leave (c : Call) (shard : Nat) : Call :=
  match c.workers[shard]? with
  | some ⟨backend, .ending, _⟩ => { c with workers := c.workers.set shard ⟨backend, .ended, []⟩ }
  | _ => c

def isAwaited (c : Call) : Bool :=
  c.workers.any fun w => w.inbox.any fun r => r.ticket == c.ticket

def firstMissing (c : Call) (replied : List Nat) : Nat :=
  ((List.range c.workers.length).find? fun shard => !replied.contains shard).getD 0

/-- The caller takes the oldest reply. An error ends the call at once, as does the news that no reply can
come any more. -/
def take (c : Call) (replied : List Nat) (hits : List Hit) : Call :=
  match c.mailbox with
  | [] =>
    if c.isAwaited then c
    else { c with stage := .answered (.error (.shardLost (c.firstMissing replied))) }
  | ⟨shard, .error failure⟩ :: rest =>
    { c with mailbox := rest, stage := .answered (.error (.shardFailed shard failure)) }
  | ⟨shard, .ok found⟩ :: rest =>
    let replied := replied ++ [shard]
    let hits := hits ++ found
    { c with
      mailbox := rest
      stage :=
        if replied.length < c.workers.length then .gathering replied hits
        else .answered (.ok (best c.limit hits)) }

/-- Nothing fixes the order of the events, and one that cannot happen changes nothing. -/
def step (c : Call) : Event → Call
  | .serve shard => c.serve shard
  | .leave shard => c.leave shard
  | .send =>
    match c.stage with
    | .sending next => c.send next
    | _ => c
  | .take =>
    match c.stage with
    | .gathering replied hits => c.take replied hits
    | _ => c

def run (c : Call) (events : List Event) : Call :=
  events.foldl step c

@[simp] theorem run_nil (c : Call) : c.run [] = c := rfl

@[simp] theorem run_cons (c : Call) (e : Event) (events : List Event) :
    c.run (e :: events) = (c.step e).run events := rfl

theorem run_append (c : Call) (first second : List Event) :
    c.run (first ++ second) = (c.run first).run second :=
  List.foldl_append ..

theorem answer?_step {c : Call} {a : Except Error (List Hit)} (h : c.answer? = some a) (e : Event) :
    (c.step e).answer? = some a := by
  have hs : c.stage = .answered a := by
    unfold answer? at h
    split at h
    · next hs => rw [hs]; simpa using h
    · cases h
  have keep : ∀ d : Call, d.stage = c.stage → d.answer? = some a := by
    intro d hd
    simp [answer?, hd, hs]
  cases e with
  | send => simp [step, hs, h]
  | take => simp [step, hs, h]
  | serve shard =>
    apply keep
    simp only [step, serve, deliver]
    repeat' split
    all_goals rfl
  | leave shard =>
    apply keep
    simp only [step, leave]
    split <;> rfl

end Call

end RepoAtlas.Pool
