import RepoAtlas.Pool.Basic

/-! # Launches: starts of a pool under way -/

namespace RepoAtlas.Pool

/-- Someone on the way to be a worker; `built?` is what the build has come to, once it is over. -/
structure Recruit where
  chunk : List Text
  built? : Option Built

def Recruit.worker? (r : Recruit) : Option Worker :=
  r.built?.bind Built.worker?

structure Report where
  shard : Nat
  result : Except Failure Unit

def Built.report (shard : Nat) : Built → Report
  | .ok _ => ⟨shard, .ok ()⟩
  | .error message => ⟨shard, .error (.panic message)⟩

inductive Launch.Stage
  | sending
  | gathering (ready : List Nat)
  | answered (answer : Except Error Pool)

/-- A start under way; `recruits` are those sent out so far, and `mailbox` holds the reports not yet
taken, from the oldest on. -/
structure Launch where
  chunks : List (List Text)
  recruits : List Recruit
  mailbox : List Report
  stage : Launch.Stage

namespace Launch

inductive Event
  | send
  | build (shard : Nat)
  | take
  deriving DecidableEq

/-- A launch at its beginning. Without shards it fails, and without files it is over at once. -/
def ofFiles (files : List Text) (shards : Nat) : Launch :=
  if shards = 0 then ⟨[], [], [], .answered (.error .noShards)⟩
  else if files = [] then ⟨[], [], [], .answered (.ok ⟨[], false, 0⟩)⟩
  else ⟨Pool.chunks shards files, [], [], .sending⟩

def answer? (l : Launch) : Option (Except Error Pool) :=
  match l.stage with
  | .answered a => some a
  | _ => none

def send (l : Launch) : Launch :=
  match l.chunks[l.recruits.length]? with
  | none => l
  | some chunk =>
    { l with
      recruits := l.recruits ++ [⟨chunk, none⟩]
      stage := if l.recruits.length + 1 < l.chunks.length then .sending else .gathering [] }

/-- What a build comes to may depend on the shard as well as on its chunk. -/
def finish (build : Nat → List Text → Built) (l : Launch) (shard : Nat) : Launch :=
  match l.recruits[shard]? with
  | some ⟨chunk, none⟩ =>
    { l with
      recruits := l.recruits.set shard ⟨chunk, some (build shard chunk)⟩
      mailbox := l.mailbox ++ [(build shard chunk).report shard] }
  | _ => l

def isAwaited (l : Launch) : Bool :=
  l.recruits.any fun r => r.built?.isNone

def firstMissing (l : Launch) (ready : List Nat) : Nat :=
  ((List.range l.recruits.length).find? fun shard => !ready.contains shard).getD 0

def pool (l : Launch) : Pool :=
  ⟨l.recruits.filterMap Recruit.worker?, false, 0⟩

/-- The caller takes the oldest report. A breakdown ends the launch at once, as does the news that no
report can come any more. -/
def take (l : Launch) (ready : List Nat) : Launch :=
  match l.mailbox with
  | [] =>
    if l.isAwaited then l
    else { l with stage := .answered (.error (.shardLost (l.firstMissing ready))) }
  | ⟨shard, .error failure⟩ :: rest =>
    { l with mailbox := rest, stage := .answered (.error (.shardFailed shard failure)) }
  | ⟨shard, .ok ()⟩ :: rest =>
    let ready := ready ++ [shard]
    { l with
      mailbox := rest
      stage := if ready.length < l.recruits.length then .gathering ready else .answered (.ok l.pool) }

/-- Nothing fixes the order of the events, and one that cannot happen changes nothing. -/
def step (build : Nat → List Text → Built) (l : Launch) : Event → Launch
  | .send =>
    match l.stage with
    | .sending => l.send
    | _ => l
  | .build shard => l.finish build shard
  | .take =>
    match l.stage with
    | .gathering ready => l.take ready
    | _ => l

def run (build : Nat → List Text → Built) (l : Launch) (events : List Event) : Launch :=
  events.foldl (step build) l

section

variable (build : Nat → List Text → Built) (l : Launch)

@[simp] theorem run_nil : l.run build [] = l := rfl

@[simp] theorem run_cons (e : Event) (events : List Event) :
    l.run build (e :: events) = (l.step build e).run build events := rfl

theorem run_append (first second : List Event) :
    l.run build (first ++ second) = (l.run build first).run build second :=
  List.foldl_append ..

end

end Launch

end RepoAtlas.Pool
