import RepoAtlas.Pool.Basic
import RepoAtlas.Proofs.Lists
import Mathlib.Algebra.Order.Floor.Div

/-! # What the start of a pool comes to -/

namespace RepoAtlas.Pool

open List

structure SharesOut (parts : List (List Text)) (files : List Text) (shards : Nat) : Prop where
  ne_nil : ∀ part ∈ parts, part ≠ []
  flatten : parts.flatten = files
  /-- There are as many parts as it takes when each is as large as the largest needs to be. -/
  count : parts.length = files.length ⌈/⌉ (files.length ⌈/⌉ shards)
  count_le : parts.length ≤ min shards files.length

theorem ceilDiv_ceilDiv_le {shards : Nat} (h : 0 < shards) (n : Nat) :
    n ⌈/⌉ (n ⌈/⌉ shards) ≤ min shards n := by
  rcases Nat.eq_zero_or_pos n with rfl | hn
  · simp
  · have hcover : n ≤ shards * (n ⌈/⌉ shards) := le_smul_ceilDiv h
    have hpos : 0 < n ⌈/⌉ shards := by
      by_contra hzero
      rw [Nat.eq_zero_of_not_pos hzero, Nat.mul_zero] at hcover
      omega
    apply Nat.le_min.mpr
    constructor
    case left =>
      rw [ceilDiv_le_iff_le_mul hpos, Nat.mul_comm]
      exact hcover
    case right =>
      rw [ceilDiv_le_iff_le_mul hpos]
      exact Nat.le_mul_of_pos_left n hpos

theorem sharesOut_chunks {shards : Nat} (h : 0 < shards) (files : List Text) :
    SharesOut (chunks shards files) files shards := by
  have hcount : (chunks shards files).length = files.length ⌈/⌉ (files.length ⌈/⌉ shards) := by
    rw [chunks, chunksOf_length, ← Nat.ceilDiv_eq_add_pred_div, ← Nat.ceilDiv_eq_add_pred_div]
    rcases Nat.eq_zero_or_pos (files.length ⌈/⌉ shards) with hzero | hpos
    · have hfiles : files.length ≤ shards * (files.length ⌈/⌉ shards) := le_smul_ceilDiv h
      rw [hzero, Nat.mul_zero] at hfiles
      rw [Nat.le_zero.mp hfiles]
      simp
    · rw [Nat.max_eq_right hpos]
  refine ⟨fun part hpart => chunksOf_ne_nil hpart, chunksOf_flatten _ _, hcount, ?_⟩
  rw [hcount]
  exact ceilDiv_ceilDiv_le h _

/-- Three shards for four files are one too many, since two shards hold two files each. -/
example : chunks 3 [['a'], ['b'], ['c'], ['d']] = [[['a'], ['b']], [['c'], ['d']]] := by decide

variable {built : List Built} {arrival : List Nat}

/-- What the start of a pool comes to when the builds have come to `built` and the shards report in the
order `arrival`. -/
def settle (built : List Built) (arrival : List Nat) : Except Error Pool :=
  match firstBreakdown? built arrival with
  | some e => .error e
  | none => .ok ⟨built.filterMap Built.worker?, false, 0⟩

theorem startUnder_eq_settle {shards : Nat} (h : 0 < shards) (arrival : List Nat)
    (build : List Text → Built) (files : List Text) :
    startUnder arrival build files shards = settle ((chunks shards files).mapIdx fun _ => build) arrival := by
  have hbuilt : ((chunks shards files).mapIdx fun _ => build) = (chunks shards files).map build := by
    apply ext_getElem?
    intro i
    rw [getElem?_mapIdx, getElem?_map]
  rw [startUnder, if_neg (Nat.ne_of_gt h), hbuilt]
  rfl

theorem firstBreakdown?_eq_none (h : ∀ shard ∈ arrival, ∃ backend, built[shard]? = some (.ok backend)) :
    firstBreakdown? built arrival = none := by
  apply findSome?_eq_none_iff.mpr
  intro shard hshard
  obtain ⟨backend, hb⟩ := h shard hshard
  rw [hb]
  rfl

theorem settle_of_ready (h : ∀ shard ∈ arrival, ∃ backend, built[shard]? = some (.ok backend)) :
    settle built arrival = .ok ⟨built.filterMap Built.worker?, false, 0⟩ := by
  rw [settle, firstBreakdown?_eq_none h]

theorem settle_of_breakdown {ready rest : List Nat} {shard : Nat} {message : Option Text}
    (hready : ∀ i ∈ ready, ∃ backend, built[i]? = some (.ok backend))
    (hshard : built[shard]? = some (.error message)) :
    settle built (ready ++ shard :: rest) = .error (.shardFailed shard (.panic message)) := by
  have hfirst : firstBreakdown? built (ready ++ shard :: rest) =
      some (.shardFailed shard (.panic message)) := by
    have hnone : ready.findSome? (fun i => built[i]?.bind (Built.breakdown? i)) = none :=
      firstBreakdown?_eq_none hready
    rw [firstBreakdown?, findSome?_append, hnone, findSome?_cons, hshard]
    rfl
  rw [settle, hfirst]

theorem exists_backends_of_no_breakdown (hreports : ∀ shard < built.length, shard ∈ arrival)
    (h : firstBreakdown? built arrival = none) : ∃ backends : List Backend, built = backends.map .ok := by
  have hshard : ∀ i < built.length, ∃ backend : Backend, built[i]? = some (.ok backend) := by
    intro i hi
    have hbuilt : built[i]? = some built[i] := List.getElem?_eq_getElem hi
    have hnone := findSome?_eq_none_iff.mp h i (hreports i hi)
    rw [hbuilt, Option.bind_some] at hnone
    cases hb : built[i] with
    | ok backend => exact ⟨backend, by rw [hbuilt, hb]⟩
    | error message =>
      rw [hb] at hnone
      cases hnone
  obtain ⟨backends, hlen, hbackends⟩ := exists_list_of_forall hshard
  refine ⟨backends, ext_getElem? fun i => ?_⟩
  rw [getElem?_map]
  cases hb : backends[i]? with
  | none =>
    rw [getElem?_eq_none_iff] at hb
    rw [Option.map_none, getElem?_eq_none_iff]
    omega
  | some backend => rw [Option.map_some, hbackends hb]

theorem filterMap_worker?_map_ok (backends : List Backend) :
    (backends.map .ok).filterMap Built.worker? = backends.map fun backend => ⟨backend, .running, []⟩ := by
  rw [filterMap_map, ← filterMap_eq_map]
  rfl

inductive Settled (built : List Built) : Except Error Pool → Prop
  | failed {shard message} (breakdown : built[shard]? = some (.error message)) :
      Settled built (.error (.shardFailed shard (.panic message)))
  | ready {backends : List Backend} (all : built = backends.map .ok) :
      Settled built (.ok ⟨backends.map fun backend => ⟨backend, .running, []⟩, false, 0⟩)

/-- The reports settle the start as the builds justify, in whatever order the shards make them. -/
theorem settled_settle (h : arrival ~ range built.length) : Settled built (settle built arrival) := by
  cases hfirst : firstBreakdown? built arrival with
  | some e =>
    obtain ⟨shard, -, hshard⟩ := exists_of_findSome?_eq_some hfirst
    obtain ⟨b, hb, he⟩ := Option.bind_eq_some_iff.mp hshard
    cases b with
    | ok backend => cases he
    | error message =>
      obtain rfl : Error.shardFailed shard (.panic message) = e := Option.some.inj he
      rw [settle, hfirst]
      exact .failed hb
  | none =>
    have hreports : ∀ shard < built.length, shard ∈ arrival := fun shard hlt =>
      h.mem_iff.mpr (mem_range.mpr hlt)
    obtain ⟨backends, hbackends⟩ := exists_backends_of_no_breakdown hreports hfirst
    rw [settle, hfirst, hbackends, filterMap_worker?_map_ok]
    exact .ready rfl

variable {build : Nat → List Text → Built} {files : List Text} {shards : Nat} {answer : Except Error Pool}

def BreaksDown (build : Nat → List Text → Built) (parts : List (List Text)) (shard : Nat)
    (message : Option Text) : Prop :=
  ∃ chunk, parts[shard]? = some chunk ∧ build shard chunk = .error message

theorem getElem?_mapIdx_build_eq_error {parts : List (List Text)} {shard : Nat} {message : Option Text} :
    (parts.mapIdx build)[shard]? = some (.error message) ↔ BreaksDown build parts shard message := by
  rw [getElem?_mapIdx, Option.map_eq_some_iff]
  rfl

/-- The answer to the start of a pool tells faithfully what became of it. -/
structure Faithful (build : Nat → List Text → Built) (files : List Text) (shards : Nat)
    (answer : Except Error Pool) : Prop where
  noShards_iff : answer = .error .noShards ↔ shards = 0
  empty : 0 < shards → files = [] → answer = .ok ⟨[], false, 0⟩
  fails_iff : 0 < shards →
    ((∃ e, answer = .error e) ↔ ∃ shard message, BreaksDown build (chunks shards files) shard message)
  /-- An error names a shard whose own build broke down, and its message. -/
  error : 0 < shards → ∀ e, answer = .error e → ∃ shard message,
    BreaksDown build (chunks shards files) shard message ∧ e = .shardFailed shard (.panic message)
  size : ∀ p, answer = .ok p → p.size = (chunks shards files).length
  /-- Each worker of a pool runs the backend that was built of its own chunk. -/
  workers : ∀ p, answer = .ok p → ∀ shard chunk, (chunks shards files)[shard]? = some chunk →
    ∃ backend, build shard chunk = .ok backend ∧ p.workers[shard]? = some ⟨backend, .running, []⟩

theorem faithful_noShards (build : Nat → List Text → Built) (files : List Text) :
    Faithful build files 0 (.error .noShards) where
  noShards_iff := by simp
  empty h := absurd h (Nat.lt_irrefl 0)
  fails_iff h := absurd h (Nat.lt_irrefl 0)
  error h := absurd h (Nat.lt_irrefl 0)
  size _ h := nomatch h
  workers _ h := nomatch h

theorem faithful_of_breakdown (hshards : 0 < shards) {shard : Nat} {message : Option Text}
    (h : BreaksDown build (chunks shards files) shard message) :
    Faithful build files shards (.error (.shardFailed shard (.panic message))) := by
  constructor
  case noShards_iff => simp [Nat.ne_of_gt hshards]
  case empty =>
    rintro - rfl
    obtain ⟨chunk, hchunk, -⟩ := h
    cases hchunk
  case fails_iff => exact fun _ => ⟨fun _ => ⟨shard, message, h⟩, fun _ => ⟨_, rfl⟩⟩
  case error =>
    intro _ e he
    exact ⟨shard, message, h, (Except.error.inj he).symm⟩
  case size => exact fun _ hp => nomatch hp
  case workers => exact fun _ hp => nomatch hp

theorem faithful_of_backends (hshards : 0 < shards) {backends : List Backend}
    (h : (chunks shards files).mapIdx build = backends.map .ok) :
    Faithful build files shards
      (.ok ⟨backends.map fun backend => ⟨backend, .running, []⟩, false, 0⟩) := by
  have hlen : backends.length = (chunks shards files).length := by
    simpa using (congrArg length h).symm
  have hbuilt : ∀ shard chunk, (chunks shards files)[shard]? = some chunk →
      ∃ backend, build shard chunk = .ok backend ∧ backends[shard]? = some backend := by
    intro shard chunk hchunk
    have hshard := congrArg (·[shard]?) h
    simp only [getElem?_mapIdx, hchunk, Option.map_some, getElem?_map] at hshard
    obtain ⟨backend, hbackend, hok⟩ := Option.map_eq_some_iff.mp hshard.symm
    exact ⟨backend, hok.symm, hbackend⟩
  constructor
  case noShards_iff => simp [Nat.ne_of_gt hshards]
  case empty =>
    rintro - rfl
    rw [length_eq_zero_iff.mp hlen]
    rfl
  case fails_iff =>
    intro _
    constructor
    · rintro ⟨e, he⟩
      cases he
    · rintro ⟨shard, message, chunk, hchunk, hbroken⟩
      obtain ⟨backend, hok, -⟩ := hbuilt shard chunk hchunk
      cases hbroken.symm.trans hok
  case error => exact fun _ _ he => nomatch he
  case size =>
    rintro p ⟨⟩
    rw [size, length_map, hlen]
  case workers =>
    rintro p ⟨⟩ shard chunk hchunk
    obtain ⟨backend, hok, hbackend⟩ := hbuilt shard chunk hchunk
    exact ⟨backend, hok, by rw [getElem?_map, hbackend]; rfl⟩

theorem Settled.faithful (hshards : 0 < shards)
    (h : Settled ((chunks shards files).mapIdx build) answer) : Faithful build files shards answer := by
  cases h with
  | failed breakdown => exact faithful_of_breakdown hshards (getElem?_mapIdx_build_eq_error.mp breakdown)
  | ready all => exact faithful_of_backends hshards all

end RepoAtlas.Pool
