import RepoAtlas.Proofs.Pool.Sharding

/-! # Faults -/

namespace RepoAtlas.Pool

open Search List

inductive Fault
  | failing (failure : Failure)
  | deadly
  deriving DecidableEq

def Fault.outcome : Fault → Outcome
  | .failing failure => .failed failure
  | .deadly => .lost

/-- Where faults fire, by shard, query and limit. -/
abbrev Faults := Nat → Text → Nat → Option Fault

/-- What a shard makes of a query at which a fault fires or none does. -/
def outcomeOn (part : List Text) (query : Text) (limit : Nat) : Option Fault → Outcome
  | some fault => fault.outcome
  | none => .found ((Catalog.ofPaths part).search query limit)

/-- The backend that searches the catalog of a part except where a fault fires. -/
def Backend.faulty (part : List Text) (faults : Text → Nat → Option Fault) : Backend :=
  fun query limit => outcomeOn part query limit (faults query limit)

def backendsOver (parts : List (List Text)) (faults : Faults) (shard : Nat) : Backend :=
  .faulty (parts[shard]?.getD []) (faults shard)

@[simp] theorem result?_outcomeOn_eq_ok_iff {part : List Text} {query : Text} {limit : Nat}
    {fault? : Option Fault} {hits : List Hit} :
    (outcomeOn part query limit fault?).result? = some (.ok hits) ↔
      fault? = none ∧ hits = (Catalog.ofPaths part).search query limit := by
  cases fault? with
  | none =>
    simp only [outcomeOn, Outcome.result?_eq_ok_iff, Outcome.found.injEq, true_and]
    exact eq_comm
  | some fault => cases fault <;> simp [outcomeOn, Fault.outcome]

@[simp] theorem result?_outcomeOn_eq_error_iff {part : List Text} {query : Text} {limit : Nat}
    {fault? : Option Fault} {failure : Failure} :
    (outcomeOn part query limit fault?).result? = some (.error failure) ↔
      fault? = some (.failing failure) := by
  cases fault? with
  | none => simp [outcomeOn]
  | some fault => cases fault <;> simp [outcomeOn, Fault.outcome]

theorem outcomeOn_eq_lost_iff {part : List Text} {query : Text} {limit : Nat} {fault? : Option Fault} :
    outcomeOn part query limit fault? = .lost ↔ fault? = some .deadly := by
  cases fault? with
  | none => simp [outcomeOn]
  | some fault => cases fault <;> simp [outcomeOn, Fault.outcome]

def Worker.withBackend (w : Worker) (backend : Backend) : Worker :=
  { w with backend }

@[simp] theorem Worker.status_withBackend (w : Worker) (backend : Backend) :
    (w.withBackend backend).status = w.status := rfl

@[simp] theorem Worker.inbox_withBackend (w : Worker) (backend : Backend) :
    (w.withBackend backend).inbox = w.inbox := rfl

/-- Another backend gives a request that is under way another fate, and an answered one keeps its own. -/
theorem Worker.Stands.withBackend {w : Worker} {r : Request} {o : Outcome} {phase : Phase}
    (h : w.Stands r o phase) (backend : Backend) :
    ∃ o', (w.withBackend backend).Stands r o' phase ∧ (phase = .heard → o' = o) := by
  cases phase with
  | unsent => exact ⟨(w.withBackend backend).fate r, ⟨h.1, rfl⟩, by simp⟩
  | sent =>
    rcases h with ⟨hrun, stale, hinbox, hfresh, -⟩ | ⟨hstop, -⟩
    · exact ⟨_, Or.inl ⟨hrun, stale, hinbox, hfresh, rfl⟩, by simp⟩
    · exact ⟨.lost, Or.inr ⟨hstop, rfl⟩, by simp⟩
  | heard => exact ⟨o, h, fun _ => rfl⟩

namespace Call

variable {c : Call} {fates : List Outcome} {sent : Nat} {arrived : List Reply}

def withBackends (c : Call) (backends : Nat → Backend) : Call :=
  { c with workers := c.workers.mapIdx fun shard w => w.withBackend (backends shard) }

variable (backends : Nat → Backend)

@[simp] theorem stage_withBackends (c : Call) : (c.withBackends backends).stage = c.stage := rfl

@[simp] theorem mailbox_withBackends (c : Call) : (c.withBackends backends).mailbox = c.mailbox := rfl

@[simp] theorem request_withBackends (c : Call) : (c.withBackends backends).request = c.request := rfl

@[simp] theorem length_withBackends (c : Call) :
    (c.withBackends backends).workers.length = c.workers.length := by
  simp [withBackends]

theorem getElem?_withBackends (c : Call) (shard : Nat) :
    (c.withBackends backends).workers[shard]? =
      c.workers[shard]?.map (·.withBackend (backends shard)) := by
  simp [withBackends]

theorem exists_of_withBackends {shard : Nat} {w : Worker}
    (h : (c.withBackends backends).workers[shard]? = some w) :
    ∃ v, c.workers[shard]? = some v ∧ w = v.withBackend (backends shard) := by
  rw [getElem?_withBackends] at h
  obtain ⟨v, hv, rfl⟩ := Option.map_eq_some_iff.mp h
  exact ⟨v, hv, rfl⟩

@[simp] theorem remaining_withBackends (c : Call) : (c.withBackends backends).remaining = c.remaining := by
  have hwork : (c.withBackends backends).workers.map Worker.work = c.workers.map Worker.work := by
    apply ext_getElem?
    intro shard
    rw [getElem?_map, getElem?_map, getElem?_withBackends, Option.map_map]
    rfl
  rw [remaining, remaining, hwork, length_withBackends]
  rfl

theorem Tracks.withBackends (h : c.Tracks fates sent arrived) :
    ∃ fates', (c.withBackends backends).Tracks fates' sent arrived := by
  have hshard : ∀ i < c.workers.length, ∃ o', ∀ w o, c.workers[i]? = some w → fates[i]? = some o →
      (w.withBackend (backends i)).Stands c.request o' (.of sent (arrived.map Reply.shard) i) ∧
      (i ∈ arrived.map Reply.shard → o' = o) := by
    intro i hi
    have hw : c.workers[i]? = some c.workers[i] := List.getElem?_eq_getElem hi
    obtain ⟨o, ho⟩ := h.exists_fate hw
    obtain ⟨o', hstands, hsame⟩ := (h.stands hw ho).withBackend (backends i)
    refine ⟨o', ?_⟩
    intro v p hv hp
    obtain rfl : _ = v := Option.some.inj (hw.symm.trans hv)
    obtain rfl : o = p := Option.some.inj (ho.symm.trans hp)
    exact ⟨hstands, fun hmem => hsame (Phase.of_eq_heard_iff.mpr hmem)⟩
  obtain ⟨fates', hlen, hfates⟩ := exists_list_of_forall hshard
  refine ⟨fates', by rw [hlen, length_withBackends], ?_, ?_, h.nodup, h.bound⟩
  · intro i w o' hw ho'
    obtain ⟨v, hv, rfl⟩ := exists_of_withBackends backends hw
    obtain ⟨o, ho⟩ := h.exists_fate hv
    exact (hfates ho' v o hv ho).1
  · intro reply hreply
    have hi := h.shard_lt hreply
    have hw : c.workers[reply.shard]? = some c.workers[reply.shard] := List.getElem?_eq_getElem hi
    obtain ⟨o, ho, hresult⟩ := h.came reply hreply
    obtain ⟨o', ho'⟩ : ∃ o', fates'[reply.shard]? = some o' := ⟨_, List.getElem?_eq_getElem (hlen ▸ hi)⟩
    obtain rfl := (hfates ho' _ _ hw ho).2 (mem_map_of_mem hreply)
    exact ⟨o', ho', hresult⟩

/-- An unanswered call keeps its invariant, with other fates for the requests under way. -/
theorem Sound.withBackends (h : c.Sound fates arrived) (hopen : c.answer? = none) :
    ∃ fates', (c.withBackends backends).Sound fates' arrived := by
  cases h with
  | sending stage next_lt tracks waiting =>
    obtain ⟨fates', htracks⟩ := tracks.withBackends backends
    exact ⟨fates', .sending stage (by simpa using next_lt) htracks waiting⟩
  | gathering stage missing tracks waiting found =>
    obtain ⟨fates', htracks⟩ := tracks.withBackends backends
    exact ⟨fates', .gathering stage (by simpa using missing) (by simpa using htracks) waiting found⟩
  | answered stage verdict tracks => simp [answer?, stage] at hopen

end Call

end RepoAtlas.Pool
