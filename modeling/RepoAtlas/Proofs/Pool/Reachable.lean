import RepoAtlas.Proofs.Pool.Progress

/-! # Pools in use -/

namespace RepoAtlas.Pool

open Search List

def withBackends (p : Pool) (backends : Nat → Backend) : Pool :=
  { p with workers := p.workers.mapIdx fun shard w => { w with backend := backends shard } }

/-- The pools that come about. A backend need not be a fixed function of its query, since it may keep a
state of its own; what it does in one call is arbitrary. -/
inductive Reachable : Pool → Prop
  | started {arrival build files shards p} (h : startUnder arrival build files shards = .ok p) :
      Reachable p
  | searched {p} (h : Reachable p) (events : List Event) (query : Text) (limit : Nat) :
      Reachable (p.searchUnder events query limit).2
  | altered {p} (h : Reachable p) (backends : Nat → Backend) : Reachable (p.withBackends backends)
  | closed {p} (h : Reachable p) : Reachable p.close

/-- The worker holds requests of the first `calls` calls only, and none once it has ended. -/
structure Worker.Orderly (calls : Nat) (w : Worker) : Prop where
  early : ∀ r ∈ w.inbox, r.ticket < calls
  empty : w.status = .ended → w.inbox = []

theorem Worker.Orderly.mono {calls calls' : Nat} {w : Worker} (h : w.Orderly calls)
    (hle : calls ≤ calls') : w.Orderly calls' :=
  ⟨fun r hr => Nat.lt_of_lt_of_le (h.early r hr) hle, h.empty⟩

theorem Worker.Orderly.change {calls : Nat} {r : Request} {w w' : Worker} (h : w.Orderly calls)
    (hr : r.ticket < calls) (hc : w.Change r w') : w'.Orderly calls := by
  cases hc with
  | same => exact h
  | received receiving =>
    refine ⟨?_, fun he => absurd he receiving⟩
    intro s hs
    rcases mem_append.mp hs with hs | hs
    · exact h.early s hs
    · rwa [mem_singleton.mp hs]
  | served running inbox =>
    refine ⟨fun s hs => h.early s (by rw [inbox]; exact mem_cons_of_mem _ hs), ?_⟩
    intro he
    simp [running] at he
  | stopped running inbox =>
    exact ⟨fun s hs => h.early s (by rw [inbox]; exact mem_cons_of_mem _ hs), by simp⟩
  | left => exact ⟨by simp, by simp⟩

theorem Call.orderly_run {c : Call} (h : ∀ w ∈ c.workers, w.Orderly (c.ticket + 1))
    (events : List Event) : ∀ w ∈ (c.run events).workers, w.Orderly (c.ticket + 1) := by
  induction events generalizing c with
  | nil => exact h
  | cons e events ih =>
    have hticket : (c.step e).ticket = c.ticket := congrArg Request.ticket (c.request_step e)
    rw [run_cons, ← hticket]
    apply ih
    intro w' hw'
    obtain ⟨i, hi⟩ := mem_iff_getElem?.mp hw'
    obtain ⟨w, hw, hc⟩ := exists_change hi
    rw [hticket]
    exact (h w (mem_of_getElem? hw)).change (Nat.lt_succ_self _) hc

def Orderly (p : Pool) : Prop :=
  ∀ w ∈ p.workers, w.Orderly p.calls

theorem Orderly.call {p : Pool} (h : p.Orderly) (query : Text) (limit : Nat) :
    ∀ w ∈ (p.call query limit).workers, w.Orderly ((p.call query limit).ticket + 1) :=
  fun w hw => (h w hw).mono (Nat.le_succ _)

theorem Orderly.searchUnder {p : Pool} (h : p.Orderly) (events : List Event) (query : Text)
    (limit : Nat) : (p.searchUnder events query limit).2.Orderly := by
  unfold Pool.searchUnder
  split
  · exact h
  · split
    · exact h
    · exact Call.orderly_run (h.call query limit) events

theorem orderly_of_startUnder {arrival : List Nat} {build : List Text → Built} {files : List Text}
    {shards : Nat} {p : Pool} (h : startUnder arrival build files shards = .ok p) : p.Orderly := by
  unfold startUnder at h
  split at h
  · cases h
  · simp only at h
    split at h
    · cases h
    · cases h
      intro w hw
      obtain ⟨built, -, hb⟩ := mem_filterMap.mp hw
      cases built with
      | error message => simp [Built.worker?] at hb
      | ok backend =>
        obtain rfl : _ = w := Option.some.inj hb
        exact ⟨by simp, by simp⟩

theorem Reachable.orderly {p : Pool} (h : p.Reachable) : p.Orderly := by
  induction h with
  | started h => exact orderly_of_startUnder h
  | searched _ events query limit ih => exact ih.searchUnder events query limit
  | altered _ backends ih =>
    intro w hw
    obtain ⟨i, hi, rfl⟩ := mem_mapIdx.mp hw
    have hold := ih _ (getElem_mem hi)
    exact ⟨hold.early, hold.empty⟩
  | closed _ ih =>
    unfold close
    split
    · exact ih
    · intro w hw
      cases hw

@[simp] theorem workers_call (p : Pool) (query : Text) (limit : Nat) :
    (p.call query limit).workers = p.workers := rfl

@[simp] theorem mailbox_call (p : Pool) (query : Text) (limit : Nat) :
    (p.call query limit).mailbox = [] := rfl

def fates (p : Pool) (query : Text) (limit : Nat) : List Outcome :=
  p.workers.map (·.fate (p.call query limit).request)

/-- A call begins with its invariant, before any reply has arrived. -/
theorem Orderly.sound {p : Pool} (h : p.Orderly) (hshards : p.workers ≠ []) (query : Text)
    (limit : Nat) : (p.call query limit).Sound (p.fates query limit) [] := by
  refine .sending rfl (length_pos_iff.mpr hshards) ⟨by simp [fates], ?_, by simp, by simp, by simp⟩ rfl
  intro i w o hw ho
  rw [workers_call] at hw
  have hfate : w.fate (p.call query limit).request = o := by
    simpa [fates, hw] using ho
  have hphase : Phase.of 0 (([] : List Reply).map Reply.shard) i = .unsent := by
    simp [Phase.of]
  rw [hphase]
  exact ⟨fun s hs => Nat.ne_of_lt ((h w (mem_of_getElem? hw)).early s hs), hfate⟩

theorem searchUnder_of_open {p : Pool} (hopen : p.closed = false) {limit : Nat} (hlimit : 0 < limit)
    (hshards : p.workers ≠ []) (events : List Event) (query : Text) :
    p.searchUnder events query limit =
      (((p.call query limit).run events).answer?,
        { p with workers := ((p.call query limit).run events).workers, calls := p.calls + 1 }) := by
  simp [searchUnder, hopen, Nat.ne_of_gt hlimit, hshards]

end RepoAtlas.Pool
