import RepoAtlas.Proofs.Pool.Moves
import RepoAtlas.Proofs.Pool.Start

/-! # Pools through their history -/

namespace RepoAtlas.Pool

open Search List

/-! ## Searches amid faults -/

/-- The answer of a search whose call is played by the moves, and the pool after it. -/
def searchAmid (parts : List (List Text)) (moves : List Move) (p : Pool) (query : Text) (limit : Nat) :
    Option (Except Error (List Hit)) × Pool :=
  match p.call? query limit with
  | none => p.searchUnder [] query limit
  | some c =>
    let c := c.play parts moves
    (c.answer?, { p with workers := c.workers, calls := p.calls + 1 })

variable {parts : List (List Text)} {files : List Text} {p : Pool} {moves : List Move} {query : Text}
variable {limit : Nat}

theorem call?_eq_some_iff {c : Call} :
    p.call? query limit = some c ↔
      p.closed = false ∧ 0 < limit ∧ p.workers ≠ [] ∧ c = p.call query limit := by
  simp only [call?]
  split
  · next h =>
    constructor
    · intro hc
      cases hc
    · rintro ⟨hopen, hlimit, hshards, -⟩
      rcases h with h | h | h
      · simp [hopen] at h
      · omega
      · exact absurd h hshards
  · next h =>
    obtain ⟨hopen, hlimit, hshards⟩ : ¬ p.closed = true ∧ ¬ limit = 0 ∧ ¬ p.workers = [] := by
      simpa only [not_or] using h
    simp only [Option.some.injEq]
    constructor
    · rintro rfl
      exact ⟨by simpa using hopen, by omega, hshards, rfl⟩
    · rintro ⟨-, -, -, rfl⟩
      rfl

theorem searchAmid_of_closed (h : p.closed = true) (parts : List (List Text)) (moves : List Move)
    (query : Text) (limit : Nat) : p.searchAmid parts moves query limit = (some (.error .closed), p) := by
  simp [searchAmid, call?, searchUnder, h]

theorem searchAmid_of_idle (hopen : p.closed = false) (h : limit = 0 ∨ p.workers = []) :
    p.searchAmid parts moves query limit = (some (.ok []), p) := by
  have hnone : p.call? query limit = none := by simp [call?, h]
  simp [searchAmid, hnone, searchUnder, hopen, h]

theorem searchAmid_of_open (hopen : p.closed = false) (hlimit : 0 < limit) (hshards : p.workers ≠ []) :
    p.searchAmid parts moves query limit =
      (((p.call query limit).play parts moves).answer?,
        { p with workers := ((p.call query limit).play parts moves).workers, calls := p.calls + 1 }) := by
  have hcall : p.call? query limit = some (p.call query limit) :=
    call?_eq_some_iff.mpr ⟨hopen, hlimit, hshards, rfl⟩
  simp [searchAmid, hcall]

theorem idle_or_open (p : Pool) (limit : Nat) :
    (limit = 0 ∨ p.workers = []) ∨ 0 < limit ∧ p.workers ≠ [] := by
  by_cases hidle : limit = 0 ∨ p.workers = []
  · exact Or.inl hidle
  · obtain ⟨hlimit, hshards⟩ := not_or.mp hidle
    exact Or.inr ⟨Nat.pos_of_ne_zero hlimit, hshards⟩

/-! ## Faults that stay -/

def Call.Backed (backends : Nat → Backend) (c : Call) : Prop :=
  ∀ shard w, c.workers[shard]? = some w → w.backend = backends shard

namespace Call

variable {c : Call} {backends : Nat → Backend}

theorem backed_withBackends (backends : Nat → Backend) (c : Call) :
    (c.withBackends backends).Backed backends := by
  intro shard w hw
  obtain ⟨v, -, rfl⟩ := exists_of_withBackends backends hw
  rfl

theorem Backed.withBackends_eq (h : c.Backed backends) : c.withBackends backends = c := by
  have hworkers : (c.withBackends backends).workers = c.workers := by
    apply ext_getElem?
    intro shard
    rw [getElem?_withBackends]
    cases hw : c.workers[shard]? with
    | none => rfl
    | some w =>
      rw [Option.map_some, ← h shard w hw]
      rfl
  calc
    c.withBackends backends = { c with workers := (c.withBackends backends).workers } := rfl
    _ = c := by rw [hworkers]

theorem Backed.step (h : c.Backed backends) (e : Event) : (c.step e).Backed backends := by
  intro shard w' hw'
  obtain ⟨w, hw, hc⟩ := exists_change hw'
  rw [hc.backend_eq]
  exact h shard w hw

/-- Moves under faults that stay are plain events. -/
theorem Backed.play_eq_run {faults : Faults} (h : c.Backed (backendsOver parts faults))
    (events : List Event) : c.play parts (events.map fun e => ⟨faults, e⟩) = c.run events := by
  induction events generalizing c with
  | nil => rfl
  | cons e events ih =>
    have hmove : c.move parts ⟨faults, e⟩ = c.step e := by rw [move, h.withBackends_eq]
    rw [map_cons, play_cons, hmove, ih (h.step e), run_cons]

theorem backed_play (moves : List Move) {faults : Faults} (h : c.Backed (backendsOver parts faults)) :
    ∃ faults, (c.play parts moves).Backed (backendsOver parts faults) := by
  induction moves generalizing c faults with
  | nil => exact ⟨faults, h⟩
  | cons m moves ih => exact ih ((backed_withBackends _ c).step m.event)

end Call

/-! ## Pools in use -/

inductive Use
  | search (query : Text) (limit : Nat) (moves : List Move)
  | close

def use (parts : List (List Text)) (p : Pool) : Use → Pool
  | .search query limit moves => (p.searchAmid parts moves query limit).2
  | .close => p.close

def after (parts : List (List Text)) (p : Pool) (history : List Use) : Pool :=
  history.foldl (use parts) p

/-- The pool is open, with one worker for each part. -/
structure Ready (parts : List (List Text)) (p : Pool) : Prop where
  opened : p.closed = false
  orderly : p.Orderly
  width : p.workers.length = parts.length
  backed : ∃ faults, ∀ shard w, p.workers[shard]? = some w → w.backend = backendsOver parts faults shard

namespace Ready

theorem searchAmid (h : p.Ready parts) (moves : List Move) (query : Text) (limit : Nat) :
    (p.searchAmid parts moves query limit).2.Ready parts := by
  rcases p.idle_or_open limit with hidle | ⟨hlimit, hshards⟩
  · rwa [searchAmid_of_idle h.opened hidle]
  · rw [searchAmid_of_open h.opened hlimit hshards]
    obtain ⟨faults, hbacked⟩ := h.backed
    refine ⟨h.opened, ?_, ?_, ?_⟩
    · exact Call.orderly_play parts (h.orderly.call query limit) moves
    · exact (Call.length_play parts (p.call query limit) moves).trans h.width
    · exact Call.backed_play (c := p.call query limit) moves hbacked

theorem use (h : p.Ready parts) {u : Use} (hu : u ≠ .close) : (p.use parts u).Ready parts := by
  cases u with
  | search query limit moves => exact h.searchAmid moves query limit
  | close => exact absurd rfl hu

theorem after (h : p.Ready parts) {history : List Use} (hopen : .close ∉ history) :
    (p.after parts history).Ready parts := by
  induction history generalizing p with
  | nil => exact h
  | cons u history ih =>
    have hu : u ≠ .close := fun hu => hopen (hu ▸ mem_cons_self)
    exact ih (h.use hu) fun hmem => hopen (mem_cons_of_mem u hmem)

end Ready

/-! ## The start -/

theorem exists_faults {backends : List Backend} (h : ∀ i < backends.length, ∃ faults,
    backends[i]? = some (.faulty (parts[i]?.getD []) faults)) :
    ∃ faults : Faults, ∀ i backend, backends[i]? = some backend → backend = backendsOver parts faults i := by
  obtain ⟨faults, hlen, hfaults⟩ := exists_list_of_forall h
  refine ⟨fun shard => faults[shard]?.getD fun _ _ => none, ?_⟩
  intro i backend hb
  obtain ⟨hi, -⟩ := List.getElem?_eq_some_iff.mp hb
  obtain ⟨fault, hfault⟩ : ∃ fault, faults[i]? = some fault := ⟨_, List.getElem?_eq_getElem (hlen ▸ hi)⟩
  rw [backendsOver, hfault, Option.getD_some]
  exact Option.some.inj (hb.symm.trans (hfaults hfault))

theorem ready_of_startUnder {arrival : List Nat} {build : List Text → Built} {shards : Nat}
    (hreports : ∀ shard < (chunks shards files).length, shard ∈ arrival)
    (hbuild : ∀ chunk backend, build chunk = .ok backend → ∃ faults, backend = .faulty chunk faults)
    (hstart : startUnder arrival build files shards = .ok p) : p.Ready (chunks shards files) := by
  have horderly := orderly_of_startUnder hstart
  simp only [startUnder] at hstart
  split at hstart
  · cases hstart
  · split at hstart
    · cases hstart
    · next hnone =>
      obtain ⟨backends, hbackends⟩ := exists_backends_of_no_breakdown (by simpa using hreports) hnone
      have hlen : backends.length = (chunks shards files).length := by
        simpa using (congrArg length hbackends).symm
      have hfaulty : ∀ i < backends.length, ∃ faults,
          backends[i]? = some (.faulty ((chunks shards files)[i]?.getD []) faults) := by
        intro i hi
        obtain ⟨chunk, hchunk⟩ : ∃ chunk, (chunks shards files)[i]? = some chunk :=
          ⟨_, List.getElem?_eq_getElem (hlen ▸ hi)⟩
        have hbuilt : some (build chunk) = some (.ok backends[i]) := by
          rw [← Option.map_some, ← hchunk, ← getElem?_map, hbackends, getElem?_map,
            List.getElem?_eq_getElem hi, Option.map_some]
        obtain ⟨faults, hfaults⟩ := hbuild _ _ (Option.some.inj hbuilt)
        exact ⟨faults, by rw [hchunk, Option.getD_some, ← hfaults, List.getElem?_eq_getElem hi]⟩
      obtain ⟨faults, hfaults⟩ := exists_faults hfaulty
      rw [hbackends, filterMap_worker?_map_ok] at hstart
      obtain rfl : _ = p := Except.ok.inj hstart
      refine ⟨rfl, horderly, by simpa using hlen, faults, ?_⟩
      intro shard w hw
      rw [getElem?_map] at hw
      obtain ⟨backend, hb, rfl⟩ := Option.map_eq_some_iff.mp hw
      exact hfaults shard backend hb

/-! ## What a pool in use answers -/

def request (p : Pool) (query : Text) (limit : Nat) : Request :=
  (p.call query limit).request

structure Shut (parts : List (List Text)) (p : Pool) : Prop where
  closed : p.closed = true
  size : p.size = 0
  refuses : ∀ moves query limit, p.searchAmid parts moves query limit = (some (.error .closed), p)
  plain : ∀ events query limit, p.searchUnder events query limit = (some (.error .closed), p)
  close : p.close = p

/-- What an open pool over the parts of the files answers, whatever it was asked before. -/
structure AnswersAfresh (parts : List (List Text)) (files : List Text) (p : Pool) : Prop where
  idle : ∀ moves query limit, limit = 0 ∨ p.size = 0 →
    p.searchAmid parts moves query limit = (some (.ok []), p)
  bounded : ∀ query limit c, p.call? query limit = some c →
    ∃ bound, ∀ moves, c.Astir parts moves → moves.length ≤ bound
  completes : ∀ query limit c, p.call? query limit = some c → ∃ moves, (c.play parts moves).Still parts
  answers : ∀ moves query limit,
    (∀ c, p.call? query limit = some c → (c.play parts moves).Still parts) →
      ∃ answer, (p.searchAmid parts moves query limit).1 = some answer
  /-- Without a fault at its own requests, and while all workers run, the answer is what the catalog of all
  files finds. -/
  finds : ∀ moves query limit answer, (p.searchAmid parts moves query limit).1 = some answer →
    (∀ shard fault, ¬ (p.call query limit).Serves parts moves shard (p.request query limit) (some fault)) →
    (∀ w ∈ (p.searchAmid parts moves query limit).2.workers, w.status = .running) →
      answer = .ok ((Catalog.ofPaths files).search query limit)
  /-- A worker stops only by a deadly fault at a request that it serves. -/
  stops : ∀ moves query limit (shard : Nat) (w w' : Worker), p.workers[shard]? = some w →
    w.status = .running → (p.searchAmid parts moves query limit).2.workers[shard]? = some w' →
      w'.status ≠ .running → ∃ r, (p.call query limit).Serves parts moves shard r (some .deadly)
  /-- A worker that has stopped stays so, whatever the pool is asked next. -/
  stays : ∀ later, .close ∉ later → ∀ (shard : Nat) (w : Worker), p.workers[shard]? = some w →
    w.status ≠ .running → ∃ w', (p.after parts later).workers[shard]? = some w' ∧ w'.status ≠ .running
  /-- After a worker has stopped, every answer is the loss of such a worker or a failure of a shard at its
  request of this very search. -/
  cripples : ∀ moves query limit answer, 0 < limit → (∃ w ∈ p.workers, w.status ≠ .running) →
    (p.searchAmid parts moves query limit).1 = some answer →
      (∃ shard w, answer = .error (.shardLost shard) ∧
        (p.searchAmid parts moves query limit).2.workers[shard]? = some w ∧ w.status ≠ .running) ∨
      ∃ shard failure, answer = .error (.shardFailed shard failure) ∧
        (p.call query limit).Serves parts moves shard (p.request query limit) (some (.failing failure))
  /-- Searches without a change of faults are among them. -/
  plain : ∃ faults, ∀ events query limit,
    p.searchAmid parts (events.map fun e => ⟨faults, e⟩) query limit = p.searchUnder events query limit

/-! ## What the shards make of a search -/

namespace Call

variable {c : Call}

theorem Hears.hits_eq {reply : Reply} (h : c.Hears parts moves reply)
    (hfound : ∃ hits, reply.result = .ok hits) :
    reply.hits = (Catalog.ofPaths (parts[reply.shard]?.getD [])).search c.query c.limit := by
  obtain ⟨fault?, -, hresult⟩ := h
  obtain ⟨shard, result⟩ := reply
  obtain ⟨hits, rfl⟩ := hfound
  exact (result?_outcomeOn_eq_ok_iff.mp hresult).2

theorem Hears.serves_failing {shard : Nat} {failure : Failure}
    (h : c.Hears parts moves ⟨shard, .error failure⟩) :
    c.Serves parts moves shard c.request (some (.failing failure)) := by
  obtain ⟨fault?, hserves, hresult⟩ := h
  rwa [result?_outcomeOn_eq_error_iff.mp hresult] at hserves

theorem Hears.running {reply : Reply} (h : c.Hears parts moves reply) {w : Worker}
    (hw : c.workers[reply.shard]? = some w) : w.status = .running := by
  obtain ⟨fault?, ⟨before, faults, after, v, rest, -, hv, hr, -⟩, -⟩ := h
  by_contra hs
  obtain ⟨w', hw', hs'⟩ := stopped_play parts before hw hs
  obtain rfl : v = w' := Option.some.inj (hv.symm.trans hw')
  exact hs' hr

theorem best_hits_of_hears {arrived : List Reply} (all : arrived.map Reply.shard ~ range parts.length)
    (found : ∀ reply ∈ arrived, ∃ hits, reply.result = .ok hits)
    (heard : ∀ reply ∈ arrived, c.Hears parts moves reply) :
    best c.limit (arrived.flatMap Reply.hits) =
      (Catalog.ofPaths parts.flatten).search c.query c.limit := by
  let search := fun part => (Catalog.ofPaths part).search c.query c.limit
  have hhits : arrived.flatMap Reply.hits =
      (arrived.map Reply.shard).flatMap fun shard => search (parts[shard]?.getD []) := by
    rw [flatMap_map, flatMap_def, flatMap_def]
    congr 1
    exact map_congr_left fun reply hmem => (heard reply hmem).hits_eq (found reply hmem)
  have hperm : arrived.flatMap Reply.hits ~ (parts.map search).flatten := by
    rw [hhits, ← flatMap_def, ← flatMap_getD_range parts [] search]
    exact all.flatMap_right _
  exact Catalog.best_eq_search_of_perm hperm

end Call

namespace Ready

theorem held (h : p.Ready parts) (hshards : p.workers ≠ []) (moves : List Move) (query : Text)
    (limit : Nat) :
    ((p.call query limit).play parts moves).Held ((p.call query limit).Hears parts moves) := by
  have hstart : (p.call query limit).Held ((p.call query limit).Hears parts moves) :=
    .pending rfl (h.orderly.sound hshards query limit) (by simp)
  exact hstart.play fun _ => id

theorem justified (h : p.Ready parts) (hlimit : 0 < limit) (hshards : p.workers ≠ [])
    {answer : Except Error (List Hit)} (ha : (p.searchAmid parts moves query limit).1 = some answer) :
    ((p.call query limit).play parts moves).Justified ((p.call query limit).Hears parts moves) answer := by
  rw [searchAmid_of_open h.opened hlimit hshards] at ha
  exact (h.held hshards moves query limit).justified ha

theorem finds (h : p.Ready parts) {answer : Except Error (List Hit)}
    (ha : (p.searchAmid parts moves query limit).1 = some answer)
    (hclean : ∀ shard fault,
      ¬ (p.call query limit).Serves parts moves shard (p.request query limit) (some fault))
    (hrun : ∀ w ∈ (p.searchAmid parts moves query limit).2.workers, w.status = .running) :
    answer = .ok ((Catalog.ofPaths parts.flatten).search query limit) := by
  rcases p.idle_or_open limit with hidle | ⟨hlimit, hshards⟩
  · have hparts : limit = 0 ∨ parts = [] := by
      refine hidle.imp_right fun hshards => ?_
      simpa [hshards] using h.width.symm
    rw [searchAmid_of_idle h.opened hidle] at ha
    rw [Catalog.search_ofPaths_flatten_eq_nil hparts]
    exact (Option.some.inj ha).symm
  · have hjustified := h.justified hlimit hshards ha
    rw [searchAmid_of_open h.opened hlimit hshards] at hrun
    cases hjustified with
    | merged all found heard =>
      have hsame : ((p.call query limit).play parts moves).limit = (p.call query limit).limit :=
        congrArg Request.limit (Call.request_play parts (p.call query limit) moves)
      rw [Call.length_play, workers_call, h.width] at all
      rw [hsame, Call.best_hits_of_hears all found heard]
      rfl
    | failed heard => exact absurd heard.serves_failing (hclean _ _)
    | lost worker stopped => exact absurd (hrun _ (mem_of_getElem? worker)) stopped

theorem cripples (h : p.Ready parts) (hlimit : 0 < limit) (hstopped : ∃ w ∈ p.workers, w.status ≠ .running)
    {answer : Except Error (List Hit)} (ha : (p.searchAmid parts moves query limit).1 = some answer) :
    (∃ shard w, answer = .error (.shardLost shard) ∧
      (p.searchAmid parts moves query limit).2.workers[shard]? = some w ∧ w.status ≠ .running) ∨
    ∃ shard failure, answer = .error (.shardFailed shard failure) ∧
      (p.call query limit).Serves parts moves shard (p.request query limit) (some (.failing failure)) := by
  obtain ⟨w, hw, hs⟩ := hstopped
  have hshards : p.workers ≠ [] := ne_nil_of_mem hw
  have hjustified := h.justified hlimit hshards ha
  rw [searchAmid_of_open h.opened hlimit hshards]
  cases hjustified with
  | merged all found heard =>
    obtain ⟨shard, hshard⟩ := mem_iff_getElem?.mp hw
    obtain ⟨hlt, -⟩ := List.getElem?_eq_some_iff.mp hshard
    rw [Call.length_play, workers_call] at all
    obtain ⟨reply, hreply, rfl⟩ := mem_map.mp (all.mem_iff.mpr (mem_range.mpr hlt))
    exact absurd ((heard reply hreply).running hshard) hs
  | failed heard => exact Or.inr ⟨_, _, rfl, heard.serves_failing⟩
  | lost worker stopped => exact Or.inl ⟨_, _, rfl, worker, stopped⟩

theorem stops (h : p.Ready parts) {shard : Nat} {w w' : Worker} (hw : p.workers[shard]? = some w)
    (hr : w.status = .running) (hw' : (p.searchAmid parts moves query limit).2.workers[shard]? = some w')
    (hs : w'.status ≠ .running) :
    ∃ r, (p.call query limit).Serves parts moves shard r (some .deadly) := by
  rcases p.idle_or_open limit with hidle | ⟨hlimit, hshards⟩
  · rw [searchAmid_of_idle h.opened hidle] at hw'
    obtain rfl : w = w' := Option.some.inj (hw.symm.trans hw')
    exact absurd hr hs
  · rw [searchAmid_of_open h.opened hlimit hshards] at hw'
    exact Call.serves_deadly_of_stopped (c := p.call query limit) hw hr hw' hs

theorem stays (h : p.Ready parts) {later : List Use} (hopen : .close ∉ later) {shard : Nat} {w : Worker}
    (hw : p.workers[shard]? = some w) (hs : w.status ≠ .running) :
    ∃ w', (p.after parts later).workers[shard]? = some w' ∧ w'.status ≠ .running := by
  induction later generalizing p w with
  | nil => exact ⟨w, hw, hs⟩
  | cons u later ih =>
    have hu : u ≠ .close := fun hu => hopen (hu ▸ mem_cons_self)
    have hstep : ∃ w', (p.use parts u).workers[shard]? = some w' ∧ w'.status ≠ .running := by
      cases u with
      | close => exact absurd rfl hu
      | search query limit moves =>
        rcases p.idle_or_open limit with hidle | ⟨hlimit, hshards⟩
        · exact ⟨w, by rw [Pool.use, searchAmid_of_idle h.opened hidle, hw], hs⟩
        · rw [Pool.use, searchAmid_of_open h.opened hlimit hshards]
          exact Call.stopped_play (c := p.call query limit) parts moves hw hs
    obtain ⟨w', hw', hs'⟩ := hstep
    exact ih (h.use hu) (fun hmem => hopen (mem_cons_of_mem u hmem)) hw' hs'

theorem answers (h : p.Ready parts)
    (hstill : ∀ c, p.call? query limit = some c → (c.play parts moves).Still parts) :
    ∃ answer, (p.searchAmid parts moves query limit).1 = some answer := by
  rcases p.idle_or_open limit with hidle | ⟨hlimit, hshards⟩
  · exact ⟨_, by rw [searchAmid_of_idle h.opened hidle]⟩
  · have horderly := Call.orderly_play parts (h.orderly.call query limit) moves
    rw [searchAmid_of_open h.opened hlimit hshards]
    exact (h.held hshards moves query limit).answered_of_still (fun w hw => (horderly w hw).empty)
      (hstill _ (call?_eq_some_iff.mpr ⟨h.opened, hlimit, hshards, rfl⟩))

theorem plain (h : p.Ready parts) : ∃ faults, ∀ events query limit,
    p.searchAmid parts (events.map fun e => ⟨faults, e⟩) query limit = p.searchUnder events query limit := by
  obtain ⟨faults, hbacked⟩ := h.backed
  refine ⟨faults, ?_⟩
  intro events query limit
  rcases p.idle_or_open limit with hidle | ⟨hlimit, hshards⟩
  · rw [searchAmid_of_idle h.opened hidle]
    simp [Pool.searchUnder, h.opened, hidle]
  · have hcall : (p.call query limit).Backed (backendsOver parts faults) := hbacked
    rw [searchAmid_of_open h.opened hlimit hshards, searchUnder_of_open h.opened hlimit hshards,
      hcall.play_eq_run]

theorem answersAfresh (h : p.Ready parts) (hparts : parts.flatten = files) :
    p.AnswersAfresh parts files where
  idle _ _ _ hidle := searchAmid_of_idle h.opened (hidle.imp_right length_eq_zero_iff.mp)
  bounded _ _ c _ := ⟨c.remaining, fun _ hastir => hastir.length_le⟩
  completes _ _ c _ := c.exists_still_play parts
  answers _ _ _ := h.answers
  finds _ _ _ _ ha hclean hrun := hparts ▸ h.finds ha hclean hrun
  stops _ _ _ _ _ _ := h.stops
  stays _ hopen _ _ := h.stays hopen
  cripples _ _ _ _ hlimit hstopped := h.cripples hlimit hstopped
  plain := h.plain

end Ready

/-! ## Closing -/

theorem Ready.shut_close (h : p.Ready parts) : p.close.Shut parts := by
  have hclose : p.close = { p with workers := [], closed := true } := by simp [close, h.opened]
  rw [hclose]
  exact ⟨rfl, rfl, searchAmid_of_closed rfl parts, fun _ _ _ => rfl, by simp [close]⟩

theorem Shut.use_eq (h : p.Shut parts) (u : Use) : p.use parts u = p := by
  cases u with
  | search query limit moves => rw [use, h.refuses]
  | close => exact h.close

theorem Shut.after_eq (h : p.Shut parts) (history : List Use) : p.after parts history = p := by
  induction history with
  | nil => rfl
  | cons u history ih =>
    have hcons : p.after parts (u :: history) = (p.use parts u).after parts history := rfl
    rw [hcons, h.use_eq, ih]

theorem Ready.shut_after (h : p.Ready parts) {history : List Use} (hclose : .close ∈ history) :
    (p.after parts history).Shut parts := by
  induction history generalizing p with
  | nil => cases hclose
  | cons u history ih =>
    by_cases hu : u = .close
    · subst hu
      have hcons : p.after parts (.close :: history) = p.close.after parts history := rfl
      rw [hcons, h.shut_close.after_eq]
      exact h.shut_close
    · exact ih (h.use hu) ((mem_cons.mp hclose).resolve_left (Ne.symm hu))

/-! ## Any history -/

/-- A pool that was started with faults forgets its history: once closed it refuses everything, and until
then it keeps its size and answers every search afresh, but for the workers that have stopped. -/
theorem answers_afresh {arrival : List Nat} {build : List Text → Built} {shards : Nat}
    (hreports : ∀ shard < (chunks shards files).length, shard ∈ arrival)
    (hbuild : ∀ chunk backend, build chunk = .ok backend → ∃ faults, backend = .faulty chunk faults)
    (hstart : startUnder arrival build files shards = .ok p) (history : List Use) :
    (.close ∈ history → (p.after (chunks shards files) history).Shut (chunks shards files)) ∧
    (.close ∉ history →
      (p.after (chunks shards files) history).size = p.size ∧
      (p.after (chunks shards files) history).closed = false ∧
      (p.after (chunks shards files) history).AnswersAfresh (chunks shards files) files) := by
  have hready := ready_of_startUnder hreports hbuild hstart
  refine ⟨hready.shut_after, ?_⟩
  intro hopen
  have hafter := hready.after hopen
  exact ⟨hafter.width.trans hready.width.symm, hafter.opened, hafter.answersAfresh (chunksOf_flatten _ _)⟩

def flakyFaults : Faults
  | 0, ['x'], _ => some (.failing (.error [['g', 'o', 'n', 'e']]))
  | _, _, _ => none

def buildFlaky (chunk : List Text) : Built :=
  .ok (.faulty chunk (flakyFaults (if chunk = [['a']] then 0 else 1)))

/-- A search for `x` that fails before the second shard has served its request. -/
def failFast : Use :=
  .search ['x'] 5 ([.send, .send, .serve 0, .take].map fun e => ⟨flakyFaults, e⟩)

/-- The request that the failed search left behind does not show in the next answer. -/
theorem answers_afresh_after_failure :
    ∃ p, startUnder [1, 0] buildFlaky [['a'], ['b']] 2 = .ok p ∧
      ((p.after [[['a']], [['b']]] [failFast]).workers.map fun w => w.inbox.length) = [0, 1] ∧
      ∀ moves answer,
        ((p.after [[['a']], [['b']]] [failFast]).searchAmid [[['a']], [['b']]] moves ['b'] 5).1 = some answer →
        (∀ shard fault, ¬ ((p.after [[['a']], [['b']]] [failFast]).call ['b'] 5).Serves [[['a']], [['b']]]
          moves shard ((p.after [[['a']], [['b']]] [failFast]).request ['b'] 5) (some fault)) →
        (∀ w ∈ ((p.after [[['a']], [['b']]] [failFast]).searchAmid [[['a']], [['b']]] moves ['b'] 5).2.workers,
          w.status = .running) →
        answer = .ok ((Catalog.ofPaths [['a'], ['b']]).search ['b'] 5) := by
  have hreports : ∀ shard < (chunks 2 [['a'], ['b']]).length, shard ∈ [1, 0] := by decide
  have hbuild : ∀ chunk backend, buildFlaky chunk = .ok backend →
      ∃ faults, backend = .faulty chunk faults := by
    intro chunk backend h
    exact ⟨_, (Except.ok.inj h).symm⟩
  refine ⟨_, rfl, rfl, ?_⟩
  intro moves answer
  have hopen : Use.close ∉ [failFast] := by simp [failFast]
  exact ((answers_afresh hreports hbuild rfl [failFast]).2 hopen).2.2.finds moves ['b'] 5 answer

end RepoAtlas.Pool
