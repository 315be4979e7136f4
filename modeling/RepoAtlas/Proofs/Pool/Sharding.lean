import RepoAtlas.Pool.Engine
import RepoAtlas.Proofs.Pool.Steady
import RepoAtlas.Proofs.Pool.AllOrNothing

/-! # Sharding -/

namespace RepoAtlas

open Search List

namespace Search.Catalog

theorem isGraded_of_mem_flatten_search {parts : List (List Text)} {text : Text} {limit : Nat} {h : Hit}
    (hmem : h ∈ (parts.map fun part => (ofPaths part).search text limit).flatten) : h.IsGraded := by
  obtain ⟨found, hfound, hh⟩ := mem_flatten.mp hmem
  obtain ⟨part, -, rfl⟩ := mem_map.mp hfound
  exact isGraded_of_mem_search hh

/-- The best of what the parts find is what the whole finds. -/
theorem best_flatten_search (parts : List (List Text)) (text : Text) (limit : Nat) :
    best limit (parts.map fun part => (ofPaths part).search text limit).flatten =
      (ofPaths parts.flatten).search text limit := by
  have hwhole : (ofPaths parts.flatten).hits (Query.ofText text) =
      (parts.map fun part => (ofPaths part).hits (Query.ofText text)).flatten := by
    rw [hits, ofPaths, map_flatten, map_flatten, filter_flatten, map_map, map_map]
    rfl
  have hg : ∀ found ∈ parts.map fun part => (ofPaths part).hits (Query.ofText text),
      ∀ h ∈ found, h.IsGraded := by
    intro found hfound h hmem
    obtain ⟨part, -, rfl⟩ := mem_map.mp hfound
    exact isGraded_of_mem_hits hmem
  calc
    best limit (parts.map fun part => (ofPaths part).search text limit).flatten =
        best limit ((parts.map fun part => (ofPaths part).hits (Query.ofText text)).map
          (best limit)).flatten := by
      simp only [search_eq_best, map_map]
      rfl
    _ = best limit (parts.map fun part => (ofPaths part).hits (Query.ofText text)).flatten :=
      best_flatten_map_best hg limit
    _ = (ofPaths parts.flatten).search text limit := by
      rw [search_eq_best, hwhole]

/-- The order in which the parts are heard does not matter. -/
theorem best_eq_search_of_perm {parts : List (List Text)} {text : Text} {limit : Nat} {hits : List Hit}
    (h : hits ~ (parts.map fun part => (ofPaths part).search text limit).flatten) :
    best limit hits = (ofPaths parts.flatten).search text limit := by
  rw [← best_flatten_search]
  exact (best_perm (fun _ => isGraded_of_mem_flatten_search) limit h.symm).symm

theorem search_ofPaths_flatten_eq_nil {parts : List (List Text)} {limit : Nat}
    (h : limit = 0 ∨ parts = []) (text : Text) : (ofPaths parts.flatten).search text limit = [] := by
  rw [search_eq_best]
  rcases h with rfl | rfl
  · exact best_zero _
  · exact best_nil _

end Search.Catalog

namespace Pool

/-! ## Pools of catalogs -/

/-- The pool is open, its workers are steady, and each of them searches the catalog of a part. -/
structure Serves (p : Pool) (parts : List (List Text)) : Prop where
  opened : p.closed = false
  orderly : p.Orderly
  steady : ∀ w ∈ p.workers, w.Steady
  backends : p.workers.map Worker.backend = parts.map fun part => .ofCatalog (.ofPaths part)

theorem serves_of_parts (parts : List (List Text)) :
    Serves ⟨parts.map fun part => ⟨.ofCatalog (.ofPaths part), .running, []⟩, false, 0⟩ parts := by
  refine ⟨rfl, ?_, ?_, by simp⟩
  · intro w hw
    obtain ⟨part, -, rfl⟩ := mem_map.mp hw
    exact ⟨by simp, by simp⟩
  · intro w hw
    obtain ⟨part, -, rfl⟩ := mem_map.mp hw
    refine ⟨rfl, ?_⟩
    intro r hr
    cases hr

namespace Serves

variable {p : Pool} {parts : List (List Text)} {query : Text} {limit : Nat} {events : List Event}

theorem searchUnder (h : p.Serves parts) (events : List Event) (query : Text) (limit : Nat) :
    (p.searchUnder events query limit).2.Serves parts := by
  have horderly := h.orderly.searchUnder events query limit
  by_cases hempty : limit = 0 ∨ p.workers = []
  · have hsame : (p.searchUnder events query limit).2 = p := by
      simp [Pool.searchUnder, h.opened, hempty]
    rwa [hsame]
  · obtain ⟨hlimit, hshards⟩ := not_or.mp hempty
    have hsearch := searchUnder_of_open h.opened (Nat.pos_of_ne_zero hlimit) hshards events query
    rw [hsearch] at horderly ⊢
    refine ⟨h.opened, horderly, ?_, ?_⟩
    · exact Call.steady_run (c := p.call query limit) h.steady events
    · exact (Call.backends_run (p.call query limit) events).trans h.backends

theorem fates_eq (h : p.Serves parts) (query : Text) (limit : Nat) :
    p.fates query limit =
      (parts.map fun part => (Catalog.ofPaths part).search query limit).map .found := by
  calc
    p.fates query limit = p.workers.map (·.outcome (p.call query limit).request) := by
      exact map_congr_left fun w hw => (h.steady w hw).fate_eq _
    _ = (p.workers.map Worker.backend).map fun backend => backend query limit := by
      rw [map_map]
      rfl
    _ = (parts.map fun part => (Catalog.ofPaths part).search query limit).map .found := by
      rw [h.backends, map_map, map_map]
      rfl

theorem answer_eq (h : p.Serves parts) {answer : Except Error (List Hit)}
    (ha : (p.searchUnder events query limit).1 = some answer) :
    answer = .ok ((Catalog.ofPaths parts.flatten).search query limit) := by
  by_cases hempty : limit = 0 ∨ p.workers = []
  · have hparts : limit = 0 ∨ parts = [] := by
      refine hempty.imp_right fun hshards => ?_
      simpa [hshards] using h.backends.symm
    have hanswer : (p.searchUnder events query limit).1 = some (.ok []) := by
      simp [Pool.searchUnder, h.opened, hempty]
    rw [Catalog.search_ofPaths_flatten_eq_nil hparts]
    exact Option.some.inj (ha.symm.trans hanswer)
  · obtain ⟨hlimit, hshards⟩ := not_or.mp hempty
    replace hlimit := Nat.pos_of_ne_zero hlimit
    have hfates := h.fates_eq query limit
    have hfound : ∀ o ∈ p.fates query limit, ∃ hits, o = .found hits := by
      intro o ho
      rw [hfates] at ho
      obtain ⟨hits, -, rfl⟩ := mem_map.mp ho
      exact ⟨hits, rfl⟩
    have hcall := ha
    rw [searchUnder_of_open h.opened hlimit hshards] at hcall
    obtain ⟨hits, rfl⟩ := (h.orderly.sound_run hshards query limit events).exists_hits hcall hfound
    obtain ⟨lists, order, hlists, -, -, rfl, hperm⟩ :=
      h.orderly.exists_order h.opened hshards hlimit ha
    obtain rfl : parts.map (fun part => (Catalog.ofPaths part).search query limit) = lists :=
      map_injective_iff.mpr (fun _ _ => Outcome.found.inj) (hfates.symm.trans hlists)
    rw [Catalog.best_eq_search_of_perm hperm]

end Serves

/-! ## The start of a pool of catalogs -/

theorem firstBreakdown?_buildCatalog (parts : List (List Text)) (arrival : List Nat) :
    firstBreakdown? (parts.map buildCatalog) arrival = none := by
  apply findSome?_eq_none_iff.mpr
  intro shard hshard
  rw [getElem?_map]
  cases parts[shard]? <;> rfl

/-- The catalogs are built of consecutive parts of the files, and no order of the reports makes the
start fail. -/
theorem startUnder_buildCatalog (arrival : List Nat) (files : List Text) {shards : Nat}
    (h : 0 < shards) :
    startUnder arrival buildCatalog files shards =
      .ok ⟨(chunks shards files).map fun part => ⟨.ofCatalog (.ofPaths part), .running, []⟩, false, 0⟩ := by
  have hworkers : ((chunks shards files).map buildCatalog).filterMap Built.worker? =
      (chunks shards files).map fun part => ⟨.ofCatalog (.ofPaths part), .running, []⟩ := by
    rw [filterMap_map, ← filterMap_eq_map]
    rfl
  simp only [startUnder, if_neg (Nat.ne_of_gt h), firstBreakdown?_buildCatalog, hworkers]

def call? (p : Pool) (query : Text) (limit : Nat) : Option Call :=
  if p.closed ∨ limit = 0 ∨ p.workers = [] then none else some (p.call query limit)

end Pool

/-! ## Engines -/

namespace Engine

def call? (e : Engine) (query : Text) (limit : Nat) : Option Pool.Call :=
  match e with
  | .single _ => none
  | .pooled pool => pool.call? query limit

/-- The engine after earlier searches, each with its schedule, its query and its limit. -/
def after (e : Engine) (history : List (List Pool.Event × Text × Nat)) : Engine :=
  history.foldl (fun e s => (e.searchUnder s.1 s.2.1 s.2.2).2) e

/-- Every search of the engine comes to an answer, whatever the schedule, and the answer is what the
catalog finds. -/
structure AnswersAs (e : Engine) (catalog : Catalog) : Prop where
  bounded : ∀ query limit c, e.call? query limit = some c →
    ∃ bound, ∀ events, c.Busy events → events.length ≤ bound
  /-- A schedule after which nothing more can happen brings the answer. -/
  answers : ∀ query limit events, (∀ c, e.call? query limit = some c → (c.run events).Quiet) →
    (e.searchUnder events query limit).1 = some (.ok (catalog.search query limit))
  only : ∀ query limit events answer, (e.searchUnder events query limit).1 = some answer →
    answer = .ok (catalog.search query limit)

theorem answersAs_single (catalog : Catalog) : (Engine.single catalog).AnswersAs catalog := by
  refine ⟨?_, ?_, ?_⟩
  · intro query limit c hc
    cases hc
  · intro query limit events hquiet
    rfl
  · intro query limit events answer ha
    exact (Option.some.inj ha).symm

theorem answersAs_of_serves {p : Pool} {parts : List (List Text)} (h : p.Serves parts) :
    (Engine.pooled p).AnswersAs (.ofPaths parts.flatten) := by
  have honly : ∀ query limit events answer, (p.searchUnder events query limit).1 = some answer →
      answer = .ok ((Catalog.ofPaths parts.flatten).search query limit) :=
    fun _ _ _ _ ha => h.answer_eq ha
  refine ⟨?_, ?_, honly⟩
  · intro query limit c hc
    exact ⟨c.remaining, fun events hb => hb.length_le⟩
  · intro query limit events hquiet
    have hanswer : ∃ answer, (p.searchUnder events query limit).1 = some answer := by
      by_cases hempty : limit = 0 ∨ p.workers = []
      · exact ⟨_, by simp [Pool.searchUnder, h.opened, hempty]; rfl⟩
      · obtain ⟨hlimit, hshards⟩ := not_or.mp hempty
        apply h.orderly.answers h.opened hshards (Nat.pos_of_ne_zero hlimit)
        exact hquiet _ (by simp [call?, Pool.call?, h.opened, hempty])
    obtain ⟨answer, ha⟩ := hanswer
    rw [← honly query limit events answer ha]
    exact ha

theorem after_pooled {p : Pool} {parts : List (List Text)} (h : p.Serves parts)
    (history : List (List Pool.Event × Text × Nat)) :
    ∃ q, (Engine.pooled p).after history = .pooled q ∧ q.Serves parts := by
  induction history generalizing p with
  | nil => exact ⟨p, rfl, h⟩
  | cons s history ih => exact ih (h.searchUnder s.1 s.2.1 s.2.2)

theorem after_single (catalog : Catalog) (history : List (List Pool.Event × Text × Nat)) :
    (Engine.single catalog).after history = .single catalog := by
  induction history with
  | nil => rfl
  | cons s history ih => exact ih

theorem serves_of_startUnder {arrival : List Nat} {files : List Text} {shards : Nat} {p : Pool}
    (hshards : 0 < shards) (h : Pool.startUnder arrival Pool.buildCatalog files shards = .ok p) :
    p.Serves (Pool.chunks shards files) ∧ ∀ w ∈ p.workers, w.Steady ∧ w.inbox = [] := by
  rw [Pool.startUnder_buildCatalog arrival files hshards] at h
  obtain rfl : _ = p := Except.ok.inj h
  have hserves := Pool.serves_of_parts (Pool.chunks shards files)
  refine ⟨hserves, ?_⟩
  intro w hw
  refine ⟨hserves.steady w hw, ?_⟩
  obtain ⟨part, -, rfl⟩ := mem_map.mp hw
  rfl

theorem answersAs_of_startUnder {arrival : List Nat} {files : List Text} {shards : Nat} {p : Pool}
    (hshards : 0 < shards) (h : Pool.startUnder arrival Pool.buildCatalog files shards = .ok p) :
    (∀ query limit, (p.search query limit).1 =
      some (.ok ((Catalog.ofPaths files).search query limit))) ∧
    ∀ history, ((Engine.pooled p).after history).AnswersAs (.ofPaths files) := by
  obtain ⟨hserves, hidle⟩ := serves_of_startUnder hshards h
  have hparts : (Pool.chunks shards files).flatten = files := chunksOf_flatten _ _
  constructor
  · intro query limit
    obtain ⟨answer, ha⟩ := Pool.search_of_steady hidle query limit
    rw [ha, hserves.answer_eq ha, hparts]
  · intro history
    obtain ⟨q, hq, hserves⟩ := after_pooled hserves history
    have hanswers := answersAs_of_serves hserves
    rwa [hq, ← hparts]

theorem start_of_small {settings : SearchSettings} {cores : Nat} {files : List Text}
    (h : files.length < settings.splitFrom) :
    start settings cores files = .ok (.single (.ofPaths files)) := by
  rw [start, if_pos h]

theorem start_of_no_shards {settings : SearchSettings} {cores : Nat} {files : List Text}
    (h : settings.splitFrom ≤ files.length) (hshards : settings.shards? = some 0) :
    start settings cores files = .error .noShards := by
  rw [start, if_neg (Nat.not_lt.mpr h), hshards]
  rfl

theorem start_of_shards {settings : SearchSettings} (cores : Nat) {files : List Text}
    (h : settings.splitFrom ≤ files.length) (hshards : settings.shards? ≠ some 0) :
    ∃ shards arrival p, 0 < shards ∧ Pool.startUnder arrival Pool.buildCatalog files shards = .ok p ∧
      start settings cores files = .ok (.pooled p) := by
  have hpos : 0 < settings.shards?.getD (Pool.shardsFor cores) := by
    cases hs : settings.shards? with
    | none =>
      rw [Option.getD_none, Pool.shardsFor]
      omega
    | some shards =>
      apply Nat.pos_of_ne_zero
      rintro rfl
      exact hshards hs
  refine ⟨_, [], _, hpos, Pool.startUnder_buildCatalog [] files hpos, ?_⟩
  rw [start, if_neg (Nat.not_lt.mpr h), Pool.ofPaths, Pool.start,
    Pool.startUnder_buildCatalog _ files hpos]
  rfl

theorem start_fails_iff (settings : SearchSettings) (cores : Nat) (files : List Text) :
    (∃ error, start settings cores files = .error error) ↔
      settings.splitFrom ≤ files.length ∧ settings.shards? = some 0 := by
  constructor
  · rintro ⟨error, he⟩
    by_cases hsmall : files.length < settings.splitFrom
    · rw [start_of_small hsmall] at he
      cases he
    · refine ⟨Nat.not_lt.mp hsmall, ?_⟩
      by_contra hshards
      obtain ⟨shards, arrival, p, -, -, hp⟩ := start_of_shards cores (Nat.not_lt.mp hsmall) hshards
      rw [hp] at he
      cases he
  · intro ⟨hlarge, hshards⟩
    exact ⟨.noShards, start_of_no_shards hlarge hshards⟩

theorem answersAs_of_start {settings : SearchSettings} {cores : Nat} {files : List Text} {e : Engine}
    (h : start settings cores files = .ok e) :
    (∀ query limit, (e.search query limit).1 =
      some (.ok ((Catalog.ofPaths files).search query limit))) ∧
    ∀ history, (e.after history).AnswersAs (.ofPaths files) := by
  by_cases hsmall : files.length < settings.splitFrom
  · rw [start_of_small hsmall] at h
    obtain rfl : _ = e := Except.ok.inj h
    refine ⟨fun query limit => rfl, ?_⟩
    intro history
    rw [after_single]
    exact answersAs_single _
  · have hlarge := Nat.not_lt.mp hsmall
    have hshards : settings.shards? ≠ some 0 := by
      intro hzero
      rw [start_of_no_shards hlarge hzero] at h
      cases h
    obtain ⟨shards, arrival, p, hpos, hp, hstart⟩ := start_of_shards cores hlarge hshards
    obtain rfl : _ = e := Except.ok.inj (hstart.symm.trans h)
    exact answersAs_of_startUnder hpos hp

/-- A pool over files answers every search as their catalog does, however many shards there are and
whatever the order of the replies. The settings of an engine decide no more than whether it starts. -/
theorem search_eq_catalog_search (files : List Text) :
    (∀ shards, 0 < shards → ∀ arrival, ∃ p,
      Pool.startUnder arrival Pool.buildCatalog files shards = .ok p ∧
      (∀ query limit, (p.search query limit).1 =
        some (.ok ((Catalog.ofPaths files).search query limit))) ∧
      ∀ history, ((Engine.pooled p).after history).AnswersAs (.ofPaths files)) ∧
    ∀ settings cores,
      ((∃ error, start settings cores files = .error error) ↔
        settings.splitFrom ≤ files.length ∧ settings.shards? = some 0) ∧
      ∀ e, start settings cores files = .ok e →
        (∀ query limit, (e.search query limit).1 =
          some (.ok ((Catalog.ofPaths files).search query limit))) ∧
        ∀ history, (e.after history).AnswersAs (.ofPaths files) := by
  constructor
  · intro shards hshards arrival
    have hstart := Pool.startUnder_buildCatalog arrival files hshards
    exact ⟨_, hstart, answersAs_of_startUnder hshards hstart⟩
  · intro settings cores
    exact ⟨start_fails_iff settings cores files, fun e => answersAs_of_start⟩

/-- Two shards over three files, of which one is listed twice. -/
theorem search_eq_catalog_search_two_shards :
    0 < 2 ∧ ∃ p, Pool.startUnder [1, 0] Pool.buildCatalog [['b'], ['a'], ['b']] 2 = .ok p ∧
      p.size = 2 ∧ ∀ query limit, (p.search query limit).1 =
        some (.ok ((Catalog.ofPaths [['b'], ['a'], ['b']]).search query limit)) := by
  refine ⟨by decide, ?_⟩
  obtain ⟨p, hp, hsearch, -⟩ :=
    (search_eq_catalog_search [['b'], ['a'], ['b']]).1 2 (by decide) [1, 0]
  refine ⟨p, hp, ?_, hsearch⟩
  rw [Pool.startUnder_buildCatalog _ _ (by decide)] at hp
  obtain rfl : _ = p := Except.ok.inj hp
  rfl

end Engine

end RepoAtlas
