import RepoAtlas.Proofs.Pool.Reachable

/-! # All or nothing -/

namespace RepoAtlas.Pool

open Search List

/-- The backend gave up on the request or broke down, and the message says how: the causes one after the
other, or the text of the breakdown if there is one. -/
def Worker.FailsWith (w : Worker) (r : Request) (message : Text) : Prop :=
  (∃ causes, w.outcome r = .failed (.error causes) ∧ message = Text.join ": ".toList causes) ∨
  (∃ text, w.outcome r = .failed (.panic (some text)) ∧ message = "panicked: ".toList ++ text) ∨
  (w.outcome r = .failed (.panic none) ∧ message = "panicked".toList)

theorem Worker.failsWith_message {w : Worker} {r : Request} {failure : Failure}
    (h : w.outcome r = .failed failure) : w.FailsWith r failure.message := by
  cases failure with
  | error causes => exact Or.inl ⟨causes, h, rfl⟩
  | panic text =>
    cases text with
    | some text => exact Or.inr (Or.inl ⟨text, h, rfl⟩)
    | none => exact Or.inr (Or.inr ⟨h, rfl⟩)

theorem getElem?_fates {p : Pool} {query : Text} {limit shard : Nat} {o : Outcome}
    (h : (p.fates query limit)[shard]? = some o) :
    ∃ w, p.workers[shard]? = some w ∧ w.fate (p.call query limit).request = o := by
  simpa [fates] using h

/-- What a search may answer when its call runs through the events. -/
structure AllOrNothing (p : Pool) (query : Text) (limit : Nat) (events : List Event) : Prop where
  answers : ((p.call query limit).run events).Quiet →
    ∃ answer, (p.searchUnder events query limit).1 = some answer
  /-- Hits come only from all shards together. Each has replied with its own, and they are merged in the
  order in which the replies arrived. -/
  merged : ∀ hits, (p.searchUnder events query limit).1 = some (.ok hits) →
    ∃ (lists : List (List Hit)) (order : List Nat), p.fates query limit = lists.map .found ∧
      order ~ range p.size ∧
      (p.call query limit).arrivals events =
        order.map (fun shard => ⟨shard, .ok (lists[shard]?.getD [])⟩) ∧
      hits = best limit (order.flatMap fun shard => lists[shard]?.getD []) ∧
      -- the order of arrival shows in the grades alone
      hits.map Hit.regrade = (best limit lists.flatten).map Hit.regrade
  /-- A shard that fails, or is or gets lost, leaves no room for hits. -/
  refused : ∀ o ∈ p.fates query limit, (∀ found, o ≠ .found found) →
    ∀ answer, (p.searchUnder events query limit).1 = some answer → ∃ e, answer = .error e
  /-- A shard is said to have failed only after its reply in this call said so. -/
  failed : ∀ shard failure,
    (p.searchUnder events query limit).1 = some (.error (.shardFailed shard failure)) →
      ⟨shard, .error failure⟩ ∈ (p.call query limit).arrivals events ∧
      ∃ w, p.workers[shard]? = some w ∧ w.FailsWith (p.call query limit).request failure.message
  /-- A shard is said to be lost only when its worker has stopped without a reply. -/
  lost : ∀ shard, (p.searchUnder events query limit).1 = some (.error (.shardLost shard)) →
    (p.fates query limit)[shard]? = some .lost ∧
    (∀ result, ⟨shard, result⟩ ∉ (p.call query limit).arrivals events) ∧
    ∃ w, (p.searchUnder events query limit).2.workers[shard]? = some w ∧ w.status ≠ .running
  errors : ∀ e, (p.searchUnder events query limit).1 = some (.error e) →
    (∃ shard failure, e = .shardFailed shard failure) ∨ ∃ shard, e = .shardLost shard

theorem Orderly.sound_run {p : Pool} (h : p.Orderly) (hshards : p.workers ≠ []) (query : Text)
    (limit : Nat) (events : List Event) :
    ((p.call query limit).run events).Sound (p.fates query limit) ((p.call query limit).arrivals events) :=
  (h.sound hshards query limit).run events

theorem Orderly.answers {p : Pool} (h : p.Orderly) (hopen : p.closed = false)
    (hshards : p.workers ≠ []) {query : Text} {limit : Nat} (hlimit : 0 < limit) {events : List Event}
    (hquiet : ((p.call query limit).run events).Quiet) :
    ∃ answer, (p.searchUnder events query limit).1 = some answer := by
  have hsound := h.sound_run hshards query limit events
  have horderly := Call.orderly_run (h.call query limit) events
  obtain ⟨answer, hstage⟩ := hsound.answered_of_quiet (fun w hw => (horderly w hw).empty) hquiet
  rw [searchUnder_of_open hopen hlimit hshards]
  exact ⟨answer, Call.answer?_eq_some_iff.mpr hstage⟩

theorem limit_run (p : Pool) (query : Text) (limit : Nat) (events : List Event) :
    ((p.call query limit).run events).limit = limit :=
  congrArg Request.limit (Call.request_run (p.call query limit) events)

/-- The hits of an answer are those of all shards, in the order in which the replies arrived. -/
theorem Orderly.exists_order {p : Pool} (h : p.Orderly) (hopen : p.closed = false)
    (hshards : p.workers ≠ []) {query : Text} {limit : Nat} (hlimit : 0 < limit) {events : List Event}
    {hits : List Hit} (ha : (p.searchUnder events query limit).1 = some (.ok hits)) :
    ∃ (lists : List (List Hit)) (order : List Nat), p.fates query limit = lists.map .found ∧
      order ~ range p.size ∧
      (p.call query limit).arrivals events =
        order.map (fun shard => ⟨shard, .ok (lists[shard]?.getD [])⟩) ∧
      hits = best limit (order.flatMap fun shard => lists[shard]?.getD []) ∧
      (order.flatMap fun shard => lists[shard]?.getD []) ~ lists.flatten := by
  rw [searchUnder_of_open hopen hlimit hshards] at ha
  obtain ⟨lists, order, hfates, horder, harrivals, hhits⟩ :=
    (h.sound_run hshards query limit events).exists_order ha
  rw [Call.length_run, workers_call] at horder
  rw [limit_run] at hhits
  refine ⟨lists, order, hfates, horder, harrivals, hhits, ?_⟩
  have hwidth : lists.length = p.workers.length := by
    simpa [fates] using (congrArg length hfates).symm
  have hflat := flatMap_getD_range lists [] id
  rw [hwidth, flatMap_id] at hflat
  exact (horder.flatMap_right _).trans (Perm.of_eq hflat)

/-- No schedule of a search goes on for ever, each comes to an answer, and every answer is all or
nothing. -/
theorem search_all_or_nothing {p : Pool} (hp : p.Reachable) (hopen : p.closed = false)
    (hshards : p.workers ≠ []) (query : Text) {limit : Nat} (hlimit : 0 < limit) :
    (∃ bound, ∀ events, (p.call query limit).Busy events → events.length ≤ bound) ∧
    ∀ events, AllOrNothing p query limit events := by
  have horderly := hp.orderly
  refine ⟨⟨(p.call query limit).remaining, fun events hb => hb.length_le⟩, ?_⟩
  intro events
  have hsound := horderly.sound_run hshards query limit events
  obtain ⟨sent, tracks⟩ := hsound.tracks
  have hsearch := searchUnder_of_open hopen hlimit hshards events query
  refine ⟨horderly.answers hopen hshards hlimit, ?merged, ?refused, ?failed, ?lost, ?errors⟩
  case merged =>
    intro hits ha
    obtain ⟨lists, order, hfates, horder, harrivals, hhits, hperm⟩ :=
      horderly.exists_order hopen hshards hlimit ha
    exact ⟨lists, order, hfates, horder, harrivals, hhits,
      hhits ▸ map_regrade_best_perm limit hperm⟩
  case refused =>
    intro o ho hno answer ha
    rw [hsearch] at ha
    exact hsound.exists_error ha ho hno
  case failed =>
    intro shard failure ha
    rw [hsearch] at ha
    cases hsound.verdict ha with
    | failed heard =>
      obtain ⟨o, ho, hresult⟩ := tracks.came _ heard
      obtain rfl := Outcome.result?_eq_error_iff.mp hresult
      obtain ⟨w, hw, hfate⟩ := getElem?_fates ho
      exact ⟨heard, w, hw, Worker.failsWith_message (Worker.outcome_eq_of_fate hfate (by simp))⟩
  case lost =>
    intro shard ha
    rw [hsearch] at ha ⊢
    cases hsound.verdict ha with
    | lost fate stopped =>
      refine ⟨fate, ?_, stopped⟩
      intro result hreply
      obtain ⟨o, ho, hresult⟩ := tracks.came _ hreply
      obtain rfl : Outcome.lost = o := Option.some.inj (fate.symm.trans ho)
      cases hresult
  case errors =>
    intro e ha
    rw [hsearch] at ha
    cases hsound.verdict ha with
    | failed heard => exact Or.inl ⟨_, _, rfl⟩
    | lost fate stopped => exact Or.inr ⟨_, rfl⟩

-- Of two hits that differ in nothing but their grades, the one that arrived first is kept.
example :
    let finding (grade : Grade) : Worker := ⟨fun _ _ => .found [⟨['a'], ⟨1, grade⟩⟩], .running, []⟩
    let p : Pool := ⟨[finding .exact, finding .fuzzy], false, 0⟩
    (p.searchUnder [.send, .send, .serve 0, .serve 1, .take, .take] ['a'] 1).1 =
        some (.ok [⟨['a'], ⟨1, .exact⟩⟩]) ∧
      (p.searchUnder [.send, .send, .serve 1, .serve 0, .take, .take] ['a'] 1).1 =
        some (.ok [⟨['a'], ⟨1, .fuzzy⟩⟩]) := by
  cbv

def unevenBackends : Nat → Backend
  | 0 => fun _ _ => .found [⟨['a'], ⟨3, .exact⟩⟩]
  | _ => fun _ _ => .failed (.error [['g', 'o', 'n', 'e']])

def unevenPool : Pool :=
  withBackends ⟨[⟨.ofCatalog (.ofPaths [['a']]), .running, []⟩, ⟨.ofCatalog (.ofPaths [['b']]), .running, []⟩],
    false, 0⟩ unevenBackends

theorem reachable_unevenPool : unevenPool.Reachable := by
  have hstart : startUnder [1, 0] buildCatalog [['a'], ['b']] 2 =
      .ok ⟨[⟨.ofCatalog (.ofPaths [['a']]), .running, []⟩,
        ⟨.ofCatalog (.ofPaths [['b']]), .running, []⟩], false, 0⟩ := rfl
  exact (Reachable.started hstart).altered unevenBackends

/-- One failing shard keeps the hit of the other from being an answer, under every schedule. -/
theorem search_all_or_nothing_uneven :
    unevenPool.Reachable ∧ unevenPool.closed = false ∧ unevenPool.workers ≠ [] ∧ 0 < 10 ∧
      (∀ events hits, (unevenPool.searchUnder events ['a'] 10).1 ≠ some (.ok hits)) ∧
      ∀ events, ((unevenPool.call ['a'] 10).run events).Quiet →
        ∃ answer, (unevenPool.searchUnder events ['a'] 10).1 = some answer := by
  have hspec := (search_all_or_nothing reachable_unevenPool rfl (by simp [unevenPool, withBackends])
    ['a'] (show 0 < 10 by decide)).2
  refine ⟨reachable_unevenPool, rfl, by simp [unevenPool, withBackends], by decide, ?_,
    fun events => (hspec events).answers⟩
  intro events hits ha
  have hfate : .failed (.error [['g', 'o', 'n', 'e']]) ∈ unevenPool.fates ['a'] 10 := by decide
  obtain ⟨e, he⟩ := (hspec events).refused _ hfate (by simp) _ ha
  cases he

end RepoAtlas.Pool
