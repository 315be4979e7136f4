import RepoAtlas.Proofs.Pool.Reachable

/-! # Steady pools -/

namespace RepoAtlas.Pool

open Search List

/-- The worker runs, and its backend never loses a request. -/
structure Worker.Steady (w : Worker) : Prop where
  running : w.status = .running
  keeps : ∀ r, w.outcome r ≠ .lost

theorem Worker.Change.backend_eq {r : Request} {w w' : Worker} (h : w.Change r w') :
    w'.backend = w.backend := by
  cases h <;> rfl

namespace Worker.Steady

variable {w w' : Worker} {r : Request}

theorem change (h : w.Steady) (hc : w.Change r w') : w'.Steady := by
  have hkeeps : ∀ s, w'.outcome s ≠ .lost := by
    intro s
    rw [outcome, hc.backend_eq]
    exact h.keeps s
  cases hc with
  | same => exact h
  | received receiving => exact ⟨h.running, hkeeps⟩
  | served running inbox kept => exact ⟨h.running, hkeeps⟩
  | stopped running inbox lost => exact absurd lost (h.keeps _)
  | left ending =>
    have hrunning := h.running
    rw [ending] at hrunning
    cases hrunning

theorem fate_eq (h : w.Steady) (r : Request) : w.fate r = w.outcome r := by
  rw [fate, if_pos ⟨h.running, fun s _ => h.keeps s⟩]

end Worker.Steady

namespace Call

variable {c : Call}

theorem steady_run (h : ∀ w ∈ c.workers, w.Steady) (events : List Event) :
    ∀ w ∈ (c.run events).workers, w.Steady := by
  induction events generalizing c with
  | nil => exact h
  | cons e events ih =>
    rw [run_cons]
    apply ih
    intro w' hw'
    obtain ⟨i, hi⟩ := mem_iff_getElem?.mp hw'
    obtain ⟨w, hw, hc⟩ := exists_change hi
    exact (h w (mem_of_getElem? hw)).change hc

theorem backends_step (c : Call) (e : Event) :
    (c.step e).workers.map Worker.backend = c.workers.map Worker.backend := by
  apply ext_getElem?
  intro i
  rw [getElem?_map, getElem?_map]
  cases hw : c.workers[i]? with
  | none =>
    have hnone : (c.step e).workers[i]? = none := by
      rw [getElem?_eq_none_iff] at hw ⊢
      rwa [length_step]
    rw [hnone]
  | some w =>
    obtain ⟨w', hw', hc⟩ := c.step_change e hw
    rw [hw', Option.map_some, Option.map_some, hc.backend_eq]

theorem backends_run (c : Call) (events : List Event) :
    (c.run events).workers.map Worker.backend = c.workers.map Worker.backend := by
  induction events generalizing c with
  | nil => rfl
  | cons e events ih => rw [run_cons, ih, backends_step]

/-- A steady worker without requests answers at once and is as before. -/
theorem run_round {shard : Nat} {w : Worker} (hstage : c.stage = .sending shard)
    (hw : c.workers[shard]? = some w) (hs : w.Steady) (hidle : w.inbox = []) :
    ∃ reply, c.run [.send, .serve shard, .leave shard] =
      { c.post reply with
        stage := if shard + 1 < c.workers.length then .sending (shard + 1) else .gathering [] [] } := by
  obtain ⟨backend, status, inbox⟩ := w
  obtain rfl : status = .running := hs.running
  obtain rfl : inbox = [] := hidle
  obtain ⟨hlt, hget⟩ := List.getElem?_eq_some_iff.mp hw
  have hset : c.workers.set shard ⟨backend, .running, []⟩ = c.workers := by
    rw [← hget, set_getElem_self]
  have hsend : c.step .send =
      { c.setWorker shard ⟨backend, .running, [c.request]⟩ with
        stage := if shard + 1 < c.workers.length then .sending (shard + 1) else .gathering [] [] } := by
    simp only [step, hstage]
    exact send_of_not_ended hw (by simp)
  rw [run_cons, hsend]
  cases ho : backend c.query c.limit with
  | found hits =>
    refine ⟨⟨shard, .ok hits⟩, ?_⟩
    simp [step, serve, leave, deliver, setWorker, post, request, hlt, hget, ho, hset]
  | failed failure =>
    refine ⟨⟨shard, .error failure⟩, ?_⟩
    simp [step, serve, leave, deliver, setWorker, post, request, hlt, hget, ho, hset]
  | lost => exact absurd ho (hs.keeps c.request)

theorem run_rounds (hpos : 0 < c.workers.length) (hsteady : ∀ w ∈ c.workers, w.Steady ∧ w.inbox = [])
    (hstage : c.stage = .sending 0) (hbox : c.mailbox = []) {rounds : Nat}
    (hrounds : rounds ≤ c.workers.length) :
    ∃ replies : List Reply, replies.length = rounds ∧
      c.run ((range rounds).flatMap fun shard => [.send, .serve shard, .leave shard]) =
        { c with
          mailbox := replies
          stage := if rounds < c.workers.length then .sending rounds else .gathering [] [] } := by
  induction rounds with
  | zero =>
    refine ⟨[], rfl, ?_⟩
    rw [range_zero, flatMap_nil, run_nil, if_pos hpos, ← hbox, ← hstage]
  | succ rounds ih =>
    have hlt : rounds < c.workers.length := hrounds
    obtain ⟨replies, hlen, hrun⟩ := ih (Nat.le_of_lt hlt)
    rw [if_pos hlt] at hrun
    have hw : c.workers[rounds]? = some c.workers[rounds] := List.getElem?_eq_getElem hlt
    obtain ⟨hs, hidle⟩ := hsteady _ (getElem_mem hlt)
    obtain ⟨reply, hround⟩ :=
      run_round (c := { c with mailbox := replies, stage := .sending rounds }) rfl hw hs hidle
    refine ⟨replies ++ [reply], by simp [hlen], ?_⟩
    rw [range_succ, flatMap_append, run_append, hrun, flatMap_singleton, hround]
    rfl

theorem run_takes_of_answered {a : Except Error (List Hit)} (h : c.stage = .answered a) (takes : Nat) :
    c.run (replicate takes .take) = c := by
  induction takes with
  | zero => rfl
  | succ takes ih =>
    have hstep : c.step .take = c := by simp [step, h]
    rw [replicate_succ, run_cons, hstep, ih]

theorem answered_of_takes {replies : List Reply} (hbox : c.mailbox = replies) (hne : replies ≠ [])
    {replied : List Nat} {hits : List Hit} (hstage : c.stage = .gathering replied hits)
    (hlen : replied.length + replies.length = c.workers.length) {takes : Nat}
    (htakes : replies.length ≤ takes) :
    ∃ a, (c.run (replicate takes .take)).stage = .answered a := by
  induction replies generalizing c replied hits takes with
  | nil => exact absurd rfl hne
  | cons reply rest ih =>
    obtain ⟨takes, rfl⟩ : ∃ n, takes = n + 1 := ⟨takes - 1, by simp at htakes; omega⟩
    obtain ⟨shard, result⟩ := reply
    have hstep : c.step .take = c.take replied hits := by simp [step, hstage]
    rw [replicate_succ, run_cons, hstep]
    cases result with
    | error failure =>
      rw [take_of_error hbox, run_takes_of_answered rfl]
      exact ⟨_, rfl⟩
    | ok found =>
      rw [take_of_ok hbox]
      by_cases hmore : (replied ++ [shard]).length < c.workers.length
      · rw [if_pos hmore]
        simp only [length_append, length_cons, length_nil] at hmore hlen htakes
        apply ih rfl ?_ rfl ?_ ?_
        · intro hnil
          simp only [hnil, length_nil] at hlen
          omega
        · simp only [length_append, length_cons, length_nil]
          omega
        · omega
      · rw [if_neg hmore, run_takes_of_answered rfl]
        exact ⟨_, rfl⟩

/-- The prompt schedule brings a call of steady workers without requests to its end. -/
theorem answered_of_prompt (hpos : 0 < c.workers.length)
    (hsteady : ∀ w ∈ c.workers, w.Steady ∧ w.inbox = []) (hstage : c.stage = .sending 0)
    (hbox : c.mailbox = []) : ∃ a, (c.run (prompt c.workers.length)).stage = .answered a := by
  obtain ⟨replies, hlen, hrun⟩ := run_rounds hpos hsteady hstage hbox (Nat.le_refl _)
  rw [if_neg (Nat.lt_irrefl _)] at hrun
  have hne : replies ≠ [] := by
    rintro rfl
    rw [← hlen] at hpos
    cases hpos
  have hgather : ([] : List Nat).length + replies.length = c.workers.length := by simp [hlen]
  have henough : replies.length ≤ c.workers.length + 1 := by omega
  rw [prompt, run_append, hrun]
  exact answered_of_takes rfl hne rfl hgather henough

end Call

theorem search_of_steady {p : Pool} (h : ∀ w ∈ p.workers, w.Steady ∧ w.inbox = []) (query : Text)
    (limit : Nat) : ∃ answer, (p.search query limit).1 = some answer := by
  unfold search searchUnder
  split
  · exact ⟨_, rfl⟩
  · split
    · exact ⟨_, rfl⟩
    · next hsome =>
      have hpos : 0 < p.workers.length := by
        apply length_pos_iff.mpr
        intro hnil
        simp [hnil] at hsome
      obtain ⟨answer, ha⟩ := Call.answered_of_prompt (c := p.call query limit) hpos h rfl rfl
      exact ⟨answer, Call.answer?_eq_some_iff.mpr ha⟩

end RepoAtlas.Pool
