import RepoAtlas.Pool.Search
import Mathlib.Data.List.Basic

/-! # What one event does to a call -/

namespace RepoAtlas.Pool

open Search

def Outcome.result? : Outcome → Option (Except Failure (List Hit))
  | .found hits => some (.ok hits)
  | .failed failure => some (.error failure)
  | .lost => none

@[simp] theorem Outcome.result?_eq_ok_iff {o : Outcome} {hits : List Hit} :
    o.result? = some (.ok hits) ↔ o = .found hits := by
  cases o <;> simp [result?]

@[simp] theorem Outcome.result?_eq_error_iff {o : Outcome} {failure : Failure} :
    o.result? = some (.error failure) ↔ o = .failed failure := by
  cases o <;> simp [result?]

theorem Outcome.ne_lost_of_result? {o : Outcome} {result : Except Failure (List Hit)}
    (h : o.result? = some result) : o ≠ .lost := by
  rintro rfl
  cases h

namespace Worker

def outcome (w : Worker) (r : Request) : Outcome :=
  w.backend r.query r.limit

def withInbox (w : Worker) (inbox : List Request) : Worker :=
  { w with inbox }

variable (w : Worker) (inbox : List Request)

@[simp] theorem status_withInbox : (w.withInbox inbox).status = w.status := rfl

@[simp] theorem inbox_withInbox : (w.withInbox inbox).inbox = inbox := rfl

@[simp] theorem outcome_withInbox (r : Request) : (w.withInbox inbox).outcome r = w.outcome r := rfl

@[simp] theorem withInbox_self : w.withInbox w.inbox = w := rfl

end Worker

namespace Call

def setWorker (c : Call) (shard : Nat) (w : Worker) : Call :=
  { c with workers := c.workers.set shard w }

def post (c : Call) (reply : Reply) : Call :=
  { c with mailbox := c.mailbox ++ [reply] }

/-! ## Sending -/

theorem send_of_ended {c : Call} {shard : Nat} {w : Worker} (hw : c.workers[shard]? = some w)
    (he : w.status = .ended) :
    c.send shard = { c with stage := .answered (.error (.shardLost shard)) } := by
  simp [send, hw, he]

theorem send_of_not_ended {c : Call} {shard : Nat} {w : Worker} (hw : c.workers[shard]? = some w)
    (he : w.status ≠ .ended) :
    c.send shard =
      { c.setWorker shard (w.withInbox (w.inbox ++ [c.request])) with
        stage := if shard + 1 < c.workers.length then .sending (shard + 1) else .gathering [] [] } := by
  simp [send, hw, he, setWorker, Worker.withInbox]

/-! ## Serving -/

/-- A worker serves a request only while it runs. It stops, or its answer goes nowhere, or the answer
is one to this call. -/
theorem serve_cases (c : Call) (shard : Nat) :
    c.serve shard = c ∨
    ∃ w r rest, c.workers[shard]? = some w ∧ w.status = .running ∧ w.inbox = r :: rest ∧
      (w.outcome r = .lost ∧ c.serve shard = c.setWorker shard ⟨w.backend, .ending, rest⟩ ∨
        w.outcome r ≠ .lost ∧ r.ticket ≠ c.ticket ∧
          c.serve shard = c.setWorker shard (w.withInbox rest) ∨
        ∃ result, (w.outcome r).result? = some result ∧ r.ticket = c.ticket ∧
          c.serve shard = (c.setWorker shard (w.withInbox rest)).post ⟨shard, result⟩) := by
  unfold serve
  split
  · next backend r rest hw =>
    right
    refine ⟨_, r, rest, hw, rfl, rfl, ?_⟩
    have hdeliver (reply : Reply) :
        r.ticket ≠ c.ticket ∧
          (c.setWorker shard ⟨backend, .running, rest⟩).deliver r.ticket reply =
            c.setWorker shard ⟨backend, .running, rest⟩ ∨
        r.ticket = c.ticket ∧
          (c.setWorker shard ⟨backend, .running, rest⟩).deliver r.ticket reply =
            (c.setWorker shard ⟨backend, .running, rest⟩).post reply := by
      by_cases h : r.ticket = c.ticket <;> simp [deliver, setWorker, post, h]
    cases ho : backend r.query r.limit with
    | found hits =>
      right
      rcases hdeliver ⟨shard, .ok hits⟩ with ⟨ht, hd⟩ | ⟨ht, hd⟩
      · exact Or.inl ⟨by simp [Worker.outcome, ho], ht, hd⟩
      · exact Or.inr ⟨.ok hits, by simp [Worker.outcome, ho], ht, hd⟩
    | failed failure =>
      right
      rcases hdeliver ⟨shard, .error failure⟩ with ⟨ht, hd⟩ | ⟨ht, hd⟩
      · exact Or.inl ⟨by simp [Worker.outcome, ho], ht, hd⟩
      · exact Or.inr ⟨.error failure, by simp [Worker.outcome, ho], ht, hd⟩
    | lost => exact Or.inl ⟨ho, rfl⟩
  · exact Or.inl rfl

/-! ## Leaving -/

theorem leave_cases (c : Call) (shard : Nat) :
    c.leave shard = c ∨
    ∃ w, c.workers[shard]? = some w ∧ w.status = .ending ∧
      c.leave shard = c.setWorker shard ⟨w.backend, .ended, []⟩ := by
  unfold leave
  split
  · next backend inbox hw => exact Or.inr ⟨_, hw, rfl, rfl⟩
  · exact Or.inl rfl

/-! ## Taking -/

theorem take_of_awaited {c : Call} {replied : List Nat} {hits : List Hit} (hm : c.mailbox = [])
    (ha : c.isAwaited = true) : c.take replied hits = c := by
  simp [take, hm, ha]

theorem take_of_not_awaited {c : Call} {replied : List Nat} {hits : List Hit} (hm : c.mailbox = [])
    (ha : c.isAwaited = false) :
    c.take replied hits =
      { c with stage := .answered (.error (.shardLost (c.firstMissing replied))) } := by
  simp [take, hm, ha]

theorem take_of_error {c : Call} {replied : List Nat} {hits : List Hit} {shard : Nat}
    {failure : Failure} {rest : List Reply} (hm : c.mailbox = ⟨shard, .error failure⟩ :: rest) :
    c.take replied hits =
      { c with mailbox := rest, stage := .answered (.error (.shardFailed shard failure)) } := by
  simp [take, hm]

theorem take_of_ok {c : Call} {replied : List Nat} {hits found : List Hit} {shard : Nat}
    {rest : List Reply} (hm : c.mailbox = ⟨shard, .ok found⟩ :: rest) :
    c.take replied hits =
      { c with
        mailbox := rest
        stage :=
          if (replied ++ [shard]).length < c.workers.length then
            .gathering (replied ++ [shard]) (hits ++ found)
          else .answered (.ok (best c.limit (hits ++ found))) } := by
  simp [take, hm]

/-! ## Frames -/

@[simp] theorem length_setWorker (c : Call) (shard : Nat) (w : Worker) :
    (c.setWorker shard w).workers.length = c.workers.length := by
  simp [setWorker]

theorem getElem?_setWorker_self {c : Call} {shard : Nat} {w : Worker}
    (h : c.workers[shard]? = some w) (w' : Worker) :
    (c.setWorker shard w').workers[shard]? = some w' := by
  obtain ⟨hlt, -⟩ := List.getElem?_eq_some_iff.mp h
  simp [setWorker, hlt]

theorem getElem?_setWorker_of_ne (c : Call) {shard i : Nat} (w : Worker) (h : shard ≠ i) :
    (c.setWorker shard w).workers[i]? = c.workers[i]? := by
  simp [setWorker, h]

theorem stage_serve (c : Call) (shard : Nat) : (c.serve shard).stage = c.stage := by
  obtain h | ⟨w, r, rest, -, -, -, ⟨-, h⟩ | ⟨-, -, h⟩ | ⟨result, -, -, h⟩⟩ := c.serve_cases shard
  all_goals
    rw [h]
    try rfl

theorem stage_leave (c : Call) (shard : Nat) : (c.leave shard).stage = c.stage := by
  obtain h | ⟨w, -, -, h⟩ := c.leave_cases shard
  all_goals
    rw [h]
    try rfl

theorem worker_serve {c : Call} {shard : Nat} {w : Worker} {r : Request} {rest : List Request}
    (hw : c.workers[shard]? = some w) (hr : w.status = .running) (hi : w.inbox = r :: rest) :
    ∃ status, (c.serve shard).workers[shard]? = some ⟨w.backend, status, rest⟩ := by
  obtain ⟨backend, status, inbox⟩ := w
  subst hr hi
  have hset (status : Status) :
      (c.workers.set shard ⟨backend, status, rest⟩)[shard]? = some ⟨backend, status, rest⟩ :=
    getElem?_setWorker_self hw _
  simp only [serve, hw]
  split
  · refine ⟨.running, ?_⟩
    unfold deliver
    split <;> exact hset _
  · refine ⟨.running, ?_⟩
    unfold deliver
    split <;> exact hset _
  · exact ⟨.ending, hset _⟩

theorem worker_leave {c : Call} {shard : Nat} {w : Worker} (hw : c.workers[shard]? = some w)
    (hr : w.status = .ending) :
    (c.leave shard).workers[shard]? = some ⟨w.backend, .ended, []⟩ := by
  obtain ⟨backend, status, inbox⟩ := w
  subst hr
  simp only [leave, hw]
  exact getElem?_setWorker_self hw _

theorem workers_take (c : Call) (replied : List Nat) (hits : List Hit) :
    (c.take replied hits).workers = c.workers := by
  unfold take
  repeat' split
  all_goals rfl

theorem request_step (c : Call) (e : Event) : (c.step e).request = c.request := by
  cases e with
  | send =>
    simp only [step]
    split
    · simp only [send]
      repeat' split
      all_goals rfl
    · rfl
  | serve shard =>
    obtain h | ⟨w, r, rest, -, -, -, ⟨-, h⟩ | ⟨-, -, h⟩ | ⟨result, -, -, h⟩⟩ := c.serve_cases shard
    all_goals
      rw [step, h]
      try rfl
  | leave shard =>
    obtain h | ⟨w, -, -, h⟩ := c.leave_cases shard
    all_goals
      rw [step, h]
      try rfl
  | take =>
    simp only [step]
    split
    · simp only [take]
      repeat' split
      all_goals rfl
    · rfl

end Call

/-! ## What arrives -/

def Reply.hits (reply : Reply) : List Hit :=
  match reply.result with
  | .ok hits => hits
  | .error _ => []

namespace Call

/-- The replies that an event adds to the mailbox. -/
def brings (c : Call) (e : Event) : List Reply :=
  (c.step e).mailbox.drop c.mailbox.length

/-- The replies to the call in the order in which they come into its mailbox. -/
def arrivals (c : Call) : List Event → List Reply
  | [] => []
  | e :: events => c.brings e ++ (c.step e).arrivals events

@[simp] theorem arrivals_nil (c : Call) : c.arrivals [] = [] := rfl

@[simp] theorem arrivals_cons (c : Call) (e : Event) (events : List Event) :
    c.arrivals (e :: events) = c.brings e ++ (c.step e).arrivals events := rfl

theorem brings_eq_of_mailbox {c : Call} {e : Event} {new : List Reply}
    (h : (c.step e).mailbox = c.mailbox ++ new) : c.brings e = new := by
  rw [brings, h, List.drop_left]

theorem mailbox_send (c : Call) : (c.step .send).mailbox = c.mailbox := by
  simp only [step]
  split
  · simp only [send]
    repeat' split
    all_goals rfl
  · rfl

@[simp] theorem brings_send (c : Call) : c.brings .send = [] :=
  brings_eq_of_mailbox (by rw [mailbox_send, List.append_nil])

theorem mailbox_leave (c : Call) (shard : Nat) : (c.leave shard).mailbox = c.mailbox := by
  obtain h | ⟨w, -, -, h⟩ := c.leave_cases shard
  all_goals
    rw [h]
    try rfl

@[simp] theorem brings_leave (c : Call) (shard : Nat) : c.brings (.leave shard) = [] :=
  brings_eq_of_mailbox (by rw [step, mailbox_leave, List.append_nil])

section

variable {c : Call} {shard : Nat} {w : Worker}

theorem brings_serve_of_eq (h : c.serve shard = c) : c.brings (.serve shard) = [] :=
  brings_eq_of_mailbox (by rw [step, h, List.append_nil])

theorem brings_serve_of_setWorker (h : c.serve shard = c.setWorker shard w) :
    c.brings (.serve shard) = [] :=
  brings_eq_of_mailbox (by rw [step, h, setWorker, List.append_nil])

theorem brings_serve_of_post {reply : Reply} (h : c.serve shard = (c.setWorker shard w).post reply) :
    c.brings (.serve shard) = [reply] :=
  brings_eq_of_mailbox (by rw [step, h, post, setWorker])

end

theorem mailbox_serve (c : Call) (shard : Nat) :
    (c.serve shard).mailbox = c.mailbox ++ c.brings (.serve shard) := by
  obtain h | ⟨w, r, rest, -, -, -, ⟨-, h⟩ | ⟨-, -, h⟩ | ⟨result, -, -, h⟩⟩ := c.serve_cases shard
  · rw [brings_serve_of_eq h, h, List.append_nil]
  · rw [brings_serve_of_setWorker h, h, setWorker, List.append_nil]
  · rw [brings_serve_of_setWorker h, h, setWorker, List.append_nil]
  · rw [brings_serve_of_post h, h, post, setWorker]

@[simp] theorem brings_take (c : Call) : c.brings .take = [] := by
  rw [brings, List.drop_eq_nil_iff]
  simp only [step]
  split
  · unfold take
    repeat' split
    all_goals simp_all
  · exact Nat.le_refl _

/-- A reply comes only of serving a request of the call. -/
theorem exists_of_mem_brings {c : Call} {e : Event} {reply : Reply} (hmem : reply ∈ c.brings e) :
    ∃ w r rest, e = .serve reply.shard ∧ c.workers[reply.shard]? = some w ∧ w.status = .running ∧
      w.inbox = r :: rest ∧ r.ticket = c.ticket ∧ (w.outcome r).result? = some reply.result := by
  cases e with
  | send => simp at hmem
  | leave shard => simp at hmem
  | take => simp at hmem
  | serve shard =>
    obtain h | ⟨w, r, rest, hw, hr, hi, ⟨-, h⟩ | ⟨-, -, h⟩ | ⟨result, ho, ht, h⟩⟩ := c.serve_cases shard
    · simp [brings_serve_of_eq h] at hmem
    · simp [brings_serve_of_setWorker h] at hmem
    · simp [brings_serve_of_setWorker h] at hmem
    · rw [brings_serve_of_post h] at hmem
      obtain rfl := List.mem_singleton.mp hmem
      exact ⟨w, r, rest, rfl, hw, hr, hi, ht, ho⟩

end Call

/-! ## What happens to a worker -/

/-- What one event of a call that asks `r` can make of a worker. -/
inductive Worker.Change (r : Request) (w : Worker) : Worker → Prop
  | same : Change r w w
  | received (receiving : w.status ≠ .ended) : Change r w (w.withInbox (w.inbox ++ [r]))
  | served {s rest} (running : w.status = .running) (inbox : w.inbox = s :: rest)
      (kept : w.outcome s ≠ .lost) : Change r w (w.withInbox rest)
  | stopped {s rest} (running : w.status = .running) (inbox : w.inbox = s :: rest)
      (lost : w.outcome s = .lost) : Change r w ⟨w.backend, .ending, rest⟩
  | left (ending : w.status = .ending) : Change r w ⟨w.backend, .ended, []⟩

namespace Call

theorem setWorker_change {c : Call} {shard i : Nat} {w v v' : Worker} (hv : c.workers[shard]? = some v)
    (hc : v.Change c.request v') (hw : c.workers[i]? = some w) :
    ∃ w', (c.setWorker shard v').workers[i]? = some w' ∧ w.Change c.request w' := by
  by_cases hi : shard = i
  · subst hi
    obtain rfl : v = w := by simpa [hv] using hw
    exact ⟨v', getElem?_setWorker_self hv v', hc⟩
  · exact ⟨w, by rw [getElem?_setWorker_of_ne c v' hi, hw], .same⟩

/-- Every event makes one of the changes of each worker. -/
theorem step_change (c : Call) (e : Event) {i : Nat} {w : Worker} (hw : c.workers[i]? = some w) :
    ∃ w', (c.step e).workers[i]? = some w' ∧ w.Change c.request w' := by
  cases e with
  | send =>
    simp only [step]
    split
    · next next _ =>
      cases hv : c.workers[next]? with
      | none => exact ⟨w, by simp [send, hv, hw], .same⟩
      | some v =>
        by_cases he : v.status = .ended
        · exact ⟨w, by simp [send_of_ended hv he, hw], .same⟩
        · rw [send_of_not_ended hv he]
          exact setWorker_change hv (.received he) hw
    · exact ⟨w, hw, .same⟩
  | serve shard =>
    obtain h | ⟨v, r, rest, hv, hr, hi, ⟨ho, h⟩ | ⟨ho, -, h⟩ | ⟨result, ho, -, h⟩⟩ :=
      c.serve_cases shard
    · exact ⟨w, by rw [step, h, hw], .same⟩
    · rw [step, h]
      exact setWorker_change hv (.stopped hr hi ho) hw
    · rw [step, h]
      exact setWorker_change hv (.served hr hi ho) hw
    · rw [step, h]
      exact setWorker_change hv (.served hr hi (Outcome.ne_lost_of_result? ho)) hw
  | leave shard =>
    obtain h | ⟨v, hv, he, h⟩ := c.leave_cases shard
    · exact ⟨w, by rw [step, h, hw], .same⟩
    · rw [step, h]
      exact setWorker_change hv (.left he) hw
  | take =>
    simp only [step]
    split
    · exact ⟨w, by rw [workers_take, hw], .same⟩
    · exact ⟨w, hw, .same⟩

theorem request_run (c : Call) (events : List Event) : (c.run events).request = c.request := by
  induction events generalizing c with
  | nil => rfl
  | cons e events ih => rw [run_cons, ih, request_step]

theorem length_step (c : Call) (e : Event) : (c.step e).workers.length = c.workers.length := by
  cases e with
  | send =>
    simp only [step]
    split
    · simp only [send]
      repeat' split
      all_goals simp
    · rfl
  | serve shard =>
    obtain h | ⟨w, r, rest, -, -, -, ⟨-, h⟩ | ⟨-, -, h⟩ | ⟨result, -, -, h⟩⟩ := c.serve_cases shard
    all_goals
      rw [step, h]
      try exact length_setWorker ..
  | leave shard =>
    obtain h | ⟨w, -, -, h⟩ := c.leave_cases shard
    all_goals
      rw [step, h]
      try exact length_setWorker ..
  | take =>
    simp only [step]
    split
    · rw [workers_take]
    · rfl

theorem length_run (c : Call) (events : List Event) :
    (c.run events).workers.length = c.workers.length := by
  induction events generalizing c with
  | nil => rfl
  | cons e events ih => rw [run_cons, ih, length_step]

theorem exists_change {c : Call} {e : Event} {i : Nat} {w' : Worker}
    (h : (c.step e).workers[i]? = some w') :
    ∃ w, c.workers[i]? = some w ∧ w.Change c.request w' := by
  have hlt : i < c.workers.length := by
    rw [← c.length_step e]
    exact (List.getElem?_eq_some_iff.mp h).1
  have hw : c.workers[i]? = some c.workers[i] := List.getElem?_eq_getElem hlt
  obtain ⟨v, hv, hc⟩ := c.step_change e hw
  obtain rfl : w' = v := Option.some.inj (h.symm.trans hv)
  exact ⟨_, hw, hc⟩

end Call

theorem Worker.Change.not_running {r : Request} {w w' : Worker} (h : w.Change r w')
    (hs : w.status ≠ .running) : w'.status ≠ .running := by
  cases h with
  | same => exact hs
  | received => exact hs
  | served running => exact absurd running hs
  | stopped running => exact absurd running hs
  | left => simp

end RepoAtlas.Pool
