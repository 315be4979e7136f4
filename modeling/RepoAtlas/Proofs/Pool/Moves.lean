import RepoAtlas.Proofs.Pool.Faults
import RepoAtlas.Proofs.Runs
import Mathlib.Data.List.Induction

/-! # Calls amid faults -/

namespace RepoAtlas.Pool

open Search List

/-- An event, and the faults in force when it happens. -/
structure Move where
  faults : Faults
  event : Event

namespace Call

variable {parts : List (List Text)} {c : Call} {moves : List Move} {m : Move} {e : Event}
variable {shard : Nat} {r : Request} {o : Outcome} {fault? : Option Fault} {Heard : Reply → Prop}

def move (parts : List (List Text)) (c : Call) (m : Move) : Call :=
  (c.withBackends (backendsOver parts m.faults)).step m.event

def play (parts : List (List Text)) (c : Call) (moves : List Move) : Call :=
  moves.foldl (move parts) c

@[simp] theorem play_nil (parts : List (List Text)) (c : Call) : c.play parts [] = c := rfl

@[simp] theorem play_cons (parts : List (List Text)) (c : Call) (m : Move) (moves : List Move) :
    c.play parts (m :: moves) = (c.move parts m).play parts moves := rfl

@[simp] theorem play_concat (parts : List (List Text)) (c : Call) (moves : List Move) (m : Move) :
    c.play parts (moves ++ [m]) = (c.play parts moves).move parts m := by
  rw [play, foldl_append]
  rfl

theorem request_play (parts : List (List Text)) (c : Call) (moves : List Move) :
    (c.play parts moves).request = c.request := by
  induction moves generalizing c with
  | nil => rfl
  | cons m moves ih => rw [play_cons, ih, move, request_step, request_withBackends]

theorem length_play (parts : List (List Text)) (c : Call) (moves : List Move) :
    (c.play parts moves).workers.length = c.workers.length := by
  induction moves generalizing c with
  | nil => rfl
  | cons m moves ih => rw [play_cons, ih, move, length_step, length_withBackends]

/-! ## Workers along the moves -/

theorem exists_worker_play (parts : List (List Text)) (moves : List Move) {w : Worker} (hw : c.workers[shard]? = some w) :
    ∃ w', (c.play parts moves).workers[shard]? = some w' := by
  obtain ⟨hlt, -⟩ := List.getElem?_eq_some_iff.mp hw
  exact ⟨_, List.getElem?_eq_getElem (by rwa [length_play])⟩

theorem stopped_move (parts : List (List Text)) (m : Move) {w : Worker} (hw : c.workers[shard]? = some w)
    (hs : w.status ≠ .running) :
    ∃ w', (c.move parts m).workers[shard]? = some w' ∧ w'.status ≠ .running := by
  have hv : (c.withBackends (backendsOver parts m.faults)).workers[shard]? =
      some (w.withBackend (backendsOver parts m.faults shard)) := by
    rw [getElem?_withBackends, hw]
    rfl
  obtain ⟨w', hw', hc⟩ := step_change _ m.event hv
  exact ⟨w', hw', hc.not_running hs⟩

theorem stopped_play (parts : List (List Text)) (moves : List Move) {w : Worker} (hw : c.workers[shard]? = some w)
    (hs : w.status ≠ .running) :
    ∃ w', (c.play parts moves).workers[shard]? = some w' ∧ w'.status ≠ .running := by
  induction moves generalizing c w with
  | nil => exact ⟨w, hw, hs⟩
  | cons m moves ih =>
    obtain ⟨w', hw', hs'⟩ := stopped_move parts m hw hs
    exact ih hw' hs'

theorem orderly_withBackends {calls : Nat} (h : ∀ w ∈ c.workers, w.Orderly calls)
    (backends : Nat → Backend) : ∀ w ∈ (c.withBackends backends).workers, w.Orderly calls := by
  intro w hw
  obtain ⟨shard, hshard⟩ := mem_iff_getElem?.mp hw
  obtain ⟨v, hv, rfl⟩ := exists_of_withBackends backends hshard
  have hold := h v (mem_of_getElem? hv)
  exact ⟨hold.early, hold.empty⟩

theorem orderly_play (parts : List (List Text)) (h : ∀ w ∈ c.workers, w.Orderly (c.ticket + 1)) (moves : List Move) :
    ∀ w ∈ (c.play parts moves).workers, w.Orderly (c.ticket + 1) := by
  induction moves generalizing c with
  | nil => exact h
  | cons m moves ih =>
    have hticket : (c.move parts m).ticket = c.ticket :=
      congrArg Request.ticket (request_step _ m.event)
    rw [play_cons, ← hticket]
    apply ih
    rw [hticket]
    exact orderly_run (orderly_withBackends h (backendsOver parts m.faults)) [m.event]

/-! ## Serving a request -/

/-- The event lets a running worker serve its oldest request, with this outcome. -/
def Reaches (c : Call) (e : Event) (shard : Nat) (r : Request) (o : Outcome) : Prop :=
  e = .serve shard ∧ ∃ w rest, c.workers[shard]? = some w ∧ w.status = .running ∧
    w.inbox = r :: rest ∧ w.outcome r = o

/-- A reply that comes in answers the request of the call itself. -/
theorem Tracks.exists_reaches {fates : List Outcome} {sent : Nat} {arrived : List Reply}
    (h : c.Tracks fates sent arrived) {reply : Reply} (hmem : reply ∈ c.brings e) :
    ∃ o, c.Reaches e reply.shard c.request o ∧ o.result? = some reply.result := by
  obtain ⟨w, r, rest, he, hw, hr, hi, ht, hresult⟩ := exists_of_mem_brings hmem
  obtain ⟨o, hfate⟩ := h.exists_fate hw
  obtain ⟨-, rfl, -⟩ := (h.stands hw hfate).own hr hi ht
  exact ⟨_, ⟨he, w, rest, hw, hr, hi, rfl⟩, hresult⟩

theorem status_setWorker {i : Nat} {v v' : Worker} (hv : c.workers[i]? = some v)
    (hs : v'.status = v.status) (shard : Nat) :
    (c.setWorker i v').workers[shard]?.map Worker.status = c.workers[shard]?.map Worker.status := by
  by_cases hi : i = shard
  · subst hi
    rw [getElem?_setWorker_self hv v', hv, Option.map_some, Option.map_some, hs]
  · rw [getElem?_setWorker_of_ne c v' hi]

theorem status_step_of_ne (hne : e ≠ .serve shard)
    (hr : c.workers[shard]?.map Worker.status = some .running) :
    (c.step e).workers[shard]?.map Worker.status = some .running := by
  cases e with
  | send =>
    simp only [step]
    split
    · next next _ =>
      cases hv : c.workers[next]? with
      | none => simpa [send, hv] using hr
      | some v =>
        by_cases he : v.status = .ended
        · rwa [send_of_ended hv he]
        · rw [send_of_not_ended hv he]
          have hsame : (v.withInbox (v.inbox ++ [c.request])).status = v.status := rfl
          exact (status_setWorker hv hsame shard).trans hr
    · exact hr
  | serve i =>
    have hi : i ≠ shard := by
      rintro rfl
      exact hne rfl
    obtain hc | ⟨v, s, rest, -, -, -, ⟨-, hc⟩ | ⟨-, -, hc⟩ | ⟨result, -, -, hc⟩⟩ := c.serve_cases i
    all_goals rw [step, hc]
    · exact hr
    · rwa [getElem?_setWorker_of_ne c _ hi]
    · rwa [getElem?_setWorker_of_ne c _ hi]
    · simpa only [post, getElem?_setWorker_of_ne c _ hi] using hr
  | leave i =>
    obtain hc | ⟨v, hv, hending, hc⟩ := c.leave_cases i
    all_goals rw [step, hc]
    · exact hr
    · by_cases hi : i = shard
      · subst hi
        simp [hv, hending] at hr
      · rwa [getElem?_setWorker_of_ne c _ hi]
  | take =>
    simp only [step]
    split
    · rwa [workers_take]
    · exact hr

/-- A worker stops only by a request that it serves. -/
theorem reaches_lost_of_stopped {w w' : Worker} (hw : c.workers[shard]? = some w)
    (hr : w.status = .running) (hw' : (c.step e).workers[shard]? = some w')
    (hs : w'.status ≠ .running) : ∃ r, c.Reaches e shard r .lost := by
  have he : e = .serve shard := by
    by_contra hne
    have hkept := status_step_of_ne hne (by rw [hw, Option.map_some, hr])
    rw [hw', Option.map_some] at hkept
    exact hs (Option.some.inj hkept)
  obtain ⟨v, hv, hc⟩ := exists_change hw'
  obtain rfl : w = v := Option.some.inj (hw.symm.trans hv)
  cases hc with
  | same => exact absurd hr hs
  | received => exact absurd hr hs
  | served => exact absurd hr hs
  | stopped running inbox lost => exact ⟨_, he, w, _, hw, running, inbox, lost⟩
  | left ending => simp [hr] at ending

/-- In the course of the moves the running worker of the shard serves the request, and meets the fault, or
none. -/
def Serves (parts : List (List Text)) (c : Call) (moves : List Move) (shard : Nat) (r : Request)
    (fault? : Option Fault) : Prop :=
  ∃ before faults after w rest, moves = before ++ ⟨faults, .serve shard⟩ :: after ∧
    (c.play parts before).workers[shard]? = some w ∧ w.status = .running ∧ w.inbox = r :: rest ∧
    faults shard r.query r.limit = fault?

theorem Serves.concat (h : c.Serves parts moves shard r fault?) (m : Move) :
    c.Serves parts (moves ++ [m]) shard r fault? := by
  obtain ⟨before, faults, after, w, rest, rfl, hw⟩ := h
  exact ⟨before, faults, after ++ [m], w, rest, by simp, hw⟩

/-- What a move makes of a request is settled by the fault that the request meets. -/
theorem serves_of_reaches {before after : List Move} (hmoves : moves = before ++ m :: after)
    (h : ((c.play parts before).withBackends (backendsOver parts m.faults)).Reaches m.event shard r o) :
    ∃ fault?, c.Serves parts moves shard r fault? ∧
      o = outcomeOn (parts[shard]?.getD []) r.query r.limit fault? := by
  obtain ⟨he, w, rest, hw, hr, hi, rfl⟩ := h
  obtain ⟨v, hv, rfl⟩ := exists_of_withBackends _ hw
  obtain ⟨faults, event⟩ := m
  obtain rfl : event = .serve shard := he
  exact ⟨_, ⟨before, faults, after, v, rest, hmoves, hv, hr, hi, rfl⟩, rfl⟩

theorem serves_deadly_of_stopped {w w' : Worker} (hw : c.workers[shard]? = some w)
    (hr : w.status = .running) (hw' : (c.play parts moves).workers[shard]? = some w')
    (hs : w'.status ≠ .running) : ∃ r, c.Serves parts moves shard r (some .deadly) := by
  induction moves using reverseRecOn generalizing w' with
  | nil =>
    obtain rfl : w = w' := Option.some.inj (hw.symm.trans hw')
    exact absurd hr hs
  | append_singleton moves m ih =>
    obtain ⟨v, hv⟩ := exists_worker_play parts moves hw
    by_cases hrun : v.status = .running
    · rw [play_concat, move] at hw'
      have hv' : ((c.play parts moves).withBackends (backendsOver parts m.faults)).workers[shard]? =
          some (v.withBackend (backendsOver parts m.faults shard)) := by
        rw [getElem?_withBackends, hv]
        rfl
      obtain ⟨r, hreaches⟩ := reaches_lost_of_stopped hv' hrun hw' hs
      obtain ⟨fault?, hserves, hlost⟩ := serves_of_reaches rfl hreaches
      rw [outcomeOn_eq_lost_iff.mp hlost.symm] at hserves
      exact ⟨r, hserves⟩
    · obtain ⟨r, hserves⟩ := ih hv hrun
      exact ⟨r, hserves.concat m⟩

/-! ## Answers -/

/-- What the replies heard and the workers that have stopped justify as an answer. -/
inductive Justified (c : Call) (Heard : Reply → Prop) : Except Error (List Hit) → Prop
  | merged {arrived : List Reply} (all : arrived.map Reply.shard ~ range c.workers.length)
      (found : ∀ reply ∈ arrived, ∃ hits, reply.result = .ok hits) (heard : ∀ reply ∈ arrived, Heard reply) :
      Justified c Heard (.ok (best c.limit (arrived.flatMap Reply.hits)))
  | failed {shard failure} (heard : Heard ⟨shard, .error failure⟩) :
      Justified c Heard (.error (.shardFailed shard failure))
  | lost {shard w} (worker : c.workers[shard]? = some w) (stopped : w.status ≠ .running) :
      Justified c Heard (.error (.shardLost shard))

theorem Sound.justified {fates : List Outcome} {arrived : List Reply} (h : c.Sound fates arrived)
    (hheard : ∀ reply ∈ arrived, Heard reply) {answer : Except Error (List Hit)}
    (ha : c.answer? = some answer) : c.Justified Heard answer := by
  cases h.verdict ha with
  | merged all found => exact .merged all found hheard
  | failed heard => exact .failed (hheard _ heard)
  | lost fate stopped =>
    obtain ⟨w, hw, hs⟩ := stopped
    exact .lost hw hs

theorem Justified.move {answer : Except Error (List Hit)} (h : c.Justified Heard answer) (m : Move) :
    (c.move parts m).Justified Heard answer := by
  have hlen : (c.move parts m).workers.length = c.workers.length := c.length_play parts [m]
  have hlimit : (c.move parts m).limit = c.limit :=
    congrArg Request.limit (c.request_play parts [m])
  cases h with
  | merged all found heard =>
    rw [← hlimit]
    exact .merged (by rwa [hlen]) found heard
  | failed heard => exact .failed heard
  | lost worker stopped =>
    obtain ⟨w', hw', hs'⟩ := stopped_move parts m worker stopped
    exact .lost hw' hs'

/-! ## The invariant along the moves -/

/-- The call is under way with its invariant, and every reply that has arrived counts as heard, or it has
a justified answer. -/
inductive Held (c : Call) (Heard : Reply → Prop) : Prop
  | pending {fates arrived} (unanswered : c.answer? = none) (sound : c.Sound fates arrived)
      (heard : ∀ reply ∈ arrived, Heard reply)
  | answered {answer} (answered : c.answer? = some answer) (justified : c.Justified Heard answer)

theorem Held.move (h : c.Held Heard) (hnew : ∀ reply o,
    (c.withBackends (backendsOver parts m.faults)).Reaches m.event reply.shard c.request o →
      o.result? = some reply.result → Heard reply) : (c.move parts m).Held Heard := by
  cases h with
  | pending unanswered sound heard =>
    obtain ⟨fates, hsound⟩ := sound.withBackends (backendsOver parts m.faults) unanswered
    obtain ⟨sent, htracks⟩ := hsound.tracks
    have hstep := hsound.step m.event
    have hheard := forall_mem_append.mpr ⟨heard, fun reply hmem => by
      obtain ⟨o, hreaches, hresult⟩ := htracks.exists_reaches hmem
      exact hnew reply o hreaches hresult⟩
    cases hanswer : (c.move parts m).answer? with
    | none => exact .pending hanswer hstep hheard
    | some answer => exact .answered hanswer (hstep.justified hheard hanswer)
  | answered answered justified =>
    have hbefore : (c.withBackends (backendsOver parts m.faults)).answer? = some _ := answered
    exact .answered (answer?_step hbefore m.event) (justified.move m)

/-- The replies of the shards that served the call's own request in the course of the moves. -/
def Hears (parts : List (List Text)) (c : Call) (moves : List Move) (reply : Reply) : Prop :=
  ∃ fault?, c.Serves parts moves reply.shard c.request fault? ∧
    (outcomeOn (parts[reply.shard]?.getD []) c.query c.limit fault?).result? = some reply.result

theorem Held.play (h : c.Held Heard) (hhears : ∀ reply, c.Hears parts moves reply → Heard reply) :
    (c.play parts moves).Held Heard := by
  induction moves using reverseRecOn with
  | nil => exact h
  | append_singleton moves m ih =>
    rw [play_concat]
    apply Held.move
    · apply ih
      rintro reply ⟨fault?, hserves, hresult⟩
      exact hhears reply ⟨fault?, hserves.concat m, hresult⟩
    · intro reply o hreaches hresult
      rw [request_play] at hreaches
      obtain ⟨fault?, hserves, rfl⟩ := serves_of_reaches rfl hreaches
      exact hhears reply ⟨fault?, hserves, hresult⟩

theorem Held.justified (h : c.Held Heard) {answer : Except Error (List Hit)}
    (ha : c.answer? = some answer) : c.Justified Heard answer := by
  cases h with
  | pending unanswered sound heard =>
    rw [unanswered] at ha
    cases ha
  | answered answered justified =>
    obtain rfl : _ = answer := Option.some.inj (answered.symm.trans ha)
    exact justified

/-! ## Moves come to an end -/

def Stirs (parts : List (List Text)) (c : Call) (m : Move) : Prop :=
  c.move parts m ≠ c.withBackends (backendsOver parts m.faults)

def Astir (parts : List (List Text)) : Call → List Move → Prop :=
  Stirring (Stirs parts) (move parts)

def Still (parts : List (List Text)) (c : Call) : Prop :=
  ∀ m, ¬ c.Stirs parts m

theorem Stirs.remaining_lt (h : c.Stirs parts m) : (c.move parts m).remaining < c.remaining := by
  rw [← remaining_withBackends (backendsOver parts m.faults) c]
  exact remaining_step_lt h

theorem Astir.length_le (h : c.Astir parts moves) : moves.length ≤ c.remaining :=
  Stirring.length_le Stirs.remaining_lt h

theorem exists_still_play (parts : List (List Text)) (c : Call) :
    ∃ moves, (c.play parts moves).Still parts :=
  exists_still Stirs.remaining_lt c

theorem Held.answered_of_still (h : c.Held Heard)
    (hended : ∀ w ∈ c.workers, w.status = .ended → w.inbox = []) (hstill : c.Still parts) :
    ∃ answer, c.answer? = some answer := by
  cases h with
  | pending unanswered sound heard =>
    let faults : Faults := fun _ _ _ => none
    obtain ⟨fates, hsound⟩ := sound.withBackends (backendsOver parts faults) unanswered
    have hquiet : (c.withBackends (backendsOver parts faults)).Quiet := fun e =>
      not_not.mp (hstill ⟨faults, e⟩)
    have hempty : ∀ w ∈ (c.withBackends (backendsOver parts faults)).workers,
        w.status = .ended → w.inbox = [] := by
      intro w hw
      obtain ⟨shard, hshard⟩ := mem_iff_getElem?.mp hw
      obtain ⟨v, hv, rfl⟩ := exists_of_withBackends _ hshard
      exact hended v (mem_of_getElem? hv)
    obtain ⟨answer, hstage⟩ := hsound.answered_of_quiet hempty hquiet
    exact ⟨answer, answer?_eq_some_iff.mpr hstage⟩
  | answered answered justified => exact ⟨_, answered⟩

end Call

end RepoAtlas.Pool
