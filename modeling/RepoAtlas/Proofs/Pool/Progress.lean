import RepoAtlas.Proofs.Lists
import RepoAtlas.Proofs.Pool.Verdict

/-! # Calls come to an answer -/

namespace RepoAtlas.Pool

open Search List

def Status.work : Status → Nat
  | .running => 2
  | .ending => 1
  | .ended => 0

/-- The work that remains for a worker. A request counts twice, for its reply takes work as well. -/
def Worker.work (w : Worker) : Nat :=
  2 * w.inbox.length + w.status.work

def Stage.work (shards : Nat) : Stage → Nat
  | .sending next => 3 * (shards - next) + 1
  | .gathering .. => 1
  | .answered _ => 0

namespace Call

variable {c : Call}

def remaining (c : Call) : Nat :=
  c.stage.work c.workers.length + (c.workers.map Worker.work).sum + c.mailbox.length

theorem sum_work_setWorker {shard : Nat} {w : Worker} (hw : c.workers[shard]? = some w) (w' : Worker) :
    ((c.setWorker shard w').workers.map Worker.work).sum + w.work =
      (c.workers.map Worker.work).sum + w'.work :=
  sum_map_set hw Worker.work w'

theorem remaining_send_lt {next : Nat} (hstage : c.stage = .sending next)
    (hnext : next < c.workers.length) : (c.send next).remaining < c.remaining := by
  obtain ⟨w, hw⟩ : ∃ w, c.workers[next]? = some w := ⟨_, List.getElem?_eq_getElem hnext⟩
  by_cases he : w.status = .ended
  · rw [send_of_ended hw he]
    simp only [remaining, hstage, Stage.work]
    omega
  · rw [send_of_not_ended hw he]
    have hsum := sum_work_setWorker hw (w.withInbox (w.inbox ++ [c.request]))
    have hlen := c.length_setWorker next (w.withInbox (w.inbox ++ [c.request]))
    have hbox : (c.setWorker next (w.withInbox (w.inbox ++ [c.request]))).mailbox = c.mailbox := rfl
    simp only [Worker.work, Worker.inbox_withInbox, Worker.status_withInbox, length_append,
      length_singleton] at hsum
    simp only [remaining, hstage, hlen, hbox]
    split <;> simp only [Stage.work] <;> omega

theorem remaining_serve_lt {shard : Nat} (h : c.serve shard ≠ c) :
    (c.serve shard).remaining < c.remaining := by
  have hstage := c.stage_serve shard
  have hlen := c.length_step (.serve shard)
  simp only [step] at hlen
  obtain hc | ⟨w, r, rest, hw, hr, hi, hc⟩ := c.serve_cases shard
  · exact absurd hc h
  · simp only [remaining, hstage, hlen]
    rcases hc with ⟨-, hc⟩ | ⟨-, -, hc⟩ | ⟨result, -, -, hc⟩
    · have hsum := sum_work_setWorker hw ⟨w.backend, .ending, rest⟩
      simp only [Worker.work, hr, hi, Status.work, length_cons] at hsum
      rw [hc]
      simp only [setWorker] at hsum ⊢
      omega
    · have hsum := sum_work_setWorker hw (w.withInbox rest)
      simp only [Worker.work, hi, Worker.inbox_withInbox, Worker.status_withInbox, length_cons] at hsum
      rw [hc]
      simp only [setWorker] at hsum ⊢
      omega
    · have hsum := sum_work_setWorker hw (w.withInbox rest)
      simp only [Worker.work, hi, Worker.inbox_withInbox, Worker.status_withInbox, length_cons] at hsum
      rw [hc]
      simp only [post, setWorker, length_append, length_singleton] at hsum ⊢
      omega

theorem remaining_leave_lt {shard : Nat} (h : c.leave shard ≠ c) :
    (c.leave shard).remaining < c.remaining := by
  have hstage := c.stage_leave shard
  have hlen := c.length_step (.leave shard)
  simp only [step] at hlen
  obtain hc | ⟨w, hw, hr, hc⟩ := c.leave_cases shard
  · exact absurd hc h
  · have hsum := sum_work_setWorker hw ⟨w.backend, .ended, []⟩
    simp only [Worker.work, hr, Status.work, length_nil] at hsum
    simp only [remaining, hstage, hlen]
    rw [hc]
    simp only [setWorker] at hsum ⊢
    omega

theorem remaining_take_lt {replied : List Nat} {hits : List Hit}
    (hstage : c.stage = .gathering replied hits) (h : c.take replied hits ≠ c) :
    (c.take replied hits).remaining < c.remaining := by
  cases hbox : c.mailbox with
  | nil =>
    by_cases ha : c.isAwaited
    · exact absurd (take_of_awaited hbox ha) h
    · rw [take_of_not_awaited hbox (by simpa using ha)]
      simp only [remaining, hstage, Stage.work]
      omega
  | cons reply rest =>
    obtain ⟨shard, result⟩ := reply
    cases result with
    | error failure =>
      rw [take_of_error hbox]
      simp only [remaining, hstage, Stage.work, hbox, length_cons]
      omega
    | ok found =>
      rw [take_of_ok hbox]
      simp only [remaining, hstage, hbox, length_cons]
      split <;> simp only [Stage.work] <;> omega

theorem remaining_step_lt {e : Event} (h : c.step e ≠ c) : (c.step e).remaining < c.remaining := by
  cases e with
  | serve shard => exact remaining_serve_lt h
  | leave shard => exact remaining_leave_lt h
  | send =>
    cases hstage : c.stage with
    | sending next =>
      simp only [step, hstage] at h ⊢
      have hnext : next < c.workers.length := by
        by_contra hge
        have hnone : c.workers[next]? = none := List.getElem?_eq_none (Nat.le_of_not_lt hge)
        exact h (by simp [send, hnone])
      exact remaining_send_lt hstage hnext
    | gathering replied hits => exact absurd (by simp [step, hstage]) h
    | answered answer => exact absurd (by simp [step, hstage]) h
  | take =>
    cases hstage : c.stage with
    | sending next => exact absurd (by simp [step, hstage]) h
    | gathering replied hits =>
      simp only [step, hstage] at h ⊢
      exact remaining_take_lt hstage h
    | answered answer => exact absurd (by simp [step, hstage]) h

def Busy : Call → List Event → Prop
  | _, [] => True
  | c, e :: events => c.step e ≠ c ∧ (c.step e).Busy events

theorem Busy.length_le {events : List Event} (h : c.Busy events) : events.length ≤ c.remaining := by
  induction events generalizing c with
  | nil => simp
  | cons e events ih =>
    have hlt := remaining_step_lt h.1
    have hle := ih h.2
    simp only [length_cons]
    omega

def Quiet (c : Call) : Prop :=
  ∀ e, c.step e = c

/-- A call that awaits a reply is not quiet, as long as workers that have ended hold no requests. -/
theorem not_quiet_of_awaited (ha : c.isAwaited = true)
    (hended : ∀ w ∈ c.workers, w.status = .ended → w.inbox = []) : ¬ c.Quiet := by
  intro hquiet
  simp only [isAwaited, any_eq_true] at ha
  obtain ⟨w, hw, r, hr, -⟩ := ha
  obtain ⟨shard, hshard⟩ := mem_iff_getElem?.mp hw
  obtain ⟨s, rest, hi⟩ := exists_cons_of_ne_nil (ne_nil_of_mem hr)
  cases hs : w.status with
  | running =>
    obtain ⟨status, hserved⟩ := worker_serve hshard hs hi
    rw [show c.serve shard = c from hquiet (.serve shard), hshard] at hserved
    have hinbox := congrArg Worker.inbox (Option.some.inj hserved)
    rw [hi] at hinbox
    exact cons_ne_self s rest hinbox
  | ending =>
    have hleft := worker_leave hshard hs
    rw [show c.leave shard = c from hquiet (.leave shard), hshard] at hleft
    have hstatus := congrArg Worker.status (Option.some.inj hleft)
    simp [hs] at hstatus
  | ended =>
    rw [hended w hw hs] at hr
    cases hr

theorem Sound.answered_of_quiet {fates : List Outcome} {arrived : List Reply}
    (h : c.Sound fates arrived) (hended : ∀ w ∈ c.workers, w.status = .ended → w.inbox = [])
    (hquiet : c.Quiet) : ∃ a, c.stage = .answered a := by
  cases h with
  | @sending next stage next_lt tracks waiting =>
    have hlt := remaining_send_lt stage next_lt
    have hsend : c.send next = c := by simpa only [Call.step, stage] using hquiet .send
    rw [hsend] at hlt
    exact absurd hlt (Nat.lt_irrefl _)
  | @gathering taken stage missing tracks waiting found =>
    have htake : c.take (taken.map Reply.shard) (taken.flatMap Reply.hits) = c := by simpa only [Call.step, stage] using hquiet .take
    cases hbox : c.mailbox with
    | nil =>
      by_cases ha : c.isAwaited
      · exact absurd hquiet (not_quiet_of_awaited ha hended)
      · rw [take_of_not_awaited hbox (by simpa using ha)] at htake
        exact ⟨_, (congrArg Call.stage htake).symm⟩
    | cons reply rest =>
      obtain ⟨shard, result⟩ := reply
      have hlen := congrArg (fun d : Call => d.mailbox.length) htake
      cases result with
      | error failure => simp [take_of_error hbox, hbox] at hlen
      | ok found => simp [take_of_ok hbox, hbox] at hlen
  | answered stage verdict tracks => exact ⟨_, stage⟩

end Call

end RepoAtlas.Pool
