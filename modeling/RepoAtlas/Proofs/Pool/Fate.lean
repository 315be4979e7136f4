import RepoAtlas.Proofs.Pool.Events

/-! # The fate of a request -/

namespace RepoAtlas.Pool

open Search List

/-- What becomes of a request that is sent to the worker. It is lost when the worker has stopped, and
when a request that waits before it makes the worker stop. -/
def Worker.fate (w : Worker) (r : Request) : Outcome :=
  if w.status = .running ∧ ∀ s ∈ w.inbox, w.outcome s ≠ .lost then w.outcome r else .lost

namespace Worker

variable {w : Worker} {r s : Request} {rest : List Request}

theorem fate_of_not_running (h : w.status ≠ .running) : w.fate r = .lost := by
  simp [fate, h]

theorem outcome_eq_of_fate {o : Outcome} (h : w.fate r = o) (ho : o ≠ .lost) : w.outcome r = o := by
  unfold fate at h
  split at h
  · exact h
  · exact absurd h.symm ho

theorem fate_withInbox_nil (h : w.status = .running) : (w.withInbox []).fate r = w.outcome r := by
  simp [fate, h]

theorem fate_withInbox_of_lost (h : w.outcome s = .lost) :
    (w.withInbox (s :: rest)).fate r = .lost := by
  simp [fate, h]

/-- Serving a request that does not stop the worker changes no fate. -/
theorem fate_withInbox_of_not_lost (h : w.outcome s ≠ .lost) :
    (w.withInbox (s :: rest)).fate r = (w.withInbox rest).fate r := by
  have hall : (∀ t ∈ s :: rest, w.outcome t ≠ .lost) ↔ ∀ t ∈ rest, w.outcome t ≠ .lost := by
    simp [h]
  exact if_congr (and_congr_right fun _ => hall) rfl rfl

end Worker

def Outcome.hits : Outcome → List Hit
  | .found hits => hits
  | _ => []

inductive Phase
  | unsent
  | sent
  | heard
  deriving DecidableEq

/-- The phase of a shard, when the request was sent to the shards before `sent` and the shards `heard`
have replied. -/
def Phase.of (sent : Nat) (heard : List Nat) (shard : Nat) : Phase :=
  if shard ∈ heard then .heard else if shard < sent then .sent else .unsent

namespace Phase

variable {sent shard : Nat} {heard : List Nat}

theorem of_eq_heard_iff : Phase.of sent heard shard = .heard ↔ shard ∈ heard := by
  unfold Phase.of
  split
  · simp [*]
  · split <;> simp [*]

theorem of_eq_sent_iff : Phase.of sent heard shard = .sent ↔ shard ∉ heard ∧ shard < sent := by
  unfold Phase.of
  split
  · simp [*]
  · split <;> simp [*]

theorem of_eq_unsent_iff : Phase.of sent heard shard = .unsent ↔ shard ∉ heard ∧ sent ≤ shard := by
  unfold Phase.of
  split
  · simp [*]
  · split <;> simp_all

end Phase

/-- The worker holds the request behind others, of which none is of the same call. -/
def Worker.Holds (w : Worker) (r : Request) (o : Outcome) : Prop :=
  w.status = .running ∧
    ∃ stale, w.inbox = stale ++ [r] ∧ (∀ s ∈ stale, s.ticket ≠ r.ticket) ∧
      (w.withInbox stale).fate r = o

/-- How a worker stands in the phases of a call that asks `r`, where `o` is the fate of the request. -/
def Worker.Stands (w : Worker) (r : Request) (o : Outcome) : Phase → Prop
  | .unsent => (∀ s ∈ w.inbox, s.ticket ≠ r.ticket) ∧ w.fate r = o
  | .sent => w.Holds r o ∨ w.status ≠ .running ∧ o = .lost
  | .heard => w.status = .running ∧ w.inbox = []

namespace Worker.Stands

variable {w : Worker} {r s : Request} {o : Outcome} {rest : List Request} {phase : Phase}

theorem received (h : w.Stands r o .unsent) : (w.withInbox (w.inbox ++ [r])).Stands r o .sent := by
  obtain ⟨hfresh, hfate⟩ := h
  by_cases hr : w.status = .running
  · exact Or.inl ⟨hr, w.inbox, rfl, hfresh, hfate⟩
  · exact Or.inr ⟨hr, by rw [← hfate, fate_of_not_running hr]⟩

theorem served_other (h : w.Stands r o phase) (hr : w.status = .running) (hi : w.inbox = s :: rest)
    (hs : s.ticket ≠ r.ticket) (ho : w.outcome s ≠ .lost) : (w.withInbox rest).Stands r o phase := by
  cases phase with
  | unsent =>
    obtain ⟨hfresh, hfate⟩ := h
    refine ⟨fun t ht => hfresh t (by rw [hi]; exact mem_cons_of_mem s ht), ?_⟩
    rw [← fate_withInbox_of_not_lost ho, ← hi, withInbox_self, hfate]
  | sent =>
    rcases h with ⟨-, stale, hstale, hfresh, hfate⟩ | ⟨hstop, -⟩
    · cases stale with
      | nil =>
        rw [hi] at hstale
        exact absurd (congrArg Request.ticket (cons.inj hstale).1) hs
      | cons t stale =>
        obtain ⟨rfl, hrest⟩ := cons.inj (hi.symm.trans hstale)
        refine Or.inl ⟨hr, stale, hrest, fun u hu => hfresh u (mem_cons_of_mem s hu), ?_⟩
        exact (fate_withInbox_of_not_lost ho).symm.trans hfate
    · exact absurd hr hstop
  | heard =>
    rw [h.2] at hi
    cases hi

theorem stopped (h : w.Stands r o phase) (hr : w.status = .running) (hi : w.inbox = s :: rest)
    (ho : w.outcome s = .lost) : (⟨w.backend, .ending, rest⟩ : Worker).Stands r o phase := by
  cases phase with
  | unsent =>
    obtain ⟨hfresh, hfate⟩ := h
    refine ⟨fun t ht => hfresh t (by rw [hi]; exact mem_cons_of_mem s ht), ?_⟩
    rw [fate_of_not_running (by simp), ← hfate, ← w.withInbox_self, hi, fate_withInbox_of_lost ho]
  | sent =>
    refine Or.inr ⟨by simp, ?_⟩
    rcases h with ⟨-, stale, hstale, hfresh, hfate⟩ | ⟨-, hlost⟩
    · cases stale with
      | nil =>
        obtain ⟨rfl, -⟩ := cons.inj (hi.symm.trans hstale)
        rw [← hfate, fate_withInbox_nil hr, ho]
      | cons t stale =>
        obtain ⟨rfl, -⟩ := cons.inj (hi.symm.trans hstale)
        rw [← hfate, fate_withInbox_of_lost ho]
    · exact hlost
  | heard =>
    rw [h.2] at hi
    cases hi

theorem left (h : w.Stands r o phase) (hr : w.status = .ending) :
    (⟨w.backend, .ended, []⟩ : Worker).Stands r o phase := by
  have hstop : w.status ≠ .running := by simp [hr]
  cases phase with
  | unsent =>
    refine ⟨by simp, ?_⟩
    rw [fate_of_not_running (by simp), ← h.2, fate_of_not_running hstop]
  | sent =>
    rcases h with ⟨hrun, -⟩ | ⟨-, hlost⟩
    · exact absurd hrun hstop
    · exact Or.inr ⟨by simp, hlost⟩
  | heard => exact absurd h.1 hstop

/-- A worker that comes to a request of the call was sent this very request, and holds no other. -/
theorem own (h : w.Stands r o phase) (hr : w.status = .running) (hi : w.inbox = s :: rest)
    (hs : s.ticket = r.ticket) : phase = .sent ∧ s = r ∧ rest = [] ∧ (w.withInbox []).fate r = o := by
  cases phase with
  | unsent => exact absurd hs (h.1 s (by rw [hi]; exact mem_cons_self ..))
  | sent =>
    rcases h with ⟨-, stale, hstale, hfresh, hfate⟩ | ⟨hstop, -⟩
    · cases stale with
      | nil =>
        obtain ⟨rfl, rfl⟩ := cons.inj (hi.symm.trans hstale)
        exact ⟨rfl, rfl, rfl, hfate⟩
      | cons t stale =>
        obtain ⟨rfl, -⟩ := cons.inj (hi.symm.trans hstale)
        exact absurd hs (hfresh s (mem_cons_self ..))
    · exact absurd hr hstop
  | heard =>
    rw [h.2] at hi
    cases hi

theorem served_own (h : w.Stands r o phase) (hr : w.status = .running) (hi : w.inbox = s :: rest)
    (hs : s.ticket = r.ticket) :
    phase = .sent ∧ w.outcome s = o ∧ (w.withInbox rest).Stands r o .heard := by
  obtain ⟨rfl, rfl, rfl, hfate⟩ := h.own hr hi hs
  exact ⟨rfl, by rw [← hfate, fate_withInbox_nil hr], hr, rfl⟩

end Worker.Stands

end RepoAtlas.Pool
