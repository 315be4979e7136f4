import RepoAtlas.Proofs.Pool.Tracks
import RepoAtlas.Proofs.Search.Ranking

/-! # The answers of a call -/

namespace RepoAtlas.Pool

open Search List

namespace Call

variable {c : Call} {fates : List Outcome} {arrived : List Reply}

/-- What the replies that have arrived, and the fates of the requests, justify as an answer. -/
inductive Verdict (c : Call) (fates : List Outcome) (arrived : List Reply) :
    Except Error (List Hit) → Prop
  | merged (all : arrived.map Reply.shard ~ range c.workers.length)
      (found : ∀ reply ∈ arrived, ∃ hits, reply.result = .ok hits) :
      Verdict c fates arrived (.ok (best c.limit (arrived.flatMap Reply.hits)))
  | failed {shard failure} (heard : ⟨shard, .error failure⟩ ∈ arrived) :
      Verdict c fates arrived (.error (.shardFailed shard failure))
  | lost {shard} (fate : fates[shard]? = some .lost)
      (stopped : ∃ w, c.workers[shard]? = some w ∧ w.status ≠ .running) :
      Verdict c fates arrived (.error (.shardLost shard))

/-- The caller has taken the replies that arrived first, and the others wait in the mailbox. -/
inductive Sound (c : Call) (fates : List Outcome) (arrived : List Reply) : Prop
  | sending {next} (stage : c.stage = .sending next) (next_lt : next < c.workers.length)
      (tracks : c.Tracks fates next arrived) (waiting : arrived = c.mailbox)
  | gathering {taken} (stage : c.stage = .gathering (taken.map Reply.shard) (taken.flatMap Reply.hits))
      (missing : taken.length < c.workers.length) (tracks : c.Tracks fates c.workers.length arrived)
      (waiting : arrived = taken ++ c.mailbox)
      (found : ∀ reply ∈ taken, ∃ hits, reply.result = .ok hits)
  | answered {answer sent} (stage : c.stage = .answered answer)
      (verdict : c.Verdict fates arrived answer) (tracks : c.Tracks fates sent arrived)

theorem Sound.tracks (h : c.Sound fates arrived) : ∃ sent, c.Tracks fates sent arrived := by
  cases h with
  | sending stage next_lt tracks waiting => exact ⟨_, tracks⟩
  | gathering stage missing tracks waiting found => exact ⟨_, tracks⟩
  | answered stage verdict tracks => exact ⟨_, tracks⟩

/-! ## What the shards found -/

section

variable {sent : Nat} (all : arrived.map Reply.shard ~ range c.workers.length)
  (found : ∀ reply ∈ arrived, ∃ hits, reply.result = .ok hits)

include all found

theorem Tracks.exists_hits (h : c.Tracks fates sent arrived) {o : Outcome} (ho : o ∈ fates) :
    ∃ hits, o = .found hits := by
  obtain ⟨i, hi⟩ := mem_iff_getElem?.mp ho
  obtain ⟨hlt, -⟩ := List.getElem?_eq_some_iff.mp hi
  have hmem : i ∈ arrived.map Reply.shard := all.mem_iff.mpr (mem_range.mpr (h.width ▸ hlt))
  obtain ⟨reply, hreply, rfl⟩ := mem_map.mp hmem
  obtain ⟨p, hp, hresult⟩ := h.came reply hreply
  obtain rfl : o = p := Option.some.inj (hi.symm.trans hp)
  obtain ⟨hits, hhits⟩ := found reply hreply
  rw [hhits] at hresult
  exact ⟨hits, Outcome.result?_eq_ok_iff.mp hresult⟩

theorem Tracks.exists_lists (h : c.Tracks fates sent arrived) :
    ∃ lists : List (List Hit), fates = lists.map .found ∧
      arrived = (arrived.map Reply.shard).map fun shard => ⟨shard, .ok (lists[shard]?.getD [])⟩ := by
  refine ⟨fates.map Outcome.hits, ?_, ?_⟩
  · rw [map_map]
    refine ((map_congr_left fun o ho => ?_).trans (map_id _)).symm
    obtain ⟨hits, rfl⟩ := h.exists_hits all found ho
    rfl
  · rw [map_map]
    refine ((map_congr_left fun reply hmem => ?_).trans (map_id _)).symm
    obtain ⟨o, ho, hresult⟩ := h.came reply hmem
    obtain ⟨hits, hhits⟩ := found reply hmem
    rw [hhits] at hresult
    obtain rfl := Outcome.result?_eq_ok_iff.mp hresult
    obtain ⟨shard, result⟩ := reply
    obtain rfl : result = .ok hits := hhits
    simp [ho, Outcome.hits]

end

/-! ## Taking a reply -/

/-- A shard that is not heard while nothing is awaited has lost its request. -/
theorem Tracks.lost_of_not_awaited (h : c.Tracks fates c.workers.length arrived)
    (ha : c.isAwaited = false) {i : Nat} (hi : i < c.workers.length)
    (hn : i ∉ arrived.map Reply.shard) :
    fates[i]? = some .lost ∧ ∃ w, c.workers[i]? = some w ∧ w.status ≠ .running := by
  obtain ⟨w, hw⟩ : ∃ w, c.workers[i]? = some w := ⟨_, List.getElem?_eq_getElem hi⟩
  obtain ⟨o, ho⟩ := h.exists_fate hw
  have hs := h.stands hw ho
  rw [Phase.of_eq_sent_iff.mpr ⟨hn, hi⟩] at hs
  rcases hs with ⟨-, stale, hinbox, -⟩ | ⟨hstop, rfl⟩
  · have hawaited : c.isAwaited = true := by
      simp only [isAwaited, any_eq_true]
      exact ⟨w, mem_of_getElem? hw, c.request, by simp [hinbox], by simp [request]⟩
    rw [ha] at hawaited
    cases hawaited
  · exact ⟨ho, w, hw, hstop⟩

theorem firstMissing_spec {replied : List Nat} (h : replied.length < c.workers.length) :
    c.firstMissing replied < c.workers.length ∧ c.firstMissing replied ∉ replied := by
  cases hf : (range c.workers.length).find? fun shard => !replied.contains shard with
  | none =>
    obtain ⟨i, hi, hn⟩ := exists_lt_not_mem h
    have := find?_eq_none.mp hf i (mem_range.mpr hi)
    simp [hn] at this
  | some i =>
    have hmem := mem_of_find?_eq_some hf
    have hn := find?_some hf
    rw [firstMissing, hf]
    exact ⟨mem_range.mp hmem, by simpa using hn⟩

/-- After another reply with hits the caller goes on as long as shards are missing, and otherwise merges. -/
theorem Tracks.sound_of_found {taken rest : List Reply} (tracks : c.Tracks fates c.workers.length arrived)
    (waiting : arrived = taken ++ rest) (found : ∀ reply ∈ taken, ∃ hits, reply.result = .ok hits) :
    ({ c with
      mailbox := rest
      stage :=
        if taken.length < c.workers.length then
          .gathering (taken.map Reply.shard) (taken.flatMap Reply.hits)
        else .answered (.ok (best c.limit (taken.flatMap Reply.hits))) } : Call).Sound fates arrived := by
  by_cases hlen : taken.length < c.workers.length
  · rw [if_pos hlen]
    exact .gathering rfl hlen (tracks.withStage _ _) waiting found
  · have hrest : rest = [] := by
      have hle := tracks.length_le
      rw [waiting, length_append] at hle
      exact eq_nil_of_length_eq_zero (by omega)
    obtain rfl : arrived = taken := by rw [waiting, hrest, append_nil]
    rw [if_neg hlen]
    exact .answered rfl (.merged (tracks.perm_range (Nat.le_of_not_lt hlen)) found) (tracks.withStage _ _)

theorem Sound.take {taken : List Reply}
    (stage : c.stage = .gathering (taken.map Reply.shard) (taken.flatMap Reply.hits))
    (missing : taken.length < c.workers.length) (tracks : c.Tracks fates c.workers.length arrived)
    (waiting : arrived = taken ++ c.mailbox)
    (found : ∀ reply ∈ taken, ∃ hits, reply.result = .ok hits) :
    (c.take (taken.map Reply.shard) (taken.flatMap Reply.hits)).Sound fates arrived := by
  cases hbox : c.mailbox with
  | nil =>
    by_cases ha : c.isAwaited
    · rw [take_of_awaited hbox ha]
      exact .gathering stage missing tracks waiting found
    · have ha : c.isAwaited = false := by simpa using ha
      obtain rfl : arrived = taken := by rw [waiting, hbox, append_nil]
      have hshort : (arrived.map Reply.shard).length < c.workers.length := by rwa [length_map]
      obtain ⟨hlt, hn⟩ := firstMissing_spec hshort
      obtain ⟨hfate, hstop⟩ := tracks.lost_of_not_awaited ha hlt hn
      rw [take_of_not_awaited hbox ha]
      exact .answered rfl (.lost hfate hstop) (tracks.withStage _ _)
  | cons reply rest =>
    rw [hbox] at waiting
    obtain ⟨shard, result⟩ := reply
    cases result with
    | error failure =>
      rw [take_of_error hbox]
      exact .answered rfl (.failed (by simp [waiting])) (tracks.withStage _ _)
    | ok hits =>
      have hsound := tracks.sound_of_found (waiting.trans (append_cons ..))
        (forall_mem_append.mpr ⟨found, by simp⟩)
      rw [take_of_ok hbox]
      simpa only [map_append, flatMap_append, map_cons, map_nil, flatMap_cons, flatMap_nil, append_nil,
        Reply.hits, length_append, length_map, length_singleton] using hsound

/-! ## The invariant along a run -/

theorem Verdict.step {answer : Except Error (List Hit)} {sent : Nat} {e : Event}
    (h : c.Verdict fates arrived answer) (tracks : (c.step e).Tracks fates sent (arrived ++ c.brings e)) :
    (c.step e).Verdict fates (arrived ++ c.brings e) answer := by
  cases h with
  | merged all found =>
    -- all shards have replied, so no reply is left to arrive
    have hnone : c.brings e = [] := by
      have hle := tracks.length_le
      have hall := all.length_eq
      rw [length_append, length_step] at hle
      rw [length_map, length_range] at hall
      exact eq_nil_of_length_eq_zero (by omega)
    have hlimit : (c.step e).limit = c.limit := congrArg Request.limit (c.request_step e)
    rw [hnone, append_nil, ← hlimit]
    exact .merged (by rwa [length_step]) found
  | failed heard => exact .failed (mem_append_left _ heard)
  | lost fate stopped =>
    obtain ⟨w, hw, hs⟩ := stopped
    obtain ⟨w', hw', hc⟩ := c.step_change e hw
    exact .lost fate ⟨w', hw', hc.not_running hs⟩

theorem Sound.moved {e : Event} (h : c.Sound fates arrived) (hstage : (c.step e).stage = c.stage)
    (hbox : (c.step e).mailbox = c.mailbox ++ c.brings e)
    (htracks : ∀ {sent}, c.Tracks fates sent arrived →
      (c.step e).Tracks fates sent (arrived ++ c.brings e)) :
    (c.step e).Sound fates (arrived ++ c.brings e) := by
  have hlen := c.length_step e
  cases h with
  | sending stage next_lt tracks waiting =>
    exact .sending (hstage.trans stage) (by rwa [hlen]) (htracks tracks) (by rw [hbox, waiting])
  | gathering stage missing tracks waiting found =>
    refine .gathering (hstage.trans stage) (by rwa [hlen]) ?_ (by rw [hbox, waiting, append_assoc]) found
    rw [hlen]
    exact htracks tracks
  | answered stage verdict tracks =>
    exact .answered (hstage.trans stage) (verdict.step (htracks tracks)) (htracks tracks)

theorem Sound.send {next : Nat} (next_lt : next < c.workers.length)
    (tracks : c.Tracks fates next arrived) (waiting : arrived = c.mailbox) :
    (c.send next).Sound fates arrived := by
  obtain ⟨w, hw⟩ : ∃ w, c.workers[next]? = some w := ⟨_, List.getElem?_eq_getElem next_lt⟩
  by_cases he : w.status = .ended
  · obtain ⟨o, ho⟩ := tracks.exists_fate hw
    have hnot : next ∉ arrived.map Reply.shard := fun hmem =>
      Nat.lt_irrefl _ (tracks.bound next hmem)
    have hs := tracks.stands hw ho
    rw [Phase.of_eq_unsent_iff.mpr ⟨hnot, Nat.le_refl next⟩] at hs
    have hstop : w.status ≠ .running := by simp [he]
    have hlost : o = .lost := hs.2.symm.trans (Worker.fate_of_not_running hstop)
    rw [send_of_ended hw he]
    exact .answered rfl (.lost (hlost ▸ ho) ⟨w, hw, hstop⟩) (tracks.withStage _ _)
  · rw [send_of_not_ended hw he]
    have htracks := tracks.send hw
    by_cases hlen : next + 1 < c.workers.length
    · rw [if_pos hlen]
      exact .sending rfl (by simpa using hlen) (htracks.withStage _ _) waiting
    · rw [if_neg hlen]
      have hn : next + 1 = c.workers.length := by omega
      refine @Sound.gathering _ _ _ [] rfl ?_ ?_ waiting (by simp)
      · simp only [length_nil, length_setWorker]
        omega
      · simp only [length_setWorker]
        rw [← hn]
        exact htracks.withStage _ _

/-- Every event keeps the invariant, and what it brings arrives after the rest. -/
theorem Sound.step (h : c.Sound fates arrived) (e : Event) :
    (c.step e).Sound fates (arrived ++ c.brings e) := by
  cases e with
  | serve shard =>
    exact h.moved (c.stage_serve shard) (c.mailbox_serve shard) fun tracks => tracks.serve shard
  | leave shard =>
    have hbox : (c.leave shard).mailbox = c.mailbox ++ c.brings (.leave shard) := by
      rw [mailbox_leave, brings_leave, append_nil]
    refine h.moved (c.stage_leave shard) hbox fun tracks => ?_
    rw [brings_leave, append_nil]
    exact tracks.leave shard
  | send =>
    rw [brings_send, append_nil]
    cases h with
    | sending stage next_lt tracks waiting =>
      simp only [Call.step, stage]
      exact .send next_lt tracks waiting
    | gathering stage missing tracks waiting found =>
      simp only [Call.step, stage]
      exact .gathering stage missing tracks waiting found
    | answered stage verdict tracks =>
      simp only [Call.step, stage]
      exact .answered stage verdict tracks
  | take =>
    rw [brings_take, append_nil]
    cases h with
    | sending stage next_lt tracks waiting =>
      simp only [Call.step, stage]
      exact .sending stage next_lt tracks waiting
    | gathering stage missing tracks waiting found =>
      simp only [Call.step, stage]
      exact .take stage missing tracks waiting found
    | answered stage verdict tracks =>
      simp only [Call.step, stage]
      exact .answered stage verdict tracks

theorem Sound.run (h : c.Sound fates arrived) (events : List Event) :
    (c.run events).Sound fates (arrived ++ c.arrivals events) := by
  induction events generalizing c arrived with
  | nil => rwa [arrivals_nil, append_nil]
  | cons e events ih =>
    rw [run_cons, arrivals_cons, ← append_assoc]
    exact ih (h.step e)

/-! ## Answers -/

theorem answer?_eq_some_iff {a : Except Error (List Hit)} :
    c.answer? = some a ↔ c.stage = .answered a := by
  unfold answer?
  split
  · next b hb => simp [hb]
  · next hno => simpa using hno a

theorem Sound.verdict (h : c.Sound fates arrived) {answer : Except Error (List Hit)}
    (ha : c.answer? = some answer) : c.Verdict fates arrived answer := by
  have hstage := answer?_eq_some_iff.mp ha
  cases h with
  | sending stage => simp [stage] at hstage
  | gathering stage => simp [stage] at hstage
  | answered stage verdict =>
    obtain rfl : _ = answer := Stage.answered.inj (stage.symm.trans hstage)
    exact verdict

/-- Hits are an answer only when each shard has replied with its own, and the replies are merged in the
order of their arrival. -/
theorem Sound.exists_order (h : c.Sound fates arrived) {hits : List Hit}
    (ha : c.answer? = some (.ok hits)) :
    ∃ (lists : List (List Hit)) (order : List Nat), fates = lists.map .found ∧
      order ~ range c.workers.length ∧
      arrived = order.map (fun shard => ⟨shard, .ok (lists[shard]?.getD [])⟩) ∧
      hits = best c.limit (order.flatMap fun shard => lists[shard]?.getD []) := by
  obtain ⟨sent, tracks⟩ := h.tracks
  generalize he : (Except.ok hits : Except Error (List Hit)) = answer at ha
  cases h.verdict ha with
  | merged all found =>
    obtain ⟨lists, hfates, harrived⟩ := tracks.exists_lists all found
    refine ⟨lists, arrived.map Reply.shard, hfates, all, harrived, ?_⟩
    rw [Except.ok.inj he]
    congr 1
    conv_lhs => rw [harrived, flatMap_map]
    rfl
  | failed heard => cases he
  | lost fate stopped => cases he

theorem Sound.exists_error (h : c.Sound fates arrived) {answer : Except Error (List Hit)}
    (ha : c.answer? = some answer) {o : Outcome} (ho : o ∈ fates) (hno : ∀ found, o ≠ .found found) :
    ∃ e, answer = .error e := by
  obtain ⟨sent, tracks⟩ := h.tracks
  cases h.verdict ha with
  | merged all found =>
    obtain ⟨hits, hhits⟩ := tracks.exists_hits all found ho
    exact absurd hhits (hno hits)
  | failed heard => exact ⟨_, rfl⟩
  | lost fate stopped => exact ⟨_, rfl⟩

/-- Without a failure and without a loss there is no error. -/
theorem Sound.exists_hits (h : c.Sound fates arrived) {answer : Except Error (List Hit)}
    (ha : c.answer? = some answer) (hfound : ∀ o ∈ fates, ∃ hits, o = .found hits) :
    ∃ hits, answer = .ok hits := by
  obtain ⟨sent, tracks⟩ := h.tracks
  cases h.verdict ha with
  | merged all found => exact ⟨_, rfl⟩
  | failed heard =>
    obtain ⟨o, ho, hresult⟩ := tracks.came _ heard
    obtain ⟨hits, rfl⟩ := hfound o (mem_of_getElem? ho)
    cases hresult
  | lost fate stopped =>
    obtain ⟨hits, hlost⟩ := hfound _ (mem_of_getElem? fate)
    cases hlost

end Call

end RepoAtlas.Pool
