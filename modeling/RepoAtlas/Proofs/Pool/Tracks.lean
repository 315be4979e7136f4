import RepoAtlas.Proofs.Lists
import RepoAtlas.Proofs.Pool.Fate
import Mathlib.Data.List.Nodup

/-! # The tracks of a call -/

namespace RepoAtlas.Pool

open Search List

namespace Call

variable {c : Call} {fates : List Outcome} {sent : Nat} {arrived : List Reply}

/-- The shards of a call, and the replies that have arrived, agree with the fates of the requests. -/
structure Tracks (c : Call) (fates : List Outcome) (sent : Nat) (arrived : List Reply) : Prop where
  width : fates.length = c.workers.length
  stands : ∀ {i : Nat} {w : Worker} {o : Outcome}, c.workers[i]? = some w → fates[i]? = some o →
    w.Stands c.request o (.of sent (arrived.map Reply.shard) i)
  came : ∀ reply ∈ arrived, ∃ o, fates[reply.shard]? = some o ∧ o.result? = some reply.result
  nodup : (arrived.map Reply.shard).Nodup
  bound : ∀ i ∈ arrived.map Reply.shard, i < sent

theorem Tracks.withStage (h : c.Tracks fates sent arrived) (mailbox : List Reply) (stage : Stage) :
    ({ c with mailbox, stage } : Call).Tracks fates sent arrived :=
  ⟨h.width, h.stands, h.came, h.nodup, h.bound⟩

theorem Tracks.exists_fate (h : c.Tracks fates sent arrived) {i : Nat} {w : Worker}
    (hw : c.workers[i]? = some w) : ∃ o, fates[i]? = some o := by
  obtain ⟨hlt, -⟩ := List.getElem?_eq_some_iff.mp hw
  exact ⟨_, List.getElem?_eq_getElem (h.width ▸ hlt)⟩

theorem Tracks.setWorker (h : c.Tracks fates sent arrived) {shard : Nat} {w w' : Worker}
    (hw : c.workers[shard]? = some w)
    (hs : ∀ {o phase}, w.Stands c.request o phase → w'.Stands c.request o phase) :
    (c.setWorker shard w').Tracks fates sent arrived := by
  refine ⟨by rw [length_setWorker, h.width], ?_, h.came, h.nodup, h.bound⟩
  intro i v o hv ho
  by_cases hi : shard = i
  · subst hi
    obtain rfl : w' = v := by simpa [getElem?_setWorker_self hw w'] using hv
    exact hs (h.stands hw ho)
  · rw [getElem?_setWorker_of_ne c w' hi] at hv
    exact h.stands hv ho

/-- The reply of a shard that was sent the request arrives. -/
theorem Tracks.reply (h : c.Tracks fates sent arrived) {shard : Nat} {w w' : Worker} {o : Outcome}
    {result : Except Failure (List Hit)} (hw : c.workers[shard]? = some w)
    (ho : fates[shard]? = some o) (hresult : o.result? = some result)
    (hphase : Phase.of sent (arrived.map Reply.shard) shard = .sent)
    (hs : w'.Stands c.request o .heard) :
    ((c.setWorker shard w').post ⟨shard, result⟩).Tracks fates sent (arrived ++ [⟨shard, result⟩]) := by
  have hheard : (arrived ++ [(⟨shard, result⟩ : Reply)]).map Reply.shard =
      arrived.map Reply.shard ++ [shard] := by
    simp
  obtain ⟨hnot, hlt⟩ := Phase.of_eq_sent_iff.mp hphase
  refine ⟨h.width.trans (length_setWorker c shard w').symm, ?_, ?_, ?_, ?_⟩
  · intro i v p hv hp
    replace hv : (c.setWorker shard w').workers[i]? = some v := hv
    rw [hheard]
    by_cases hi : shard = i
    · subst hi
      obtain rfl : w' = v := by simpa [getElem?_setWorker_self hw w'] using hv
      obtain rfl : o = p := by simpa [ho] using hp
      rw [Phase.of_eq_heard_iff.mpr (mem_append_right _ (mem_singleton_self shard))]
      exact hs
    · rw [getElem?_setWorker_of_ne c w' hi] at hv
      have hphase' : Phase.of sent (arrived.map Reply.shard ++ [shard]) i =
          Phase.of sent (arrived.map Reply.shard) i := by
        simp [Phase.of, Ne.symm hi]
      rw [hphase']
      exact h.stands hv hp
  · intro reply hmem
    rcases mem_append.mp hmem with hmem | hmem
    · exact h.came reply hmem
    · rw [mem_singleton.mp hmem]
      exact ⟨o, ho, hresult⟩
  · rw [hheard]
    exact nodup_append.mpr ⟨h.nodup, nodup_singleton _, by
      intro i hi j hj
      rw [mem_singleton.mp hj]
      exact fun he => hnot (he ▸ hi)⟩
  · intro i hmem
    rw [hheard] at hmem
    rcases mem_append.mp hmem with hmem | hmem
    · exact h.bound i hmem
    · rw [mem_singleton.mp hmem]
      exact hlt

theorem Tracks.serve (h : c.Tracks fates sent arrived) (shard : Nat) :
    (c.serve shard).Tracks fates sent (arrived ++ c.brings (.serve shard)) := by
  obtain hc | ⟨w, r, rest, hw, hr, hi, hc⟩ := c.serve_cases shard
  · rwa [brings_serve_of_eq hc, append_nil, hc]
  · rcases hc with ⟨ho, hc⟩ | ⟨ho, ht, hc⟩ | ⟨result, ho, ht, hc⟩
    · rw [brings_serve_of_setWorker hc, append_nil, hc]
      exact h.setWorker hw fun hs => hs.stopped hr hi ho
    · rw [brings_serve_of_setWorker hc, append_nil, hc]
      exact h.setWorker hw fun hs => hs.served_other hr hi ht ho
    · obtain ⟨o, hfate⟩ := h.exists_fate hw
      obtain ⟨hphase, rfl, hheard⟩ := (h.stands hw hfate).served_own hr hi ht
      rw [brings_serve_of_post hc, hc]
      exact h.reply hw hfate ho hphase hheard

theorem Tracks.leave (h : c.Tracks fates sent arrived) (shard : Nat) :
    (c.leave shard).Tracks fates sent arrived := by
  obtain hc | ⟨w, hw, hr, hc⟩ := c.leave_cases shard
  · rwa [hc]
  · rw [hc]
    exact h.setWorker hw fun hs => hs.left hr

theorem Tracks.send (h : c.Tracks fates sent arrived) {w : Worker} (hw : c.workers[sent]? = some w) :
    (c.setWorker sent (w.withInbox (w.inbox ++ [c.request]))).Tracks fates (sent + 1) arrived := by
  have hnot : sent ∉ arrived.map Reply.shard := fun hmem => Nat.lt_irrefl _ (h.bound sent hmem)
  refine ⟨by rw [length_setWorker, h.width], ?_, h.came, h.nodup, fun i hi => Nat.lt_succ_of_lt (h.bound i hi)⟩
  intro i v o hv ho
  by_cases hi : sent = i
  · subst hi
    obtain rfl : _ = v := by simpa [getElem?_setWorker_self hw] using hv
    have hs := h.stands hw ho
    rw [Phase.of_eq_unsent_iff.mpr ⟨hnot, Nat.le_refl sent⟩] at hs
    rw [Phase.of_eq_sent_iff.mpr ⟨hnot, Nat.lt_succ_self sent⟩]
    exact hs.received
  · rw [getElem?_setWorker_of_ne c _ hi] at hv
    have hphase : Phase.of (sent + 1) (arrived.map Reply.shard) i =
        Phase.of sent (arrived.map Reply.shard) i := by
      have hlt : i < sent + 1 ↔ i < sent := by omega
      simp only [Phase.of, hlt]
    rw [hphase]
    exact h.stands hv ho

theorem Tracks.shard_lt (h : c.Tracks fates sent arrived) {reply : Reply} (hmem : reply ∈ arrived) :
    reply.shard < c.workers.length := by
  obtain ⟨o, ho, -⟩ := h.came reply hmem
  rw [← h.width]
  exact (List.getElem?_eq_some_iff.mp ho).1

theorem Tracks.length_le (h : c.Tracks fates sent arrived) : arrived.length ≤ c.workers.length := by
  have hsub : arrived.map Reply.shard ⊆ range c.workers.length := by
    intro i hi
    obtain ⟨reply, hmem, rfl⟩ := mem_map.mp hi
    exact mem_range.mpr (h.shard_lt hmem)
  simpa using (subperm_of_subset h.nodup hsub).length_le

theorem Tracks.perm_range (h : c.Tracks fates sent arrived) (hlen : c.workers.length ≤ arrived.length) :
    arrived.map Reply.shard ~ range c.workers.length := by
  apply RepoAtlas.perm_range h.nodup
  · intro i hi
    obtain ⟨reply, hmem, rfl⟩ := mem_map.mp hi
    exact h.shard_lt hmem
  · rwa [length_map]

end Call

end RepoAtlas.Pool
