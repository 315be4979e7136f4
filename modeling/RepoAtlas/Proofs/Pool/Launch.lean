import RepoAtlas.Pool.Launch
import RepoAtlas.Proofs.Pool.Start
import RepoAtlas.Proofs.Runs

/-! # Launches -/

namespace RepoAtlas.Pool

open List

@[simp] theorem Built.shard_report (shard : Nat) (b : Built) : (b.report shard).shard = shard := by
  cases b <;> rfl

theorem Built.exists_backend_of_report {shard : Nat} {b : Built}
    (h : ⟨shard, .ok ()⟩ = b.report shard) : ∃ backend, b = .ok backend := by
  cases b with
  | ok backend => exact ⟨backend, rfl⟩
  | error message => cases h

theorem Built.exists_message_of_report {shard : Nat} {b : Built} {failure : Failure}
    (h : ⟨shard, .error failure⟩ = b.report shard) :
    ∃ message, b = .error message ∧ failure = .panic message := by
  cases b with
  | ok backend => cases h
  | error message =>
    cases h
    exact ⟨message, rfl, rfl⟩

/-- The work that remains for a recruit. A build counts twice, for its report takes work as well. -/
def Recruit.work : Recruit → Nat
  | ⟨_, none⟩ => 2
  | ⟨_, some _⟩ => 0

namespace Launch

variable {build : Nat → List Text → Built} {l l' : Launch}

/-! ## What one event does -/

inductive Change (build : Nat → List Text → Built) (l : Launch) : Launch → Prop
  | send {chunk} (stage : l.stage = .sending) (next : l.chunks[l.recruits.length]? = some chunk) :
      Change build l
        { l with
          recruits := l.recruits ++ [⟨chunk, none⟩]
          stage := if l.recruits.length + 1 < l.chunks.length then .sending else .gathering [] }
  | finish {shard chunk} (building : l.recruits[shard]? = some ⟨chunk, none⟩) :
      Change build l
        { l with
          recruits := l.recruits.set shard ⟨chunk, some (build shard chunk)⟩
          mailbox := l.mailbox ++ [(build shard chunk).report shard] }
  | lost {ready} (stage : l.stage = .gathering ready) (nothing : l.mailbox = [])
      (unawaited : l.isAwaited = false) :
      Change build l { l with stage := .answered (.error (.shardLost (l.firstMissing ready))) }
  | failed {ready shard failure rest} (stage : l.stage = .gathering ready)
      (mail : l.mailbox = ⟨shard, .error failure⟩ :: rest) :
      Change build l
        { l with mailbox := rest, stage := .answered (.error (.shardFailed shard failure)) }
  | ready {ready shard rest} (stage : l.stage = .gathering ready)
      (mail : l.mailbox = ⟨shard, .ok ()⟩ :: rest) :
      Change build l
        { l with
          mailbox := rest
          stage :=
            if (ready ++ [shard]).length < l.recruits.length then .gathering (ready ++ [shard])
            else .answered (.ok l.pool) }

theorem step_cases (build : Nat → List Text → Built) (l : Launch) (e : Event) :
    l.step build e = l ∨ Change build l (l.step build e) := by
  cases e with
  | send =>
    cases hs : l.stage with
    | sending =>
      cases hc : l.chunks[l.recruits.length]? with
      | none => exact Or.inl (by simp only [step, hs, send, hc])
      | some chunk =>
        right
        simp only [step, hs, send, hc]
        exact .send hs hc
    | gathering ready => exact Or.inl (by simp only [step, hs])
    | answered answer => exact Or.inl (by simp only [step, hs])
  | build shard =>
    simp only [step, finish]
    split
    · next hr => exact Or.inr (.finish hr)
    · exact Or.inl rfl
  | take =>
    cases hs : l.stage with
    | sending => exact Or.inl (by simp only [step, hs])
    | gathering ready =>
      simp only [step, hs, take]
      split
      · next hm =>
        by_cases ha : l.isAwaited
        · exact Or.inl (if_pos ha)
        · rw [if_neg ha]
          exact Or.inr (.lost hs hm (by simpa using ha))
      · next hm => exact Or.inr (.failed hs hm)
      · next hm => exact Or.inr (.ready hs hm)
    | answered answer => exact Or.inl (by simp only [step, hs])

theorem Change.exists_step (h : Change build l l') : ∃ e, l.step build e = l' := by
  cases h with
  | send stage next => exact ⟨.send, by simp only [step, stage, Launch.send, next]⟩
  | @finish shard chunk building => exact ⟨.build shard, by simp only [step, Launch.finish, building]⟩
  | lost stage nothing unawaited =>
    refine ⟨.take, ?_⟩
    simp only [step, stage, take, nothing, unawaited]
    rfl
  | failed stage mail => exact ⟨.take, by simp only [step, stage, take, mail]⟩
  | ready stage mail => exact ⟨.take, by simp only [step, stage, take, mail]⟩

/-! ## Launches come to an end -/

def Stage.work : Stage → Nat
  | .answered _ => 0
  | _ => 1

def remaining (l : Launch) : Nat :=
  3 * (l.chunks.length - l.recruits.length) + (l.recruits.map Recruit.work).sum + l.mailbox.length +
    l.stage.work

theorem remaining_ofFiles_le (files : List Text) (shards : Nat) :
    (ofFiles files shards).remaining ≤ 3 * (Pool.chunks shards files).length + 1 := by
  unfold ofFiles
  split_ifs <;> simp [remaining, Stage.work]

theorem Change.remaining_lt (h : Change build l l') : l'.remaining < l.remaining := by
  cases h with
  | send stage next =>
    obtain ⟨hlt, -⟩ := List.getElem?_eq_some_iff.mp next
    simp only [remaining, length_append, length_singleton, map_append, sum_append, map_singleton,
      sum_singleton, Recruit.work, stage]
    split <;> simp only [Stage.work] <;> omega
  | @finish shard chunk building =>
    have hsum := sum_map_set building Recruit.work ⟨chunk, some (build shard chunk)⟩
    simp only [Recruit.work] at hsum
    simp only [remaining, length_set, length_append, length_singleton]
    omega
  | lost stage nothing unawaited =>
    simp only [remaining, stage, Stage.work]
    omega
  | failed stage mail =>
    simp only [remaining, stage, mail, Stage.work, length_cons]
    omega
  | ready stage mail =>
    simp only [remaining, stage, mail, length_cons]
    split <;> simp only [Stage.work] <;> omega

theorem remaining_step_lt {e : Event} (h : l.step build e ≠ l) :
    (l.step build e).remaining < l.remaining := by
  obtain hl | hc := step_cases build l e
  · exact absurd hl h
  · exact hc.remaining_lt

def Busy (build : Nat → List Text → Built) : Launch → List Event → Prop :=
  Stirring (fun l e => l.step build e ≠ l) (step build)

theorem Busy.length_le {events : List Event} (h : Busy build l events) : events.length ≤ l.remaining :=
  Stirring.length_le remaining_step_lt h

def Quiet (build : Nat → List Text → Built) (l : Launch) : Prop :=
  ∀ e, l.step build e = l

theorem Quiet.not_change (h : Quiet build l) : ¬ Change build l l' := by
  intro hc
  obtain ⟨e, rfl⟩ := hc.exists_step
  have hlt := hc.remaining_lt
  rw [h e] at hlt
  exact Nat.lt_irrefl _ hlt

/-! ## Where the shards stand -/

def builds (build : Nat → List Text → Built) (l : Launch) : List Built :=
  l.chunks.mapIdx build

/-- The shards that have reported, in the order of their reports: those whose reports were taken and then
those whose reports are in the mailbox. -/
def heard (ready : List Nat) (mailbox : List Report) : List Nat :=
  ready ++ mailbox.map Report.shard

variable {ready : List Nat}

theorem heard_nil (ready : List Nat) : heard ready [] = ready :=
  append_nil ready

theorem heard_cons (ready : List Nat) (report : Report) (rest : List Report) :
    heard ready (report :: rest) = heard (ready ++ [report.shard]) rest := by
  simp [heard]

theorem heard_concat (ready : List Nat) (mailbox : List Report) (report : Report) :
    heard ready (mailbox ++ [report]) = heard ready mailbox ++ [report.shard] := by
  simp [heard]

theorem mem_heard_of_mem {mailbox : List Report} {shard : Nat} (h : shard ∈ ready) :
    shard ∈ heard ready mailbox :=
  mem_append_left _ h

/-- Each recruit has reported once if its build is over, and not yet otherwise. -/
structure Stands (build : Nat → List Text → Built) (l : Launch) (ready : List Nat) : Prop where
  recruits : ∀ shard r, l.recruits[shard]? = some r → l.chunks[shard]? = some r.chunk ∧
    r.built? = if shard ∈ heard ready l.mailbox then some (build shard r.chunk) else none
  nodup : (heard ready l.mailbox).Nodup
  lt : ∀ shard ∈ heard ready l.mailbox, shard < l.recruits.length
  mail : ∀ report ∈ l.mailbox, ∃ b, (l.builds build)[report.shard]? = some b ∧
    report = b.report report.shard
  ready : ∀ shard ∈ ready, ∃ backend, (l.builds build)[shard]? = some (.ok backend)

theorem stands_start (build : Nat → List Text → Built) (chunks : List (List Text)) (stage : Stage) :
    Stands build ⟨chunks, [], [], stage⟩ [] := by
  constructor <;> simp [heard]

namespace Stands

theorem send (h : l.Stands build []) {chunk : List Text}
    (next : l.chunks[l.recruits.length]? = some chunk) (stage : Stage) :
    Stands build { l with recruits := l.recruits ++ [⟨chunk, none⟩], stage } [] where
  recruits shard r hr := by
    rcases getElem?_concat_cases hr with hold | ⟨rfl, rfl⟩
    · exact h.recruits shard r hold
    · have hnot : l.recruits.length ∉ heard [] l.mailbox := fun hmem => Nat.lt_irrefl _ (h.lt _ hmem)
      exact ⟨next, (if_neg hnot).symm⟩
  nodup := h.nodup
  lt shard hshard := by
    have hlt := h.lt shard hshard
    rw [length_append]
    omega
  mail := h.mail
  ready := h.ready

theorem finish (h : l.Stands build ready) {shard : Nat} {chunk : List Text}
    (building : l.recruits[shard]? = some ⟨chunk, none⟩) :
    Stands build
      { l with
        recruits := l.recruits.set shard ⟨chunk, some (build shard chunk)⟩
        mailbox := l.mailbox ++ [(build shard chunk).report shard] } ready := by
  obtain ⟨hlt, -⟩ := List.getElem?_eq_some_iff.mp building
  obtain ⟨hchunk, hbuilt⟩ := h.recruits shard _ building
  have hnot : shard ∉ heard ready l.mailbox := by
    intro hmem
    rw [if_pos hmem] at hbuilt
    cases hbuilt
  constructor
  case recruits =>
    intro i r hr
    simp only [heard_concat, Built.shard_report, mem_append, mem_singleton]
    rw [getElem?_set] at hr
    by_cases hi : shard = i
    · subst hi
      obtain rfl : _ = r := by simpa [hlt] using hr
      exact ⟨hchunk, by simp⟩
    · rw [if_neg hi] at hr
      simpa [Ne.symm hi] using h.recruits i r hr
  case nodup =>
    simp only [heard_concat, Built.shard_report]
    simpa [nodup_append] using ⟨h.nodup, fun i hi he => hnot (he ▸ hi)⟩
  case lt =>
    intro i hi
    simp only [heard_concat, Built.shard_report, mem_append, mem_singleton] at hi
    rw [length_set]
    rcases hi with hi | rfl
    · exact h.lt i hi
    · exact hlt
  case mail =>
    intro report hreport
    rcases mem_append.mp hreport with hold | hnew
    · exact h.mail report hold
    · obtain rfl := mem_singleton.mp hnew
      refine ⟨build shard chunk, ?_, by simp⟩
      simp [builds, hchunk]
  case ready => exact h.ready

theorem take (h : l.Stands build ready) {shard : Nat} {rest : List Report}
    (mail : l.mailbox = ⟨shard, .ok ()⟩ :: rest) (stage : Stage) :
    Stands build { l with mailbox := rest, stage } (ready ++ [shard]) := by
  have hheard : heard (ready ++ [shard]) rest = heard ready l.mailbox := by
    rw [mail, heard_cons]
  constructor
  case recruits =>
    simp only [hheard]
    exact h.recruits
  case nodup =>
    simp only [hheard]
    exact h.nodup
  case lt =>
    simp only [hheard]
    exact h.lt
  case mail =>
    intro report hreport
    exact h.mail report (mail ▸ mem_cons_of_mem _ hreport)
  case ready =>
    intro i hi
    rcases mem_append.mp hi with hi | hi
    · exact h.ready i hi
    · obtain rfl := mem_singleton.mp hi
      obtain ⟨b, hb, hreport⟩ := h.mail _ (mail ▸ mem_cons_self)
      obtain ⟨backend, rfl⟩ := Built.exists_backend_of_report hreport
      exact ⟨backend, hb⟩

theorem building (h : l.Stands build ready) {shard : Nat} (hlt : shard < l.recruits.length)
    (hnot : shard ∉ heard ready l.mailbox) : ∃ chunk, l.recruits[shard]? = some ⟨chunk, none⟩ := by
  obtain ⟨⟨chunk, built?⟩, hr⟩ : ∃ r, l.recruits[shard]? = some r :=
    ⟨_, List.getElem?_eq_getElem hlt⟩
  obtain ⟨-, hbuilt⟩ := h.recruits shard _ hr
  rw [if_neg hnot] at hbuilt
  obtain rfl : built? = none := hbuilt
  exact ⟨chunk, hr⟩

theorem exists_building (h : l.Stands build ready) (missing : ready.length < l.recruits.length)
    (nothing : l.mailbox = []) :
    ∃ (shard : Nat) (chunk : List Text), l.recruits[shard]? = some ⟨chunk, none⟩ := by
  have hheard : heard ready l.mailbox = ready := by rw [nothing, heard_nil]
  obtain ⟨shard, hlt, hnot⟩ := exists_lt_not_mem missing
  exact ⟨shard, h.building hlt (by rwa [hheard])⟩

theorem settle_of_error (h : l.Stands build ready) {shard : Nat} {failure : Failure} {rest : List Report}
    (mail : l.mailbox = ⟨shard, .error failure⟩ :: rest) (others : List Nat) :
    settle (l.builds build) (ready ++ shard :: others) = .error (.shardFailed shard failure) := by
  obtain ⟨b, hb, hreport⟩ := h.mail _ (mail ▸ mem_cons_self)
  obtain ⟨message, rfl, rfl⟩ := Built.exists_message_of_report hreport
  exact settle_of_breakdown h.ready hb

theorem perm_range (h : l.Stands build ready) (missing : ¬ ready.length < l.recruits.length) :
    ready ~ range l.recruits.length :=
  RepoAtlas.perm_range h.nodup.of_append_left (fun i hi => h.lt i (mem_heard_of_mem hi)) (by omega)

theorem settle_of_all (h : l.Stands build ready) (all : l.recruits.length = l.chunks.length)
    (missing : ¬ ready.length < l.recruits.length) : settle (l.builds build) ready = .ok l.pool := by
  have hperm := h.perm_range missing
  have hbuilt : l.recruits.map Recruit.built? = (l.builds build).map some := by
    apply ext_getElem?
    intro i
    rw [getElem?_map, getElem?_map, builds, getElem?_mapIdx]
    cases hr : l.recruits[i]? with
    | none =>
      rw [getElem?_eq_none_iff, all, ← getElem?_eq_none_iff] at hr
      rw [hr]
      rfl
    | some r =>
      obtain ⟨hlt, -⟩ := List.getElem?_eq_some_iff.mp hr
      obtain ⟨hchunk, hb⟩ := h.recruits i r hr
      rw [if_pos (mem_heard_of_mem (hperm.mem_iff.mpr (mem_range.mpr hlt)))] at hb
      rw [hchunk, Option.map_some, Option.map_some, Option.map_some, hb]
  have hworkers : (l.builds build).filterMap Built.worker? = l.recruits.filterMap Recruit.worker? := by
    calc
      (l.builds build).filterMap Built.worker? =
          ((l.builds build).map some).filterMap (·.bind Built.worker?) := by
        rw [filterMap_map]
        rfl
      _ = (l.recruits.map Recruit.built?).filterMap (·.bind Built.worker?) := by rw [hbuilt]
      _ = l.recruits.filterMap Recruit.worker? := by
        rw [filterMap_map]
        rfl
  rw [settle_of_ready h.ready, hworkers]
  rfl

end Stands

/-! ## The invariant -/

/-- The invariant of a launch. -/
inductive Sound (build : Nat → List Text → Built) (l : Launch) : Prop
  | sending (stage : l.stage = .sending) (fewer : l.recruits.length < l.chunks.length)
      (stands : l.Stands build [])
  | gathering {ready : List Nat} (stage : l.stage = .gathering ready)
      (all : l.recruits.length = l.chunks.length)
      (missing : ready.length < l.recruits.length) (stands : l.Stands build ready)
  | answered {arrival} (order : arrival ~ range l.chunks.length)
      (stage : l.stage = .answered (settle (l.builds build) arrival))

namespace Sound

theorem sending_inv (h : l.Sound build) (stage : l.stage = .sending) :
    l.recruits.length < l.chunks.length ∧ l.Stands build [] := by
  cases h with
  | sending _ fewer stands => exact ⟨fewer, stands⟩
  | gathering other => cases stage.symm.trans other
  | answered _ other => cases stage.symm.trans other

theorem gathering_inv (h : l.Sound build) (stage : l.stage = .gathering ready) :
    l.recruits.length = l.chunks.length ∧ ready.length < l.recruits.length ∧ l.Stands build ready := by
  cases h with
  | sending other => cases stage.symm.trans other
  | gathering other all missing stands =>
    cases stage.symm.trans other
    exact ⟨all, missing, stands⟩
  | answered _ other => cases stage.symm.trans other

theorem finish (h : l.Sound build) {shard : Nat} {chunk : List Text}
    (building : l.recruits[shard]? = some ⟨chunk, none⟩) :
    Sound build
      { l with
        recruits := l.recruits.set shard ⟨chunk, some (build shard chunk)⟩
        mailbox := l.mailbox ++ [(build shard chunk).report shard] } := by
  cases h with
  | sending stage fewer stands =>
    exact .sending stage (by simpa using fewer) (stands.finish building)
  | gathering stage all missing stands =>
    exact .gathering stage (by simpa using all) (by simpa using missing) (stands.finish building)
  | answered order stage => exact .answered order stage

/-- Every change keeps the invariant; that of a loss cannot be. -/
theorem change (h : l.Sound build) (hc : Change build l l') : l'.Sound build := by
  cases hc with
  | @send chunk stage next =>
    obtain ⟨fewer, stands⟩ := h.sending_inv stage
    have hsent : (l.recruits ++ [(⟨chunk, none⟩ : Recruit)]).length = l.recruits.length + 1 := length_append
    by_cases hmore : l.recruits.length + 1 < l.chunks.length
    · rw [if_pos hmore]
      exact .sending rfl (by rwa [hsent]) (stands.send next _)
    · rw [if_neg hmore]
      have hall : l.recruits.length + 1 = l.chunks.length := by omega
      exact .gathering rfl (hsent.trans hall) (by simp) (stands.send next _)
  | finish building => exact h.finish building
  | lost stage nothing unawaited =>
    -- Each shard has sent one report, so a shard that is missing can still send its own.
    obtain ⟨-, missing, stands⟩ := h.gathering_inv stage
    obtain ⟨shard, chunk, hr⟩ := stands.exists_building missing nothing
    have hawaited : l.isAwaited = true := any_eq_true.mpr ⟨_, mem_of_getElem? hr, rfl⟩
    rw [hawaited] at unawaited
    cases unawaited
  | @failed ready shard failure rest stage mail =>
    obtain ⟨all, -, stands⟩ := h.gathering_inv stage
    have hheard : heard ready l.mailbox = heard (ready ++ [shard]) rest := by rw [mail, heard_cons]
    have hnodup : (heard (ready ++ [shard]) rest).Nodup := hheard ▸ stands.nodup
    have hlt : ∀ i ∈ ready ++ [shard], i < l.chunks.length := by
      intro i hi
      rw [← all]
      exact stands.lt i (hheard ▸ mem_heard_of_mem hi)
    -- The shards that the caller does not wait for any more may report in any order.
    obtain ⟨others, hperm⟩ := exists_append_perm_range hnodup.of_append_left hlt
    rw [append_assoc] at hperm
    exact .answered hperm (congrArg _ (stands.settle_of_error mail others).symm)
  | @ready ready shard rest stage mail =>
    obtain ⟨all, -, stands⟩ := h.gathering_inv stage
    by_cases hmore : (ready ++ [shard]).length < l.recruits.length
    · rw [if_pos hmore]
      exact .gathering rfl all hmore (stands.take mail _)
    · rw [if_neg hmore]
      have htaken := stands.take mail (.answered (.ok l.pool))
      have hperm : ready ++ [shard] ~ range l.chunks.length := all ▸ htaken.perm_range hmore
      exact .answered hperm (congrArg _ (htaken.settle_of_all all hmore).symm)

theorem step (h : l.Sound build) (e : Event) : (l.step build e).Sound build := by
  obtain hl | hc := step_cases build l e
  · rwa [hl]
  · exact h.change hc

theorem run (h : l.Sound build) (events : List Event) : (l.run build events).Sound build := by
  induction events generalizing l with
  | nil => exact h
  | cons e events ih => exact ih (h.step e)

theorem answer_of_quiet (h : l.Sound build) (hquiet : Quiet build l) : ∃ a, l.answer? = some a := by
  cases h with
  | sending stage fewer stands =>
    exact absurd (Change.send stage (List.getElem?_eq_getElem fewer)) hquiet.not_change
  | gathering stage all missing stands =>
    cases hm : l.mailbox with
    | nil =>
      obtain ⟨shard, chunk, hr⟩ := stands.exists_building missing hm
      exact absurd (Change.finish hr) hquiet.not_change
    | cons report rest =>
      obtain ⟨shard, result⟩ := report
      cases result with
      | error failure => exact absurd (Change.failed stage hm) hquiet.not_change
      | ok _ => exact absurd (Change.ready stage hm) hquiet.not_change
  | answered order stage => exact ⟨_, by rw [answer?, stage]⟩

end Sound

/-! ## What stays -/

theorem Change.chunks_eq (h : Change build l l') : l'.chunks = l.chunks := by
  cases h <;> rfl

theorem Change.answer?_eq (h : Change build l l') {a : Except Error Pool} (ha : l.answer? = some a) :
    l'.answer? = some a := by
  cases h with
  | finish building => exact ha
  | send stage => simp [answer?, stage] at ha
  | lost stage => simp [answer?, stage] at ha
  | failed stage => simp [answer?, stage] at ha
  | ready stage => simp [answer?, stage] at ha

theorem chunks_run (build : Nat → List Text → Built) (l : Launch) (events : List Event) :
    (l.run build events).chunks = l.chunks := by
  induction events generalizing l with
  | nil => rfl
  | cons e events ih =>
    rw [run_cons, ih]
    obtain hl | hc := step_cases build l e
    · rw [hl]
    · exact hc.chunks_eq

theorem answer?_run {a : Except Error Pool} (ha : l.answer? = some a) (events : List Event) :
    (l.run build events).answer? = some a := by
  induction events generalizing l with
  | nil => exact ha
  | cons e events ih =>
    rw [run_cons]
    apply ih
    obtain hl | hc := step_cases build l e
    · rwa [hl]
    · exact hc.answer?_eq ha

/-! ## Every order of the reports -/

theorem Sound.exists_gathering (h : l.Sound build) (stage : l.stage = .sending)
    (nothing : l.mailbox = []) : ∃ events, (l.run build events).stage = .gathering [] ∧
      (l.run build events).mailbox = [] := by
  induction hn : l.chunks.length - l.recruits.length generalizing l with
  | zero =>
    obtain ⟨fewer, -⟩ := h.sending_inv stage
    omega
  | succ n ih =>
    obtain ⟨fewer, -⟩ := h.sending_inv stage
    have hsend : l.step build .send =
        { l with
          recruits := l.recruits ++ [⟨l.chunks[l.recruits.length], none⟩]
          stage := if l.recruits.length + 1 < l.chunks.length then .sending else .gathering [] } := by
      simp only [Launch.step, stage, send, List.getElem?_eq_getElem fewer]
    have hstep := h.step .send
    by_cases hmore : l.recruits.length + 1 < l.chunks.length
    · rw [if_pos hmore] at hsend
      rw [hsend] at hstep
      obtain ⟨events, hevents⟩ := ih hstep rfl nothing (by simp; omega)
      exact ⟨.send :: events, by rwa [run_cons, hsend]⟩
    · refine ⟨[.send], ?_⟩
      rw [run_cons, run_nil, hsend, if_neg hmore]
      exact ⟨rfl, nothing⟩

/-- The builds of the shards end in the order of the list. -/
theorem Sound.run_builds (h : l.Sound build) (stage : l.stage = .gathering ready) {arrival : List Nat}
    (hnodup : (heard ready l.mailbox ++ arrival).Nodup) (hlt : ∀ shard ∈ arrival, shard < l.chunks.length) :
    (l.run build (arrival.map .build)).stage = .gathering ready ∧
      heard ready (l.run build (arrival.map .build)).mailbox = heard ready l.mailbox ++ arrival := by
  induction arrival generalizing l with
  | nil => exact ⟨stage, (append_nil _).symm⟩
  | cons shard arrival ih =>
    obtain ⟨all, -, stands⟩ := h.gathering_inv stage
    have hnot : shard ∉ heard ready l.mailbox := by
      intro hmem
      exact disjoint_of_nodup_append hnodup hmem mem_cons_self
    obtain ⟨chunk, hr⟩ := stands.building (all ▸ hlt shard mem_cons_self) hnot
    have hbuild : l.step build (.build shard) =
        { l with
          recruits := l.recruits.set shard ⟨chunk, some (build shard chunk)⟩
          mailbox := l.mailbox ++ [(build shard chunk).report shard] } := by
      simp only [Launch.step, Launch.finish, hr]
    have hstep := h.step (.build shard)
    rw [hbuild] at hstep
    rw [map_cons, run_cons, hbuild]
    have hheard : heard ready (l.mailbox ++ [(build shard chunk).report shard]) =
        heard ready l.mailbox ++ [shard] := by
      rw [heard_concat, Built.shard_report]
    have hrun := ih hstep stage (by simpa [hheard] using hnodup)
      fun i hi => hlt i (mem_cons_of_mem _ hi)
    rwa [hheard, append_assoc] at hrun

/-- The caller takes the reports in the order in which they were made. -/
theorem Sound.exists_answer (h : l.Sound build) (stage : l.stage = .gathering ready)
    (order : heard ready l.mailbox ~ range l.chunks.length) :
    ∃ events, (l.run build events).answer? = some (settle (l.builds build) (heard ready l.mailbox)) := by
  induction hm : l.mailbox generalizing l ready with
  | nil =>
    obtain ⟨all, missing, -⟩ := h.gathering_inv stage
    have hlen := order.length_eq
    rw [hm, heard_nil, length_range] at hlen
    omega
  | cons report rest ih =>
    obtain ⟨all, missing, stands⟩ := h.gathering_inv stage
    obtain ⟨shard, result⟩ := report
    cases result with
    | error failure =>
      have htake : l.step build .take =
          { l with mailbox := rest, stage := .answered (.error (.shardFailed shard failure)) } := by
        simp only [Launch.step, stage, Launch.take, hm]
      refine ⟨[.take], ?_⟩
      rw [run_cons, run_nil, htake]
      exact congrArg some (stands.settle_of_error hm (rest.map Report.shard)).symm
    | ok _ =>
      have htake : l.step build .take =
          { l with
            mailbox := rest
            stage :=
              if (ready ++ [shard]).length < l.recruits.length then .gathering (ready ++ [shard])
              else .answered (.ok l.pool) } := by
        simp only [Launch.step, stage, Launch.take, hm]
      have hstep := h.step .take
      have horder : heard (ready ++ [shard]) rest ~ range l.chunks.length := by
        rwa [hm, heard_cons] at order
      rw [heard_cons]
      by_cases hmore : (ready ++ [shard]).length < l.recruits.length
      · rw [if_pos hmore] at htake
        rw [htake] at hstep
        obtain ⟨events, hevents⟩ := ih hstep rfl horder rfl
        refine ⟨.take :: events, ?_⟩
        rw [run_cons, htake]
        exact hevents
      · -- All shards are ready, so the last report has been taken.
        have hrest : rest = [] := by
          have hlen := horder.length_eq
          rw [heard, length_append, length_map, length_range] at hlen
          exact length_eq_zero_iff.mp (by omega)
        have htaken := stands.take hm (.answered (.ok l.pool))
        refine ⟨[.take], ?_⟩
        rw [run_cons, run_nil, htake, if_neg hmore, hrest, heard_nil]
        exact congrArg some (htaken.settle_of_all all hmore).symm

/-- The reports can arrive in every order, and settle the launch under it. -/
theorem Sound.exists_settled (h : l.Sound build) (stage : l.stage = .sending) (nothing : l.mailbox = [])
    {arrival : List Nat} (order : arrival ~ range l.chunks.length) :
    ∃ events, (l.run build events).answer? = some (settle (l.builds build) arrival) := by
  obtain ⟨sends, hgathering, hempty⟩ := h.exists_gathering stage nothing
  have hsent := h.run sends
  have hchunks := chunks_run build l sends
  have hnone : heard [] (l.run build sends).mailbox = [] := by
    rw [hempty, heard_nil]
  have hnodup : (heard [] (l.run build sends).mailbox ++ arrival).Nodup := by
    rw [hnone]
    exact order.nodup_iff.mpr nodup_range
  have hlt : ∀ shard ∈ arrival, shard < (l.run build sends).chunks.length := by
    intro shard hshard
    rw [hchunks]
    exact mem_range.mp (order.mem_iff.mp hshard)
  obtain ⟨hstill, hheard⟩ := hsent.run_builds hgathering hnodup hlt
  rw [hnone, nil_append] at hheard
  obtain ⟨takes, htakes⟩ := (hsent.run (arrival.map .build)).exists_answer hstill
    (by rwa [hheard, chunks_run, hchunks])
  refine ⟨sends ++ (arrival.map .build ++ takes), ?_⟩
  rw [run_append, run_append, htakes, hheard, builds, chunks_run, hchunks, builds]

/-! ## Launches over files -/

variable {files : List Text} {shards : Nat}

theorem answer?_ofFiles_zero (files : List Text) :
    (ofFiles files 0).answer? = some (.error .noShards) := rfl

theorem chunks_ofFiles (h : 0 < shards) (files : List Text) :
    (ofFiles files shards).chunks = Pool.chunks shards files := by
  rw [ofFiles, if_neg (Nat.ne_of_gt h)]
  split
  · next hnil =>
    rw [hnil]
    rfl
  · rfl

theorem sound_ofFiles (build : Nat → List Text → Built) (h : 0 < shards) (files : List Text) :
    (ofFiles files shards).Sound build := by
  rw [ofFiles, if_neg (Nat.ne_of_gt h)]
  split
  · exact .answered (Perm.refl []) rfl
  · next hfiles =>
    have hsome : 0 < (Pool.chunks shards files).length := by
      apply length_pos_of_ne_nil
      intro hnone
      have hflatten := (sharesOut_chunks h files).flatten
      rw [hnone] at hflatten
      exact hfiles hflatten.symm
    exact .sending rfl hsome (stands_start build _ _)

/-- Every answer of a launch tells faithfully what became of it. -/
theorem faithful_of_answer {events : List Event} {answer : Except Error Pool}
    (h : ((ofFiles files shards).run build events).answer? = some answer) :
    Faithful build files shards answer := by
  rcases Nat.eq_zero_or_pos shards with rfl | hshards
  · obtain rfl := Option.some.inj ((answer?_run (answer?_ofFiles_zero files) events).symm.trans h)
    exact faithful_noShards build files
  · have hchunks := (chunks_run build (ofFiles files shards) events).trans (chunks_ofFiles hshards files)
    cases (sound_ofFiles build hshards files).run events with
    | sending stage => simp [answer?, stage] at h
    | gathering stage => simp [answer?, stage] at h
    | answered order stage =>
      rw [answer?, stage, builds, hchunks] at h
      obtain rfl := Option.some.inj h
      apply Settled.faithful hshards
      apply settled_settle
      rwa [length_mapIdx, ← hchunks]

/-- For every order of the reports there is a launch in which they arrive in this order. -/
theorem exists_answer_under {one : List Text → Built} (hbuild : ∀ shard, build shard = one)
    {arrival : List Nat} (order : arrival ~ range (Pool.chunks shards files).length) :
    ∃ events, ((ofFiles files shards).run build events).answer? =
      some (startUnder arrival one files shards) := by
  obtain rfl : build = fun _ => one := funext hbuild
  rcases Nat.eq_zero_or_pos shards with rfl | hshards
  · exact ⟨[], rfl⟩
  · rw [startUnder_eq_settle hshards]
    by_cases hfiles : files = []
    · obtain rfl : arrival = [] := by
        rw [hfiles] at order
        exact order.eq_nil
      refine ⟨[], ?_⟩
      rw [run_nil, ofFiles, if_neg (Nat.ne_of_gt hshards), if_pos hfiles, hfiles]
      rfl
    · have hstart : ofFiles files shards = ⟨Pool.chunks shards files, [], [], .sending⟩ := by
        rw [ofFiles, if_neg (Nat.ne_of_gt hshards), if_neg hfiles]
      have hsound := sound_ofFiles (fun _ => one) hshards files
      rw [hstart] at hsound ⊢
      exact hsound.exists_settled rfl rfl order

end Launch

/-! ## The start of a pool -/

/-- Whatever the order of its events, the start of a pool comes to an answer that tells faithfully what
became of it. -/
structure StartsFaithfully (build : Nat → List Text → Built) (files : List Text) (shards : Nat) :
    Prop where
  shares_out : 0 < shards → SharesOut (chunks shards files) files shards
  bounded : ∀ events, Launch.Busy build (.ofFiles files shards) events →
    events.length ≤ 3 * (chunks shards files).length + 1
  answers : ∀ events, Launch.Quiet build ((Launch.ofFiles files shards).run build events) →
    ∃ answer, ((Launch.ofFiles files shards).run build events).answer? = some answer
  faithful : ∀ events answer, ((Launch.ofFiles files shards).run build events).answer? = some answer →
    Faithful build files shards answer
  /-- When equal chunks are built alike, the shards can report in every order, and the launch comes to
  what the start comes to under this order. -/
  every_order : ∀ one arrival, (∀ shard, build shard = one) →
    arrival ~ range (chunks shards files).length → ∃ events,
      ((Launch.ofFiles files shards).run build events).answer? = some (startUnder arrival one files shards)

theorem starts_faithfully (build : Nat → List Text → Built) (files : List Text) (shards : Nat) :
    StartsFaithfully build files shards where
  shares_out h := sharesOut_chunks h files
  bounded _ hbusy := hbusy.length_le.trans (Launch.remaining_ofFiles_le files shards)
  answers events hquiet := by
    rcases Nat.eq_zero_or_pos shards with rfl | hshards
    · exact ⟨_, Launch.answer?_run (Launch.answer?_ofFiles_zero files) events⟩
    · exact ((Launch.sound_ofFiles build hshards files).run events).answer_of_quiet hquiet
  faithful _ _ h := Launch.faithful_of_answer h
  every_order _ _ hbuild order := Launch.exists_answer_under hbuild order

end RepoAtlas.Pool
