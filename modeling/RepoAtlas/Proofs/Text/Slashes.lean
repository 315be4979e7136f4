import RepoAtlas.Path.Record
import RepoAtlas.Proofs.Text.Lowering
import RepoAtlas.Proofs.Text.Words

/-! # Slashes in the forms of a text -/

namespace RepoAtlas

open Unicode List

namespace Text

variable {c : Char} {t : Text}

theorem mem_of_mem_lowerAfter (hc : IsMark c) {before : Text} (h : c ∈ lowerAfter before t) :
    c ∈ t := by
  induction t generalizing before with
  | nil => exact h
  | cons d t ih =>
    rcases mem_append.mp h with h | h
    · split at h
      · split at h <;> rw [mem_singleton.mp h] at hc <;> exact absurd hc (by decide)
      · rw [eq_of_mem_lowered hc h]
        exact mem_cons_self
    · exact mem_cons_of_mem d (ih h)

theorem mem_of_mem_lower (hc : IsMark c) (h : c ∈ lower t) : c ∈ t :=
  mem_of_mem_lowerAfter hc h

theorem mem_of_mem_wordFormAfter (hc : IsMark c) (hspace : c ≠ ' ') {previous : Option Char}
    {pending started : Bool} (h : c ∈ wordFormAfter previous pending started t) : c ∈ t := by
  induction t generalizing previous pending started with
  | nil => exact h
  | cons d t ih =>
    rw [wordFormAfter] at h
    split at h
    · exact mem_cons_of_mem d (ih h)
    · rcases mem_append.mp h with h | h
      · rcases mem_append.mp h with h | h
        · split at h
          · exact absurd (mem_singleton.mp h) hspace
          · cases h
        · rw [eq_of_mem_lowered hc h]
          exact mem_cons_self
      · exact mem_cons_of_mem d (ih h)

theorem mem_of_mem_wordForm (hc : IsMark c) (hspace : c ≠ ' ') (h : c ∈ wordForm t) : c ∈ t :=
  mem_of_mem_wordFormAfter hc hspace h

end Text

/-- No form of a single segment of the record holds a slash. -/
structure PathRecord.SlashFree (r : PathRecord) : Prop where
  nameLower : '/' ∉ r.nameLower
  nameWordForm : '/' ∉ r.nameWordForm
  parentLower : '/' ∉ r.parentLower
  parentWordForm : '/' ∉ r.parentWordForm
  segments : ∀ s ∈ r.segments, '/' ∉ s

theorem Path.forall_of_mem_segments {path s : Text} (h : s ∈ segments path) :
    ∀ c ∈ s, c ≠ '/' ∧ c ≠ '\\' := by
  intro c hc
  have hclean := (Text.forall_of_mem_pieces h).1 c hc
  simpa using hclean

theorem Path.slash_not_mem_segment {path s : Text} (h : s ∈ segments path) : '/' ∉ s :=
  fun hc => (forall_of_mem_segments h '/' hc).1 rfl

theorem Path.backslash_not_mem_segment {path s : Text} (h : s ∈ segments path) : '\\' ∉ s :=
  fun hc => (forall_of_mem_segments h '\\' hc).2 rfl

theorem Path.slash_not_mem_last {path : Text} {ss : List Text} (h : ss ⊆ segments path) :
    '/' ∉ ss.getLast?.getD [] := by
  cases hlast : ss.getLast? with
  | none => simp
  | some s => exact slash_not_mem_segment (h (mem_of_getLast? hlast))

theorem PathRecord.slashFree_ofPath (path : Text) : (ofPath path).SlashFree := by
  have hname : '/' ∉ (ofPath path).name := Path.slash_not_mem_last (Subset.refl _)
  have hparent : '/' ∉ (ofPath path).parent := Path.slash_not_mem_last (dropLast_subset _)
  have hslash : IsMark '/' := by decide
  have hspace : '/' ≠ ' ' := by decide
  refine ⟨fun h => hname (Text.mem_of_mem_lower hslash h),
    fun h => hname (Text.mem_of_mem_wordForm hslash hspace h),
    fun h => hparent (Text.mem_of_mem_lower hslash h),
    fun h => hparent (Text.mem_of_mem_wordForm hslash hspace h), ?_⟩
  intro s hs hmem
  obtain ⟨segment, hsegment, rfl⟩ := mem_map.mp hs
  exact Path.slash_not_mem_segment hsegment (Text.mem_of_mem_lower hslash hmem)

end RepoAtlas
