import RepoAtlas.Text.WordForm
import Mathlib.Data.List.Basic

/-! # Lowered characters -/

namespace RepoAtlas.Unicode

open Text List

namespace Run

variable {r s : Run} {n : Nat}

def codes (r : Run) : List Nat :=
  (range ((r.last - r.first) / r.step + 1)).map fun i => r.first + i * r.step

theorem mem_codes (h : r.contains n = true) : n ∈ r.codes := by
  obtain ⟨hfirst, hlast, hstep⟩ := (contains_iff r n).mp h
  have hindex : (n - r.first) / r.step ≤ (r.last - r.first) / r.step := Nat.div_le_div_right (by omega)
  have hcode : (n - r.first) / r.step * r.step = n - r.first :=
    Nat.div_mul_cancel (Nat.dvd_of_mod_eq_zero hstep)
  apply mem_map.mpr
  exact ⟨(n - r.first) / r.step, mem_range.mpr (by omega), by omega⟩

/-- Whether the runs have no code point in common. Only runs that overlap are gone through. -/
def isApart (r s : Run) : Bool :=
  Nat.blt r.last s.first || Nat.blt s.last r.first || r.codes.all fun n => !s.contains n

theorem contains_eq_false_of_isApart (h : r.isApart s = true) (hn : r.contains n = true) :
    s.contains n = false := by
  by_contra hs
  obtain ⟨hfirst, hlast, -⟩ := (contains_iff r n).mp hn
  have hs : s.contains n = true := by simpa using hs
  obtain ⟨hfirst', hlast', -⟩ := (contains_iff s n).mp hs
  simp only [isApart, Bool.or_eq_true, Nat.blt_eq, all_eq_true, Bool.not_eq_true'] at h
  rcases h with (h | h) | h
  · omega
  · omega
  · rw [h n (mem_codes hn)] at hs
    cases hs

end Run

def Shift.partners (s : Shift) : Run :=
  ⟨((s.run.first : Int) + s.distance).toNat, ((s.run.last : Int) + s.distance).toNat, s.run.step⟩

/-- The runs in which no partner lies: letters that are lowered, upper case letters and blanks. -/
def unpartnered : List Run :=
  ⟨0x130, 0x130, 1⟩ :: loweringShifts.map Shift.run ++ uppercaseRuns ++ blankRuns

theorem isApart_partners : ∀ s ∈ loweringShifts, ∀ r ∈ unpartnered, s.partners.isApart r = true := by
  have hall : (loweringShifts.all fun s => unpartnered.all s.partners.isApart) = true := by decide +kernel
  simpa only [all_eq_true] using hall

/-- The only partner in ASCII is that of the Kelvin sign, a `k`. -/
theorem partners_ascii : ∀ s ∈ loweringShifts, 0 ≤ (s.run.first : Int) + s.distance ∧
    (0x80 ≤ s.partners.first ∨ s.partners.first = 'k'.toNat ∧ s.partners.last = 'k'.toNat) := by
  decide +kernel

theorem partners_valid : ∀ s ∈ loweringShifts, s.partners.last < 0xD800 ∨
    0xDFFF < s.partners.first ∧ s.partners.last < 0x110000 := by
  decide +kernel

theorem Shift.contains_partners {s : Shift} {n : Nat} (hs : s ∈ loweringShifts)
    (hn : s.run.contains n = true) : s.partners.contains ((n : Int) + s.distance).toNat = true := by
  obtain ⟨hnonneg, -⟩ := partners_ascii s hs
  obtain ⟨hfirst, hlast, hstep⟩ := (Run.contains_iff s.run n).mp hn
  have hoffset : ((n : Int) + s.distance).toNat - s.partners.first = n - s.run.first := by
    simp only [partners]
    omega
  rw [Run.contains_iff, hoffset]
  simp only [partners]
  exact ⟨by omega, by omega, hstep⟩

/-- The character is its own lower case, and it is neither upper case nor a separator. -/
def IsSettled (c : Char) : Prop :=
  lowered c = [c] ∧ isUppercase c = false ∧ isSeparator c = false

instance : DecidablePred IsSettled := fun _ => inferInstanceAs (Decidable (_ ∧ _ ∧ _))

theorem isSettled_of_unpartnered {c : Char} (hascii : 0x80 ≤ c.toNat)
    (h : ∀ r ∈ unpartnered, r.contains c.toNat = false) : IsSettled c := by
  have hnot : ¬ c.toNat < 0x80 := by omega
  simp only [unpartnered, mem_append, mem_cons, or_imp, forall_and, forall_eq] at h
  obtain ⟨⟨⟨hdotted, hshifts⟩, hupper⟩, hblank⟩ := h
  have hcover (runs : List Run) (hruns : ∀ r ∈ runs, r.contains c.toNat = false) :
      Run.cover runs c.toNat = false := by
    simpa [Run.cover] using hruns
  have hne : c.toNat ≠ 0x130 := by
    intro heq
    rw [heq] at hdotted
    exact absurd hdotted (by decide)
  have hpartner : lowerPartner? c.toNat = none := by
    rw [lowerPartner?, Option.map_eq_none_iff, find?_eq_none]
    intro s hs
    rw [hshifts s.run (mem_map_of_mem hs)]
    exact Bool.false_ne_true
  have hascii_ne (d : Char) (hd : d.toNat < 0x80) : (c == d) = false := by
    rw [beq_eq_false_iff_ne]
    rintro rfl
    exact hnot hd
  refine ⟨?_, ?_, ?_⟩
  · rw [lowered, if_neg hnot, if_neg hne, hpartner]
  · rw [isUppercase, if_neg hnot, hcover _ hupper]
  · rw [isSeparator, isBlank, if_neg hnot, hcover _ hblank, hascii_ne '-' (by decide),
      hascii_ne '_' (by decide)]
    rfl

theorem exists_partners_of_lowerPartner? {n m : Nat} (h : lowerPartner? n = some m) :
    ∃ s ∈ loweringShifts, s.partners.contains m = true := by
  obtain ⟨s, hfind, rfl⟩ := Option.map_eq_some_iff.mp h
  have hs := mem_of_find?_eq_some hfind
  exact ⟨s, hs, Shift.contains_partners hs (by simpa using find?_some hfind)⟩

theorem lowerPartner?_cases {n m : Nat} (h : lowerPartner? n = some m) : m = 'k'.toNat ∨ 0x80 ≤ m := by
  obtain ⟨s, hs, hcontains⟩ := exists_partners_of_lowerPartner? h
  obtain ⟨hfirst, hlast, -⟩ := (Run.contains_iff _ _).mp hcontains
  rcases (partners_ascii s hs).2 with hhigh | ⟨hk, hk'⟩
  · exact Or.inr (by omega)
  · exact Or.inl (by omega)

theorem toNat_of_lowerPartner? {n m : Nat} (h : lowerPartner? n = some m) : (Char.ofNat m).toNat = m := by
  obtain ⟨s, hs, hcontains⟩ := exists_partners_of_lowerPartner? h
  obtain ⟨hfirst, hlast, -⟩ := (Run.contains_iff _ _).mp hcontains
  have hvalid : m.isValidChar := by
    rcases partners_valid s hs with hlow | hhigh
    · exact Or.inl (by omega)
    · exact Or.inr (by omega)
  rw [Char.ofNat, dif_pos hvalid]
  rfl

theorem isSettled_of_lowerPartner? {n m : Nat} (h : lowerPartner? n = some m) :
    IsSettled (Char.ofNat m) := by
  obtain ⟨s, hs, hcontains⟩ := exists_partners_of_lowerPartner? h
  rcases lowerPartner?_cases h with rfl | hhigh
  · decide
  · have hnat := toNat_of_lowerPartner? h
    apply isSettled_of_unpartnered (by omega)
    intro r hr
    rw [hnat]
    exact Run.contains_eq_false_of_isApart (isApart_partners s hs r hr) hcontains

theorem toLower_cases {c : Char} (hascii : c.toNat < 0x80) : c.toLower = c ∨ IsSettled c.toLower := by
  have hall : ∀ n < 0x80, (Char.ofNat n).toLower = Char.ofNat n ∨ IsSettled (Char.ofNat n).toLower := by
    decide +kernel
  have hc := hall c.toNat hascii
  rwa [Char.ofNat_toNat] at hc

variable {c d : Char}

theorem lowered_eq_singleton_or (c : Char) :
    (∃ d, lowered c = [d]) ∨ lowered c = ['i', Char.ofNat 0x307] := by
  unfold lowered
  split
  · exact Or.inl ⟨_, rfl⟩
  · split
    · exact Or.inr rfl
    · split <;> exact Or.inl ⟨_, rfl⟩

/-- What lowering brings in is settled. -/
theorem lowered_eq_self_or (c : Char) : lowered c = [c] ∨ ∀ d ∈ lowered c, IsSettled d := by
  unfold lowered
  split
  · next hascii =>
    rcases toLower_cases hascii with hsame | hsettled
    · exact Or.inl (by rw [hsame])
    · exact Or.inr (forall_mem_singleton.mpr hsettled)
  · split
    · exact Or.inr (forall_mem_cons.mpr ⟨by decide, forall_mem_singleton.mpr (by decide)⟩)
    · split
      · next m hm => exact Or.inr (forall_mem_singleton.mpr (isSettled_of_lowerPartner? hm))
      · exact Or.inl rfl

theorem lowered_of_mem_lowered (h : d ∈ lowered c) : lowered d = [d] := by
  rcases lowered_eq_self_or c with hself | hsettled
  · obtain rfl : d = c := by simpa [hself] using h
    exact hself
  · exact (hsettled d h).1

theorem isSeparator_of_mem_lowered (h : d ∈ lowered c) (hc : isSeparator c = false) :
    isSeparator d = false := by
  rcases lowered_eq_self_or c with hself | hsettled
  · obtain rfl : d = c := by simpa [hself] using h
    exact hc
  · exact (hsettled d h).2.2

/-- A lowered character that is upper case has no lower case partner. -/
theorem lowered_eq_self_of_isUppercase (h : d ∈ lowered c) (hd : isUppercase d = true) :
    lowered c = [c] ∧ d = c := by
  rcases lowered_eq_self_or c with hself | hsettled
  · exact ⟨hself, by simpa [hself] using h⟩
  · rw [(hsettled d h).2.1] at hd
    cases hd

def IsMark (c : Char) : Prop :=
  c.toNat < 0x80 ∧ c.isAlpha = false

instance : DecidablePred IsMark := fun _ => inferInstanceAs (Decidable (_ ∧ _))

theorem eq_of_mem_lowered (hd : IsMark d) (h : d ∈ lowered c) : c = d := by
  obtain ⟨hascii, hmark⟩ := hd
  unfold lowered at h
  split at h
  · next hc =>
    have hall : ∀ n < 0x80, (Char.ofNat n).toLower.isAlpha = false →
        (Char.ofNat n).toLower = Char.ofNat n := by decide +kernel
    have hsame := hall c.toNat hc
    rw [Char.ofNat_toNat, ← mem_singleton.mp h] at hsame
    exact (hsame hmark).symm
  · split at h
    · rcases mem_cons.mp h with rfl | h
      · exact absurd hmark (by decide)
      · rw [mem_singleton.mp h] at hascii
        exact absurd hascii (by decide)
    · split at h
      · next m hm =>
        rcases lowerPartner?_cases hm with rfl | hhigh
        · rw [mem_singleton.mp h] at hmark
          exact absurd hmark (by decide)
        · rw [mem_singleton.mp h, toNat_of_lowerPartner? hm] at hascii
          omega
      · exact (mem_singleton.mp h).symm

end RepoAtlas.Unicode
