import RepoAtlas.Path.Record
import RepoAtlas.Proofs.Text.WordEnd

/-! # Stems of lowered names -/

namespace RepoAtlas

open Unicode List

namespace Text

variable {n : Nat} {s t : Text}

/-- The front of the text that takes up so many bytes. There is none if no character ends there. -/
def front? : Nat → Text → Option Text
  | n, [] => if n = 0 then some [] else none
  | n, c :: t =>
    if n = 0 then some []
    else if n < c.utf8Size then none
    else (front? (n - c.utf8Size) t).map (c :: ·)

@[simp] theorem front?_zero (t : Text) : front? 0 t = some [] := by
  cases t <;> rfl

theorem front?_append (s t : Text) : front? (byteLength s) (s ++ t) = some s := by
  induction s with
  | nil => exact front?_zero t
  | cons c s ih =>
    have hpos := c.utf8Size_pos
    have hne : c.utf8Size + byteLength s ≠ 0 := by omega
    have hfits : ¬ c.utf8Size + byteLength s < c.utf8Size := by omega
    rw [byteLength_cons, cons_append, front?, if_neg hne, if_neg hfits, Nat.add_sub_cancel_left, ih]
    rfl

theorem of_front?_eq_some (h : front? n t = some s) : s <+: t ∧ byteLength s = n := by
  induction t generalizing n s with
  | nil =>
    rw [front?] at h
    split at h
    · next hn => simp_all
    · cases h
  | cons c t ih =>
    rw [front?] at h
    split at h
    · next hn => simp_all
    · split at h
      · cases h
      · next hfits =>
        obtain ⟨u, hu, rfl⟩ := Option.map_eq_some_iff.mp h
        obtain ⟨hfront, hlength⟩ := ih hu
        refine ⟨cons_prefix_cons.mpr ⟨rfl, hfront⟩, ?_⟩
        rw [byteLength_cons]
        omega

theorem front?_eq_some_iff : front? n t = some s ↔ s <+: t ∧ byteLength s = n := by
  constructor
  · exact of_front?_eq_some
  · rintro ⟨⟨rest, rfl⟩, rfl⟩
    exact front?_append s rest

end Text

open Text

namespace Path

variable {name stem rest : Text}

theorem extension_append (hstem : stem ≠ []) (hrest : rest ≠ []) (hdot : '.' ∉ rest) :
    extension (stem ++ '.' :: rest) = Text.lower ('.' :: rest) := by
  simp [extension, cutLast?_eq_some_iff.mpr ⟨rfl, hdot⟩, hstem, hrest]

theorem extension_cases (name : Text) : extension name = [] ∨
    ∃ stem rest, name = stem ++ '.' :: rest ∧ stem ≠ [] ∧ rest ≠ [] ∧ '.' ∉ rest := by
  cases hcut : cutLast? '.' name with
  | none => exact Or.inl (by rw [extension, hcut])
  | some parts =>
    obtain ⟨stem, rest⟩ := parts
    obtain ⟨hname, hdot⟩ := cutLast?_eq_some_iff.mp hcut
    by_cases hempty : stem = [] ∨ rest = []
    · have hnone : (stem.isEmpty || rest.isEmpty) = true := by simpa using hempty
      exact Or.inl (by rw [extension, hcut]; exact if_pos hnone)
    · obtain ⟨hstem, hrest⟩ := not_or.mp hempty
      exact Or.inr ⟨stem, rest, hname, hstem, hrest, hdot⟩

theorem extension_append_of_lowered (hstem : stem ≠ []) (hrest : rest ≠ []) (hdot : '.' ∉ rest)
    (hlowered : ∀ c ∈ '.' :: rest, lowered c = [c]) : extension (stem ++ '.' :: rest) = '.' :: rest := by
  rw [extension_append hstem hrest hdot]
  exact lowerAfter_eq_self hlowered []

end Path

namespace PathRecord

variable {r : PathRecord} {stem : Text}

/-- The stem as it is cut from the name, which fails if the extension takes up more bytes than the name or
begins within a character. -/
def stemLower? (r : PathRecord) : Option Text :=
  if byteLength r.extension ≤ byteLength r.nameLower then
    front? (byteLength r.nameLower - byteLength r.extension) r.nameLower
  else none

theorem stemLower_of_append (h : r.nameLower = stem ++ r.extension) : r.stemLower = stem := by
  rw [stemLower, h, length_append, Nat.add_sub_cancel, take_left]

theorem stemLower?_of_append (h : r.nameLower = stem ++ r.extension) : r.stemLower? = some stem := by
  have hlength : byteLength r.nameLower = byteLength stem + byteLength r.extension := by
    rw [h, byteLength_append]
  rw [stemLower?, hlength, if_pos (Nat.le_add_left _ _), Nat.add_sub_cancel]
  exact front?_eq_some_iff.mpr ⟨⟨r.extension, h.symm⟩, rfl⟩

theorem exists_nameLower_eq (path : Text) :
    ∃ stem, (ofPath path).nameLower = stem ++ (ofPath path).extension ∧
      ((ofPath path).extension = [] ∨
        stem ≠ [] ∧ ∃ rest, (ofPath path).extension = '.' :: rest ∧ rest ≠ [] ∧ '.' ∉ rest) := by
  have hextension : (ofPath path).extension = Path.extension (ofPath path).nameLower := rfl
  have hlower : (ofPath path).nameLower = Text.lower (ofPath path).name := rfl
  rcases Path.extension_cases (ofPath path).nameLower with hnone | ⟨stem, rest, hname, hstem, hrest, hdot⟩
  · rw [hextension, hnone]
    exact ⟨(ofPath path).nameLower, (append_nil _).symm, Or.inl rfl⟩
  · have hlowered : ∀ c ∈ '.' :: rest, lowered c = [c] := by
      intro c hc
      have hmem : c ∈ Text.lower (ofPath path).name := by
        rw [← hlower, hname]
        exact mem_append_right _ hc
      exact lowered_of_mem_lowerAfter hmem
    have hcut : (ofPath path).extension = '.' :: rest := by
      rw [hextension, hname, Path.extension_append_of_lowered hstem hrest hdot hlowered]
    rw [hcut]
    exact ⟨stem, hname, Or.inr ⟨hstem, rest, rfl, hrest, hdot⟩⟩

/-- For every path the stem can be cut from the lowered name, and the name is the stem and the extension. An
extension is a last dot with something before and after it. -/
theorem stemLower_splits_name (path : Text) :
    let r := ofPath path
    byteLength r.extension ≤ byteLength r.nameLower ∧
    r.stemLower? = some r.stemLower ∧
    r.nameLower = r.stemLower ++ r.extension ∧
    (r.extension = [] ∨
      r.stemLower ≠ [] ∧ ∃ rest, r.extension = '.' :: rest ∧ rest ≠ [] ∧ '.' ∉ rest) := by
  intro r
  obtain ⟨stem, hname, hextension⟩ := exists_nameLower_eq path
  have hstem : r.stemLower = stem := stemLower_of_append hname
  refine ⟨?_, ?_, ?_, ?_⟩
  · rw [hname, byteLength_append]
    exact Nat.le_add_left _ _
  · rw [hstem]
    exact stemLower?_of_append hname
  · rwa [hstem]
  · rwa [hstem]

/-- A dotted capital I is two characters in lower case, and the sigma before the dot does not end the word. -/
example : (ofPath "ΟΔΟΣ.İΣ".toList).stemLower? = some "οδοσ".toList ∧
    (ofPath "ΟΔΟΣ.İΣ".toList).extension = ".i̇ς".toList := by
  decide +kernel

end PathRecord

end RepoAtlas
