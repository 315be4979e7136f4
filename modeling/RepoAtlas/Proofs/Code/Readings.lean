import RepoAtlas.Code.Scan
import Mathlib.Data.List.Infix
import Mathlib.Data.List.TakeWhile

/-! # Readings -/

namespace RepoAtlas.Code

open Text List

theorem ne_of_kind {kind : Char → Bool} {c d : Char} (hc : kind c = true) (hd : kind d = false) : c ≠ d := by
  rintro rfl
  simp [hc] at hd

/-- The text does not go on with a character of a kind. -/
def Stops (kind : Char → Bool) (t : Text) : Prop :=
  ∀ c ∈ t.head?, kind c = false

namespace Stops

variable {kind : Char → Bool} {c : Char} {t : Text}

theorem nil : Stops kind [] := by
  simp [Stops]

theorem cons (h : kind c = false) (t : Text) : Stops kind (c :: t) := by
  simp [Stops, h]

theorem head (h : Stops kind (c :: t)) : kind c = false :=
  h c rfl

theorem word {w : String} (hw : w.toList.head? = some c) (hc : kind c = false) (t : Text) :
    Stops kind (w.toList ++ t) := by
  intro d hd
  rw [head?_append, hw] at hd
  cases hd
  exact hc

theorem dropWhile_eq (h : Stops kind t) : t.dropWhile kind = t := by
  cases t with
  | nil => rfl
  | cons c t => exact dropWhile_cons_of_neg (by simp [h.head])

theorem takeWhile_eq (h : Stops kind t) : t.takeWhile kind = [] := by
  cases t with
  | nil => rfl
  | cons c t => exact takeWhile_cons_of_neg (by simp [h.head])

end Stops

structure Tail (kind : Char → Bool) where
  text : Text
  stops : Stops kind text

namespace Scan

variable {α β : Type} {s : Scan α} {f : α → Scan β} {kind : Char → Bool} {a : α} {c c' : Cursor}
  {more : List (α × Cursor)} {b : Option Char} {d : Char} {t taken w : Text}

/-! ## Compositions -/

theorem bind_of_eq_nil (h : s c = []) (f : α → Scan β) : (s >>= f) c = [] := by
  rw [bind_apply, h, flatMap_nil]

theorem bind_of_eq_cons (h : s c = (a, c') :: more) (f : α → Scan β) :
    (s >>= f) c = f a c' ++ more.flatMap fun (a, c) => f a c := by
  rw [bind_apply, h, flatMap_cons]

theorem bind_of_eq_singleton (h : s c = [(a, c')]) (f : α → Scan β) : (s >>= f) c = f a c' := by
  rw [bind_of_eq_cons h, flatMap_nil, append_nil]

theorem map_apply (g : α → β) (s : Scan α) (c : Cursor) :
    (g <$> s) c = (s c).map fun (a, c) => (g a, c) :=
  flatMap_pure_eq_map ..

theorem optional_apply (s : Scan α) (c : Cursor) :
    optional s c = ((s c).map fun (a, c) => (some a, c)) ++ [(none, c)] := by
  rw [optional, orElse_apply, map_apply]
  rfl

theorem optional_of_eq_nil (h : s c = []) : optional s c = [(none, c)] := by
  rw [optional_apply, h]
  rfl

theorem optional_of_eq_cons (h : s c = (a, c') :: more) :
    optional s c = (some a, c') :: ((more.map fun (a, c) => (some a, c)) ++ [(none, c)]) := by
  rw [optional_apply, h]
  rfl

/-! ## Single parts -/

theorem one_cons (h : kind d = true) (t : Text) : one kind ⟨b, d :: t⟩ = [(d, ⟨some d, t⟩)] := by
  simp [one, h]

theorem one_of_stops (h : Stops kind t) : one kind ⟨b, t⟩ = [] := by
  cases t with
  | nil => rfl
  | cons d t => simp [one, h.head]

theorem literal_append (w t : Text) : literal w ⟨b, w ++ t⟩ = [((), ⟨w.getLast?.or b, t⟩)] := by
  simp [literal, dropLead?_eq_some_iff.mpr rfl, Cursor.advance]

theorem word_eq_nil {w : String} (h : ¬w.toList <+: t) : word w ⟨b, t⟩ = [] := by
  have hnone : dropLead? w.toList t = none := by
    rw [Option.eq_none_iff_forall_not_mem]
    intro rest hrest
    exact h ⟨rest, (dropLead?_eq_some_iff.mp hrest).symm⟩
  simp [word, literal, hnone]

theorem word_of_head?_ne {w : String} (hw : w.toList.head? = some d) (ht : t.head? ≠ some d) :
    word w ⟨b, t⟩ = [] := by
  apply word_eq_nil
  intro h
  obtain ⟨rest, rfl⟩ := h
  rw [head?_append, hw] at ht
  exact ht rfl

/-- A word that stands in front of a character goes no further than to it. -/
theorem prefix_of_prefix_append_cons {v w : Text} (hd : d ∉ v) (h : v <+: w ++ d :: t) : v <+: w := by
  rcases prefix_or_prefix_of_prefix h (prefix_append w (d :: t)) with hprefix | ⟨u, rfl⟩
  · exact hprefix
  · cases u with
    | nil => rw [append_nil]
    | cons e u =>
      obtain ⟨rfl, -⟩ := cons_prefix_cons.mp ((prefix_append_right_inj w).mp h)
      exact absurd (mem_append_right w mem_cons_self) hd

theorem not_prefix_of_stops {w : Text} (hw : w.head?.any kind = true) (ht : Stops kind t) : ¬w <+: t := by
  cases w with
  | nil => cases hw
  | cons e w =>
    rintro ⟨rest, rfl⟩
    have he : kind e = true := hw
    rw [Stops.head ht] at he
    cases he

theorem not_prefix_cons {w : Text} (hw : w.head?.any (· != d) = true) (t : Text) : ¬w <+: d :: t :=
  not_prefix_of_stops hw (Stops.cons (by simp) t)

theorem oneOf_eq_nil {ws : List String} (h : ∀ w ∈ ws, ¬w.toList <+: t) : oneOf ws ⟨b, t⟩ = [] := by
  induction ws with
  | nil => rfl
  | cons w ws ih =>
    obtain ⟨hw, hws⟩ := forall_mem_cons.mp h
    rw [oneOf, orElse_apply, word_eq_nil hw, ih hws, nil_append]

theorem oneOf_append {ws : List String} {w : String} (hw : w ∈ ws)
    (hapart : ws.Pairwise fun v w => ¬v.toList <+: w.toList ∧ ¬w.toList <+: v.toList)
    (hclean : ∀ v ∈ ws, d ∉ v.toList) (t : Text) :
    oneOf ws ⟨b, w.toList ++ d :: t⟩ = [((), ⟨w.toList.getLast?.or b, d :: t⟩)] := by
  induction ws with
  | nil => cases hw
  | cons v ws ih =>
    obtain ⟨hv, hvs⟩ := forall_mem_cons.mp hclean
    obtain ⟨hfirst, hrest⟩ := pairwise_cons.mp hapart
    rw [oneOf, orElse_apply]
    rcases mem_cons.mp hw with rfl | hmem
    · have hnone : oneOf ws ⟨b, w.toList ++ d :: t⟩ = [] := by
        apply oneOf_eq_nil
        intro u hu hprefix
        exact (hfirst u hu).2 (prefix_of_prefix_append_cons (hvs u hu) hprefix)
      rw [word, literal_append, hnone, append_nil]
    · have hskip : word v ⟨b, w.toList ++ d :: t⟩ = [] :=
        word_eq_nil fun hprefix => (hfirst w hmem).1 (prefix_of_prefix_append_cons hv hprefix)
      rw [hskip, nil_append, ih hmem hrest hvs]

theorem run_append (htaken : ∀ d ∈ taken, kind d = true) (ht : Stops kind t) :
    run kind ⟨b, taken ++ t⟩ = [(taken, ⟨taken.getLast?.or b, t⟩)] := by
  simp [run, Cursor.advance, takeWhile_append_of_pos htaken, dropWhile_append_of_pos htaken,
    ht.takeWhile_eq, ht.dropWhile_eq]

theorem run1_append (htaken : ∀ d ∈ taken, kind d = true) (hne : taken ≠ []) (ht : Stops kind t) :
    run1 kind ⟨b, taken ++ t⟩ = [(taken, ⟨taken.getLast?.or b, t⟩)] := by
  rw [run1, if_neg, run_append htaken ht]
  simp [takeWhile_append_of_pos htaken, hne]

theorem run1_of_stops (h : Stops kind t) : run1 kind ⟨b, t⟩ = [] := by
  simp [run1, h.takeWhile_eq]

theorem exists_anyRun_append (htaken : ∀ d ∈ taken, kind d = true) (ht : Stops kind t) :
    ∃ more, anyRun kind ⟨b, taken ++ t⟩ = ((), ⟨taken.getLast?.or b, t⟩) :: more := by
  suffices h : ∀ (b : Option Char) (shorter : List (Unit × Cursor)),
      ∃ more, anyRun.go kind (taken ++ t) (((), ⟨b, taken ++ t⟩) :: shorter) =
        ((), ⟨taken.getLast?.or b, t⟩) :: more from h b []
  induction taken with
  | nil =>
    intro b shorter
    cases t with
    | nil => exact ⟨shorter, rfl⟩
    | cons d t => exact ⟨shorter, by simp [anyRun.go, ht.head]⟩
  | cons d taken ih =>
    intro b shorter
    have hd : kind d = true := htaken d mem_cons_self
    obtain ⟨more, hmore⟩ := ih (fun d hd => htaken d (mem_cons_of_mem _ hd)) (some d)
      (((), ⟨b, d :: (taken ++ t)⟩) :: shorter)
    refine ⟨more, ?_⟩
    rw [cons_append, anyRun.go, if_pos hd, hmore, getLast?_cons]
    cases taken.getLast? <;> rfl

/-! ## Preferred readings -/

/-- The preferred reading from a position on. -/
def preferred? (s : Scan α) (c : Cursor) : Option α :=
  (s c).head?.map Prod.fst

theorem first?_eq (s : Scan α) (line : Text) : s.first? line = s.preferred? ⟨none, line⟩ := rfl

theorem preferred?_eq_none (h : s c = []) : s.preferred? c = none := by
  rw [preferred?, h]
  rfl

theorem preferred?_orElse (s t : Scan α) (c : Cursor) :
    (s <|> t).preferred? c = (s.preferred? c).or (t.preferred? c) := by
  rw [preferred?, orElse_apply, head?_append, Option.map_or]
  rfl

theorem preferred?_bind_of_eq_cons (h : s c = (a, c') :: more) (f : α → Scan β) :
    (s >>= f).preferred? c =
      ((f a).preferred? c').or ((more.flatMap fun (a, c) => f a c).head?.map Prod.fst) := by
  rw [preferred?, bind_of_eq_cons h, head?_append, Option.map_or]
  rfl

/-- The preferred reading from `c` on is `a`, and it ends at `c'`. -/
def Prefers (s : Scan α) (c : Cursor) (a : α) (c' : Cursor) : Prop :=
  ∃ more, s c = (a, c') :: more

namespace Prefers

theorem of_eq_singleton (h : s c = [(a, c')]) : Prefers s c a c' :=
  ⟨[], h⟩

theorem pure (a : α) (c : Cursor) : Prefers (Pure.pure a) c a c :=
  ⟨[], rfl⟩

theorem bind {x : β} {c'' : Cursor} (h : Prefers s c a c') (hf : Prefers (f a) c' x c'') :
    Prefers (s >>= f) c x c'' := by
  obtain ⟨more, hs⟩ := h
  obtain ⟨others, hx⟩ := hf
  refine ⟨others ++ more.flatMap fun (a, c) => f a c, ?_⟩
  rw [bind_of_eq_cons hs, hx]
  rfl

theorem orElse_left (h : Prefers s c a c') (t : Scan α) : Prefers (s <|> t) c a c' := by
  obtain ⟨more, hs⟩ := h
  exact ⟨more ++ t c, by rw [orElse_apply, hs, cons_append]⟩

theorem orElse_right {s' : Scan α} (hs : s c = []) (h : Prefers s' c a c') : Prefers (s <|> s') c a c' := by
  obtain ⟨more, hs'⟩ := h
  exact ⟨more, by rw [orElse_apply, hs, hs', nil_append]⟩

theorem optional (h : Prefers s c a c') : Prefers (optional s) c (some a) c' := by
  obtain ⟨more, hs⟩ := h
  exact ⟨_, optional_of_eq_cons hs⟩

theorem preferred?_eq (h : Prefers s c a c') : s.preferred? c = some a := by
  obtain ⟨more, hs⟩ := h
  rw [preferred?, hs]
  rfl

end Prefers

/-! ## Readings along a line -/

/-- Where nothing can be read in front of a text, reading on starts with that text. -/
theorem allWithin_append {front : Text} (b : Option Char)
    (hfront : ∀ b u, u <:+ front → u ≠ [] → s ⟨b, u ++ t⟩ = []) (steps : Nat) :
    allWithin s (front.length + steps) ⟨b, front ++ t⟩ =
      allWithin s steps ⟨front.getLast?.or b, t⟩ := by
  induction front generalizing b with
  | nil => rw [length_nil, Nat.zero_add]; rfl
  | cons d front ih =>
    have hd : s ⟨b, d :: (front ++ t)⟩ = [] := hfront b _ suffix_rfl (cons_ne_nil d front)
    have hnext := ih (some d) fun b u hu => hfront b u (hu.trans (suffix_cons d front))
    rw [length_cons, Nat.add_right_comm, cons_append, allWithin, hd]
    simp only
    rw [hnext, getLast?_cons]
    cases front.getLast? <;> rfl

theorem allWithin_eq_nil (h : ∀ b u, u <:+ t → s ⟨b, u⟩ = []) (steps : Nat) (b : Option Char) :
    allWithin s steps ⟨b, t⟩ = [] := by
  induction steps generalizing b t with
  | zero => rfl
  | succ steps ih =>
    rw [allWithin, h b t suffix_rfl]
    cases t with
    | nil => rfl
    | cons d t => exact ih (fun b u hu => h b u (hu.trans (suffix_cons d t))) (some d)

theorem all_eq_nil (h : ∀ b u, u <:+ t → s ⟨b, u⟩ = []) : s.all t = [] :=
  allWithin_eq_nil h _ none

/-- What can be read at only one position of a line is read once. -/
theorem all_eq_singleton {front rest : Text}
    (hfront : ∀ b u, u <:+ front → u ≠ [] → s ⟨b, u ++ t⟩ = [])
    (hread : s ⟨front.getLast?, t⟩ = (a, ⟨b, rest⟩) :: more)
    (hrest : ∀ b u, u <:+ rest → s ⟨b, u⟩ = []) :
    s.all (front ++ t) = [a] := by
  rw [all, length_append, Nat.add_assoc, allWithin_append none hfront, Option.or_none, allWithin, hread]
  simp only
  rw [allWithin_eq_nil hrest]

/-! ## Going forward -/

theorem mem_bind {r : β × Cursor} : r ∈ (s >>= f) c ↔ ∃ a c', (a, c') ∈ s c ∧ r ∈ f a c' := by
  rw [bind_apply, mem_flatMap]
  exact Prod.exists

theorem rest_of_mem_one {d : Char} (h : (d, c') ∈ one kind c) : kind d = true ∧ c.rest = d :: c'.rest := by
  unfold one at h
  split at h
  · cases h
  · next e rest hrest =>
    split at h
    · next he =>
      cases mem_singleton.mp h
      exact ⟨he, hrest⟩
    · cases h

theorem rest_of_mem_literal {u : Unit} (h : (u, c') ∈ literal w c) : c.rest = w ++ c'.rest := by
  unfold literal at h
  split at h
  · next rest hrest =>
    cases mem_singleton.mp h
    exact dropLead?_eq_some_iff.mp hrest
  · cases h

theorem rest_of_mem_run (h : (taken, c') ∈ run kind c) :
    (∀ d ∈ taken, kind d = true) ∧ c.rest = taken ++ c'.rest := by
  cases mem_singleton.mp h
  exact ⟨fun d hd => mem_takeWhile_imp hd, takeWhile_append_dropWhile.symm⟩

def Advances (s : Scan α) : Prop :=
  ∀ a c c', (a, c') ∈ s c → c'.rest <:+ c.rest

theorem advances_pure (a : α) : Advances (pure a : Scan α) := by
  intro a c c' h
  cases mem_singleton.mp h
  exact suffix_rfl

theorem Advances.bind (hs : Advances s) (hf : ∀ a, Advances (f a)) : Advances (s >>= f) := by
  intro a c c' h
  obtain ⟨d, c₁, hd, ha⟩ := mem_bind.mp h
  exact (hf d a c₁ c' ha).trans (hs d c c₁ hd)

theorem Advances.orElse {s' : Scan α} (hs : Advances s) (hs' : Advances s') : Advances (s <|> s') := by
  intro a c c' h
  rcases mem_append.mp h with h | h
  · exact hs a c c' h
  · exact hs' a c c' h

theorem Advances.map (hs : Advances s) (g : α → β) : Advances (g <$> s) :=
  hs.bind fun a => advances_pure (g a)

theorem Advances.optional (hs : Advances s) : Advances (Scan.optional s) :=
  (hs.map some).orElse (advances_pure none)

theorem advances_one (kind : Char → Bool) : Advances (one kind) := by
  intro d c c' h
  rw [(rest_of_mem_one h).2]
  exact suffix_cons d c'.rest

theorem advances_literal (w : Text) : Advances (literal w) := by
  intro u c c' h
  rw [rest_of_mem_literal h]
  exact suffix_append w c'.rest

theorem advances_run (kind : Char → Bool) : Advances (run kind) := by
  intro taken c c' h
  rw [(rest_of_mem_run h).2]
  exact suffix_append taken c'.rest

theorem advances_run1 (kind : Char → Bool) : Advances (run1 kind) := by
  intro taken c c' h
  unfold run1 at h
  split at h
  · cases h
  · exact advances_run kind taken c c' h

theorem advances_edge : Advances edge := by
  intro u c c' h
  unfold edge at h
  split at h
  · cases mem_singleton.mp h
    exact suffix_rfl
  · cases h

theorem advances_oneOf (ws : List String) : Advances (oneOf ws) := by
  induction ws with
  | nil =>
    intro u c c' h
    cases h
  | cons w ws ih => exact (advances_literal w.toList).orElse ih

end Scan

end RepoAtlas.Code
