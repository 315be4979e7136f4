import RepoAtlas.Search.Catalog
import Mathlib.Data.List.Basic

/-! # The ranking of hits -/

namespace RepoAtlas.Search

open List

/-! ## The order of hits -/

namespace Hit

/-- The first hit may stand before the second in an answer. -/
def Leads (a b : Hit) : Prop :=
  (order a b).isLE = true

instance : DecidableRel Leads := fun a b =>
  inferInstanceAs (Decidable ((order a b).isLE = true))

theorem leads_refl (a : Hit) : a.Leads a :=
  Std.ReflCmp.isLE_rfl

theorem leads_trans {a b c : Hit} (hab : a.Leads b) (hbc : b.Leads c) : a.Leads c :=
  Std.TransCmp.isLE_trans hab hbc

def regrade (h : Hit) : Hit :=
  ⟨h.path, h.score⟩

def IsGraded (h : Hit) : Prop :=
  h.regrade = h

@[simp] theorem isGraded_regrade (h : Hit) : h.regrade.IsGraded := rfl

@[simp] theorem order_regrade (a b : Hit) : order a.regrade b.regrade = order a b := rfl

theorem regrade_eq_of_order_eq {a b : Hit} (h : order a b = .eq) : a.regrade = b.regrade := by
  simp only [order, Ordering.then_eq_eq, Std.LawfulEqOrd.compare_eq_iff_eq] at h
  obtain ⟨hscore, -, hpath⟩ := h
  rw [regrade, regrade, hscore, hpath]

/-- Hits that the order does not tell apart are the same but for their grades. -/
theorem leads_antisymm {a b : Hit} (ha : a.IsGraded) (hb : b.IsGraded) (hab : a.Leads b)
    (hba : b.Leads a) : a = b := by
  rw [← ha, ← hb]
  exact regrade_eq_of_order_eq (Std.OrientedCmp.isLE_antisymm hab hba)

theorem leads_of_not_leads {a b : Hit} (h : ¬ a.Leads b) : b.Leads a := by
  have hlt : order b a = .lt := Std.OrientedCmp.lt_of_not_isLE h
  simp [Leads, hlt]

theorem leads_total (a b : Hit) : a.Leads b ∨ b.Leads a := by
  by_cases h : a.Leads b
  · exact Or.inl h
  · exact Or.inr (leads_of_not_leads h)

end Hit

/-! ## The sorted arrangement -/

theorem pairwise_leads_mergeSort (hits : List Hit) :
    (hits.mergeSort fun a b => (Hit.order a b).isLE).Pairwise Hit.Leads := by
  apply pairwise_mergeSort
  · exact fun a b c => Hit.leads_trans
  · intro a b
    simpa [Hit.Leads] using Hit.leads_total a b

theorem exists_sorted (hits : List Hit) :
    ∃ sorted : List Hit, sorted ~ hits ∧ sorted.Pairwise Hit.Leads :=
  ⟨_, mergeSort_perm hits _, pairwise_leads_mergeSort hits⟩

variable {sorted hits xs ys : List Hit}

theorem best_eq_take_of_sorted (hg : ∀ h ∈ hits, h.IsGraded) (limit : Nat) (hp : sorted ~ hits)
    (hs : sorted.Pairwise Hit.Leads) : best limit hits = sorted.take limit := by
  have he : (hits.mergeSort fun a b => (Hit.order a b).isLE) = sorted := by
    apply ((mergeSort_perm hits _).trans hp.symm).eq_of_pairwise ?_ (pairwise_leads_mergeSort hits) hs
    intro a b ha hb
    exact Hit.leads_antisymm (hg a (mem_mergeSort.mp ha)) (hg b (hp.mem_iff.mp hb))
  rw [best, he]

theorem best_perm (hg : ∀ h ∈ xs, h.IsGraded) (limit : Nat) (h : xs ~ ys) :
    best limit xs = best limit ys := by
  obtain ⟨sorted, hp, hs⟩ := exists_sorted xs
  have hgy : ∀ h ∈ ys, h.IsGraded := fun hit hmem => hg hit (h.mem_iff.mpr hmem)
  rw [best_eq_take_of_sorted hg limit hp hs, best_eq_take_of_sorted hgy limit (hp.trans h) hs]

theorem map_regrade_best (limit : Nat) (hits : List Hit) :
    (best limit hits).map Hit.regrade = best limit (hits.map Hit.regrade) := by
  rw [best, best, map_take, map_mergeSort]
  intro a _ b _
  rw [Hit.order_regrade]

/-- The order in which hits of any grades are given shows in the grades alone. -/
theorem map_regrade_best_perm (limit : Nat) (h : xs ~ ys) :
    (best limit xs).map Hit.regrade = (best limit ys).map Hit.regrade := by
  rw [map_regrade_best, map_regrade_best]
  apply best_perm ?_ limit (h.map Hit.regrade)
  intro hit hmem
  obtain ⟨other, -, rfl⟩ := mem_map.mp hmem
  exact other.isGraded_regrade

theorem best_append_of_leads (hx : ∀ h ∈ xs, h.IsGraded) (hy : ∀ h ∈ ys, h.IsGraded) (limit : Nat)
    (h : ∀ a ∈ xs, ∀ b ∈ ys, a.Leads b) :
    best limit (xs ++ ys) = (best limit xs ++ best limit ys).take limit := by
  obtain ⟨front, hfront, hfs⟩ := exists_sorted xs
  obtain ⟨back, hback, hbs⟩ := exists_sorted ys
  have hsorted : (front ++ back).Pairwise Hit.Leads := by
    refine pairwise_append.mpr ⟨hfs, hbs, ?_⟩
    intro a ha b hb
    exact h a (hfront.mem_iff.mp ha) b (hback.mem_iff.mp hb)
  have hboth : ∀ h ∈ xs ++ ys, h.IsGraded := forall_mem_append.mpr ⟨hx, hy⟩
  rw [best_eq_take_of_sorted hboth limit (hfront.append hback) hsorted,
    best_eq_take_of_sorted hx limit hfront hfs, best_eq_take_of_sorted hy limit hback hbs, take_append,
    take_append, take_take, take_take, length_take, Nat.min_self]
  congr 2
  omega

theorem mem_of_mem_best {limit : Nat} {h : Hit} (hmem : h ∈ best limit hits) :
    h ∈ hits :=
  (mergeSort_perm hits _).mem_iff.mp (mem_of_mem_take hmem)

@[simp] theorem best_zero (hits : List Hit) : best 0 hits = [] := by
  simp [best]

@[simp] theorem best_nil (limit : Nat) : best limit [] = [] := by
  simp [best]

/-! ## Cuts -/

/-- The hits are cut into a sorted front of at most `limit` and a rest that the front leads; a shorter
front leaves no rest. -/
structure Cut (limit : Nat) (hits front rest : List Hit) : Prop where
  perm : front ++ rest ~ hits
  sorted : front.Pairwise Hit.Leads
  leads : ∀ a ∈ front, ∀ b ∈ rest, a.Leads b
  within : front.length ≤ limit
  full : rest ≠ [] → front.length = limit

theorem Cut.best_eq {limit : Nat} {front rest : List Hit} (hg : ∀ h ∈ hits, h.IsGraded)
    (h : Cut limit hits front rest) : best limit hits = front := by
  obtain ⟨tail, hp, hs⟩ := exists_sorted rest
  have hsorted : (front ++ tail).Pairwise Hit.Leads := by
    refine pairwise_append.mpr ⟨h.sorted, hs, ?_⟩
    intro a ha b hb
    exact h.leads a ha b (hp.mem_iff.mp hb)
  rw [best_eq_take_of_sorted hg limit ((hp.append_left front).trans h.perm) hsorted]
  by_cases hr : rest = []
  · subst hr
    rw [hp.eq_nil, append_nil, take_of_length_le h.within]
  · rw [← h.full hr, take_left]

theorem exists_cut (limit : Nat) (hits : List Hit) : ∃ rest, Cut limit hits (best limit hits) rest := by
  let sorted := hits.mergeSort fun a b => (Hit.order a b).isLE
  have hp : sorted ~ hits := mergeSort_perm _ _
  have hsplit : (sorted.take limit ++ sorted.drop limit).Pairwise Hit.Leads := by
    rw [take_append_drop]
    exact pairwise_leads_mergeSort hits
  obtain ⟨hfront, -, hleads⟩ := pairwise_append.mp hsplit
  refine ⟨sorted.drop limit, ?_, hfront, hleads, length_take_le _ _, ?_⟩
  · rw [best, take_append_drop]
    exact hp
  · intro hne
    have hlt : limit < sorted.length := by
      by_contra hle
      exact hne (drop_eq_nil_of_le (Nat.le_of_not_lt hle))
    rw [best, length_take, Nat.min_eq_left (Nat.le_of_lt hlt)]

/-- What a part leaves out of its own best is led by every hit that is best after the part was cut.
Otherwise all the `limit` hits of the part would stand before that hit. -/
theorem Cut.leads_rest {limit : Nat} {xs ys front rest best others : List Hit}
    (hx : Cut limit xs front rest) (hb : Cut limit (front ++ ys) best others) :
    ∀ a ∈ best, ∀ c ∈ rest, a.Leads c := by
  intro a ha c hc
  by_contra hac
  let before : Hit → Bool := fun d => decide (¬ a.Leads d)
  have hfront : front.countP before = front.length := by
    apply countP_eq_length.mpr
    intro d hd
    simp only [before, decide_eq_true_eq]
    intro had
    exact hac (Hit.leads_trans had (hx.leads d hd c hc))
  have hothers : others.countP before = 0 := by
    apply countP_eq_zero.mpr
    intro d hd
    simpa [before] using hb.leads a ha d hd
  have hcount : best.countP before = best.length := by
    have hp := hb.perm.countP_eq before
    rw [countP_append, countP_append, hothers, hfront, hx.full (ne_nil_of_mem hc)] at hp
    have hle := countP_le_length (p := before) (l := best)
    have hw := hb.within
    omega
  have hself := countP_eq_length.mp hcount a ha
  simp [before, Hit.leads_refl] at hself

/-! ## Merging -/

theorem Cut.trans {limit : Nat} {xs ys front rest best others : List Hit}
    (hx : Cut limit xs front rest) (hb : Cut limit (front ++ ys) best others) :
    Cut limit (xs ++ ys) best (others ++ rest) := by
  refine ⟨?_, hb.sorted, ?_, hb.within, ?_⟩
  · calc
      best ++ (others ++ rest) ~ (front ++ ys) ++ rest := by
        rw [← append_assoc]
        exact hb.perm.append_right rest
      _ ~ (front ++ rest) ++ ys := by
        rw [append_assoc, append_assoc]
        exact perm_append_comm.append_left _
      _ ~ xs ++ ys := hx.perm.append_right ys
  · intro a ha b hmem
    rcases mem_append.mp hmem with hmem | hmem
    · exact hb.leads a ha b hmem
    · exact hx.leads_rest hb a ha b hmem
  · intro hne
    by_cases ho : others = []
    · have hfull := hx.full (by simpa [ho] using hne)
      have hlen := hb.perm.length_eq
      have hwithin := hb.within
      simp only [ho, append_nil, length_append] at hlen
      omega
    · exact hb.full ho

/-- Cutting a part to its best loses none of the best of the whole. -/
theorem best_best_append (hx : ∀ h ∈ xs, h.IsGraded) (hy : ∀ h ∈ ys, h.IsGraded) (limit : Nat) :
    best limit (best limit xs ++ ys) = best limit (xs ++ ys) := by
  obtain ⟨rest, hcut⟩ := exists_cut limit xs
  obtain ⟨others, hb⟩ := exists_cut limit (best limit xs ++ ys)
  exact ((hcut.trans hb).best_eq (forall_mem_append.mpr ⟨hx, hy⟩)).symm

theorem best_append_best (hx : ∀ h ∈ xs, h.IsGraded) (hy : ∀ h ∈ ys, h.IsGraded) (limit : Nat) :
    best limit (xs ++ best limit ys) = best limit (xs ++ ys) := by
  have hbest : ∀ h ∈ best limit ys, h.IsGraded := fun h hmem => hy h (mem_of_mem_best hmem)
  rw [best_perm (forall_mem_append.mpr ⟨hx, hbest⟩) limit perm_append_comm, best_best_append hy hx,
    best_perm (forall_mem_append.mpr ⟨hy, hx⟩) limit perm_append_comm]

/-- The best hits of all parts are the best of the best hits of each. -/
theorem best_flatten_map_best {parts : List (List Hit)} (hg : ∀ part ∈ parts, ∀ h ∈ part, h.IsGraded)
    (limit : Nat) : best limit (parts.map (best limit)).flatten = best limit parts.flatten := by
  induction parts with
  | nil => rfl
  | cons part parts ih =>
    obtain ⟨hpart, hparts⟩ := forall_mem_cons.mp hg
    have hflat : ∀ h ∈ parts.flatten, h.IsGraded := by
      intro h hmem
      obtain ⟨other, hother, hh⟩ := mem_flatten.mp hmem
      exact hparts other hother h hh
    have hbest : ∀ h ∈ (parts.map (best limit)).flatten, h.IsGraded := by
      intro h hmem
      obtain ⟨other, hother, hh⟩ := mem_flatten.mp hmem
      obtain ⟨whole, hwhole, rfl⟩ := mem_map.mp hother
      exact hparts whole hwhole h (mem_of_mem_best hh)
    rw [map_cons, flatten_cons, flatten_cons, best_best_append hpart hbest, ← best_append_best hpart hbest,
      ih hparts, best_append_best hpart hflat]

/-! ## Catalogs -/

theorem Catalog.isGraded_of_mem_hits {c : Catalog} {q : Query} {h : Hit} (hmem : h ∈ c.hits q) :
    h.IsGraded := by
  obtain ⟨r, -, rfl⟩ := mem_map.mp (mem_filter.mp hmem).1
  rfl

/-- Neither an empty query nor a limit of zero makes an exception. -/
theorem Catalog.search_eq_best (c : Catalog) (text : Text) (limit : Nat) :
    c.search text limit = best limit (c.hits (.ofText text)) := by
  by_cases hempty : (Query.ofText text).isEmpty = true
  · have hnone : c.hits (.ofText text) = [] := by
      simp [hits, Hit.score, Rating.ofScore, Search.score, hempty]
    simp [search, hempty, hnone]
  · by_cases hlimit : limit = 0
    · simp [search, hlimit]
    · simp [search, hempty, hlimit]

theorem Catalog.mem_hits_of_mem_search {c : Catalog} {text : Text} {limit : Nat} {h : Hit}
    (hmem : h ∈ c.search text limit) : h ∈ c.hits (.ofText text) := by
  rw [search_eq_best] at hmem
  exact mem_of_mem_best hmem

theorem Catalog.isGraded_of_mem_search {c : Catalog} {text : Text} {limit : Nat} {h : Hit}
    (hmem : h ∈ c.search text limit) : h.IsGraded :=
  isGraded_of_mem_hits (mem_hits_of_mem_search hmem)

end RepoAtlas.Search
