import Mathlib.Data.List.Basic

/-! # Runs that come to an end -/

namespace RepoAtlas

open List

section

variable {State Event : Type*} {stirs : State → Event → Prop} {step : State → Event → State}
variable {work : State → Nat}

/-- Every event of the list stirs the system. -/
def Stirring (stirs : State → Event → Prop) (step : State → Event → State) : State → List Event → Prop
  | _, [] => True
  | s, e :: events => stirs s e ∧ Stirring stirs step (step s e) events

theorem Stirring.length_le (hwork : ∀ {s e}, stirs s e → work (step s e) < work s) {s : State}
    {events : List Event} (h : Stirring stirs step s events) : events.length ≤ work s := by
  induction events generalizing s with
  | nil => exact Nat.zero_le _
  | cons e events ih =>
    have hlt := hwork h.1
    have hle := ih h.2
    rw [length_cons]
    omega

theorem exists_still (hwork : ∀ {s e}, stirs s e → work (step s e) < work s) (s : State) :
    ∃ events : List Event, ∀ e, ¬ stirs (events.foldl step s) e := by
  induction hn : work s using Nat.strongRecOn generalizing s with
  | ind n ih =>
    by_cases hs : ∀ e, ¬ stirs s e
    · exact ⟨[], hs⟩
    · obtain ⟨e, he⟩ := not_forall.mp hs
      obtain ⟨events, hevents⟩ := ih _ (hn ▸ hwork (not_not.mp he)) (step s e) rfl
      exact ⟨e :: events, hevents⟩

end

end RepoAtlas
