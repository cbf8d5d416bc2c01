import Mathlib.Algebra.BigOperators.Group.Finset.Piecewise

/-! What is reached on every maximal run, from a rank that each step lowers, and the sum of the
ranks of finitely many parties. -/

namespace Potential

variable {σ ι : Type}

/-- Every maximal run from here passes a state with the property. -/
inductive Inevitable (step : σ → σ → Prop) (goal : σ → Prop) : σ → Prop where
  | here {state : σ} (holds : goal state) : Inevitable step goal state
  | next {state : σ} (moves : ∃ s', step state s')
      (all : ∀ s', step state s' → Inevitable step goal s') : Inevitable step goal state

theorem Inevitable.of_rank {step : σ → σ → Prop} {goal : σ → Prop} (inv : Nat → σ → Prop)
    (descends : ∀ n s s', inv n s → step s s' → ∃ m, m < n ∧ inv m s')
    (progress : ∀ n s, inv n s → goal s ∨ ∃ s', step s s') {n : Nat} {state : σ}
    (ranked : inv n state) : Inevitable step goal state := by
  induction n using Nat.strong_induction_on generalizing state with
  | _ n ih =>
      rcases progress n state ranked with holds | moves
      · exact .here holds
      · refine .next moves ?_
        intro s' last
        obtain ⟨m, less, later⟩ := descends n state s' ranked last
        exact ih m less later

/-- The parties outside a finite set weigh nothing, and the others `total` in all. -/
def Total (weight : ι → Nat) (total : Nat) : Prop :=
  ∃ parties : Finset ι, (∀ i, i ∉ parties → weight i = 0) ∧ ∑ i ∈ parties, weight i = total

namespace Total

theorem zero : Total (fun _ : ι => 0) 0 := ⟨∅, fun _ _ => rfl, rfl⟩

variable {weight : ι → Nat} {total : Nat}

theorem update [DecidableEq ι] (sum : Total weight total) (i : ι) (value : Nat) :
    ∃ later, Total (Function.update weight i value) later ∧ later + weight i = total + value := by
  obtain ⟨parties, outside, rfl⟩ := sum
  have member : i ∈ insert i parties := Finset.mem_insert_self i parties
  have before : ∑ j ∈ insert i parties, weight j = ∑ j ∈ parties, weight j :=
    Finset.sum_insert_of_eq_zero_if_notMem (outside i)
  have after := Finset.sum_update_of_mem member weight value
  have apart := Finset.add_sum_erase _ weight member
  rw [Finset.sdiff_singleton_eq_erase] at after
  refine ⟨_, ⟨insert i parties, ?_, rfl⟩, by omega⟩
  intro j absent
  rw [Finset.mem_insert, not_or] at absent
  rw [Function.update_of_ne absent.1]
  exact outside j absent.2

theorem update_state [DecidableEq ι] {phase : Type} {state : ι → phase} {weigh : phase → Nat}
    (sum : Total (fun i => weigh (state i)) total) (i : ι) (next : phase) :
    ∃ later, Total (fun j => weigh (Function.update state i next j)) later ∧
      later + weigh (state i) = total + weigh next := by
  obtain ⟨later, moved, balance⟩ := sum.update i (weigh next)
  refine ⟨later, ?_, balance⟩
  have same : (fun j => weigh (Function.update state i next j)) =
      Function.update (fun j => weigh (state j)) i (weigh next) := by
    funext j
    by_cases here : j = i
    · subst here
      simp
    · simp [here]
  rw [same]
  exact moved

end Total

end Potential
