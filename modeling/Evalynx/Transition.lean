import Mathlib.Logic.Relation

/-! Invariants and refinement along the runs of a step relation. -/

namespace Transition

open Relation

variable {σ τ ℓ : Type}

theorem invariant {step : σ → σ → Prop} {inv : σ → Prop} {start state : σ} (initially : inv start)
    (preserved : ∀ s s', inv s → step s s' → inv s') (run : ReflTransGen step start state) :
    inv state := by
  induction run with
  | refl => exact initially
  | tail _ last ih => exact preserved _ _ ih last

/-- A relation between the ends of a run, from its single steps. The invariant holds at
every state the run passes. -/
theorem along {step : σ → σ → Prop} {inv : σ → Prop} (rel : σ → σ → Prop) {start state : σ}
    (initially : inv start) (preserved : ∀ s s', inv s → step s s' → inv s')
    (reflexive : ∀ s, rel s s) (transitive : ∀ a b c, rel a b → rel b c → rel a c)
    (single : ∀ s s', inv s → step s s' → rel s s') (run : ReflTransGen step start state) :
    rel start state := by
  induction run with
  | refl => exact reflexive start
  | tail before last ih =>
      have here := invariant initially preserved before
      exact transitive _ _ _ ih (single _ _ here last)

/-- Every step is matched by at most one step of the abstract system. -/
def Simulates (step : σ → σ → Prop) (spec : τ → τ → Prop) (inv : σ → Prop) (view : σ → τ) : Prop :=
  ∀ s s', inv s → step s s' → view s' = view s ∨ spec (view s) (view s')

theorem Simulates.run {step : σ → σ → Prop} {spec : τ → τ → Prop} {inv : σ → Prop} {view : σ → τ}
    (simulates : Simulates step spec inv view) (preserved : ∀ s s', inv s → step s s' → inv s')
    {start state : σ} (initially : inv start) (run : ReflTransGen step start state) :
    ReflTransGen spec (view start) (view state) := by
  induction run with
  | refl => exact ReflTransGen.refl
  | tail before last ih =>
      have here := invariant initially preserved before
      rcases simulates _ _ here last with same | moved
      · rw [same]
        exact ih
      · exact ih.tail moved

inductive Path (step : ℓ → σ → σ → Prop) (start : σ) : List ℓ → σ → Prop where
  | refl : Path step start [] start
  | tail {labels : List ℓ} {label : ℓ} {state next : σ} (before : Path step start labels state)
      (last : step label state next) : Path step start (labels ++ [label]) next

namespace Path

variable {step : ℓ → σ → σ → Prop} {start state : σ} {labels : List ℓ}

theorem invariant {inv : σ → Prop} (initially : inv start)
    (preserved : ∀ label s s', inv s → step label s s' → inv s') (path : Path step start labels state) :
    inv state := by
  induction path with
  | refl => exact initially
  | tail _ last ih => exact preserved _ _ _ ih last

theorem along {inv : σ → Prop} (rel : List ℓ → σ → Prop) (initially : inv start)
    (preserved : ∀ label s s', inv s → step label s s' → inv s') (reflexive : rel [] start)
    (extend : ∀ labels label s s', inv s → rel labels s → step label s s' →
      rel (labels ++ [label]) s')
    (path : Path step start labels state) : rel labels state := by
  induction path with
  | refl => exact reflexive
  | tail before last ih => exact extend _ _ _ _ (before.invariant initially preserved) ih last

end Path

theorem reach {step : σ → σ → Prop} {goal : σ → Prop} {start : σ} (next : σ) (first : step start next)
    (rest : ∃ state, ReflTransGen step next state ∧ goal state) :
    ∃ state, ReflTransGen step start state ∧ goal state := by
  obtain ⟨state, run, holds⟩ := rest
  exact ⟨state, .head first run, holds⟩

theorem reached {step : σ → σ → Prop} {goal : σ → Prop} {start : σ} (holds : goal start) :
    ∃ state, ReflTransGen step start state ∧ goal state :=
  ⟨start, .refl, holds⟩

end Transition
