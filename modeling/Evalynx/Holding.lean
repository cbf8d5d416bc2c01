import Mathlib.Logic.Function.Basic

/-! Keys of which every one has at most one holder. -/

namespace Holding

variable {ι κ : Type}

def Exclusive (held : ι → Option κ) : Prop :=
  ∀ first second key, held first = some key → held second = some key → first = second

theorem exclusive_none : Exclusive (fun _ : ι => (none : Option κ)) := by
  intro first second key holds
  cases holds

variable [DecidableEq ι]

/-- One holder changes what it holds: it keeps its key, or takes one nobody holds. -/
theorem Exclusive.update {held : ι → Option κ} (exclusive : Exclusive held) (holder : ι)
    (taken : Option κ)
    (fair : ∀ key, taken = some key → held holder = some key ∨ ∀ other, held other ≠ some key) :
    Exclusive (Function.update held holder taken) := by
  have only (other : ι) (key : κ) (takes : taken = some key) (holds : held other = some key) :
      holder = other := by
    rcases fair key takes with own | free
    · exact exclusive holder other key own holds
    · exact absurd holds (free other)
  intro first second key firstHolds secondHolds
  by_cases isFirst : first = holder
  · by_cases isSecond : second = holder
    · exact isFirst.trans isSecond.symm
    · rw [isFirst, Function.update_self] at firstHolds
      rw [Function.update_of_ne isSecond] at secondHolds
      exact isFirst.trans (only second key firstHolds secondHolds)
  · rw [Function.update_of_ne isFirst] at firstHolds
    by_cases isSecond : second = holder
    · rw [isSecond, Function.update_self] at secondHolds
      exact (only first key secondHolds firstHolds).symm.trans isSecond.symm
    · rw [Function.update_of_ne isSecond] at secondHolds
      exact exclusive first second key firstHolds secondHolds

theorem Exclusive.update_state {σ : Type} {state : ι → σ} {holds : σ → Option κ}
    (exclusive : Exclusive (fun each => holds (state each))) (holder : ι) (next : σ)
    (fair : ∀ key, holds next = some key →
      holds (state holder) = some key ∨ ∀ other, holds (state other) ≠ some key) :
    Exclusive (fun each => holds (Function.update state holder next each)) := by
  have moved : (fun each => holds (Function.update state holder next each)) =
      Function.update (fun each => holds (state each)) holder (holds next) := by
    funext each
    by_cases same : each = holder
    · subst same
      simp
    · simp [same]
  rw [moved]
  exact exclusive.update holder (holds next) fair

end Holding
