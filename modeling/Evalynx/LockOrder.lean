import Mathlib.Logic.Relation

/-! Parties that take keys in one order never all wait for each other. -/

namespace LockOrder

open Relation

variable {ι κ : Type}

def WaitsFor (held wanted : ι → κ → Prop) (party other : ι) : Prop :=
  ∃ key, wanted party key ∧ held other key

/-- Whoever holds a key wants only higher ones. -/
def Ordered (held wanted : ι → κ → Prop) (rank : κ → Nat) : Prop :=
  ∀ party key next, held party key → wanted party next → rank key < rank next

/-- From party to party the wanted keys go up, so some party at the end waits for nobody. -/
theorem Ordered.waits_end {held wanted : ι → κ → Prop} {rank : κ → Nat}
    (ordered : Ordered held wanted rank) {bound : Nat} (below : ∀ key, rank key < bound)
    (party : ι) :
    ∃ last, ReflTransGen (WaitsFor held wanted) party last ∧
      ∀ other, ¬ WaitsFor held wanted last other := by
  suffices ends : ∀ room party, (∀ key, wanted party key → bound ≤ rank key + room) →
      ∃ last, ReflTransGen (WaitsFor held wanted) party last ∧
        ∀ other, ¬ WaitsFor held wanted last other from
    ends bound party (fun key _ => Nat.le_add_left bound (rank key))
  intro room
  induction room with
  | zero =>
      intro party high
      refine ⟨party, .refl, ?_⟩
      rintro other ⟨key, wants, -⟩
      exact absurd (below key) (Nat.not_lt.mpr (high key wants))
  | succ room ih =>
      intro party high
      by_cases waits : ∃ other, WaitsFor held wanted party other
      · obtain ⟨other, key, wants, holds⟩ := waits
        obtain ⟨last, path, free⟩ := ih other (by
          intro next wantsNext
          have lower := high key wants
          have higher := ordered other key next holds wantsNext
          omega)
        exact ⟨last, .head ⟨key, wants, holds⟩ path, free⟩
      · exact ⟨party, .refl, not_exists.mp waits⟩

end LockOrder
