import Mathlib.Data.List.Perm.Basic

/-! Operations that commute and change nothing when repeated. -/

namespace Commuting

variable {ι σ : Type} {apply : σ → ι → σ}

/-- The order and the number of the operations do not matter. -/
structure Lawful (apply : σ → ι → σ) : Prop where
  commute : ∀ s i j, apply (apply s i) j = apply (apply s j) i
  absorb : ∀ s i, apply (apply s i) i = apply s i

theorem Lawful.perm (lawful : Lawful apply) {first second : List ι} (perm : first.Perm second)
    (s : σ) : first.foldl apply s = second.foldl apply s :=
  perm.foldl_eq' (fun i _ j _ s => lawful.commute s i j) s

theorem Lawful.foldl_again (lawful : Lawful apply) [DecidableEq ι] {operations : List ι} {i : ι}
    (member : i ∈ operations) (s : σ) :
    apply (operations.foldl apply s) i = operations.foldl apply s := by
  have perm : operations.Perm (operations.erase i ++ [i]) :=
    (List.perm_cons_erase member).trans (List.perm_append_singleton i _).symm
  have last : operations.foldl apply s = apply ((operations.erase i).foldl apply s) i := by
    rw [lawful.perm perm s, List.foldl_append]
    rfl
  rw [last, lawful.absorb]

theorem Lawful.foldl_absorb (lawful : Lawful apply) [DecidableEq ι] (operations : List ι)
    (more : List ι) (known : ∀ i ∈ more, i ∈ operations) (s : σ) :
    (operations ++ more).foldl apply s = operations.foldl apply s := by
  rw [List.foldl_append]
  induction more with
  | nil => rfl
  | cons i more ih =>
      rw [List.foldl_cons, lawful.foldl_again (known i List.mem_cons_self)]
      exact ih (fun j member => known j (List.mem_cons_of_mem _ member))

theorem Lawful.foldl_eq (lawful : Lawful apply) [DecidableEq ι] {first second : List ι}
    (same : ∀ i, i ∈ first ↔ i ∈ second) (s : σ) :
    first.foldl apply s = second.foldl apply s := by
  calc
    first.foldl apply s = (first ++ second).foldl apply s :=
      (lawful.foldl_absorb first second (fun i member => (same i).mpr member) s).symm
    _ = (second ++ first).foldl apply s := lawful.perm List.perm_append_comm s
    _ = second.foldl apply s :=
      lawful.foldl_absorb second first (fun i member => (same i).mp member) s

end Commuting
