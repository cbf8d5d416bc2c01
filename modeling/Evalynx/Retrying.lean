import Mathlib.Data.List.Infix
import Mathlib.Logic.Function.Basic
import Mathlib.Logic.Relation

/-! Work that is tried again until one try succeeds. -/

namespace Retrying

open Relation

variable {ι ρ : Type}

inductive Stage (ρ : Type) where
  | waiting
  | working
  | done (report : ρ)
  | failed (report : ρ)

/-- The reports of the tries that were replaced, and where the last try is. -/
structure Life (ρ : Type) where
  failures : List ρ
  stage : Stage ρ

namespace Life

def new : Life ρ := ⟨[], .waiting⟩

def tries (life : Life ρ) : Nat := life.failures.length + 1

def reports (life : Life ρ) : List ρ :=
  match life.stage with
  | .waiting | .working => life.failures
  | .done report | .failed report => life.failures ++ [report]

def start (life : Life ρ) : Option (Life ρ) :=
  match life.stage with
  | .waiting => some { life with stage := .working }
  | _ => none

def finish (success : Bool) (report : ρ) (life : Life ρ) : Option (Life ρ) :=
  match life.stage with
  | .working => some { life with stage := if success then .done report else .failed report }
  | _ => none

def retry (life : Life ρ) : Option (Life ρ) :=
  match life.stage with
  | .failed report => some ⟨life.failures ++ [report], .waiting⟩
  | _ => none

end Life

abbrev Book (ι ρ : Type) := ι → Option (Life ρ)

def Book.empty : Book ι ρ := fun _ => none

inductive Action (ι ρ : Type) where
  | submit (i : ι)
  | start (i : ι)
  | finish (i : ι) (success : Bool) (report : ρ)
  | retry (i : ι)

namespace Action

def subject : Action ι ρ → ι
  | .submit i | .start i | .finish i _ _ | .retry i => i

/-- The life an action makes of one, or of none; `none` where it is not allowed. -/
def apply : Action ι ρ → Option (Life ρ) → Option (Life ρ)
  | .submit _, none => some .new
  | .submit _, some _ => none
  | .start _, life => life.bind Life.start
  | .finish _ success report, life => life.bind (Life.finish success report)
  | .retry _, life => life.bind Life.retry

end Action

def Book.act [DecidableEq ι] (book : Book ι ρ) (action : Action ι ρ) : Option (Book ι ρ) :=
  (action.apply (book action.subject)).map fun life =>
    Function.update book action.subject (some life)

def Advances [DecidableEq ι] (book later : Book ι ρ) : Prop :=
  ∃ action, book.act action = some later

structure Life.Later (life later : Life ρ) : Prop where
  reports : life.reports <+: later.reports
  tries : life.tries ≤ later.tries
  done : ∀ report, life.stage = .done report → later = life

namespace Life.Later

theorem refl (life : Life ρ) : life.Later life where
  reports := List.prefix_refl _
  tries := Nat.le_refl _
  done := fun _ _ => rfl

theorem trans {life later last : Life ρ} (before : life.Later later) (after : later.Later last) :
    life.Later last where
  reports := before.reports.trans after.reports
  tries := Nat.le_trans before.tries after.tries
  done := by
    intro report ended
    obtain rfl := before.done report ended
    exact after.done report ended

theorem start {life later : Life ρ} (started : life.start = some later) : life.Later later := by
  obtain ⟨failures, stage⟩ := life
  cases stage with
  | waiting =>
      obtain rfl := Option.some.inj started
      exact ⟨List.prefix_refl _, Nat.le_refl _, nofun⟩
  | working | done | failed => cases started

theorem finish {life later : Life ρ} {success : Bool} {report : ρ}
    (finished : life.finish success report = some later) : life.Later later := by
  obtain ⟨failures, stage⟩ := life
  cases stage with
  | working =>
      obtain rfl := Option.some.inj finished
      cases success <;> exact ⟨List.prefix_append _ _, Nat.le_refl _, nofun⟩
  | waiting | done | failed => cases finished

theorem retry {life later : Life ρ} (retried : life.retry = some later) : life.Later later := by
  obtain ⟨failures, stage⟩ := life
  cases stage with
  | failed report =>
      obtain rfl := Option.some.inj retried
      exact ⟨List.prefix_refl _, by simp [Life.tries], nofun⟩
  | waiting | working | done => cases retried

end Life.Later

theorem Action.apply_later {action : Action ι ρ} {life later : Life ρ}
    (applied : action.apply (some life) = some later) : life.Later later := by
  cases action with
  | submit i => cases applied
  | start i => exact .start applied
  | finish i success report => exact .finish applied
  | retry i => exact .retry applied

section Books

variable [DecidableEq ι]

theorem Book.act_eq_some {book later : Book ι ρ} {action : Action ι ρ} :
    book.act action = some later ↔
      ∃ life, action.apply (book action.subject) = some life ∧
        later = Function.update book action.subject (some life) := by
  simp only [Book.act, Option.map_eq_some_iff, eq_comm]

theorem Advances.later {book next : Book ι ρ} (advances : Advances book next) {i : ι}
    {life : Life ρ} (known : book i = some life) : ∃ later, next i = some later ∧ life.Later later := by
  obtain ⟨action, acted⟩ := advances
  obtain ⟨last, applied, rfl⟩ := Book.act_eq_some.mp acted
  by_cases mine : i = action.subject
  · subst mine
    rw [known] at applied
    exact ⟨last, Function.update_self _ _ _, action.apply_later applied⟩
  · exact ⟨life, (Function.update_of_ne mine _ _).trans known, .refl life⟩

theorem advances_later {book next : Book ι ρ} (run : ReflTransGen Advances book next) {i : ι}
    {life : Life ρ} (known : book i = some life) :
    ∃ later, next i = some later ∧ life.Later later := by
  induction run with
  | refl => exact ⟨life, known, .refl life⟩
  | tail _ last ih =>
      obtain ⟨middle, here, before⟩ := ih
      obtain ⟨later, there, after⟩ := last.later here
      exact ⟨later, there, before.trans after⟩

end Books

end Retrying
