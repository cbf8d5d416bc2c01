import Evalynx.Transactions

namespace Evalynx

open Relational

structure Claimable (db : Database) (attempt : RunAttempt) (run : Run) : Prop where
  attemptFound : db.attempts.get? attempt.id = some attempt
  attemptQueued : attempt.status = .queued
  runFound : db.runs.get? attempt.runId = some run
  pointer : run.currentAttemptId = some attempt.id
  runQueued : run.status = .queued

def Database.replace (db : Database) (attempt : RunAttempt) (run : Run) : Database :=
  { db with attempts := db.attempts.put attempt, runs := db.runs.put run }

theorem replace_replace (db : Database) (attempt later : RunAttempt) (run laterRun : Run)
    (sameAttempt : later.id = attempt.id) (sameRun : laterRun.id = run.id) :
    (db.replace attempt run).replace later laterRun = db.replace later laterRun := by
  simp only [Database.replace, Table.put_put db.attempts attempt later sameAttempt,
    Table.put_put db.runs run laterRun sameRun]

theorem claimAttempt_iff {db : Database} {attempt : RunAttempt}
    (found : db.attempts.get? attempt.id = some attempt) (now : Timestamp) (claimed : Database) :
    claimAttempt db attempt.runId attempt.id now = some claimed ↔
      ∃ run, Claimable db attempt run ∧ claimed = db.replace (attempt.start now) (run.start now) := by
  rw [claimAttempt_eq_some]
  constructor
  · intro won
    obtain ⟨row, run, rowFound, queued, runFound, pointer, runQueued, same⟩ := won
    rw [found] at rowFound
    obtain rfl := Option.some.inj rowFound
    exact ⟨run, ⟨found, queued, runFound, pointer, runQueued⟩, same⟩
  · intro won
    obtain ⟨run, claimable, same⟩ := won
    exact ⟨attempt, run, found, claimable.attemptQueued, claimable.runFound, claimable.pointer,
      claimable.runQueued, same⟩

theorem claimable_cases (db : Database) (attemptId : Nat) :
    (∃ attempt run, attempt.id = attemptId ∧ Claimable db attempt run) ∨
      ∀ attempt run, Claimable db attempt run → attempt.id ≠ attemptId := by
  by_cases won : ∃ attempt run, attempt.id = attemptId ∧ Claimable db attempt run
  · exact Or.inl won
  · right
    intro attempt run claimable same
    exact won ⟨attempt, run, same, claimable⟩

theorem processAttempt_unclaimed (env : WorkerEnv) {db : Database} {attemptId : Nat}
    (unclaimable : ∀ attempt run, Claimable db attempt run → attempt.id ≠ attemptId) :
    processAttempt env db attemptId = ⟨db, false, none⟩ := by
  unfold processAttempt
  cases found : db.attempts.get? attemptId with
  | none => rfl
  | some attempt =>
      have key : attempt.id = attemptId := Table.get?_id found
      have lost : claimAttempt db attempt.runId attemptId env.startedAt = none := by
        rw [← key] at found ⊢
        cases won : claimAttempt db attempt.runId attempt.id env.startedAt with
        | none => rfl
        | some claimed =>
            obtain ⟨run, claimable, _⟩ := (claimAttempt_iff found _ _).mp won
            exact absurd key (unclaimable attempt run claimable)
      simp only [lost]

/-- What a call that claims this attempt executes. -/
def WorkerEnv.execution (env : WorkerEnv) (attempt : RunAttempt) (run : Run) :
    RunnerResult × Option (Run × RunAttempt) :=
  executeAttempt env.registry (run.start env.startedAt) (attempt.start env.startedAt)

def WorkerEnv.values (env : WorkerEnv) (attempt : RunAttempt) (run : Run) : TerminalValues :=
  terminalValues (env.execution attempt run).1 env.finishedAt

section Claimed

variable {db : Database} {attempt : RunAttempt} {run : Run} (claimable : Claimable db attempt run)

include claimable

theorem Claimable.run_id : run.id = attempt.runId := Table.get?_id claimable.runFound

theorem Claimable.run_self : db.runs.get? run.id = some run := by
  rw [claimable.run_id]
  exact claimable.runFound

theorem Claimable.replaced (laterAttempt : RunAttempt) (laterRun : Run)
    (sameAttempt : laterAttempt.id = attempt.id) (sameRun : laterRun.id = run.id) :
    (db.replace laterAttempt laterRun).attempts.get? attempt.id = some laterAttempt ∧
      (db.replace laterAttempt laterRun).runs.get? attempt.runId = some laterRun := by
  have attemptFound := sameAttempt ▸ claimable.attemptFound
  have runFound := sameRun ▸ claimable.run_self
  constructor
  · rw [← sameAttempt]
    exact Table.get?_put_self laterAttempt attemptFound
  · rw [← claimable.run_id, ← sameRun]
    exact Table.get?_put_self laterRun runFound

theorem Claimable.persists (env : WorkerEnv) :
    persistTerminalResult env.accepts
        (db.replace (attempt.start env.startedAt) (run.start env.startedAt)) attempt.runId attempt.id
        (env.execution attempt run).1 env.finishedAt =
      if env.accepts (env.values attempt run) then
        some (db.replace ((attempt.start env.startedAt).finish (env.values attempt run))
          ((run.start env.startedAt).finish (env.values attempt run)))
      else none := by
  obtain ⟨attemptRow, runRow⟩ := claimable.replaced (attempt.start env.startedAt)
    (run.start env.startedAt) rfl rfl
  have startedPointer : (run.start env.startedAt).currentAttemptId = some attempt.id :=
    claimable.pointer
  rw [← replace_replace db (attempt.start env.startedAt)
    ((attempt.start env.startedAt).finish (env.values attempt run)) (run.start env.startedAt)
    ((run.start env.startedAt).finish (env.values attempt run)) rfl rfl]
  exact persist_hit env.accepts (env.execution attempt run).1 env.finishedAt attemptRow rfl runRow
    startedPointer

theorem processAttempt_claimable (env : WorkerEnv) :
    processAttempt env db attempt.id =
      if env.accepts (env.values attempt run) then
        ⟨db.replace ((attempt.start env.startedAt).finish (env.values attempt run))
          ((run.start env.startedAt).finish (env.values attempt run)), false,
          (env.execution attempt run).2⟩
      else
        ⟨db.replace (attempt.start env.startedAt) (run.start env.startedAt), true,
          (env.execution attempt run).2⟩ := by
  have won := (claimAttempt_iff claimable.attemptFound env.startedAt _).mpr
    ⟨run, claimable, rfl⟩
  obtain ⟨attemptRow, runRow⟩ := claimable.replaced (attempt.start env.startedAt)
    (run.start env.startedAt) rfl rfl
  have runKey : (run.start env.startedAt).id = attempt.runId := claimable.run_id
  have attemptKey : (attempt.start env.startedAt).id = attempt.id := rfl
  have executed : executeAttempt env.registry (run.start env.startedAt)
      (attempt.start env.startedAt) = env.execution attempt run := rfl
  simp only [processAttempt, claimable.attemptFound, won, attemptRow, runRow]
  rw [runKey, attemptKey, executed, claimable.persists env]
  by_cases taken : env.accepts (env.values attempt run) = true
  · rw [if_pos taken, if_pos taken]
  · rw [if_neg taken, if_neg taken]

end Claimed

end Evalynx
