import Evalynx.Processing

namespace Evalynx

open Relational

def Stale (db : Database) (attemptId : Nat) : Prop :=
  ∀ attempt, db.attempts.get? attemptId = some attempt →
    attempt.status ≠ .queued ∨
      ∀ run, db.runs.get? attempt.runId = some run →
        run.status ≠ .queued ∨ run.currentAttemptId ≠ some attemptId

/-- The attempt and its run have new values, the same ones, in the columns both tables have; all
else is as before. -/
structure Overwritten (before after : Database) (attempt : RunAttempt) (snapshot : Snapshot) :
    Prop where
  attempts : after.attempts.rows = before.attempts.rows.map fun row =>
    if row.id = attempt.id then { row with toSnapshot := snapshot } else row
  runs : after.runs.rows = before.runs.rows.map fun row =>
    if row.id = attempt.runId then { row with toSnapshot := snapshot } else row
  projects : after.projects = before.projects

theorem stale_iff (db : Database) (attemptId : Nat) :
    Stale db attemptId ↔ ∀ attempt run, Claimable db attempt run → attempt.id ≠ attemptId := by
  constructor
  · intro stale attempt run claimable same
    rcases stale attempt (same ▸ claimable.attemptFound) with alive | other
    · exact alive claimable.attemptQueued
    · rcases other run claimable.runFound with alive | moved
      · exact alive claimable.runQueued
      · exact moved (same ▸ claimable.pointer)
  · intro unclaimable attempt found
    have key : attempt.id = attemptId := Table.get?_id found
    by_cases queued : attempt.status = .queued
    · right
      intro run runFound
      by_contra both
      rw [not_or, not_not, not_not] at both
      have claimable : Claimable db attempt run :=
        ⟨key ▸ found, queued, runFound, key ▸ both.2, both.1⟩
      exact unclaimable attempt run claimable key
    · exact Or.inl queued

theorem start_finish (snapshot other : Snapshot) (now : Timestamp) (values : TerminalValues) :
    (snapshot.start now).finish values = (other.start now).finish values := rfl

section Frame

variable {db : Database} {attempt : RunAttempt} {run : Run} (claimable : Claimable db attempt run)
include claimable

theorem overwritten_replace (snapshot : Snapshot) :
    Overwritten db
      (db.replace { attempt with toSnapshot := snapshot } { run with toSnapshot := snapshot })
      attempt snapshot where
  attempts := by
    let change (row : RunAttempt) : RunAttempt := { row with toSnapshot := snapshot }
    exact Table.rows_put_change change rfl claimable.attemptFound
  runs := by
    let change (row : Run) : Run := { row with toSnapshot := snapshot }
    rw [← claimable.run_id]
    exact Table.rows_put_change change rfl claimable.run_self
  projects := rfl

theorem processAttempt_overwrites (env : WorkerEnv)
    (accepted : env.accepts (env.values attempt run) = true) :
    ∃ snapshot : Snapshot, snapshot.status.terminal = true ∧
      snapshot.startedAt = some env.startedAt ∧ snapshot.finishedAt = some env.finishedAt ∧
      snapshot = (attempt.toSnapshot.start env.startedAt).finish (env.values attempt run) ∧
      Overwritten db (processAttempt env db attempt.id).db attempt snapshot ∧
      (processAttempt env db attempt.id).raised = false ∧
      (processAttempt env db attempt.id).executed = (env.execution attempt run).2 := by
  let snapshot := (attempt.toSnapshot.start env.startedAt).finish (env.values attempt run)
  have both : (run.toSnapshot.start env.startedAt).finish (env.values attempt run) = snapshot :=
    start_finish run.toSnapshot attempt.toSnapshot env.startedAt (env.values attempt run)
  have processed : processAttempt env db attempt.id =
      ⟨db.replace { attempt with toSnapshot := snapshot } { run with toSnapshot := snapshot }, false,
        (env.execution attempt run).2⟩ := by
    rw [processAttempt_claimable claimable, if_pos accepted, ← both]
    rfl
  refine ⟨snapshot, terminalStatus_terminal _, rfl, rfl, rfl, ?_⟩
  rw [processed]
  exact ⟨overwritten_replace claimable snapshot, rfl, rfl⟩

end Frame

/-- A call alone, on any tables: a stale job is dropped without a trace, and any other changes the
shared columns of its attempt and of the attempt's run, to what came of the execution. -/
theorem processAttempt_frame (env : WorkerEnv) (db : Database) (attemptId : Nat) :
    (Stale db attemptId → processAttempt env db attemptId = ⟨db, false, none⟩) ∧
      (¬ Stale db attemptId → ∃ attempt run, attempt.id = attemptId ∧ Claimable db attempt run ∧
        (env.accepts (env.values attempt run) = true →
          ∃ snapshot : Snapshot, snapshot.status.terminal = true ∧
            snapshot.startedAt = some env.startedAt ∧ snapshot.finishedAt = some env.finishedAt ∧
            snapshot = (attempt.toSnapshot.start env.startedAt).finish (env.values attempt run) ∧
            Overwritten db (processAttempt env db attemptId).db attempt snapshot ∧
            (processAttempt env db attemptId).raised = false ∧
            (processAttempt env db attemptId).executed = (env.execution attempt run).2)) := by
  constructor
  · intro stale
    exact processAttempt_unclaimed env ((stale_iff db attemptId).mp stale)
  · intro fresh
    rcases claimable_cases db attemptId with ⟨attempt, run, rfl, claimable⟩ | unclaimable
    · exact ⟨attempt, run, rfl, claimable, processAttempt_overwrites claimable env⟩
    · exact absurd ((stale_iff db attemptId).mpr unclaimable) fresh

theorem processAttempt_frame_created :
    ∃ env : WorkerEnv, processAttempt env sampleCreated 7 = ⟨sampleCreated, false, none⟩ ∧
      ∃ attempt run snapshot, Claimable sampleCreated attempt run ∧
        Overwritten sampleCreated (processAttempt env sampleCreated 1).db attempt snapshot := by
  let env : WorkerEnv := ⟨[("stub", sampleRunner)], fun _ => true, 1, 2⟩
  have unknown : Stale sampleCreated 7 := by
    intro attempt found
    cases found
  have queued : ¬ Stale sampleCreated 1 := by
    intro stale
    rcases stale (newAttempt 1 1 1 0) rfl with alive | other
    · exact alive rfl
    · rcases other { sampleNew.row 1 0 with currentAttemptId := some 1 } rfl with alive | moved
      · exact alive rfl
      · exact moved rfl
  rcases (processAttempt_frame env sampleCreated 1).2 queued with
    ⟨attempt, run, _, claimable, overwrites⟩
  rcases overwrites rfl with ⟨snapshot, _, _, _, _, overwritten, _⟩
  exact ⟨env, (processAttempt_frame env sampleCreated 7).1 unknown, attempt, run, snapshot,
    claimable, overwritten⟩

end Evalynx
