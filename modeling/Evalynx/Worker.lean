import Evalynx.Runners

/-! `app/workers/run_worker.py`, one session running alone. -/

namespace Evalynx

open Relational

structure TerminalValues where
  status : RunStatus
  summary : Json
  resultMetrics : Json
  resultExecution : Json
  resultArtifacts : Json
  resultWarnings : Json
  resultError : Json
  failureMessage : Option String
  finishedAt : Timestamp

def optionalObject : Option JsonObject → Json
  | some members => .obj members
  | none => .null

def terminalStatus (result : RunnerResult) : RunStatus :=
  if result.status = .succeeded then .succeeded else .failed

def terminalValues (result : RunnerResult) (finishedAt : Timestamp) : TerminalValues where
  status := terminalStatus result
  summary := optionalObject result.summary
  resultMetrics := optionalObject result.resultMetrics
  resultExecution := optionalObject result.resultExecution
  resultArtifacts := .arr (result.resultArtifacts.map .obj)
  resultWarnings := .arr (result.resultWarnings.map .str)
  resultError := optionalObject result.resultError
  failureMessage := result.failureMessage
  finishedAt := finishedAt

def Snapshot.start (snapshot : Snapshot) (startedAt : Timestamp) : Snapshot :=
  { snapshot with status := .running, startedAt := some startedAt }

def Snapshot.finish (snapshot : Snapshot) (values : TerminalValues) : Snapshot where
  status := values.status
  summary := .bind values.summary
  resultMetrics := .bind values.resultMetrics
  resultExecution := .bind values.resultExecution
  resultArtifacts := .bind values.resultArtifacts
  resultWarnings := .bind values.resultWarnings
  resultError := .bind values.resultError
  failureMessage := values.failureMessage
  startedAt := snapshot.startedAt
  finishedAt := some values.finishedAt

def RunAttempt.start (attempt : RunAttempt) (startedAt : Timestamp) : RunAttempt :=
  { attempt with toSnapshot := attempt.toSnapshot.start startedAt }

def Run.start (run : Run) (startedAt : Timestamp) : Run :=
  { run with toSnapshot := run.toSnapshot.start startedAt }

def RunAttempt.finish (attempt : RunAttempt) (values : TerminalValues) : RunAttempt :=
  { attempt with toSnapshot := attempt.toSnapshot.finish values }

def Run.finish (run : Run) (values : TerminalValues) : Run :=
  { run with toSnapshot := run.toSnapshot.finish values }

def RunAttempt.isQueued (attempt : RunAttempt) : Bool := attempt.status == .queued

def Run.isQueuedFor (attemptId : Nat) (run : Run) : Bool :=
  run.currentAttemptId == some attemptId && run.status == .queued

def RunAttempt.isRunning (attempt : RunAttempt) : Bool := attempt.status == .running

def Run.isCurrent (attemptId : Nat) (run : Run) : Bool := run.currentAttemptId == some attemptId

/-- `_claim_attempt`: the committed tables, or `none` after a rollback. -/
def claimAttempt (db : Database) (runId attemptId : Nat) (startedAt : Timestamp) :
    Option Database :=
  let claimedAttempt := db.attempts.update attemptId (·.isQueued) (·.start startedAt)
  if claimedAttempt.2 ≠ 1 then none
  else
    let claimedRun := db.runs.update runId (·.isQueuedFor attemptId) (·.start startedAt)
    if claimedRun.2 ≠ 1 then none
    else some { db with attempts := claimedAttempt.1, runs := claimedRun.1 }

/-- `_persist_terminal_result`; `none` when the database refuses a value and the UPDATE raises. -/
def persistTerminalResult (accepts : TerminalValues → Bool) (db : Database) (runId attemptId : Nat)
    (result : RunnerResult) (finishedAt : Timestamp) : Option Database :=
  let values := terminalValues result finishedAt
  if accepts values then
    let updatedAttempt := db.attempts.update attemptId (·.isRunning) (·.finish values)
    if updatedAttempt.2 ≠ 1 then some db
    else
      let updatedRun := db.runs.update runId (·.isCurrent attemptId) (·.finish values)
      some { db with attempts := updatedAttempt.1, runs := updatedRun.1 }
  else none

def runnerMissingResult (runnerType : String) : RunnerResult :=
  let message := s!"Runner type '{runnerType}' is not available in the worker."
  { status := .failed
    failureMessage := some message
    resultError := some (errorObject "worker_runner_missing" message []) }

/-- `exc.result_error or {..}`: an empty dict is false too. -/
def RunnerExecutionError.resultErrorOrDefault (error : RunnerExecutionError) : JsonObject :=
  match error.resultError with
  | some (member :: members) => member :: members
  | some [] | none => errorObject "runner_execution_error" error.message []

/-- The result the worker persists: the two except clauses around `runner.execute`. -/
def Outcome.result : Outcome → RunnerResult
  | .returned result => result
  | .raised error =>
      { status := .failed
        summary := error.summary
        failureMessage := some error.message
        resultMetrics := error.resultMetrics
        resultExecution := error.resultExecution
        resultArtifacts := error.resultArtifacts
        resultWarnings := error.resultWarnings
        resultError := some error.resultErrorOrDefault }
  | .crashed text =>
      let message := s!"Unhandled worker error: {text}"
      { status := .failed
        failureMessage := some message
        resultError := some (errorObject "unhandled_worker_error" message []) }

structure WorkerEnv where
  registry : RunnerRegistry
  accepts : TerminalValues → Bool
  startedAt : Timestamp
  finishedAt : Timestamp

/-- How a `process_attempt` call ends: the committed tables, whether it raised, and the
arguments of its call of `runner.execute`, if it made one. -/
structure Processed where
  db : Database
  raised : Bool
  executed : Option (Run × RunAttempt)

def executeAttempt (registry : RunnerRegistry) (run : Run) (attempt : RunAttempt) :
    RunnerResult × Option (Run × RunAttempt) :=
  match registry.lookup run.runnerType with
  | none => (runnerMissingResult run.runnerType, none)
  | some runner => ((runner.execute run attempt).result, some (run, attempt))

def processAttempt (env : WorkerEnv) (db : Database) (attemptId : Nat) : Processed :=
  match db.attempts.get? attemptId with
  | none => ⟨db, false, none⟩
  | some attempt =>
      match claimAttempt db attempt.runId attemptId env.startedAt with
      | none => ⟨db, false, none⟩
      | some claimed =>
          match claimed.runs.get? attempt.runId, claimed.attempts.get? attemptId with
          | some run, some attempt =>
              let (result, executed) := executeAttempt env.registry run attempt
              match persistTerminalResult env.accepts claimed run.id attempt.id result
                  env.finishedAt with
              | some persisted => ⟨persisted, false, executed⟩
              | none => ⟨claimed, true, executed⟩
          | _, _ => ⟨claimed, false, none⟩

end Evalynx
