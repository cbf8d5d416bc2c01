import Evalynx.ConfigHash
import Evalynx.Worker

/-! `app/services/runs.py` over `app/repositories/runs.py`. -/

namespace Evalynx

open Relational

structure LoadedRun where
  run : Run
  currentAttempt : Option RunAttempt
  attempts : List RunAttempt

def LoadedRun.attemptCount (loaded : LoadedRun) : Nat := loaded.attempts.length

def LoadedRun.currentAttemptNumber (loaded : LoadedRun) : Option Nat :=
  loaded.currentAttempt.map RunAttempt.attemptNumber

def orderedByNumber (attempts : List RunAttempt) : List RunAttempt :=
  attempts.insertionSort (fun a b => a.attemptNumber ≤ b.attemptNumber)

def selectCurrentAttempt (db : Database) (run : Run) : Option RunAttempt :=
  run.currentAttemptId.bind db.attempts.get?

def selectAttempts (db : Database) (runId : Nat) : List RunAttempt :=
  orderedByNumber (db.attemptRows runId)

/-- `RunRepository.get` with its three SELECTs on one consistent snapshot. -/
def loadRun (db : Database) (runId : Nat) : Option LoadedRun :=
  (db.runs.get? runId).map fun run =>
    ⟨run, selectCurrentAttempt db run, selectAttempts db run.id⟩

structure NewRun where
  projectId : Nat
  runnerType : String
  submittedConfig : JsonObject
  normalizedConfig : JsonObject
  configHash : String

def NewRun.row (new : NewRun) (id : Nat) (createdAt : Timestamp) : Run where
  toSnapshot := .initial
  id := id
  projectId := new.projectId
  runnerType := new.runnerType
  currentAttemptId := none
  submittedConfig := new.submittedConfig
  normalizedConfig := new.normalizedConfig
  configHash := new.configHash
  createdAt := createdAt

def newAttempt (id runId attemptNumber : Nat) (createdAt : Timestamp) : RunAttempt where
  toSnapshot := .initial
  id := id
  runId := runId
  attemptNumber := attemptNumber
  createdAt := createdAt

/-- The key `uq_run_attempts_run_id_attempt_number` on a table that holds these rows. -/
def violatesUniqueNumber (rows : List RunAttempt) (runId attemptNumber : Nat) : Bool :=
  rows.any fun row => row.runId == runId && row.attemptNumber == attemptNumber

def nextAttemptNumber (attempts : List RunAttempt) : Nat :=
  match (attempts.map RunAttempt.attemptNumber).max? with
  | none => 1
  | some highest => highest + 1

def insertRun (db : Database) (new : NewRun) (runCreatedAt attemptCreatedAt : Timestamp) :
    Database × Nat :=
  let run := new.row db.runs.next runCreatedAt
  let attempt := newAttempt db.attempts.next run.id 1 attemptCreatedAt
  ({ db with
      runs := (db.runs.reserve 1).adopt { run with currentAttemptId := some attempt.id }
      attempts := (db.attempts.reserve 1).adopt attempt },
    attempt.id)

def insertProject (db : Database) (name : String) (description : Option String)
    (createdAt : Timestamp) : Database :=
  { db with
    projects := (db.projects.reserve 1).adopt ⟨db.projects.next, name, description, createdAt⟩ }

def retryAllowed (loaded : LoadedRun) : Bool :=
  loaded.run.status == .failed &&
    match loaded.currentAttempt with
    | none => false
    | some currentAttempt => currentAttempt.status == .failed

/-- A flush writes an attribute only when it differs from the value that was loaded. -/
def clearJson (loaded stored : JsonColumn) : JsonColumn :=
  if loaded.load.isNull then stored else .bind .null

def clearValue {α : Type} (loaded stored : Option α) : Option α :=
  if loaded.isNone then stored else none

def clearRunSnapshot (loaded stored : Snapshot) : Snapshot where
  status := if loaded.status = .queued then stored.status else .queued
  summary := clearJson loaded.summary stored.summary
  resultMetrics := clearJson loaded.resultMetrics stored.resultMetrics
  resultExecution := clearJson loaded.resultExecution stored.resultExecution
  resultArtifacts := clearJson loaded.resultArtifacts stored.resultArtifacts
  resultWarnings := clearJson loaded.resultWarnings stored.resultWarnings
  resultError := clearJson loaded.resultError stored.resultError
  failureMessage := clearValue loaded.failureMessage stored.failureMessage
  startedAt := clearValue loaded.startedAt stored.startedAt
  finishedAt := clearValue loaded.finishedAt stored.finishedAt

/-- The UPDATE of the run row `retry_run` flushes: `loaded` is the row it read, `stored` the
row it finds. -/
def supersede (loaded : Run) (attemptId : Nat) (stored : Run) : Run :=
  { stored with
    toSnapshot := clearRunSnapshot loaded.toSnapshot stored.toSnapshot
    currentAttemptId :=
      if loaded.currentAttemptId = some attemptId then stored.currentAttemptId
      else some attemptId }

def insertRetry (db : Database) (loaded : LoadedRun) (createdAt : Timestamp) :
    Option (Database × Nat) :=
  let attemptNumber := nextAttemptNumber loaded.attempts
  if violatesUniqueNumber db.attempts.rows loaded.run.id attemptNumber then none
  else
    let attempt := newAttempt db.attempts.next loaded.run.id attemptNumber createdAt
    some
      ({ db with
          attempts := (db.attempts.reserve 1).adopt attempt
          runs := (db.runs.update loaded.run.id (fun _ => true) (supersede loaded.run attempt.id)).1 },
        attempt.id)

/-- A rolled back transaction leaves nothing but the keys it took from the sequences. -/
def loseKeys (db : Database) (runs attempts : Nat) : Database :=
  { db with runs := db.runs.reserve runs, attempts := db.attempts.reserve attempts }

inductive ServiceError where
  | projectNotFound (message : String)
  | unsupportedRunner (message : String)
  | runConfig (message : String)
  | runNotFound (message : String)
  | retryNotAllowed (message : String)
  /-- Any other exception that leaves the call, with its text. -/
  | crashed (message : String)

structure RunCreate where
  projectId : Nat
  runnerType : String
  config : JsonObject

inductive FailurePoint where
  | select
  | flushRun
  | flushAttempt
  | commit
  | refresh
  | enqueue
  deriving DecidableEq

structure ServiceEnv where
  registry : RunnerRegistry
  sha256 : ByteArray → String
  runCreatedAt : Timestamp
  attemptCreatedAt : Timestamp
  raises : FailurePoint → Option String

structure Served where
  db : Database
  enqueued : List Nat
  outcome : Except ServiceError Nat

def supportedRunners (registry : RunnerRegistry) : String :=
  ", ".intercalate ((registry.map Prod.fst).insertionSort (· ≤ ·))

def prepareRun (env : ServiceEnv) (db : Database) (payload : RunCreate) :
    Except ServiceError NewRun :=
  match db.projects.get? payload.projectId with
  | none => .error (.projectNotFound s!"Project {payload.projectId} was not found.")
  | some project =>
      match env.registry.lookup payload.runnerType with
      | none =>
          let supported := supportedRunners env.registry
          let runnerType := payload.runnerType
          .error (.unsupportedRunner
            s!"Runner type '{runnerType}' is not supported. Supported runners: {supported}.")
      | some runner =>
          match runner.normalizeConfig payload.config with
          | .error (.validation message) => .error (.runConfig message)
          | .error (.crashed message) => .error (.crashed message)
          | .ok runnerNormalizedConfig =>
              let normalizedConfig := runnerNormalizedConfig.sortKeys
              .ok {
                projectId := project.id
                runnerType := payload.runnerType
                submittedConfig := payload.config
                normalizedConfig := normalizedConfig
                configHash := computeConfigHash env.sha256 (.obj normalizedConfig) }

theorem prepareRun_ok (env : ServiceEnv) (db : Database) (payload : RunCreate) (new : NewRun) :
    prepareRun env db payload = .ok new ↔
      ∃ project runner normalized, db.projects.get? payload.projectId = some project ∧
        env.registry.lookup payload.runnerType = some runner ∧
        runner.normalizeConfig payload.config = .ok normalized ∧
        new = ⟨project.id, payload.runnerType, payload.config, normalized.sortKeys,
          computeConfigHash env.sha256 (.obj normalized.sortKeys)⟩ := by
  unfold prepareRun
  cases db.projects.get? payload.projectId with
  | none => simp
  | some project =>
      cases env.registry.lookup payload.runnerType with
      | none => simp
      | some runner =>
          cases normalized : runner.normalizeConfig payload.config with
          | error raised => cases raised <;> simp [normalized]
          | ok config => simp [normalized, eq_comm]

/-- The common end of both calls: COMMIT, refresh, enqueue. The handler around `enqueue` only
raises again. -/
def commitAndEnqueue (env : ServiceEnv) (rolledBack written : Database) (attemptId runId : Nat) :
    Served :=
  match env.raises .commit with
  | some text => ⟨rolledBack, [], .error (.crashed text)⟩
  | none =>
      match env.raises .refresh with
      | some text => ⟨written, [], .error (.crashed text)⟩
      | none =>
          match env.raises .enqueue with
          | some text => ⟨written, [], .error (.crashed text)⟩
          | none => ⟨written, [attemptId], .ok runId⟩

def createRun (env : ServiceEnv) (db : Database) (payload : RunCreate) : Served :=
  match env.raises .select with
  | some text => ⟨db, [], .error (.crashed text)⟩
  | none =>
      match prepareRun env db payload with
      | .error error => ⟨db, [], .error error⟩
      | .ok new =>
          match env.raises .flushRun with
          | some text => ⟨loseKeys db 1 0, [], .error (.crashed text)⟩
          | none =>
              match env.raises .flushAttempt with
              | some text => ⟨loseKeys db 1 1, [], .error (.crashed text)⟩
              | none =>
                  let (written, attemptId) := insertRun db new env.runCreatedAt env.attemptCreatedAt
                  commitAndEnqueue env (loseKeys db 1 1) written attemptId db.runs.next

def prepareRetry (seen : Database) (runId : Nat) : Except ServiceError LoadedRun :=
  match loadRun seen runId with
  | none => .error (.runNotFound s!"Run {runId} was not found.")
  | some loaded =>
      if retryAllowed loaded then .ok loaded
      else .error (.retryNotAllowed s!"Run {runId} can only be retried from failed state.")

/-- `retry_run`; `seen` is what its SELECTs read, `db` what its writes meet. -/
def retryRun (env : ServiceEnv) (seen db : Database) (runId : Nat) : Served :=
  match env.raises .select with
  | some text => ⟨db, [], .error (.crashed text)⟩
  | none =>
      match prepareRetry seen runId with
      | .error error => ⟨db, [], .error error⟩
      | .ok loaded =>
          match env.raises .flushAttempt with
          | some text => ⟨loseKeys db 0 1, [], .error (.crashed text)⟩
          | none =>
              match insertRetry db loaded env.attemptCreatedAt with
              | none =>
                  ⟨loseKeys db 0 1, [],
                    .error (.crashed "uq_run_attempts_run_id_attempt_number")⟩
              | some (written, attemptId) =>
                  commitAndEnqueue env (loseKeys db 0 1) written attemptId runId

end Evalynx
