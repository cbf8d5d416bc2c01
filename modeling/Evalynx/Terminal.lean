import Evalynx.Columns
import Evalynx.Fate

/-! Which claimed attempts reach a terminal status on PostgreSQL. -/

namespace Evalynx

open Relational SoloWargame

section Storable

variable (columns : Columns)

def TerminalValues.storable (values : TerminalValues) : Bool :=
  columns.json values.summary && columns.json values.resultMetrics &&
    columns.json values.resultExecution && columns.json values.resultArtifacts &&
    columns.json values.resultWarnings && columns.json values.resultError &&
    values.failureMessage.all columns.text

def storableParts (summary resultMetrics resultExecution resultError : Option JsonObject)
    (resultArtifacts : List JsonObject) : Bool :=
  columns.json (optionalObject summary) && columns.json (optionalObject resultMetrics) &&
    columns.json (optionalObject resultExecution) &&
    columns.json (.arr (resultArtifacts.map .obj)) && columns.json (optionalObject resultError)

def RunnerResult.storable (result : RunnerResult) : Bool :=
  storableParts columns result.summary result.resultMetrics result.resultExecution
    result.resultError result.resultArtifacts && result.failureMessage.all columns.text

def RunnerExecutionError.storable (error : RunnerExecutionError) : Bool :=
  storableParts columns error.summary error.resultMetrics error.resultExecution
    (some error.resultErrorOrDefault) error.resultArtifacts && columns.text error.message

def Outcome.storable : Outcome → Bool
  | .returned result => result.storable columns
  | .raised error => error.storable columns
  | .crashed text => columns.text text

/-- What the runner of a run comes to; the worker names a missing one in its message. -/
def RunnerRegistry.storable (registry : RunnerRegistry) (run : Run) (attempt : RunAttempt) : Bool :=
  match registry.lookup run.runnerType with
  | none => columns.text run.runnerType
  | some runner => (runner.execute run attempt).storable columns

end Storable

section Postgres

variable (driver : Driver)

theorem terminalValues_storable (result : RunnerResult) (finishedAt : Timestamp) :
    (terminalValues result finishedAt).storable (.postgres driver) =
      result.storable (.postgres driver) := by
  simp only [TerminalValues.storable, terminalValues, Columns.postgres_strings, RunnerResult.storable,
    storableParts, Bool.and_true]

theorem failed_storable (kind message : String) :
    RunnerResult.storable (.postgres driver) {
      status := .failed
      failureMessage := some message
      resultError := some (errorObject kind message []) } =
        (Columns.postgres driver).text message := by
  have artifacts : (Columns.postgres driver).json (.arr (([] : List JsonObject).map .obj)) = true :=
    Columns.postgres_strings driver []
  simp only [RunnerResult.storable, storableParts, optionalObject, Columns.postgres_error,
    Columns.postgres_null, artifacts, Option.all_some, Bool.true_and, Bool.and_true]

theorem runnerMissing_storable (runnerType : String) :
    (runnerMissingResult runnerType).storable (.postgres driver) =
      (Columns.postgres driver).text runnerType := by
  rw [runnerMissingResult, failed_storable]
  have before := Columns.postgres_ascii driver "Runner type '" (by decide) (by decide)
  have after := Columns.postgres_ascii driver "' is not available in the worker." (by decide)
    (by decide)
  simp only [toString, Columns.postgres_append, before, after, Bool.true_and, Bool.and_true]

theorem Outcome.result_storable (outcome : Outcome) :
    outcome.result.storable (.postgres driver) = outcome.storable (.postgres driver) := by
  cases outcome with
  | returned result => rfl
  | raised error => rfl
  | crashed text =>
      have before := Columns.postgres_ascii driver "Unhandled worker error: " (by decide) (by decide)
      rw [Outcome.result, failed_storable]
      simp only [toString, Columns.postgres_append, before, Outcome.storable, Bool.true_and]

theorem execution_storable (env : WorkerEnv) (attempt : RunAttempt) (run : Run) :
    (env.values attempt run).storable (.postgres driver) =
      env.registry.storable (.postgres driver) (run.start env.startedAt)
        (attempt.start env.startedAt) := by
  rw [WorkerEnv.values, terminalValues_storable, WorkerEnv.execution, executeAttempt,
    RunnerRegistry.storable]
  cases env.registry.lookup (run.start env.startedAt).runnerType with
  | none => exact runnerMissing_storable driver _
  | some runner => exact Outcome.result_storable driver _

end Postgres

/-- An attempt and its run are RUNNING, and no call is at work on them. -/
structure Abandoned (db : Database) (attemptId runId : Nat) : Prop where
  attempt : ∃ attempt, db.attempts.get? attemptId = some attempt ∧ attempt.status = .running
  run : ∃ run, db.runs.get? runId = some run ∧ run.status = .running

theorem Abandoned.processAttempt {db : Database} {attemptId runId : Nat}
    (abandoned : Abandoned db attemptId runId) (env : WorkerEnv) :
    processAttempt env db attemptId = ⟨db, false, none⟩ := by
  apply processAttempt_unclaimed
  intro attempt run claimable same
  obtain ⟨row, found, running⟩ := abandoned.attempt
  have claimed := claimable.attemptFound
  rw [same, found] at claimed
  obtain rfl := Option.some.inj claimed
  have queued := claimable.attemptQueued
  rw [running] at queued
  cases queued

theorem Abandoned.retryRun {db : Database} {attemptId runId : Nat}
    (abandoned : Abandoned db attemptId runId) (env : ServiceEnv) :
    (retryRun env db db runId).db = db ∧
      ∃ error, (retryRun env db db runId).outcome = .error error := by
  obtain ⟨run, found, running⟩ := abandoned.run
  have refused : ∃ error, prepareRetry db runId = .error error := by
    simp [prepareRetry, loadRun, found, retryAllowed, running]
  obtain ⟨error, refused⟩ := refused
  unfold Evalynx.retryRun
  cases env.raises .select with
  | some text => exact ⟨rfl, _, rfl⟩
  | none =>
      simp only [refused]
      exact ⟨trivial, error, rfl⟩

theorem abandoned_stays {db : Database} {attemptId runId : Nat}
    (abandoned : Abandoned db attemptId runId) :
    (∀ later, (processAttempt later db attemptId).db = db) ∧
      ∀ later, (retryRun later db db runId).db = db := by
  constructor
  · intro later
    rw [abandoned.processAttempt later]
  · intro later
    exact (abandoned.retryRun later).1

theorem processAttempt_refused {db : Database} {attempt : RunAttempt} {run : Run}
    (claimable : Claimable db attempt run) (env : WorkerEnv)
    (refused : env.accepts (env.values attempt run) = false) :
    (processAttempt env db attempt.id).raised = true ∧
      Abandoned (processAttempt env db attempt.id).db attempt.id attempt.runId := by
  rw [processAttempt_claimable claimable env, if_neg (by simp [refused])]
  obtain ⟨attemptRow, runRow⟩ := claimable.replaced (attempt.start env.startedAt)
    (run.start env.startedAt) rfl rfl
  exact ⟨rfl, ⟨_, attemptRow, rfl⟩, ⟨_, runRow, rfl⟩⟩

/-- A claimed attempt and its run end SUCCEEDED or FAILED exactly when PostgreSQL takes what the
runner came to. -/
theorem claimed_attempt_finishes {db : Database} {attempt : RunAttempt} {run : Run}
    (claimable : Claimable db attempt run) (env : WorkerEnv) (driver : Driver)
    (postgres : ∀ values, env.accepts values = values.storable (.postgres driver)) :
    (∃ lastAttempt lastRun,
      (processAttempt env db attempt.id).db.attempts.get? attempt.id = some lastAttempt ∧
      (processAttempt env db attempt.id).db.runs.get? attempt.runId = some lastRun ∧
      lastAttempt.status.terminal = true ∧ lastRun.status.terminal = true) ↔
    env.registry.storable (.postgres driver) (run.start env.startedAt)
      (attempt.start env.startedAt) = true := by
  have decides : env.accepts (env.values attempt run) =
      env.registry.storable (.postgres driver) (run.start env.startedAt)
        (attempt.start env.startedAt) :=
    calc
      _ = (env.values attempt run).storable (.postgres driver) := postgres (env.values attempt run)
      _ = _ := execution_storable driver env attempt run
  rw [← decides]
  constructor
  · intro finished
    obtain ⟨lastAttempt, lastRun, attemptRow, -, terminal, -⟩ := finished
    by_contra refused
    obtain ⟨-, abandoned⟩ :=
      processAttempt_refused claimable env (Bool.eq_false_iff.mpr refused)
    obtain ⟨stuck, stuckRow, running⟩ := abandoned.attempt
    rw [attemptRow] at stuckRow
    obtain rfl := Option.some.inj stuckRow
    rw [running] at terminal
    cases terminal
  · intro accepted
    obtain ⟨attemptRow, runRow⟩ := processAttempt_finished claimable env accepted
    exact ⟨_, _, attemptRow, runRow, terminalStatus_terminal _, terminalStatus_terminal _⟩

theorem wargame_execute (winRate : PyFloat) :
    (wargameRunner winRate).execute (wargameRun.start 1) (wargameAttempt.start 1) =
      .returned (wargameResult winRate) := by
  have stripped : PyText.strip (wargameCompleted winRate).stdout = (wargameCompleted winRate).stdout :=
    strip_dumps_obj Json.compact (wargamePayload winRate)
  have solid : (wargameCompleted winRate).stdout.isEmpty = false := by
    rw [← Bool.not_eq_true, String.isEmpty_iff]
    exact dumps_obj_ne_empty Json.compact (wargamePayload winRate)
  have read : (wargameRunner winRate).execute (wargameRun.start 1) (wargameAttempt.start 1) =
      (wargameRunner winRate).readCompleted
        ((wargameRunner winRate).command ["python3"] wargameRun wargameAttempt) "/srv/wargame"
        ((wargameRunner winRate).requestFile wargameRun wargameAttempt) (wargameCompleted winRate) :=
    rfl
  have parsed : runnerResultFromEpisodeBatchPayload (wargameRunner winRate).isPrintable
      (.obj (wargamePayload winRate)) (wargameCompleted winRate).returncode
      (wargameCompleted winRate).stderr = .ok (wargameResult winRate) := wargame_parsed winRate
  rw [read]
  simp only [SoloWargameRunner.readCompleted, stripped, solid, wargame_loads, parsed,
    Bool.false_eq_true, if_false]

def plainColumns : Columns := .postgres .plain

theorem wargame_storable (winRate : PyFloat) (accepts : TerminalValues → Bool) :
    (wargameEnv winRate accepts).registry.storable plainColumns
        (wargameRun.start (wargameEnv winRate accepts).startedAt)
        (wargameAttempt.start (wargameEnv winRate accepts).startedAt) =
      Json.strictFloat winRate := by
  change (wargameEnv winRate accepts).registry.storable plainColumns (wargameRun.start 1)
    (wargameAttempt.start 1) = _
  have registered : (wargameEnv winRate accepts).registry.lookup (wargameRun.start 1).runnerType =
      some ((wargameRunner winRate).runner .ok) := rfl
  simp only [RunnerRegistry.storable, registered, SoloWargameRunner.runner, wargame_execute]
  cases winRate <;> rfl

theorem claimed_attempt_finishes_half :
    ∃ (after : Database) (lastAttempt : RunAttempt) (lastRun : Run),
      after = (processAttempt (wargameEnv halfRate (TerminalValues.storable plainColumns))
        wargameDatabase wargameAttempt.id).db ∧
      after.attempts.get? wargameAttempt.id = some lastAttempt ∧
      after.runs.get? wargameAttempt.runId = some lastRun ∧
      lastAttempt.status.terminal = true ∧ lastRun.status.terminal = true := by
  have storable := wargame_storable halfRate (TerminalValues.storable plainColumns)
  obtain ⟨lastAttempt, lastRun, attemptRow, runRow, terminal⟩ :=
    (claimed_attempt_finishes wargame_claimable
      (wargameEnv halfRate (TerminalValues.storable plainColumns)) .plain
      (fun _ => rfl)).mpr storable
  exact ⟨_, lastAttempt, lastRun, rfl, attemptRow, runRow, terminal⟩

/-- A win rate of `NaN`: the UPDATE raises, and neither a redelivery nor a retry helps. -/
theorem claimed_attempt_abandoned :
    ∃ after : Processed,
      after = processAttempt (wargameEnv .nan (TerminalValues.storable plainColumns))
        wargameDatabase wargameAttempt.id ∧
      Claimable wargameDatabase wargameAttempt wargameRun ∧ after.raised = true ∧
      Abandoned after.db wargameAttempt.id wargameAttempt.runId ∧
      (∀ later, (processAttempt later after.db wargameAttempt.id).db = after.db) ∧
      ∀ later, (retryRun later after.db after.db wargameAttempt.runId).db = after.db := by
  let env := wargameEnv .nan (TerminalValues.storable plainColumns)
  have refused : env.accepts (env.values wargameAttempt wargameRun) = false := by
    have postgres : env.accepts = TerminalValues.storable plainColumns := rfl
    rw [postgres, plainColumns, execution_storable]
    exact wargame_storable .nan (TerminalValues.storable plainColumns)
  obtain ⟨raised, abandoned⟩ := processAttempt_refused wargame_claimable _ refused
  exact ⟨_, rfl, wargame_claimable, raised, abandoned, abandoned_stays abandoned⟩

end Evalynx
