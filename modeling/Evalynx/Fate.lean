import Evalynx.PayloadContract
import Evalynx.Processing

namespace Evalynx

open Relational

/-- A result reports its outcome: a success carries metrics and no error, a failure the same
message twice. -/
def RunnerResult.Reports (result : RunnerResult) : Prop :=
  match result.status with
  | .succeeded => result.failureMessage = none ∧ result.resultError = none ∧
      ∃ metrics, result.resultMetrics = some metrics
  | .failed => ∃ message error, result.failureMessage = some message ∧
      result.resultError = some error ∧ error.get "message" = .str message

def RunnerExecutionError.Carries (error : RunnerExecutionError) : Prop :=
  ∃ member members, error.resultError = some (member :: members) ∧
    JsonObject.get (member :: members) "message" = .str error.message

def Outcome.Reports : Outcome → Prop
  | .returned result => result.Reports
  | .raised error => error.Carries
  | .crashed _ => True

theorem errorObject_message (kind message : String) (details : JsonObject) :
    (errorObject kind message details).get "message" = .str message := by
  simp [errorObject, JsonObject.get, List.lookup_cons]

theorem Outcome.result_reports {outcome : Outcome} (reports : outcome.Reports) :
    outcome.result.Reports := by
  cases outcome with
  | returned result => exact reports
  | raised error =>
      obtain ⟨member, members, carried, message⟩ := reports
      refine ⟨error.message, member :: members, rfl, ?_, message⟩
      simp only [Outcome.result, RunnerExecutionError.resultErrorOrDefault, carried]
  | crashed text =>
      exact ⟨_, _, rfl, rfl, errorObject_message _ _ _⟩

theorem Outcome.result_succeeded (outcome : Outcome) :
    outcome.result.status = .succeeded ↔
      ∃ result, outcome = .returned result ∧ result.status = .succeeded := by
  cases outcome <;> simp [Outcome.result]

namespace SoloWargame

theorem executionError_carries (kind message : String) (details : JsonObject) :
    (executionError kind message details).Carries :=
  ⟨("kind", .str kind), ("message", .str message) :: details, rfl, errorObject_message _ _ _⟩

def Carrying {α : Type} (parsed : Except PayloadError α) : Prop :=
  ∀ error, parsed = .error (.execution error) → error.Carries

theorem carrying_episodeBatchResult (isPrintable : Char → Bool) (payload : JsonObject)
    (returncode : Int) (stderr : String) :
    Carrying (episodeBatchResult isPrintable payload returncode stderr) := by
  have listed (message : String) (details : JsonObject) (error : RunnerExecutionError)
      (same : PayloadError.execution (validationError message details) = .execution error) :
      error.Carries := by
    cases same
    exact executionError_carries _ _ _
  have raises : Checking.RaisesOnly (fun raised => ∀ error, raised = .execution error → error.Carries)
      (episodeBatchResult isPrintable payload returncode stderr) := by
    apply episodeBatchResult_raises
    · intro message error same
      cases same
    · intro message
      exact listed message []
    · intro message
      exact listed message [("returncode", .int returncode)]
  intro error raised
  exact raises _ raised error rfl

theorem episodeBatchResult_reports {isPrintable : Char → Bool} {payload : JsonObject}
    {returncode : Int} {stderr : String} {result : RunnerResult}
    (parsed : episodeBatchResult isPrintable payload returncode stderr = .ok result) :
    result.Reports := by
  obtain ⟨_, _, parsed⟩ := (Checking.bind_ok _ _ _).mp parsed
  obtain ⟨operation, _, parsed⟩ := (Checking.bind_ok _ _ _).mp parsed
  obtain ⟨status, _, parsed⟩ := (Checking.bind_ok _ _ _).mp parsed
  obtain ⟨warnings, _, parsed⟩ := (Checking.bind_ok _ _ _).mp parsed
  obtain ⟨artifacts, _, parsed⟩ := (Checking.bind_ok _ _ _).mp parsed
  obtain ⟨execution, _, parsed⟩ := (Checking.bind_ok _ _ _).mp parsed
  split at parsed
  · obtain ⟨metrics, _, parsed⟩ := (Checking.bind_ok _ _ _).mp parsed
    cases parsed
    exact ⟨rfl, rfl, metrics, rfl⟩
  · obtain ⟨error, _, parsed⟩ := (Checking.bind_ok _ _ _).mp parsed
    obtain ⟨message, found, parsed⟩ := (Checking.bind_ok _ _ _).mp parsed
    cases parsed
    exact ⟨message, error, rfl, rfl, ((requireString_ok _ _ _ _).mp found).1⟩

theorem payload_reports (isPrintable : Char → Bool) (payload : Json) (returncode : Int)
    (stderr : String) :
    (∀ result, runnerResultFromEpisodeBatchPayload isPrintable payload returncode stderr =
        .ok result → result.Reports) ∧
      ∀ error, runnerResultFromEpisodeBatchPayload isPrintable payload returncode stderr =
        .error error → error.Carries := by
  unfold runnerResultFromEpisodeBatchPayload
  split
  · rename_i members
    cases parsed : episodeBatchResult isPrintable members returncode stderr with
    | ok result =>
        refine ⟨?_, by simp⟩
        intro other same
        obtain rfl := Except.ok.inj same
        exact episodeBatchResult_reports parsed
    | error raised =>
        cases raised with
        | execution raised =>
            refine ⟨by simp, ?_⟩
            intro error same
            obtain rfl := Except.error.inj same
            exact carrying_episodeBatchResult _ _ _ _ _ parsed
        | config message =>
            refine ⟨by simp, ?_⟩
            intro error same
            obtain rfl := Except.error.inj same
            exact executionError_carries _ _ _
  · refine ⟨by simp, ?_⟩
    intro error same
    obtain rfl := Except.error.inj same
    exact executionError_carries _ _ _

end SoloWargame

open SoloWargame

namespace SoloWargameRunner

variable (self : SoloWargameRunner) (run : Run) (attempt : RunAttempt)

def Started (completed : CompletedProcess) : Prop :=
  ∃ repoPath program options request, self.repoPath = some repoPath ∧
    self.splitCommand = .ok (program :: options) ∧
    buildEpisodeBatchRequest run.normalizedConfig (self.artifactDir run attempt) = .ok request ∧
    self.prepare (self.artifactDir run attempt) (self.requestFile run attempt)
      (Json.dumps (Json.indented 2) (Json.obj request).sortKeys) = none ∧
    self.invoke (self.command (program :: options) run attempt) repoPath = .ok completed

/-- The stripped stdout is a JSON document the payload parser accepts as a success. -/
def ReportsSuccess (completed : CompletedProcess) : Prop :=
  ∃ payload result, PyText.strip completed.stdout ≠ "" ∧
    self.loads (PyText.strip completed.stdout) = .ok payload ∧
    runnerResultFromEpisodeBatchPayload self.isPrintable payload completed.returncode
      completed.stderr = .ok result ∧
    result.status = .succeeded

theorem started_unique {first second : CompletedProcess}
    (firstStarted : self.Started run attempt first)
    (secondStarted : self.Started run attempt second) : first = second := by
  obtain ⟨repo, program, options, request, repoEq, splitEq, _, _, invoked⟩ := firstStarted
  obtain ⟨repo', program', options', request', repoEq', splitEq', _, _, invoked'⟩ := secondStarted
  rw [repoEq] at repoEq'
  rw [splitEq] at splitEq'
  obtain rfl := Option.some.inj repoEq'
  rw [← Except.ok.inj splitEq', invoked] at invoked'
  exact Except.ok.inj invoked'

theorem faulted_reports {describe : String → RunnerExecutionError}
    (carries : ∀ text, (describe text).Carries) (fault : Fault) :
    (faulted describe fault).Reports ∧ ∀ result, faulted describe fault ≠ .returned result := by
  cases fault with
  | os text => exact ⟨carries text, nofun⟩
  | other text => exact ⟨trivial, nofun⟩

theorem execute_cases :
    (∃ completed command repoPath requestFile, self.Started run attempt completed ∧
        self.execute run attempt = self.readCompleted command repoPath requestFile completed) ∨
      (∀ completed, ¬ self.Started run attempt completed) ∧
        (self.execute run attempt).Reports ∧
          ∀ result, self.execute run attempt ≠ .returned result := by
  unfold execute
  cases repo : self.repoPath with
  | none =>
      right
      refine ⟨?_, executionError_carries _ _ _, nofun⟩
      intro completed started
      obtain ⟨_, _, _, _, found, _⟩ := started
      rw [repo] at found
      cases found
  | some repoPath =>
  cases split : self.splitCommand with
  | error text =>
      right
      refine ⟨?_, trivial, nofun⟩
      intro completed started
      obtain ⟨_, _, _, _, _, found, _⟩ := started
      rw [split] at found
      cases found
  | ok words =>
  cases words with
  | nil =>
      right
      refine ⟨?_, executionError_carries _ _ _, nofun⟩
      intro completed started
      obtain ⟨_, _, _, _, _, found, _⟩ := started
      rw [split] at found
      cases found
  | cons program options =>
  cases built : buildEpisodeBatchRequest run.normalizedConfig (self.artifactDir run attempt) with
  | error text =>
      right
      simp only [built]
      refine ⟨?_, trivial, nofun⟩
      intro completed started
      obtain ⟨_, _, _, _, _, _, found, _⟩ := started
      rw [built] at found
      cases found
  | ok request =>
  cases prepared : self.prepare (self.artifactDir run attempt) (self.requestFile run attempt)
      (Json.dumps (Json.indented 2) (Json.obj request).sortKeys) with
  | some fault =>
      right
      simp only [built, prepared]
      refine ⟨?_, faulted_reports (fun _ => executionError_carries _ _ _) fault⟩
      intro completed started
      obtain ⟨_, _, _, other, _, _, found, written, _⟩ := started
      rw [built] at found
      obtain rfl := Except.ok.inj found
      rw [prepared] at written
      cases written
  | none =>
  cases invoked : self.invoke (self.command (program :: options) run attempt) repoPath with
  | error fault =>
      right
      simp only [built, prepared, invoked]
      refine ⟨?_, faulted_reports (fun _ => executionError_carries _ _ _) fault⟩
      intro completed started
      obtain ⟨_, _, _, _, otherRepo, otherWords, _, _, found⟩ := started
      rw [repo] at otherRepo
      rw [split] at otherWords
      obtain rfl := Option.some.inj otherRepo
      obtain ⟨rfl, rfl⟩ := List.cons.inj (Except.ok.inj otherWords)
      rw [invoked] at found
      cases found
  | ok completed =>
      left
      simp only [built, prepared, invoked]
      exact ⟨completed, _, _, _, ⟨repoPath, program, options, request, repo, split, built, prepared,
        invoked⟩, rfl⟩

theorem readCompleted_reports {command : List String} {repoPath requestFile : String}
    {completed : CompletedProcess} {outcome : Outcome}
    (read : self.readCompleted command repoPath requestFile completed = outcome) :
    outcome.Reports := by
  unfold readCompleted at read
  simp only [String.isEmpty_iff] at read
  by_cases empty : PyText.strip completed.stdout = ""
  · rw [if_pos empty] at read
    rw [← read]
    exact executionError_carries _ _ _
  · rw [if_neg empty] at read
    cases loaded : self.loads (PyText.strip completed.stdout) with
    | error fault =>
        rw [loaded] at read
        cases fault with
        | decode text =>
            rw [← read]
            exact executionError_carries _ _ _
        | other text =>
            rw [← read]
            trivial
    | ok payload =>
        obtain ⟨results, errors⟩ := payload_reports self.isPrintable payload completed.returncode
          completed.stderr
        cases parsed : runnerResultFromEpisodeBatchPayload self.isPrintable payload
            completed.returncode completed.stderr with
        | error error =>
            simp only [loaded, parsed] at read
            rw [← read]
            exact errors error parsed
        | ok result =>
            simp only [loaded, parsed] at read
            rw [← read]
            exact results result parsed

theorem readCompleted_succeeded (command : List String) (repoPath requestFile : String)
    (completed : CompletedProcess) :
    (∃ result, self.readCompleted command repoPath requestFile completed = .returned result ∧
        result.status = .succeeded) ↔ self.ReportsSuccess completed := by
  unfold readCompleted ReportsSuccess
  simp only [String.isEmpty_iff]
  by_cases empty : PyText.strip completed.stdout = ""
  · simp [empty]
  · rw [if_neg empty]
    cases loaded : self.loads (PyText.strip completed.stdout) with
    | error fault => cases fault <;> simp
    | ok payload =>
        simp only [ne_eq, empty, not_false_eq_true, true_and, Except.ok.injEq]
        cases parsed : runnerResultFromEpisodeBatchPayload self.isPrintable payload
            completed.returncode completed.stderr with
        | error error => simp [parsed]
        | ok result => simp [parsed]

theorem execute_reports : (self.execute run attempt).Reports := by
  rcases self.execute_cases run attempt with ⟨completed, command, repoPath, file, _, same⟩ | failed
  · exact self.readCompleted_reports same.symm
  · exact failed.2.1

theorem execute_succeeded :
    (self.execute run attempt).result.status = .succeeded ↔
      ∃ completed, self.Started run attempt completed ∧ self.ReportsSuccess completed := by
  rw [Outcome.result_succeeded]
  rcases self.execute_cases run attempt with
    ⟨completed, command, repoPath, file, started, same⟩ | ⟨never, _, none⟩
  · rw [same, readCompleted_succeeded]
    constructor
    · intro success
      exact ⟨completed, started, success⟩
    · intro success
      obtain ⟨other, otherStarted, otherSuccess⟩ := success
      rw [started_unique self run attempt started otherStarted]
      exact otherSuccess
  · constructor
    · intro returned
      obtain ⟨result, same, _⟩ := returned
      exact absurd same (none result)
    · intro success
      obtain ⟨completed, started, _⟩ := success
      exact absurd started (never completed)

end SoloWargameRunner

theorem strip_dumps_obj (layout : Json.Layout) (members : JsonObject) :
    PyText.strip (Json.dumps layout (.obj members)) = Json.dumps layout (.obj members) := by
  let middle := Json.writeMembers layout 1 [] members ++
    if members.isEmpty then [] else layout.beforeItem 0
  have text : Json.dumps layout (.obj members) = String.ofList ('{' :: (middle ++ ['}'])) := by
    rw [Json.dumps, Json.write, Json.writeClose]
    by_cases empty : members.isEmpty
    · simp [middle, empty]
    · simp [middle, empty]
  rw [text, PyText.strip_of_ends '{' '}' middle rfl rfl]

theorem dumps_obj_ne_empty (layout : Json.Layout) (members : JsonObject) :
    Json.dumps layout (.obj members) ≠ "" := by
  rw [Json.dumps, Json.write]
  simp [String.ofList_eq_empty_iff]

def halfRate : PyFloat := .finite ⟨false, 0, [⟨5, by decide⟩], none, by simp⟩

def wargameConfig : JsonObject :=
  [("mission_path", .str "missions/one.json"), ("policy", .obj [("name", .str "random")]),
    ("seed_spec", .obj [("kind", .str "range")])]

def wargamePayload (winRate : PyFloat) : JsonObject :=
  [("schema_version", .str runnerSchemaVersion), ("operation", .str episodeBatchOperation),
    ("status", .str "succeeded"), ("metrics", .obj [("win_rate", .float winRate)])]

def wargameCompleted (winRate : PyFloat) : CompletedProcess :=
  ⟨Json.dumps Json.compact (.obj (wargamePayload winRate)), "", 0⟩

def wargameRunner (winRate : PyFloat) : SoloWargameRunner where
  repoPath := some "/srv/wargame"
  artifactRoot := "/srv/artifacts"
  splitCommand := .ok ["python3"]
  prepare := fun _ _ _ => none
  invoke := fun _ _ => .ok (wargameCompleted winRate)
  loads := fun text =>
    match Json.loads text with
    | some value => .ok value
    | none => .error (.decode "Expecting value: line 1 column 1 (char 0)")
  isPrintable := fun _ => false

def wargameResult (winRate : PyFloat) : RunnerResult where
  status := .succeeded
  summary := some [("operation", .str episodeBatchOperation), ("win_rate", .float winRate)]
  resultMetrics := some [("win_rate", .float winRate)]

theorem wargame_loads (winRate : PyFloat) :
    (wargameRunner winRate).loads (wargameCompleted winRate).stdout =
      .ok (.obj (wargamePayload winRate)) := by
  have read := Json.loads_dumps Json.compact Json.compact_blank (.obj (wargamePayload winRate)) rfl
  simp only [wargameRunner, wargameCompleted, read]

theorem wargame_parsed (winRate : PyFloat) :
    runnerResultFromEpisodeBatchPayload (wargameRunner winRate).isPrintable
      (.obj (wargamePayload winRate)) 0 "" = .ok (wargameResult winRate) := by
  rfl

def wargameNew : NewRun := ⟨1, runnerType, wargameConfig, wargameConfig, ""⟩

def wargameDatabase : Database := (insertRun sampleProject wargameNew 0 0).1

def wargameRun : Run := { wargameNew.row 1 0 with currentAttemptId := some 1 }

def wargameAttempt : RunAttempt := newAttempt 1 1 1 0

theorem wargame_claimable : Claimable wargameDatabase wargameAttempt wargameRun :=
  ⟨rfl, rfl, rfl, rfl, rfl⟩

theorem wargame_started (winRate : PyFloat) :
    (wargameRunner winRate).Started wargameRun wargameAttempt (wargameCompleted winRate) :=
  ⟨_, _, _, _, rfl, rfl, rfl, rfl, rfl⟩

theorem wargame_reportsSuccess (winRate : PyFloat) :
    (wargameRunner winRate).ReportsSuccess (wargameCompleted winRate) := by
  have stripped : PyText.strip (wargameCompleted winRate).stdout = (wargameCompleted winRate).stdout :=
    strip_dumps_obj Json.compact (wargamePayload winRate)
  refine ⟨_, wargameResult winRate, ?_, ?_, wargame_parsed winRate, rfl⟩
  · rw [stripped]
    exact dumps_obj_ne_empty Json.compact (wargamePayload winRate)
  · rw [stripped]
    exact wargame_loads winRate

def wargameEnv (winRate : PyFloat) (accepts : TerminalValues → Bool) : WorkerEnv where
  registry := [(runnerType, (wargameRunner winRate).runner .ok)]
  accepts := accepts
  startedAt := 1
  finishedAt := 2

structure Snapshot.Succeeded (snapshot : Snapshot) : Prop where
  status : snapshot.status = .succeeded
  message : snapshot.failureMessage = none
  error : snapshot.resultError.load = .null
  metrics : ∃ metrics, snapshot.resultMetrics.load = .obj metrics

structure Snapshot.Failed (snapshot : Snapshot) : Prop where
  status : snapshot.status = .failed
  described : ∃ (message : String) (error : JsonObject),
    snapshot.failureMessage = some message ∧ snapshot.resultError.load = .obj error ∧
      error.get "message" = .str message

theorem finish_succeeded {result : RunnerResult} (reports : result.Reports)
    (succeeded : result.status = .succeeded) (snapshot : Snapshot) (finishedAt : Timestamp) :
    (snapshot.finish (terminalValues result finishedAt)).Succeeded := by
  simp only [RunnerResult.Reports, succeeded] at reports
  obtain ⟨message, error, metrics, measured⟩ := reports
  refine ⟨if_pos succeeded, message, ?_, metrics, ?_⟩
  · simp [Snapshot.finish, terminalValues, error, optionalObject]
  · simp [Snapshot.finish, terminalValues, measured, optionalObject]

theorem finish_failed {result : RunnerResult} (reports : result.Reports)
    (failed : result.status ≠ .succeeded) (snapshot : Snapshot) (finishedAt : Timestamp) :
    (snapshot.finish (terminalValues result finishedAt)).Failed := by
  cases status : result.status with
  | succeeded => exact absurd status failed
  | failed =>
      simp only [RunnerResult.Reports, status] at reports
      obtain ⟨message, error, told, carried, same⟩ := reports
      refine ⟨if_neg failed, message, error, told, ?_, same⟩
      simp [Snapshot.finish, terminalValues, carried, optionalObject]

theorem processAttempt_finished {db : Database} {attempt : RunAttempt} {run : Run}
    (claimable : Claimable db attempt run) (env : WorkerEnv)
    (accepted : env.accepts (env.values attempt run) = true) :
    (processAttempt env db attempt.id).db.attempts.get? attempt.id =
        some ((attempt.start env.startedAt).finish (env.values attempt run)) ∧
      (processAttempt env db attempt.id).db.runs.get? attempt.runId =
        some ((run.start env.startedAt).finish (env.values attempt run)) := by
  rw [processAttempt_claimable claimable env, if_pos accepted]
  exact claimable.replaced _ _ rfl rfl

theorem SoloWargameRunner.attempt_fate (self : SoloWargameRunner)
    (normalizeConfig : JsonObject → Except ConfigError JsonObject) {db : Database}
    {attempt : RunAttempt} {run : Run} (claimable : Claimable db attempt run) (env : WorkerEnv)
    (wargame : run.runnerType = runnerType)
    (registered : env.registry.lookup runnerType = some (self.runner normalizeConfig))
    (accepted : env.accepts (env.values attempt run) = true) :
    ∃ lastAttempt lastRun,
      (processAttempt env db attempt.id).db.attempts.get? attempt.id = some lastAttempt ∧
      (processAttempt env db attempt.id).db.runs.get? attempt.runId = some lastRun ∧
      ((∃ completed, self.Started run attempt completed ∧ self.ReportsSuccess completed) →
        lastAttempt.toSnapshot.Succeeded ∧ lastRun.toSnapshot.Succeeded) ∧
      ((¬ ∃ completed, self.Started run attempt completed ∧ self.ReportsSuccess completed) →
        lastAttempt.toSnapshot.Failed ∧ lastRun.toSnapshot.Failed) := by
  have executed : (env.execution attempt run).1 =
      (self.execute (run.start env.startedAt) (attempt.start env.startedAt)).result := by
    have found : env.registry.lookup (run.start env.startedAt).runnerType =
        some (self.runner normalizeConfig) := by
      rw [← registered, ← wargame]
      rfl
    simp only [WorkerEnv.execution, executeAttempt, found]
    rfl
  have reports : (env.execution attempt run).1.Reports := by
    rw [executed]
    exact Outcome.result_reports (self.execute_reports _ _)
  -- the claim changes neither the configuration nor the keys the runner reads
  have succeeded : (env.execution attempt run).1.status = .succeeded ↔
      ∃ completed, self.Started run attempt completed ∧ self.ReportsSuccess completed := by
    rw [executed]
    exact self.execute_succeeded (run.start env.startedAt) (attempt.start env.startedAt)
  obtain ⟨attemptRow, runRow⟩ := processAttempt_finished claimable env accepted
  refine ⟨_, _, attemptRow, runRow, ?_, ?_⟩
  · intro success
    exact ⟨finish_succeeded reports (succeeded.mpr success) _ _,
      finish_succeeded reports (succeeded.mpr success) _ _⟩
  · intro failure
    have failed := mt succeeded.mp failure
    exact ⟨finish_failed reports failed _ _, finish_failed reports failed _ _⟩

theorem SoloWargameRunner.attempt_fate_half :
    ∃ (after : Database) (lastAttempt : RunAttempt) (lastRun : Run),
      after = (processAttempt (wargameEnv halfRate fun _ => true) wargameDatabase
        wargameAttempt.id).db ∧
      after.attempts.get? wargameAttempt.id = some lastAttempt ∧
      after.runs.get? wargameAttempt.runId = some lastRun ∧
      lastAttempt.toSnapshot.Succeeded ∧ lastRun.toSnapshot.Succeeded := by
  obtain ⟨lastAttempt, lastRun, attemptRow, runRow, success, -⟩ :=
    SoloWargameRunner.attempt_fate (wargameRunner halfRate) .ok wargame_claimable
      (wargameEnv halfRate fun _ => true) rfl rfl rfl
  exact ⟨_, lastAttempt, lastRun, rfl, attemptRow, runRow,
    success ⟨_, wargame_started halfRate, wargame_reportsSuccess halfRate⟩⟩

end Evalynx
