import Evalynx.JsonOrder
import Evalynx.JsonText
import Evalynx.PyText
import Evalynx.Worker

/-! The execution half of `app/runners/solo_wargame.py`. -/

namespace Evalynx

namespace SoloWargame

def runnerType : String := "solo_wargame"
def runnerSchemaVersion : String := "solo_wargame_runner_v1"
def episodeBatchOperation : String := "episode_batch"
def episodeBatchModule : String := "solo_wargame_ai.cli.episode_batch_runner"

def truthy : Json → Bool
  | .null => false
  | .bool value => value
  | .int value => value != 0
  | .float (.finite value) => value.whole != 0 || value.fraction.any (fun digit => digit.val != 0)
  | .float _ => true
  | .str value => !value.isEmpty
  | .arr items => !items.isEmpty
  | .obj members => !members.isEmpty

/-- `mapping[key]`, or the text of the KeyError. -/
def require (mapping : JsonObject) (key : String) : Except String Json :=
  match mapping.lookup key with
  | some value => .ok value
  | none => .error ("'" ++ key ++ "'")

def buildEpisodeBatchRequest (normalizedConfig : JsonObject) (artifactDir : String) :
    Except String JsonObject := do
  let missionPath ← require normalizedConfig "mission_path"
  let policy ← require normalizedConfig "policy"
  let seedSpec ← require normalizedConfig "seed_spec"
  let writeEpisodeRows := (normalizedConfig.lookup "write_episode_rows").getD (.bool false)
  return [
    ("schema_version", .str runnerSchemaVersion),
    ("operation", .str episodeBatchOperation),
    ("mission_path", missionPath),
    ("policy", policy),
    ("seed_spec", seedSpec),
    ("artifact_dir", .str artifactDir),
    ("write_episode_rows", .bool (truthy writeEpisodeRows))]

inductive PayloadError where
  | config (message : String)
  | execution (error : RunnerExecutionError)

def executionError (kind message : String) (details : JsonObject) : RunnerExecutionError where
  message := message
  resultError := some (errorObject kind message details)

def validationError (message : String) (details : JsonObject) : RunnerExecutionError :=
  executionError "result_validation_error" message details

def requireObject (value : Json) (fieldName : String) : Except PayloadError JsonObject :=
  match value with
  | .obj members => .ok members
  | _ => .error (.config s!"{fieldName} must be an object")

def requireString (mapping : JsonObject) (fieldName parent : String) : Except PayloadError String :=
  let missing := PayloadError.config s!"{parent}.{fieldName} must be a non-empty string"
  match mapping.get fieldName with
  | .str value => if PyText.isBlank value then .error missing else .ok value
  | _ => .error missing

def requireSupported (isPrintable : Char → Bool) (payload : JsonObject) (fieldName : String)
    (supported : List String) (returncode : Int) : Except PayloadError String := do
  let value ← requireString payload fieldName "result"
  if value ∈ supported then return value
  let quoted := PyText.repr isPrintable value
  throw (.execution (validationError
    s!"solo_wargame runner returned unsupported {fieldName} {quoted}."
    [("returncode", .int returncode)]))

def parseWarnings : Nat → List Json → Except PayloadError (List String)
  | _, [] => return []
  | index, .str warning :: items => do
      let warnings ← parseWarnings (index + 1) items
      return warning :: warnings
  | index, _ :: _ => throw (.execution (validationError
      s!"solo_wargame runner warning at index {index} was not a string." []))

def parseWarningList : Json → Except PayloadError (List String)
  | .null => return []
  | .arr items => parseWarnings 0 items
  | _ => throw (.execution (validationError
      "solo_wargame runner returned a non-array warnings payload." []))

def parseArtifactItems : Nat → List Json → Except PayloadError (List JsonObject)
  | _, [] => return []
  | index, item :: items => do
      let artifact ← requireObject item s!"result.artifacts[{index}]"
      let artifacts ← parseArtifactItems (index + 1) items
      return artifact :: artifacts

def parseArtifacts : Json → Except PayloadError (List JsonObject)
  | .null => return []
  | .arr items => parseArtifactItems 0 items
  | _ => throw (.execution (validationError
      "solo_wargame runner returned a non-array artifacts payload." []))

def parseOptionalObject (value : Json) (fieldName : String) :
    Except PayloadError (Option JsonObject) :=
  match value with
  | .null => return none
  | value => do return some (← requireObject value fieldName)

def buildExitCodeWarning (returncode : Int) (status : ResultStatus) : Option String :=
  match status with
  | .succeeded =>
      if returncode ≠ 0 then
        some s!"solo_wargame runner exited with code {returncode} but reported status 'succeeded'."
      else none
  | .failed =>
      if returncode ≠ 0 ∧ returncode ≠ 1 then
        some s!"solo_wargame runner exited with code {returncode} while reporting status 'failed'."
      else none

def stringEntry (object : JsonObject) (key entry : String) : JsonObject :=
  match object.get key with
  | .str value => [(entry, .str value)]
  | _ => []

def policyEntry (execution : JsonObject) : JsonObject :=
  match execution.get "policy" with
  | .obj policy => stringEntry policy "name" "policy_name"
  | _ => []

def metricEntry (metrics : JsonObject) (key : String) : JsonObject :=
  if (metrics.get key).isNull then [] else [(key, metrics.get key)]

def buildSuccessSummary (metrics : JsonObject) (execution : Option JsonObject)
    (operation : String) : JsonObject :=
  let described := match execution with
    | none => []
    | some execution => stringEntry execution "mission_id" "mission_id" ++ policyEntry execution
  ("operation", .str operation) :: described ++
    ["agent_name", "episode_count", "win_rate"].flatMap (metricEntry metrics)

def buildFailureSummary (error : JsonObject) (execution : Option JsonObject)
    (operation : String) : JsonObject :=
  let described := match execution with
    | none => []
    | some execution => stringEntry execution "mission_id" "mission_id"
  ("operation", .str operation) :: ("error_kind", error.get "kind") :: described

def resultWarnings (warnings : List String) (returncode : Int) (status : ResultStatus)
    (stderr : String) : List String :=
  warnings ++ (buildExitCodeWarning returncode status).toList ++
    if PyText.isBlank stderr then []
    else ["solo_wargame runner wrote to stderr during execution."]

/-- The try block of `runner_result_from_episode_batch_payload`, on an object. -/
def episodeBatchResult (isPrintable : Char → Bool) (payload : JsonObject) (returncode : Int)
    (stderr : String) : Except PayloadError RunnerResult := do
  let _ ← requireSupported isPrintable payload "schema_version" [runnerSchemaVersion] returncode
  let operation ←
    requireSupported isPrintable payload "operation" [episodeBatchOperation] returncode
  let status ← requireSupported isPrintable payload "status" ["succeeded", "failed"] returncode
  let status : ResultStatus := if status = "succeeded" then .succeeded else .failed
  let warnings ← parseWarningList (payload.get "warnings")
  let artifacts ← parseArtifacts (payload.get "artifacts")
  let execution ← parseOptionalObject (payload.get "execution") "result.execution"
  match status with
  | .succeeded => do
      let metrics ← requireObject (payload.get "metrics") "result.metrics"
      return {
        status := .succeeded
        summary := some (buildSuccessSummary metrics execution operation)
        resultMetrics := some metrics
        resultExecution := execution
        resultArtifacts := artifacts
        resultWarnings := resultWarnings warnings returncode status stderr }
  | .failed => do
      let error ← requireObject (payload.get "error") "result.error"
      let message ← requireString error "message" "result.error"
      return {
        status := .failed
        summary := some (buildFailureSummary error execution operation)
        failureMessage := some message
        resultExecution := execution
        resultArtifacts := artifacts
        resultWarnings := resultWarnings warnings returncode status stderr
        resultError := some error }

def runnerResultFromEpisodeBatchPayload (isPrintable : Char → Bool) (payload : Json)
    (returncode : Int) (stderr : String) : Except RunnerExecutionError RunnerResult :=
  match payload with
  | .obj payload =>
      match episodeBatchResult isPrintable payload returncode stderr with
      | .ok result => .ok result
      | .error (.execution error) => .error error
      | .error (.config message) =>
          .error (validationError message [("returncode", .int returncode)])
  | _ =>
      .error (validationError "solo_wargame runner returned a non-object JSON payload."
        [("returncode", .int returncode)])

inductive Fault where
  | os (text : String)
  | other (text : String)

inductive LoadsFault where
  | decode (text : String)
  | other (text : String)

structure CompletedProcess where
  stdout : String
  stderr : String
  returncode : Int

end SoloWargame

open SoloWargame

/-- A `SoloWargameRunner` and what the calls it makes come to: `shlex.split` of its python command,
`mkdir` and `write_text`, `subprocess.run`, `json.loads`, and the table behind `repr`. -/
structure SoloWargameRunner where
  repoPath : Option String
  artifactRoot : String
  splitCommand : Except String (List String)
  prepare : (artifactDir requestFile text : String) → Option Fault
  invoke : (command : List String) → (workingDirectory : String) → Except Fault CompletedProcess
  loads : String → Except LoadsFault Json
  isPrintable : Char → Bool

namespace SoloWargameRunner

variable (self : SoloWargameRunner)

def artifactDir (run : Run) (attempt : RunAttempt) : String :=
  PyText.joinPath
    (PyText.joinPath self.artifactRoot ("run-" ++ PyText.zeroPadded 6 run.id))
    ("attempt-" ++ PyText.zeroPadded 4 attempt.attemptNumber)

def requestFile (run : Run) (attempt : RunAttempt) : String :=
  PyText.joinPath (self.artifactDir run attempt) "evalynx-request.json"

def command (commandPrefix : List String) (run : Run) (attempt : RunAttempt) : List String :=
  commandPrefix ++ ["-m", episodeBatchModule, "--request-file", self.requestFile run attempt]

/-- An `OSError` is described, anything else leaves the runner as it is. -/
def faulted (describe : String → RunnerExecutionError) : Fault → Outcome
  | .os text => .raised (describe text)
  | .other text => .crashed text

def readCompleted (command : List String) (repoPath requestFile : String)
    (completed : CompletedProcess) : Outcome :=
  let stdout := PyText.strip completed.stdout
  let stderr := PyText.strip completed.stderr
  let details : JsonObject := [
    ("command", .arr (command.map .str)),
    ("working_directory", .str repoPath),
    ("request_file", .str requestFile),
    ("returncode", .int completed.returncode),
    ("stderr", if stderr.isEmpty then .null else .str stderr)]
  if stdout.isEmpty then
    .raised (executionError "result_parse_error" "solo_wargame runner returned empty stdout." details)
  else
    match self.loads stdout with
    | .error (.decode text) =>
        .raised (executionError "result_parse_error"
          s!"solo_wargame runner returned invalid JSON: {text}" details)
    | .error (.other text) => .crashed text
    | .ok payload =>
        match runnerResultFromEpisodeBatchPayload self.isPrintable payload completed.returncode
            completed.stderr with
        | .ok result => .returned result
        | .error error => .raised error

def execute (run : Run) (attempt : RunAttempt) : Outcome :=
  match self.repoPath with
  | none =>
      .raised (executionError "runner_configuration_error"
        "solo_wargame repo path is not configured." [])
  | some repoPath =>
      match self.splitCommand with
      | .error text => .crashed text
      | .ok [] =>
          .raised (executionError "runner_configuration_error"
            "solo_wargame python command is empty." [])
      | .ok commandPrefix =>
          let artifactDir := self.artifactDir run attempt
          let requestFile := self.requestFile run attempt
          match buildEpisodeBatchRequest run.normalizedConfig artifactDir with
          | .error text => .crashed text
          | .ok request =>
              match self.prepare artifactDir requestFile
                  (Json.dumps (Json.indented 2) (Json.obj request).sortKeys) with
              | some fault =>
                  let runId := run.id
                  let attemptNumber := attempt.attemptNumber
                  faulted (fun text => executionError "artifact_setup_error"
                    (s!"Failed to prepare solo_wargame artifacts for run {runId} " ++
                      s!"attempt {attemptNumber}: {text}")
                    [("artifact_dir", .str artifactDir), ("request_file", .str requestFile)]) fault
              | none =>
                  let command := self.command commandPrefix run attempt
                  match self.invoke command repoPath with
                  | .error fault =>
                      faulted (fun text => executionError "subprocess_error"
                        s!"Failed to invoke solo_wargame runner: {text}"
                        [("command", .arr (command.map .str)),
                          ("working_directory", .str repoPath),
                          ("request_file", .str requestFile)]) fault
                  | .ok completed => self.readCompleted command repoPath requestFile completed

/-- The registered runner; its `normalize_config` plays no part here. -/
def runner (normalizeConfig : JsonObject → Except ConfigError JsonObject) : Runner where
  normalizeConfig := normalizeConfig
  execute := self.execute

end SoloWargameRunner

end Evalynx
