import Evalynx.Checking
import Evalynx.SoloWargame

/-! Which result payloads are read, and what the runner keeps of one. -/

namespace Evalynx

open Checking

def ResultStatus.text : ResultStatus → String
  | .succeeded => "succeeded"
  | .failed => "failed"

def ListsOptionally {α : Type} (element : α → Json) (value : Json) (items : List α) : Prop :=
  (value = .null ∧ items = []) ∨ value = .arr (items.map element)

def memberOf (value : Json) (key : String) : Json :=
  match value with
  | .obj members => JsonObject.get members key
  | _ => .null

namespace SoloWargame

/-- A payload of the expected shape. -/
structure EpisodeBatchPayload (payload : JsonObject) : Prop where
  schemaVersion : payload.get "schema_version" = .str runnerSchemaVersion
  operation : payload.get "operation" = .str episodeBatchOperation
  status : ∃ status : ResultStatus, payload.get "status" = .str status.text
  warnings : ∃ warnings : List String, ListsOptionally .str (payload.get "warnings") warnings
  artifacts : ∃ artifacts : List JsonObject,
    ListsOptionally .obj (payload.get "artifacts") artifacts
  execution : payload.get "execution" = .null ∨
    ∃ execution, payload.get "execution" = .obj execution
  metrics : payload.get "status" = .str "succeeded" → ∃ metrics, payload.get "metrics" = .obj metrics
  error : payload.get "status" = .str "failed" → ∃ (error : JsonObject) (message : String),
    payload.get "error" = .obj error ∧ error.get "message" = .str message ∧
      PyText.isBlank message = false

def mismatched (returncode : Int) : ResultStatus → Bool
  | .succeeded => returncode != 0
  | .failed => returncode != 0 && returncode != 1

def exitCodeText (returncode : Int) : ResultStatus → String
  | .succeeded =>
      s!"solo_wargame runner exited with code {returncode} but reported status 'succeeded'."
  | .failed =>
      s!"solo_wargame runner exited with code {returncode} while reporting status 'failed'."

def stderrText : String := "solo_wargame runner wrote to stderr during execution."

def onlyString : Json → Option Json
  | .str value => some (.str value)
  | _ => none

def unlessNull (value : Json) : Option Json := if value.isNull then none else some value

def successMember (payload : JsonObject) (key : String) : Option Json :=
  if key = "operation" then some (payload.get "operation")
  else if key = "mission_id" then onlyString (memberOf (payload.get "execution") "mission_id")
  else if key = "policy_name" then
    onlyString (memberOf (memberOf (payload.get "execution") "policy") "name")
  else if key ∈ ["agent_name", "episode_count", "win_rate"] then
    unlessNull (memberOf (payload.get "metrics") key)
  else none

def failureMember (payload : JsonObject) (key : String) : Option Json :=
  if key = "operation" then some (payload.get "operation")
  else if key = "error_kind" then some (memberOf (payload.get "error") "kind")
  else if key = "mission_id" then onlyString (memberOf (payload.get "execution") "mission_id")
  else none

structure ReadFrom (payload : JsonObject) (returncode : Int) (stderr : String)
    (result : RunnerResult) : Prop where
  status : payload.get "status" = .str result.status.text
  artifacts : ListsOptionally .obj (payload.get "artifacts") result.resultArtifacts
  warnings : ∃ warnings, ListsOptionally .str (payload.get "warnings") warnings ∧
    result.resultWarnings = warnings ++
      (if mismatched returncode result.status then [exitCodeText returncode result.status] else []) ++
      (if PyText.isBlank stderr then [] else [stderrText])
  execution : payload.get "execution" = optionalObject result.resultExecution
  succeeded : result.status = .succeeded → ∃ metrics summary,
    payload.get "metrics" = .obj metrics ∧ result.resultMetrics = some metrics ∧
      result.resultError = none ∧ result.failureMessage = none ∧ result.summary = some summary ∧
      ∀ key, summary.lookup key = successMember payload key
  failed : result.status = .failed → ∃ (error : JsonObject) (message : String) (summary : JsonObject),
    payload.get "error" = .obj error ∧ result.resultError = some error ∧
      error.get "message" = .str message ∧ result.failureMessage = some message ∧
      result.resultMetrics = none ∧ result.summary = some summary ∧
      ∀ key, summary.lookup key = failureMember payload key

theorem requireObject_ok (value : Json) (fieldName : String) (members : JsonObject) :
    requireObject value fieldName = .ok members ↔ value = .obj members := by
  cases value <;> simp [requireObject]

theorem requireString_ok (mapping : JsonObject) (fieldName parent value : String) :
    requireString mapping fieldName parent = .ok value ↔
      mapping.get fieldName = .str value ∧ PyText.isBlank value = false := by
  unfold requireString
  split
  · rename_i text found
    rw [found]
    by_cases blank : PyText.isBlank text = true
    · simp only [blank, if_true, Json.str.injEq, reduceCtorEq, false_iff, not_and]
      rintro rfl
      simp [blank]
    · simp only [blank, Bool.false_eq_true, if_false, Except.ok.injEq, Json.str.injEq]
      constructor
      · rintro rfl
        exact ⟨rfl, Bool.eq_false_iff.mpr blank⟩
      · exact And.left
  · rename_i other
    simp only [reduceCtorEq, false_iff, not_and]
    intro found
    exact absurd found (other value)

theorem requireSupported_ok (isPrintable : Char → Bool) (payload : JsonObject) (fieldName : String)
    (supported : List String) (returncode : Int) (value : String)
    (written : ∀ text ∈ supported, PyText.isBlank text = false) :
    requireSupported isPrintable payload fieldName supported returncode = .ok value ↔
      payload.get fieldName = .str value ∧ value ∈ supported := by
  rw [requireSupported, bind_ok]
  simp only [requireString_ok]
  constructor
  · intro given
    rcases given with ⟨text, ⟨found, _⟩, checked⟩
    split at checked
    · rename_i listed
      obtain rfl := (pure_ok _ _).mp checked
      exact ⟨found, listed⟩
    · cases checked
  · intro given
    rcases given with ⟨found, listed⟩
    refine ⟨value, ⟨found, written value listed⟩, ?_⟩
    rw [if_pos listed]
    rfl

def checkWarning (index : Nat) : Json → Except PayloadError String
  | .str warning => return warning
  | _ => throw (.execution (validationError
      s!"solo_wargame runner warning at index {index} was not a string." []))

theorem parseWarnings_readAll (index : Nat) (items : List Json) :
    parseWarnings index items = readAll checkWarning index items := by
  induction items generalizing index with
  | nil => rfl
  | cons item items ih =>
      cases item with
      | str warning =>
          rw [parseWarnings, ih]
          rfl
      | null | bool | int | float | arr | obj => rfl

theorem parseArtifactItems_readAll (index : Nat) (items : List Json) :
    parseArtifactItems index items =
      readAll (fun index item => requireObject item s!"result.artifacts[{index}]") index items := by
  induction items generalizing index with
  | nil => rfl
  | cons item items ih => rw [parseArtifactItems, readAll, ih]

theorem parseWarningList_ok (value : Json) (warnings : List String) :
    parseWarningList value = .ok warnings ↔ ListsOptionally .str value warnings := by
  have each (index : Nat) (item : Json) (warning : String) :
      checkWarning index item = .ok warning ↔ item = .str warning := by
    cases item <;> simp [checkWarning, pure, Except.pure, throw, throwThe, MonadExceptOf.throw]
  unfold parseWarningList ListsOptionally
  split
  · rw [pure_ok]
    simp [eq_comm]
  · rw [parseWarnings_readAll, readAll_ok each]
    simp
  · rename_i noNull noArray
    simp only [throw, throwThe, MonadExceptOf.throw, reduceCtorEq, false_iff, not_or, not_and]
    exact ⟨fun null => absurd null noNull, noArray _⟩

theorem parseArtifacts_ok (value : Json) (artifacts : List JsonObject) :
    parseArtifacts value = .ok artifacts ↔ ListsOptionally .obj value artifacts := by
  have each (index : Nat) (item : Json) (artifact : JsonObject) :
      requireObject item s!"result.artifacts[{index}]" = .ok artifact ↔ item = .obj artifact :=
    requireObject_ok _ _ _
  unfold parseArtifacts ListsOptionally
  split
  · rw [pure_ok]
    simp [eq_comm]
  · rw [parseArtifactItems_readAll, readAll_ok each]
    simp
  · rename_i noNull noArray
    simp only [throw, throwThe, MonadExceptOf.throw, reduceCtorEq, false_iff, not_or, not_and]
    exact ⟨fun null => absurd null noNull, noArray _⟩

theorem parseOptionalObject_ok (value : Json) (fieldName : String) (members : Option JsonObject) :
    parseOptionalObject value fieldName = .ok members ↔ value = optionalObject members := by
  unfold parseOptionalObject
  split
  · rw [pure_ok]
    cases members <;> simp [optionalObject]
  · rename_i noNull
    rw [bind_ok]
    simp only [requireObject_ok, pure_ok]
    cases members with
    | none =>
        have other : value ≠ .null := noNull
        simp [optionalObject, other]
    | some members => simp [optionalObject]

section Raises

variable {allowed : PayloadError → Prop} (wrapped : ∀ message, allowed (.config message))
  (bare : ∀ message, allowed (.execution (validationError message [])))

include wrapped in
theorem requireObject_raises (value : Json) (fieldName : String) :
    RaisesOnly allowed (requireObject value fieldName) := by
  cases value with
  | obj members => exact raisesOnly_ok members
  | null | bool | int | float | str | arr => exact (raisesOnly_error _).mpr (wrapped _)

include wrapped in
theorem requireString_raises (mapping : JsonObject) (fieldName parent : String) :
    RaisesOnly allowed (requireString mapping fieldName parent) := by
  unfold requireString
  split
  · split
    · exact (raisesOnly_error _).mpr (wrapped _)
    · exact raisesOnly_ok _
  · exact (raisesOnly_error _).mpr (wrapped _)

include wrapped in
theorem parseOptionalObject_raises (value : Json) (fieldName : String) :
    RaisesOnly allowed (parseOptionalObject value fieldName) := by
  unfold parseOptionalObject
  split
  · exact raisesOnly_pure none
  · refine (raisesOnly_bind _ _).mpr ⟨requireObject_raises wrapped _ _, ?_⟩
    intro members _
    exact raisesOnly_pure (some members)

include bare in
theorem parseWarningList_raises (value : Json) : RaisesOnly allowed (parseWarningList value) := by
  have each (index : Nat) (item : Json) : RaisesOnly allowed (checkWarning index item) := by
    cases item with
    | str warning => exact raisesOnly_pure warning
    | null | bool | int | float | arr | obj => exact (raisesOnly_error _).mpr (bare _)
  unfold parseWarningList
  split
  · exact raisesOnly_pure []
  · rw [parseWarnings_readAll]
    exact raisesOnly_readAll each 0 _
  · exact (raisesOnly_error _).mpr (bare _)

include wrapped in
theorem parseArtifactItems_raises (items : List Json) :
    RaisesOnly allowed (parseArtifactItems 0 items) := by
  rw [parseArtifactItems_readAll]
  exact raisesOnly_readAll (fun _ _ => requireObject_raises wrapped _ _) 0 items

include wrapped bare in
theorem parseArtifacts_raises (value : Json) : RaisesOnly allowed (parseArtifacts value) := by
  unfold parseArtifacts
  split
  · exact raisesOnly_pure []
  · exact parseArtifactItems_raises wrapped _
  · exact (raisesOnly_error _).mpr (bare _)

variable {returncode : Int}
  (coded : ∀ message,
    allowed (.execution (validationError message [("returncode", .int returncode)])))

include wrapped coded in
theorem requireSupported_raises (isPrintable : Char → Bool) (payload : JsonObject)
    (fieldName : String) (supported : List String) :
    RaisesOnly allowed (requireSupported isPrintable payload fieldName supported returncode) := by
  refine (raisesOnly_bind _ _).mpr ⟨requireString_raises wrapped _ _ _, ?_⟩
  intro value _
  split
  · exact raisesOnly_pure value
  · exact (raisesOnly_error _).mpr (coded _)

end Raises

theorem lookup_entry (entry name : String) (value : Json) :
    [(entry, value)].lookup name = if name = entry then some value else none := by
  by_cases same : name = entry
  · rw [same, List.lookup_cons_self, if_pos rfl]
  · have other : (name == entry) = false := by simp [same]
    rw [List.lookup_cons, other, if_neg same]
    rfl

theorem stringEntry_lookup (object : JsonObject) (key entry name : String) :
    (stringEntry object key entry).lookup name =
      if name = entry then onlyString (object.get key) else none := by
  unfold stringEntry
  split
  · rename_i value found
    rw [found]
    exact lookup_entry entry name (.str value)
  · rename_i noString
    have absent : onlyString (object.get key) = none := by
      unfold onlyString
      split
      · rename_i text found
        exact absurd found (noString text)
      · rfl
    rw [absent, ite_self]
    rfl

theorem metricEntry_lookup (metrics : JsonObject) (key name : String) :
    (metricEntry metrics key).lookup name =
      if name = key then unlessNull (metrics.get key) else none := by
  unfold metricEntry unlessNull
  split
  · simp
  · rw [lookup_entry]

theorem policyEntry_lookup (execution : JsonObject) (name : String) :
    (policyEntry execution).lookup name =
      if name = "policy_name" then onlyString (memberOf (execution.get "policy") "name")
      else none := by
  unfold policyEntry
  split
  · rename_i policy found
    rw [stringEntry_lookup, found]
    rfl
  · rename_i other
    have nothing : onlyString (memberOf (execution.get "policy") "name") = none := by
      unfold memberOf
      split
      · rename_i policy found
        exact absurd found (other policy)
      · rfl
    rw [nothing]
    simp

def described (entries : JsonObject → JsonObject) : Option JsonObject → JsonObject
  | none => []
  | some execution => entries execution

theorem mission_lookup (execution : Option JsonObject) (key : String) :
    (described (fun execution => stringEntry execution "mission_id" "mission_id") execution).lookup
        key =
      if key = "mission_id" then onlyString (memberOf (optionalObject execution) "mission_id")
      else none := by
  cases execution with
  | none => simp [described, optionalObject, memberOf, onlyString]
  | some execution => exact stringEntry_lookup execution "mission_id" "mission_id" key

theorem mission_policy_lookup (execution : Option JsonObject) (key : String) :
    (described (fun execution => stringEntry execution "mission_id" "mission_id" ++
        policyEntry execution) execution).lookup key =
      if key = "mission_id" then onlyString (memberOf (optionalObject execution) "mission_id")
      else if key = "policy_name" then
        onlyString (memberOf (memberOf (optionalObject execution) "policy") "name")
      else none := by
  cases execution with
  | none => simp [described, optionalObject, memberOf, onlyString]
  | some execution =>
      simp only [described, List.lookup_append, stringEntry_lookup, policyEntry_lookup]
      by_cases mission : key = "mission_id" <;> simp [mission, optionalObject, memberOf]

theorem metricEntries_lookup (metrics : JsonObject) (keys : List String) (key : String) :
    (keys.flatMap (metricEntry metrics)).lookup key =
      if key ∈ keys then unlessNull (metrics.get key) else none := by
  induction keys with
  | nil => rfl
  | cons first keys ih =>
      rw [List.flatMap_cons, List.lookup_append, metricEntry_lookup, ih]
      by_cases same : key = first
      · subst same
        by_cases later : key ∈ keys <;> simp [later]
      · simp [same]

section Summaries

variable {payload : JsonObject} {execution : Option JsonObject}
  (operation : payload.get "operation" = .str episodeBatchOperation)
  (executionFound : payload.get "execution" = optionalObject execution)

include operation executionFound

theorem buildSuccessSummary_lookup {metrics : JsonObject}
    (metricsFound : payload.get "metrics" = .obj metrics) (key : String) :
    (buildSuccessSummary metrics execution episodeBatchOperation).lookup key =
      successMember payload key := by
  have entries : buildSuccessSummary metrics execution episodeBatchOperation =
      [("operation", .str episodeBatchOperation)] ++
        described (fun execution => stringEntry execution "mission_id" "mission_id" ++
          policyEntry execution) execution ++
        ["agent_name", "episode_count", "win_rate"].flatMap (metricEntry metrics) := by
    cases execution <;> rfl
  have metric : memberOf (payload.get "metrics") key = metrics.get key := by
    rw [metricsFound]
    rfl
  rw [entries, List.lookup_append, List.lookup_append, lookup_entry, mission_policy_lookup,
    metricEntries_lookup, successMember, operation, metric, executionFound]
  by_cases first : key = "operation"
  · simp [first]
  · by_cases mission : key = "mission_id"
    · simp [mission]
    · by_cases policy : key = "policy_name"
      · simp [policy]
      · simp [first, mission, policy]

theorem buildFailureSummary_lookup {error : JsonObject}
    (errorFound : payload.get "error" = .obj error) (key : String) :
    (buildFailureSummary error execution episodeBatchOperation).lookup key =
      failureMember payload key := by
  have entries : buildFailureSummary error execution episodeBatchOperation =
      [("operation", .str episodeBatchOperation)] ++ [("error_kind", error.get "kind")] ++
        described (fun execution => stringEntry execution "mission_id" "mission_id") execution := by
    cases execution <;> rfl
  have kind : memberOf (payload.get "error") "kind" = error.get "kind" := by
    rw [errorFound]
    rfl
  rw [entries, List.lookup_append, List.lookup_append, lookup_entry, lookup_entry, mission_lookup,
    failureMember, operation, kind, executionFound]
  by_cases first : key = "operation"
  · simp [first]
  · by_cases kind : key = "error_kind"
    · simp [kind]
    · simp [first, kind]

end Summaries

theorem statusText_mem (status : ResultStatus) : status.text ∈ ["succeeded", "failed"] := by
  cases status
  · exact List.mem_cons_self
  · exact List.mem_cons_of_mem _ List.mem_cons_self

theorem statusText_read (status : ResultStatus) :
    (if status.text = "succeeded" then ResultStatus.succeeded else .failed) = status := by
  cases status <;> rfl

theorem mem_statusTexts {text : String} (listed : text ∈ ["succeeded", "failed"]) :
    ∃ status : ResultStatus, text = status.text := by
  rcases List.mem_cons.mp listed with same | rest
  · exact ⟨.succeeded, same⟩
  · exact ⟨.failed, List.mem_singleton.mp rest⟩

theorem supported_written : ∀ text ∈ ["succeeded", "failed"], PyText.isBlank text = false := by
  decide

theorem version_written : ∀ text ∈ [runnerSchemaVersion], PyText.isBlank text = false := by
  decide

theorem operation_written : ∀ text ∈ [episodeBatchOperation], PyText.isBlank text = false := by
  decide

theorem resultWarnings_eq (warnings : List String) (returncode : Int) (status : ResultStatus)
    (stderr : String) :
    resultWarnings warnings returncode status stderr =
      warnings ++
        (if mismatched returncode status then [exitCodeText returncode status] else []) ++
        (if PyText.isBlank stderr then [] else [stderrText]) := by
  have exitCode : (buildExitCodeWarning returncode status).toList =
      if mismatched returncode status then [exitCodeText returncode status] else [] := by
    cases status with
    | succeeded =>
        simp only [buildExitCodeWarning, mismatched, bne_iff_ne]
        split
        · exact Option.toList_some _
        · exact Option.toList_none _
    | failed =>
        simp only [buildExitCodeWarning, mismatched, Bool.and_eq_true, bne_iff_ne]
        split
        · exact Option.toList_some _
        · exact Option.toList_none _
  rw [resultWarnings, exitCode]
  rfl

structure Checked (payload : JsonObject) (status : ResultStatus) (warnings : List String)
    (artifacts : List JsonObject) (execution : Option JsonObject) : Prop where
  schemaVersion : payload.get "schema_version" = .str runnerSchemaVersion
  operation : payload.get "operation" = .str episodeBatchOperation
  status : payload.get "status" = .str status.text
  warnings : ListsOptionally .str (payload.get "warnings") warnings
  artifacts : ListsOptionally .obj (payload.get "artifacts") artifacts
  execution : payload.get "execution" = optionalObject execution

section Payload

variable (isPrintable : Char → Bool) (payload : JsonObject) (returncode : Int) (stderr : String)
  (result : RunnerResult)

def concluded (status : ResultStatus) (warnings : List String) (artifacts : List JsonObject)
    (execution : Option JsonObject) : Except PayloadError RunnerResult :=
  match status with
  | .succeeded => do
      let metrics ← requireObject (payload.get "metrics") "result.metrics"
      return {
        status := .succeeded
        summary := some (buildSuccessSummary metrics execution episodeBatchOperation)
        resultMetrics := some metrics
        resultExecution := execution
        resultArtifacts := artifacts
        resultWarnings := resultWarnings warnings returncode status stderr }
  | .failed => do
      let error ← requireObject (payload.get "error") "result.error"
      let message ← requireString error "message" "result.error"
      return {
        status := .failed
        summary := some (buildFailureSummary error execution episodeBatchOperation)
        failureMessage := some message
        resultExecution := execution
        resultArtifacts := artifacts
        resultWarnings := resultWarnings warnings returncode status stderr
        resultError := some error }

theorem episodeBatchResult_ok :
    episodeBatchResult isPrintable payload returncode stderr = .ok result ↔
      ∃ status warnings artifacts execution, Checked payload status warnings artifacts execution ∧
        concluded payload returncode stderr status warnings artifacts execution = .ok result := by
  constructor
  · intro parsed
    obtain ⟨version, versionFound, parsed⟩ := (bind_ok _ _ _).mp parsed
    obtain ⟨operation, operationFound, parsed⟩ := (bind_ok _ _ _).mp parsed
    obtain ⟨text, textFound, parsed⟩ := (bind_ok _ _ _).mp parsed
    obtain ⟨warnings, warningsFound, parsed⟩ := (bind_ok _ _ _).mp parsed
    obtain ⟨artifacts, artifactsFound, parsed⟩ := (bind_ok _ _ _).mp parsed
    obtain ⟨execution, executionFound, parsed⟩ := (bind_ok _ _ _).mp parsed
    obtain ⟨versionMember, versionListed⟩ :=
      (requireSupported_ok _ _ _ _ _ _ version_written).mp versionFound
    obtain ⟨operationMember, operationListed⟩ :=
      (requireSupported_ok _ _ _ _ _ _ operation_written).mp operationFound
    obtain ⟨textMember, textListed⟩ :=
      (requireSupported_ok _ _ _ _ _ _ supported_written).mp textFound
    obtain rfl := List.mem_singleton.mp versionListed
    obtain rfl := List.mem_singleton.mp operationListed
    obtain ⟨status, rfl⟩ := mem_statusTexts textListed
    refine ⟨status, warnings, artifacts, execution, ⟨versionMember, operationMember, textMember,
      (parseWarningList_ok _ _).mp warningsFound, (parseArtifacts_ok _ _).mp artifactsFound,
      (parseOptionalObject_ok _ _ _).mp executionFound⟩, ?_⟩
    rw [← parsed, statusText_read]
    rfl
  · intro given
    rcases given with ⟨status, warnings, artifacts, execution, checked, parsed⟩
    refine (bind_ok _ _ _).mpr ⟨_, (requireSupported_ok _ _ _ _ _ _ version_written).mpr
      ⟨checked.schemaVersion, List.mem_singleton.mpr rfl⟩, ?_⟩
    refine (bind_ok _ _ _).mpr ⟨_, (requireSupported_ok _ _ _ _ _ _ operation_written).mpr
      ⟨checked.operation, List.mem_singleton.mpr rfl⟩, ?_⟩
    refine (bind_ok _ _ _).mpr ⟨_, (requireSupported_ok _ _ _ _ _ _ supported_written).mpr
      ⟨checked.status, statusText_mem status⟩, ?_⟩
    refine (bind_ok _ _ _).mpr ⟨_, (parseWarningList_ok _ _).mpr checked.warnings, ?_⟩
    refine (bind_ok _ _ _).mpr ⟨_, (parseArtifacts_ok _ _).mpr checked.artifacts, ?_⟩
    refine (bind_ok _ _ _).mpr ⟨_, (parseOptionalObject_ok _ _ _).mpr checked.execution, ?_⟩
    rw [statusText_read]
    exact parsed

section Raises

variable {allowed : PayloadError → Prop} (wrapped : ∀ message, allowed (.config message))
include wrapped

theorem concluded_raises (status : ResultStatus) (warnings : List String)
    (artifacts : List JsonObject) (execution : Option JsonObject) :
    RaisesOnly allowed
      (concluded payload returncode stderr status warnings artifacts execution) := by
  cases status with
  | succeeded =>
      refine (raisesOnly_bind _ _).mpr ⟨requireObject_raises wrapped _ _, ?_⟩
      intro metrics _
      exact raisesOnly_pure _
  | failed =>
      refine (raisesOnly_bind _ _).mpr ⟨requireObject_raises wrapped _ _, ?_⟩
      intro error _
      refine (raisesOnly_bind _ _).mpr ⟨requireString_raises wrapped _ _ _, ?_⟩
      intro message _
      exact raisesOnly_pure _

theorem episodeBatchResult_raises
    (bare : ∀ message, allowed (.execution (validationError message [])))
    (coded : ∀ message,
      allowed (.execution (validationError message [("returncode", .int returncode)]))) :
    RaisesOnly allowed (episodeBatchResult isPrintable payload returncode stderr) := by
  refine (raisesOnly_bind _ _).mpr ⟨requireSupported_raises wrapped coded _ _ _ _, ?_⟩
  intro version _
  refine (raisesOnly_bind _ _).mpr ⟨requireSupported_raises wrapped coded _ _ _ _, ?_⟩
  intro operation operationRead
  refine (raisesOnly_bind _ _).mpr ⟨requireSupported_raises wrapped coded _ _ _ _, ?_⟩
  intro text _
  refine (raisesOnly_bind _ _).mpr ⟨parseWarningList_raises bare _, ?_⟩
  intro warnings _
  refine (raisesOnly_bind _ _).mpr ⟨parseArtifacts_raises wrapped bare _, ?_⟩
  intro artifacts _
  refine (raisesOnly_bind _ _).mpr ⟨parseOptionalObject_raises wrapped _ _, ?_⟩
  intro execution _
  have listed := ((requireSupported_ok _ _ _ _ _ _ operation_written).mp operationRead).2
  obtain rfl := List.mem_singleton.mp listed
  exact concluded_raises payload returncode stderr wrapped _ warnings artifacts execution

end Raises

variable {payload result} {status : ResultStatus} {warnings : List String}
  {artifacts : List JsonObject} {execution : Option JsonObject}
  (checked : Checked payload status warnings artifacts execution)

include checked

theorem Checked.readFrom
    (parsed : concluded payload returncode stderr status warnings artifacts execution = .ok result) :
    ReadFrom payload returncode stderr result := by
  cases status with
  | succeeded =>
      obtain ⟨metrics, found, parsed⟩ := (bind_ok _ _ _).mp parsed
      have metricsFound := (requireObject_ok _ _ _).mp found
      obtain rfl := (pure_ok _ _).mp parsed
      refine ⟨checked.status, checked.artifacts, ⟨warnings, checked.warnings, ?_⟩, checked.execution,
        ?_, nofun⟩
      · exact resultWarnings_eq _ _ _ _
      · intro _
        exact ⟨metrics, _, metricsFound, rfl, rfl, rfl, rfl,
          buildSuccessSummary_lookup checked.operation checked.execution metricsFound⟩
  | failed =>
      obtain ⟨error, found, parsed⟩ := (bind_ok _ _ _).mp parsed
      obtain ⟨message, messageFound, parsed⟩ := (bind_ok _ _ _).mp parsed
      have errorFound := (requireObject_ok _ _ _).mp found
      obtain rfl := (pure_ok _ _).mp parsed
      refine ⟨checked.status, checked.artifacts, ⟨warnings, checked.warnings, ?_⟩, checked.execution,
        nofun, ?_⟩
      · exact resultWarnings_eq _ _ _ _
      · intro _
        exact ⟨error, message, _, errorFound, rfl, ((requireString_ok _ _ _ _).mp messageFound).1,
          rfl, rfl, rfl, buildFailureSummary_lookup checked.operation checked.execution errorFound⟩

theorem Checked.concludes :
    (∃ result, concluded payload returncode stderr status warnings artifacts execution =
        .ok result) ↔ EpisodeBatchPayload payload := by
  have executionShape : payload.get "execution" = .null ∨
      ∃ execution, payload.get "execution" = .obj execution := by
    rw [checked.execution]
    cases execution with
    | none => exact Or.inl rfl
    | some execution => exact Or.inr ⟨execution, rfl⟩
  constructor
  · intro given
    rcases given with ⟨result, parsed⟩
    refine ⟨checked.schemaVersion, checked.operation, ⟨status, checked.status⟩,
      ⟨warnings, checked.warnings⟩, ⟨artifacts, checked.artifacts⟩, executionShape, ?_, ?_⟩
    · intro succeeded
      rw [checked.status] at succeeded
      cases status with
      | succeeded =>
          obtain ⟨metrics, found, _⟩ := (bind_ok _ _ _).mp parsed
          exact ⟨metrics, (requireObject_ok _ _ _).mp found⟩
      | failed => simp [ResultStatus.text] at succeeded
    · intro failed
      rw [checked.status] at failed
      cases status with
      | succeeded => simp [ResultStatus.text] at failed
      | failed =>
          obtain ⟨error, found, parsed⟩ := (bind_ok _ _ _).mp parsed
          obtain ⟨message, messageFound, _⟩ := (bind_ok _ _ _).mp parsed
          exact ⟨error, message, (requireObject_ok _ _ _).mp found,
            (requireString_ok _ _ _ _).mp messageFound⟩
  · intro accepted
    cases status with
    | succeeded =>
        obtain ⟨metrics, found⟩ := accepted.metrics checked.status
        exact ⟨_, (bind_ok _ _ _).mpr ⟨metrics, (requireObject_ok _ _ _).mpr found, rfl⟩⟩
    | failed =>
        obtain ⟨error, message, found, messageFound⟩ := accepted.error checked.status
        exact ⟨_, (bind_ok _ _ _).mpr ⟨error, (requireObject_ok _ _ _).mpr found,
          (bind_ok _ _ _).mpr ⟨message, (requireString_ok _ _ _ _).mpr messageFound, rfl⟩⟩⟩

end Payload

theorem EpisodeBatchPayload.checked {payload : JsonObject} (accepted : EpisodeBatchPayload payload) :
    ∃ status warnings artifacts execution, Checked payload status warnings artifacts execution := by
  obtain ⟨status, statusFound⟩ := accepted.status
  obtain ⟨warnings, warningsFound⟩ := accepted.warnings
  obtain ⟨artifacts, artifactsFound⟩ := accepted.artifacts
  rcases accepted.execution with absent | ⟨execution, found⟩
  · exact ⟨status, warnings, artifacts, none, accepted.schemaVersion, accepted.operation, statusFound,
      warningsFound, artifactsFound, absent⟩
  · exact ⟨status, warnings, artifacts, some execution, accepted.schemaVersion, accepted.operation,
      statusFound, warningsFound, artifactsFound, found⟩

theorem runnerResult_ok (isPrintable : Char → Bool) (payload : Json) (returncode : Int)
    (stderr : String) (result : RunnerResult) :
    runnerResultFromEpisodeBatchPayload isPrintable payload returncode stderr = .ok result ↔
      ∃ members, payload = .obj members ∧
        episodeBatchResult isPrintable members returncode stderr = .ok result := by
  unfold runnerResultFromEpisodeBatchPayload
  split
  · rename_i members
    simp only [Json.obj.injEq, exists_eq_left']
    cases episodeBatchResult isPrintable members returncode stderr with
    | ok parsed => simp
    | error raised => cases raised <;> simp
  · rename_i noObject
    simp only [reduceCtorEq, false_iff, not_exists, not_and]
    intro members same
    exact absurd same (noObject members)

/-- The parser accepts the payloads of the contract and no other value, and keeps what they hold. -/
theorem payload_contract (isPrintable : Char → Bool) (payload : Json) (returncode : Int)
    (stderr : String) :
    ((∃ result, runnerResultFromEpisodeBatchPayload isPrintable payload returncode stderr =
        .ok result) ↔ ∃ members, payload = .obj members ∧ EpisodeBatchPayload members) ∧
      ∀ result,
        runnerResultFromEpisodeBatchPayload isPrintable payload returncode stderr = .ok result →
          ∃ members, payload = .obj members ∧ ReadFrom members returncode stderr result := by
  refine ⟨⟨?_, ?_⟩, ?_⟩
  · intro given
    rcases given with ⟨result, parsed⟩
    obtain ⟨members, same, parsed⟩ := (runnerResult_ok _ _ _ _ _).mp parsed
    obtain ⟨_, _, _, _, checked, parsed⟩ := (episodeBatchResult_ok _ _ _ _ _).mp parsed
    exact ⟨members, same, (checked.concludes returncode stderr).mp ⟨result, parsed⟩⟩
  · intro given
    rcases given with ⟨members, same, accepted⟩
    obtain ⟨_, _, _, _, checked⟩ := accepted.checked
    obtain ⟨result, parsed⟩ := (checked.concludes returncode stderr).mpr accepted
    exact ⟨result, (runnerResult_ok _ _ _ _ _).mpr ⟨members, same,
      (episodeBatchResult_ok _ _ _ _ _).mpr ⟨_, _, _, _, checked, parsed⟩⟩⟩
  · intro result parsed
    obtain ⟨members, same, parsed⟩ := (runnerResult_ok _ _ _ _ _).mp parsed
    obtain ⟨_, _, _, _, checked, parsed⟩ := (episodeBatchResult_ok _ _ _ _ _).mp parsed
    exact ⟨members, same, checked.readFrom returncode stderr parsed⟩

def failedPayload : JsonObject :=
  [("schema_version", .str runnerSchemaVersion), ("operation", .str episodeBatchOperation),
    ("status", .str "failed"), ("warnings", .arr [.str "slow"]),
    ("error", .obj [("message", .str "no policy")])]

theorem failedPayload_accepted : EpisodeBatchPayload failedPayload where
  schemaVersion := rfl
  operation := rfl
  status := ⟨.failed, rfl⟩
  warnings := ⟨["slow"], Or.inr rfl⟩
  artifacts := ⟨[], Or.inl ⟨rfl, rfl⟩⟩
  execution := Or.inl rfl
  metrics := by
    intro succeeded
    have text : failedPayload.get "status" = .str "failed" := rfl
    rw [text] at succeeded
    simp at succeeded
  error := fun _ => ⟨_, "no policy", rfl, rfl, by decide⟩

theorem payload_contract_failed :
    ∃ result, runnerResultFromEpisodeBatchPayload (fun _ => true) (.obj failedPayload) 2 "" =
        .ok result ∧ ∃ members, Json.obj failedPayload = .obj members ∧
          ReadFrom members 2 "" result := by
  obtain ⟨accepts, keeps⟩ := payload_contract (fun _ => true) (.obj failedPayload) 2 ""
  obtain ⟨result, parsed⟩ := accepts.mpr ⟨failedPayload, rfl, failedPayload_accepted⟩
  exact ⟨result, parsed, keeps result parsed⟩

end SoloWargame

end Evalynx
