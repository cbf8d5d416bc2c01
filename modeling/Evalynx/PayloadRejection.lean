import Evalynx.PayloadContract

namespace Evalynx

open Checking

namespace SoloWargame

/-- What the `result_error` of a rejected payload is to say. -/
def Uniform (returncode : Int) (error : RunnerExecutionError) : Prop :=
  ∃ members : JsonObject, error.resultError = some members ∧
    members.get "kind" = .str "result_validation_error" ∧
    members.get "message" = .str error.message ∧
    members.get "returncode" = .int returncode

def Reported (returncode : Int) : PayloadError → Prop
  | .config _ => True
  | .execution error => Uniform returncode error

structure Headed (payload : JsonObject) : Prop where
  schemaVersion : payload.get "schema_version" = .str runnerSchemaVersion
  operation : payload.get "operation" = .str episodeBatchOperation
  status : ∃ status : ResultStatus, payload.get "status" = .str status.text

/-- Behind a good header the warnings are strings and the artifacts are an array, if there are
any. -/
def ListsFit (payload : Json) : Prop :=
  ∀ members : JsonObject, payload = .obj members → Headed members →
    (∃ warnings : List String, ListsOptionally .str (members.get "warnings") warnings) ∧
      (members.get "artifacts" = .null ∨ ∃ items, members.get "artifacts" = .arr items)

theorem validationError_uniform (message : String) (returncode : Int) :
    Uniform returncode (validationError message [("returncode", .int returncode)]) :=
  ⟨_, rfl, rfl, rfl, rfl⟩

theorem validationError_bare (message : String) (returncode : Int) :
    ¬ Uniform returncode (validationError message []) := by
  intro uniform
  rcases uniform with ⟨members, same, _, _, code⟩
  cases same
  have absent : JsonObject.get (errorObject "result_validation_error" message []) "returncode" = .null :=
    rfl
  rw [absent] at code
  cases code

variable (returncode : Int)

theorem config_reported (message : String) : Reported returncode (.config message) := trivial

theorem coded_reported (message : String) :
    Reported returncode
      (.execution (validationError message [("returncode", .int returncode)])) :=
  validationError_uniform message returncode

theorem bare_unreported (message : String) :
    ¬ Reported returncode (.execution (validationError message [])) :=
  validationError_bare message returncode

theorem parseWarningList_reported (value : Json) :
    RaisesOnly (Reported returncode) (parseWarningList value) ↔
      ∃ warnings : List String, ListsOptionally .str value warnings := by
  have never : RaisesOnly (fun error => ¬ Reported returncode error) (parseWarningList value) :=
    parseWarningList_raises (bare_unreported returncode) value
  rw [raisesOnly_iff_ok never]
  simp only [parseWarningList_ok]

/-- An item of the artifacts is reported like any other member, an artifacts value that is no array
is not. -/
theorem parseArtifacts_reported (value : Json) :
    RaisesOnly (Reported returncode) (parseArtifacts value) ↔
      value = .null ∨ ∃ items, value = .arr items := by
  unfold parseArtifacts
  split
  · exact ⟨fun _ => Or.inl rfl, fun _ => raisesOnly_pure []⟩
  · rename_i items
    constructor
    · intro _
      exact Or.inr ⟨items, rfl⟩
    · intro _
      exact parseArtifactItems_raises (config_reported returncode) items
  · rename_i noNull noArray
    constructor
    · intro raises
      exact absurd ((raisesOnly_error _).mp raises) (bare_unreported returncode _)
    · intro given
      rcases given with null | ⟨items, array⟩
      · exact absurd null noNull
      · exact absurd array (noArray items)

theorem episodeBatchResult_headed (isPrintable : Char → Bool) {payload : JsonObject}
    (headed : Headed payload) (stderr : String) :
    RaisesOnly (Reported returncode) (episodeBatchResult isPrintable payload returncode stderr) ↔
      (∃ warnings : List String, ListsOptionally .str (payload.get "warnings") warnings) ∧
        (payload.get "artifacts" = .null ∨ ∃ items, payload.get "artifacts" = .arr items) := by
  rcases headed with ⟨version, operation, status, statusFound⟩
  have versionRead := (requireSupported_ok isPrintable payload "schema_version" _ returncode _
    version_written).mpr ⟨version, List.mem_singleton.mpr rfl⟩
  have operationRead := (requireSupported_ok isPrintable payload "operation" _ returncode _
    operation_written).mpr ⟨operation, List.mem_singleton.mpr rfl⟩
  have statusRead := (requireSupported_ok isPrintable payload "status" _ returncode _
    supported_written).mpr ⟨statusFound, statusText_mem status⟩
  unfold episodeBatchResult
  rw [raisesOnly_read versionRead, raisesOnly_read operationRead, raisesOnly_read statusRead,
    statusText_read, raisesOnly_bind, parseWarningList_reported]
  constructor
  · intro given
    rcases given with ⟨⟨warnings, listed⟩, rest⟩
    have artifacts := rest warnings ((parseWarningList_ok _ _).mpr listed)
    rw [raisesOnly_bind, parseArtifacts_reported] at artifacts
    exact ⟨⟨warnings, listed⟩, artifacts.1⟩
  · intro given
    refine ⟨given.1, ?_⟩
    intro warnings _
    refine (raisesOnly_bind _ _).mpr ⟨(parseArtifacts_reported returncode _).mpr given.2, ?_⟩
    intro artifacts _
    refine (raisesOnly_bind _ _).mpr
      ⟨parseOptionalObject_raises (config_reported returncode) _ _, ?_⟩
    intro execution _
    exact concluded_raises payload returncode stderr (config_reported returncode) status warnings
      artifacts execution

theorem episodeBatchResult_unheaded (isPrintable : Char → Bool) {payload : JsonObject}
    (unheaded : ¬ Headed payload) (stderr : String) :
    RaisesOnly (Reported returncode)
      (episodeBatchResult isPrintable payload returncode stderr) := by
  have read (fieldName : String) (supported : List String) :
      RaisesOnly (Reported returncode)
        (requireSupported isPrintable payload fieldName supported returncode) :=
    requireSupported_raises (config_reported returncode) (coded_reported returncode) _ _ _ _
  unfold episodeBatchResult
  refine (raisesOnly_bind _ _).mpr ⟨read _ _, ?_⟩
  intro version versionRead
  refine (raisesOnly_bind _ _).mpr ⟨read _ _, ?_⟩
  intro operation operationRead
  refine (raisesOnly_bind _ _).mpr ⟨read _ _, ?_⟩
  intro text statusRead
  obtain ⟨versionFound, versionListed⟩ :=
    (requireSupported_ok _ _ _ _ _ _ version_written).mp versionRead
  obtain ⟨operationFound, operationListed⟩ :=
    (requireSupported_ok _ _ _ _ _ _ operation_written).mp operationRead
  obtain ⟨statusFound, statusListed⟩ :=
    (requireSupported_ok _ _ _ _ _ _ supported_written).mp statusRead
  obtain rfl := List.mem_singleton.mp versionListed
  obtain rfl := List.mem_singleton.mp operationListed
  rcases mem_statusTexts statusListed with ⟨status, rfl⟩
  exact absurd ⟨versionFound, operationFound, status, statusFound⟩ unheaded

theorem episodeBatchResult_reported (isPrintable : Char → Bool) (payload : JsonObject)
    (stderr : String) :
    RaisesOnly (Reported returncode) (episodeBatchResult isPrintable payload returncode stderr) ↔
      ListsFit (.obj payload) := by
  by_cases headed : Headed payload
  · rw [episodeBatchResult_headed returncode isPrintable headed stderr]
    constructor
    · intro fit members same _
      cases same
      exact fit
    · intro fit
      exact fit payload rfl headed
  · constructor
    · intro _ members same also
      cases same
      exact absurd also headed
    · intro _
      exact episodeBatchResult_unheaded returncode isPrintable headed stderr

/-- A rejected payload is reported with its kind, message and return code unless its lists do not
fit. -/
theorem rejection_uniform (isPrintable : Char → Bool) (payload : Json) (stderr : String) :
    (∀ error, runnerResultFromEpisodeBatchPayload isPrintable payload returncode stderr =
        .error error → Uniform returncode error) ↔ ListsFit payload := by
  cases payload with
  | obj payload =>
      rw [← episodeBatchResult_reported returncode isPrintable payload stderr]
      simp only [runnerResultFromEpisodeBatchPayload]
      cases episodeBatchResult isPrintable payload returncode stderr with
      | ok result =>
          constructor
          · intro _
            exact raisesOnly_ok result
          · intro _ error raised
            cases raised
      | error raised =>
          rw [raisesOnly_error]
          cases raised with
          | config message =>
              constructor
              · intro _
                trivial
              · intro _ error raised
                cases raised
                exact validationError_uniform message returncode
          | execution error =>
              constructor
              · intro uniform
                exact uniform error rfl
              · intro uniform other raised
                cases raised
                exact uniform
  | null | bool | int | float | str | arr =>
      constructor
      · intro _ members same
        cases same
      · intro _ error raised
        cases raised
        exact validationError_uniform _ returncode

def warnedPayload : JsonObject :=
  [("schema_version", .str runnerSchemaVersion), ("operation", .str episodeBatchOperation),
    ("status", .str "succeeded"), ("warnings", .str "slow"), ("metrics", .obj [])]

theorem rejection_uniform_fails :
    ∃ error, runnerResultFromEpisodeBatchPayload (fun _ => true) (.obj warnedPayload) 3 "" =
        .error error ∧ ¬ Uniform 3 error :=
  ⟨_, rfl, validationError_bare _ 3⟩

end SoloWargame

end Evalynx
