import Evalynx.Resubmission

namespace Evalynx

open Posix Checking SoloWargame

def ConfigError.IsValidation : ConfigError → Prop
  | .validation _ => True
  | .crashed _ => False

namespace SoloWargame

/-- The calls of `pathlib` a config leads to return: `resolve` and `exists` on the repo, and, when
the checks in between pass, `expanduser` and `resolve` on the mission path, and `exists` on what it
resolves to when that is inside the repo. -/
def PathsAnswer (fs : FileSystem) (repoPath : Option PurePath) (config : JsonObject) : Prop :=
  ∀ path, repoPath = some path → ∃ repo, fs.resolve path = .ok repo ∧
    ∃ found, fs.stat repo = .ok found ∧
      (found = some .directory →
        (∀ key ∈ config.keys, key ∈ ["mission_path", "policy", "seed_spec", "write_episode_rows"]) →
        ∀ text, config.get "mission_path" = .str text → PyText.isBlank text = false →
          ∃ candidate, (PurePath.parse text).expandUser fs = .ok candidate ∧
            ∃ file, fs.resolve (repo.join candidate) = .ok file ∧
              (repo.Inside file → ∃ entry, fs.stat file = .ok entry))

theorem shared_answers {α : Type} {checked : Except PayloadError α}
    (raises : RaisesOnly (fun error => (asConfigError error).IsValidation) checked) :
    RaisesOnly ConfigError.IsValidation (shared checked) :=
  (raisesOnly_mapError asConfigError checked).mpr raises

theorem config_validation (message : String) :
    (asConfigError (.config message)).IsValidation := trivial

theorem validation_answers {α : Type} (message : String) :
    RaisesOnly ConfigError.IsValidation (.error (.validation message) : Except ConfigError α) :=
  (raisesOnly_error _).mpr trivial

theorem pathlib_answers {α : Type} (called : Except String α) :
    RaisesOnly ConfigError.IsValidation (pathlib called) ↔ ∃ value, called = .ok value := by
  have never : RaisesOnly (fun error => ¬ error.IsValidation) (pathlib called) := by
    refine (raisesOnly_mapError ConfigError.crashed called).mpr ?_
    intro text _ validation
    exact validation
  rw [raisesOnly_iff_ok never]
  simp only [pathlib_ok]

section Checks

variable (isPrintable : Char → Bool)

theorem requirePlainInt_answers (value : Json) (fieldName : String) :
    RaisesOnly ConfigError.IsValidation (requirePlainInt value fieldName) := by
  cases value with
  | int value => exact raisesOnly_pure value
  | null | bool | float | str | arr | obj => exact validation_answers _

theorem parseOptionalBool_answers (value : Json) (fieldName : String) (default : Bool) :
    RaisesOnly ConfigError.IsValidation (parseOptionalBool value fieldName default) := by
  cases value with
  | null => exact raisesOnly_pure default
  | bool value => exact raisesOnly_pure value
  | int | float | str | arr | obj => exact validation_answers _

theorem parseSeeds_answers (value : Json) :
    RaisesOnly ConfigError.IsValidation (parseSeeds value) := by
  cases value with
  | arr items => exact raisesOnly_readAll (fun _ _ => requirePlainInt_answers _ _) 0 items
  | null | bool | int | float | str | obj => exact validation_answers _

theorem rejectUnknownKeys_answers (mapping : JsonObject) (allowed : List String)
    (fieldName : String) :
    RaisesOnly ConfigError.IsValidation (rejectUnknownKeys isPrintable mapping allowed fieldName) :=
  raisesOnly_raiseIf _ trivial

theorem object_answers (value : Json) (fieldName : String) :
    RaisesOnly ConfigError.IsValidation (shared (requireObject value fieldName)) :=
  shared_answers (requireObject_raises config_validation value fieldName)

theorem string_answers (mapping : JsonObject) (fieldName parent : String) :
    RaisesOnly ConfigError.IsValidation (shared (requireString mapping fieldName parent)) :=
  shared_answers (requireString_raises config_validation mapping fieldName parent)

theorem parsePolicy_answers (value : Json) :
    RaisesOnly ConfigError.IsValidation (parsePolicy isPrintable value) := by
  refine (raisesOnly_bind _ _).mpr ⟨object_answers _ _, ?_⟩
  intro policy _
  refine (raisesOnly_bind _ _).mpr ⟨rejectUnknownKeys_answers isPrintable _ _ _, ?_⟩
  intro _ _
  refine (raisesOnly_bind _ _).mpr ⟨string_answers _ _ _, ?_⟩
  intro kind _
  refine (raisesOnly_bind _ _).mpr ⟨raisesOnly_raiseIf _ trivial, ?_⟩
  intro _ _
  refine (raisesOnly_bind _ _).mpr ⟨string_answers _ _ _, ?_⟩
  intro name _
  refine (raisesOnly_bind _ _).mpr ⟨raisesOnly_raiseIf _ trivial, ?_⟩
  intro _ _
  exact raisesOnly_pure _

theorem parseSeedSpec_answers (value : Json) :
    RaisesOnly ConfigError.IsValidation (parseSeedSpec isPrintable value) := by
  refine (raisesOnly_bind _ _).mpr ⟨object_answers _ _, ?_⟩
  intro seedSpec _
  refine (raisesOnly_bind _ _).mpr ⟨string_answers _ _ _, ?_⟩
  intro kind _
  split
  · refine (raisesOnly_bind _ _).mpr ⟨rejectUnknownKeys_answers isPrintable _ _ _, ?_⟩
    intro _ _
    refine (raisesOnly_bind _ _).mpr ⟨requirePlainInt_answers _ _, ?_⟩
    intro start _
    refine (raisesOnly_bind _ _).mpr ⟨requirePlainInt_answers _ _, ?_⟩
    intro stop _
    refine (raisesOnly_bind _ _).mpr ⟨raisesOnly_raiseIf _ trivial, ?_⟩
    intro _ _
    exact raisesOnly_pure _
  · split
    · refine (raisesOnly_bind _ _).mpr ⟨rejectUnknownKeys_answers isPrintable _ _ _, ?_⟩
      intro _ _
      refine (raisesOnly_bind _ _).mpr ⟨parseSeeds_answers _, ?_⟩
      intro seeds _
      refine (raisesOnly_bind _ _).mpr ⟨raisesOnly_raiseIf _ trivial, ?_⟩
      intro _ _
      exact raisesOnly_pure _
    · exact validation_answers _

end Checks

section Paths

variable (fs : FileSystem)

theorem existsAs_answers (path : PurePath) (kind : FileKind) :
    RaisesOnly ConfigError.IsValidation (existsAs fs path kind) ↔
      ∃ entry, fs.stat path = .ok entry := by
  constructor
  · intro raises
    have asked := ((raisesOnly_bind _ _).mp raises).1
    exact (pathlib_answers _).mp ((raisesOnly_bind _ _).mp asked).1
  · intro answered
    have asked := (pathlib_answers (fs.stat path)).mpr answered
    refine (raisesOnly_bind _ _).mpr ⟨?_, ?_⟩
    · refine (raisesOnly_bind _ _).mpr ⟨asked, ?_⟩
      intro entry _
      exact raisesOnly_pure _
    · intro found _
      cases found with
      | false => exact raisesOnly_pure false
      | true =>
          refine (raisesOnly_bind _ _).mpr ⟨asked, ?_⟩
          intro entry _
          exact raisesOnly_pure _

theorem normalizeRepoRelativePath_answers (value : String) (repo : PurePath) (fieldName : String) :
    RaisesOnly ConfigError.IsValidation (normalizeRepoRelativePath fs value repo fieldName) ↔
      ∃ candidate, (PurePath.parse value).expandUser fs = .ok candidate ∧
        ∃ file, fs.resolve (repo.join candidate) = .ok file := by
  constructor
  · intro raises
    obtain ⟨expands, rest⟩ := (raisesOnly_bind _ _).mp raises
    rcases (pathlib_answers _).mp expands with ⟨candidate, expanded⟩
    refine ⟨candidate, expanded, ?_⟩
    have resolves := ((raisesOnly_bind _ _).mp (rest candidate ((pathlib_ok _ _).mpr expanded))).1
    rw [PurePath.join_candidate] at resolves
    exact (pathlib_answers _).mp resolves
  · intro given
    rcases given with ⟨candidate, expanded, file, resolved⟩
    refine (raisesOnly_read ((pathlib_ok _ _).mpr expanded) _).mpr ?_
    rw [PurePath.join_candidate]
    refine (raisesOnly_bind _ _).mpr ⟨(pathlib_answers _).mpr ⟨file, resolved⟩, ?_⟩
    intro other _
    refine (raisesOnly_bind _ _).mpr ⟨raisesOnly_raiseIf _ trivial, ?_⟩
    intro _ _
    exact raisesOnly_pure other

end Paths

section Config

variable (fs : FileSystem) (isPrintable : Char → Bool)

theorem relativeText_answers {file repo : PurePath} (inside : repo.Inside file) :
    RaisesOnly ConfigError.IsValidation (relativeText file repo) := by
  cases stored : file.relativeTo repo with
  | none => exact absurd inside ((PurePath.relativeTo_eq_none _ _).mp stored)
  | some relative =>
      rw [relativeText, stored]
      exact raisesOnly_pure _

theorem normalize_answers (repoPath : Option PurePath) (config : JsonObject) :
    RaisesOnly ConfigError.IsValidation
        (normalizeSoloWargameConfig fs isPrintable repoPath config) ↔
      PathsAnswer fs repoPath config := by
  cases repoPath with
  | none =>
      constructor
      · intro _ path same
        cases same
      · intro _
        exact validation_answers _
  | some path =>
  constructor
  · intro raises other same
    cases same
    obtain ⟨resolves, raises⟩ := (raisesOnly_bind _ _).mp raises
    rcases (pathlib_answers _).mp resolves with ⟨repo, resolved⟩
    have raises := raises repo ((pathlib_ok _ _).mpr resolved)
    obtain ⟨asked, raises⟩ := (raisesOnly_bind _ _).mp raises
    rcases (existsAs_answers fs _ _).mp asked with ⟨found, entry⟩
    refine ⟨repo, resolved, found, entry, ?_⟩
    intro directory known text textFound written
    have isRepo := (existsAs_ok fs _ _).mpr (directory ▸ entry)
    have raises := raises true isRepo
    rw [raisesOnly_read ((raiseIf_ok _ _ ()).mpr (by simp)),
      raisesOnly_read ((rejectUnknownKeys_ok isPrintable _ _ _ ()).mpr known),
      raisesOnly_read ((shared_ok _ _).mpr ((requireString_ok _ _ _ _).mpr ⟨textFound, written⟩)),
      raisesOnly_bind, normalizeRepoRelativePath_answers] at raises
    obtain ⟨⟨candidate, expanded, file, resolvedFile⟩, raises⟩ := raises
    refine ⟨candidate, expanded, file, resolvedFile, ?_⟩
    intro inside
    have raises := raises file ((normalizeRepoRelativePath_ok fs _ _ _ _).mpr
      ⟨⟨candidate, expanded, resolvedFile⟩, inside⟩)
    exact (existsAs_answers fs _ _).mp ((raisesOnly_bind _ _).mp raises).1
  · intro answers
    obtain ⟨repo, resolved, found, entry, mission⟩ := answers path rfl
    refine (raisesOnly_read ((pathlib_ok _ _).mpr resolved) _).mpr ?_
    refine (raisesOnly_bind _ _).mpr ⟨(existsAs_answers fs _ _).mpr ⟨found, entry⟩, ?_⟩
    intro isRepo repoAsked
    refine (raisesOnly_bind _ _).mpr ⟨raisesOnly_raiseIf _ trivial, ?_⟩
    intro _ repoPassed
    have isRepoTrue : isRepo = true := by simpa using (raiseIf_ok _ _ _).mp repoPassed
    subst isRepoTrue
    have directory : found = some .directory := by
      rw [(existsAs_ok fs _ _).mp repoAsked] at entry
      exact (Except.ok.inj entry).symm
    refine (raisesOnly_bind _ _).mpr ⟨rejectUnknownKeys_answers isPrintable _ _ _, ?_⟩
    intro _ known
    refine (raisesOnly_bind _ _).mpr ⟨string_answers _ _ _, ?_⟩
    intro text textRead
    obtain ⟨textFound, written⟩ := (requireString_ok _ _ _ _).mp ((shared_ok _ _).mp textRead)
    obtain ⟨candidate, expanded, file, resolvedFile, looked⟩ :=
      mission directory ((rejectUnknownKeys_ok isPrintable _ _ _ _).mp known) text textFound written
    refine (raisesOnly_bind _ _).mpr ⟨(normalizeRepoRelativePath_answers fs _ _ _).mpr
      ⟨candidate, expanded, file, resolvedFile⟩, ?_⟩
    intro kept keptRead
    have inside : repo.Inside kept ∧ kept = file := by
      obtain ⟨⟨other, otherExpanded, otherResolved⟩, within⟩ :=
        (normalizeRepoRelativePath_ok fs _ _ _ _).mp keptRead
      rw [expanded] at otherExpanded
      obtain rfl := Except.ok.inj otherExpanded
      rw [resolvedFile] at otherResolved
      exact ⟨within, (Except.ok.inj otherResolved).symm⟩
    obtain ⟨within, rfl⟩ := inside
    refine (raisesOnly_bind _ _).mpr ⟨(existsAs_answers fs _ _).mpr (looked within), ?_⟩
    intro isMission _
    refine (raisesOnly_bind _ _).mpr ⟨raisesOnly_raiseIf _ trivial, ?_⟩
    intro _ _
    refine (raisesOnly_bind _ _).mpr ⟨parsePolicy_answers isPrintable _, ?_⟩
    intro policy _
    refine (raisesOnly_bind _ _).mpr ⟨parseSeedSpec_answers isPrintable _, ?_⟩
    intro seedSpec _
    refine (raisesOnly_bind _ _).mpr ⟨parseOptionalBool_answers _ _ _, ?_⟩
    intro rows _
    refine (raisesOnly_bind _ _).mpr ⟨relativeText_answers within, ?_⟩
    intro stored _
    exact raisesOnly_pure _

end Config

end SoloWargame

open Relational

def Answered (normalized : Except ConfigError JsonObject) : Prop :=
  (∃ result, normalized = .ok result) ∨ ∃ message, normalized = .error (.validation message)

def Served.Answered (served : Served) : Prop :=
  (∃ runId, served.outcome = .ok runId) ∨ ∃ message, served.outcome = .error (.runConfig message)

theorem answered_iff (normalized : Except ConfigError JsonObject) :
    Answered normalized ↔ RaisesOnly ConfigError.IsValidation normalized := by
  cases normalized with
  | ok result =>
      constructor
      · intro _
        exact raisesOnly_ok result
      · intro _
        exact Or.inl ⟨result, rfl⟩
  | error raised =>
      rw [raisesOnly_error]
      cases raised with
      | validation message =>
          constructor
          · intro _
            trivial
          · intro _
            exact Or.inr ⟨message, rfl⟩
      | crashed message => simp [Answered, ConfigError.IsValidation]

section Call

variable {env : ServiceEnv} {db : Database} {payload : RunCreate} {runner : Runner}
  {project : Project} (quiet : ∀ point, env.raises point = none)
  (present : db.projects.get? payload.projectId = some project)
  (registered : env.registry.lookup payload.runnerType = some runner)

include quiet present registered

theorem createRun_answered :
    (createRun env db payload).Answered ↔ Answered (runner.normalizeConfig payload.config) := by
  cases normalized : runner.normalizeConfig payload.config with
  | ok result =>
      have prepared := (prepareRun_ok env db payload _).mpr
        ⟨project, runner, result, present, registered, normalized, rfl⟩
      have created : (createRun env db payload).outcome = .ok db.runs.next := by
        simp only [createRun, quiet, prepared, commitAndEnqueue]
      constructor
      · intro _
        exact Or.inl ⟨result, rfl⟩
      · intro _
        exact Or.inl ⟨_, created⟩
  | error raised =>
      cases raised with
      | validation message =>
          have prepared : prepareRun env db payload = .error (.runConfig message) := by
            simp only [prepareRun, present, registered, normalized]
          have refused : (createRun env db payload).outcome = .error (.runConfig message) := by
            simp only [createRun, quiet, prepared]
          constructor
          · intro _
            exact Or.inr ⟨message, rfl⟩
          · intro _
            exact Or.inr ⟨message, refused⟩
      | crashed message =>
          have prepared : prepareRun env db payload = .error (.crashed message) := by
            simp only [prepareRun, present, registered, normalized]
          have crashed : (createRun env db payload).outcome = .error (.crashed message) := by
            simp only [createRun, quiet, prepared]
          simp [Served.Answered, Answered, crashed]

/-- A config of the wargame runner is answered by both calls exactly when the calls of `pathlib` it
leads to return. -/
theorem config_rejection (self : SoloWargameRunner) (fs : FileSystem)
    (normalizes : runner.normalizeConfig = self.normalizeConfig fs) :
    (Answered (self.normalizeConfig fs payload.config) ∧ (createRun env db payload).Answered) ↔
      PathsAnswer fs (self.repoPath.map PurePath.parse) payload.config := by
  rw [createRun_answered quiet present registered, normalizes, and_self, answered_iff]
  exact normalize_answers fs self.isPrintable (self.repoPath.map PurePath.parse) payload.config

end Call

def homelessEnv : ServiceEnv where
  registry := [(runnerType, tildeRunner.runner (tildeRunner.normalizeConfig missionFiles))]
  sha256 := fun _ => ""
  runCreatedAt := 0
  attemptCreatedAt := 0
  raises := fun _ => none

theorem config_rejection_mission :
    Answered (tildeRunner.normalizeConfig missionFiles (missionConfig "a/../m")) ∧
      (createRun homelessEnv sampleProject (wargameSubmission "a/../m")).Answered := by
  apply (@config_rejection homelessEnv sampleProject (wargameSubmission "a/../m") _ _
    (fun _ => rfl) rfl rfl tildeRunner missionFiles rfl).mpr
  intro path same
  cases same
  refine ⟨.parse "/r", rfl, some .directory, rfl, ?_⟩
  intro _ _ text found _
  cases found
  exact ⟨.parse "a/../m", rfl, .parse "/r/m", rfl, fun _ => ⟨some .regular, rfl⟩⟩

/-- The home of an unknown user: what `expanduser` raises leaves both calls. -/
theorem config_rejection_fails :
    ¬ Answered (tildeRunner.normalizeConfig missionFiles (missionConfig "~x/m")) ∧
      ¬ (createRun homelessEnv sampleProject (wargameSubmission "~x/m")).Answered := by
  have crashed : tildeRunner.normalizeConfig missionFiles (missionConfig "~x/m") =
      .error (.crashed "Could not determine home directory.") := rfl
  have raised : (createRun homelessEnv sampleProject (wargameSubmission "~x/m")).outcome =
      .error (.crashed "Could not determine home directory.") := rfl
  constructor
  · intro answered
    rw [Answered, crashed] at answered
    simp at answered
  · intro answered
    rw [Served.Answered, raised] at answered
    simp at answered

end Evalynx
