import Evalynx.Checking
import Evalynx.FileSystem
import Evalynx.SoloWargame

/-! The validation half of `app/runners/solo_wargame.py`. -/

namespace Evalynx

open Posix Checking

namespace SoloWargame

def supportedBuiltinPolicies : List String := ["exact_guided_heuristic", "heuristic", "random"]

/-- A `RunnerConfigValidationError` is the caller's, any other exception leaves the runner as it is. -/
def asConfigError : PayloadError → ConfigError
  | .config message => .validation message
  | .execution error => .crashed error.message

def shared {α : Type} (checked : Except PayloadError α) : Except ConfigError α :=
  checked.mapError asConfigError

def pathlib {α : Type} (called : Except String α) : Except ConfigError α :=
  called.mapError .crashed

section Checks

variable (isPrintable : Char → Bool)

def reprList (texts : List String) : String :=
  ", ".intercalate (texts.map (PyText.repr isPrintable))

def rejectUnknownKeys (mapping : JsonObject) (allowed : List String) (fieldName : String) :
    Except ConfigError Unit :=
  let unknown := (mapping.keys.filter (fun key => key ∉ allowed)).insertionSort (· ≤ ·)
  let unknownList := reprList isPrintable unknown
  raiseIf (unknown ≠ []) (.validation s!"{fieldName} includes unsupported keys: {unknownList}")

def requirePlainInt (value : Json) (fieldName : String) : Except ConfigError Int :=
  match value with
  | .int value => return value
  | _ => throw (.validation s!"{fieldName} must be an integer")

def requireInt (mapping : JsonObject) (fieldName parent : String) : Except ConfigError Int :=
  requirePlainInt (mapping.get fieldName) s!"{parent}.{fieldName}"

def parseOptionalBool (value : Json) (fieldName : String) (default : Bool) :
    Except ConfigError Bool :=
  match value with
  | .null => return default
  | .bool value => return value
  | _ => throw (.validation s!"{fieldName} must be a boolean")

def parsePolicy (value : Json) : Except ConfigError JsonObject := do
  let policy ← shared (requireObject value "config.policy")
  rejectUnknownKeys isPrintable policy ["kind", "name"] "config.policy"
  let kind ← shared (requireString policy "kind" "config.policy")
  raiseIf (kind ≠ "builtin") (.validation "config.policy.kind must be 'builtin'")
  let name ← shared (requireString policy "name" "config.policy")
  let supportedNames := reprList isPrintable supportedBuiltinPolicies
  raiseIf (name ∉ supportedBuiltinPolicies)
    (.validation s!"config.policy.name must be one of {supportedNames}")
  return [("kind", .str kind), ("name", .str name)]

def parseSeeds (value : Json) : Except ConfigError (List Int) :=
  match value with
  | .arr items =>
      readAll (fun index seed => requirePlainInt seed s!"config.seed_spec.seeds[{index}]") 0
        items
  | _ => throw (.validation "config.seed_spec.seeds must be an array")

def parseSeedSpec (value : Json) : Except ConfigError JsonObject := do
  let seedSpec ← shared (requireObject value "config.seed_spec")
  let kind ← shared (requireString seedSpec "kind" "config.seed_spec")
  if kind = "range" then
    rejectUnknownKeys isPrintable seedSpec ["kind", "start", "stop"] "config.seed_spec"
    let start ← requireInt seedSpec "start" "config.seed_spec"
    let stop ← requireInt seedSpec "stop" "config.seed_spec"
    raiseIf (stop ≤ start)
      (.validation "config.seed_spec.stop must be greater than config.seed_spec.start")
    return [("kind", .str kind), ("start", .int start), ("stop", .int stop)]
  else if kind = "list" then
    rejectUnknownKeys isPrintable seedSpec ["kind", "seeds"] "config.seed_spec"
    let seeds ← parseSeeds (seedSpec.get "seeds")
    raiseIf (seeds = []) (.validation "config.seed_spec.seeds must not be empty")
    return [("kind", .str kind), ("seeds", .arr (seeds.map .int))]
  else throw (.validation "config.seed_spec.kind must be 'range' or 'list'")

end Checks

section Paths

variable (fs : FileSystem)

def pathExists (path : PurePath) : Except ConfigError Bool := do
  let found ← pathlib (fs.stat path)
  return found.isSome

def isKind (path : PurePath) (kind : FileKind) : Except ConfigError Bool := do
  let found ← pathlib (fs.stat path)
  return found = some kind

def existsAs (path : PurePath) (kind : FileKind) : Except ConfigError Bool := do
  let found ← pathExists fs path
  if found then isKind fs path kind else return false

def normalizeRepoRelativePath (value : String) (repoPath : PurePath) (fieldName : String) :
    Except ConfigError PurePath := do
  let candidate ← pathlib ((PurePath.parse value).expandUser fs)
  let resolved ←
    pathlib (fs.resolve (if candidate.isAbsolute then candidate else repoPath.join candidate))
  raiseIf (resolved.relativeTo repoPath = none)
    (.validation s!"{fieldName} must resolve inside the configured solo_wargame repo")
  return resolved

def relativeText (path base : PurePath) : Except ConfigError String :=
  match path.relativeTo base with
  | some relative => return relative.asPosix
  | none => throw (.crashed "path is not in the subpath of the base")

def normalizeSoloWargameConfig (isPrintable : Char → Bool) (repoPath : Option PurePath)
    (config : JsonObject) : Except ConfigError JsonObject :=
  match repoPath with
  | none => throw (.validation "solo_wargame repo path is not configured.")
  | some repoPath => do
      let resolvedRepoPath ← pathlib (fs.resolve repoPath)
      let isRepo ← existsAs fs resolvedRepoPath .directory
      let shown := resolvedRepoPath.asPosix
      raiseIf (isRepo = false) (.validation s!"solo_wargame repo path does not exist: {shown}")
      rejectUnknownKeys isPrintable config
        ["mission_path", "policy", "seed_spec", "write_episode_rows"] "config"
      let missionPathValue ← shared (requireString config "mission_path" "config")
      let missionPath ←
        normalizeRepoRelativePath fs missionPathValue resolvedRepoPath "config.mission_path"
      let isMission ← existsAs fs missionPath .regular
      raiseIf (isMission = false) (.validation
        ("config.mission_path was not found in the configured solo_wargame repo: " ++
          missionPathValue))
      let policy ← parsePolicy isPrintable (config.get "policy")
      let seedSpec ← parseSeedSpec isPrintable (config.get "seed_spec")
      let writeEpisodeRows ←
        parseOptionalBool (config.get "write_episode_rows") "config.write_episode_rows" false
      let stored ← relativeText missionPath resolvedRepoPath
      return [
        ("mission_path", .str stored),
        ("policy", .obj policy),
        ("seed_spec", .obj seedSpec),
        ("write_episode_rows", .bool writeEpisodeRows)]

end Paths

end SoloWargame

/-- `SoloWargameRunner.normalize_config`, with what `pathlib` finds. -/
def SoloWargameRunner.normalizeConfig (self : SoloWargameRunner) (fs : FileSystem)
    (config : JsonObject) : Except ConfigError JsonObject :=
  SoloWargame.normalizeSoloWargameConfig fs self.isPrintable (self.repoPath.map PurePath.parse) config

end Evalynx
