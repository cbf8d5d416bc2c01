import Evalynx.ArtifactDirs
import Evalynx.Registry

/-! The settings of `app/core/config.py` and the wargame runner that is built from them. -/

namespace Evalynx

open Posix Checking

abbrev Environ := String → Option String

def Environ.getD (environ : Environ) (name default : String) : String := (environ name).getD default

/-- The words are ASCII, and no other letter has one of their letters as its lower case. -/
def getBoolEnv (environ : Environ) (name : String) (default : Bool) : Bool :=
  match environ name with
  | none => default
  | some value => (PyText.strip value).toLower ∈ ["1", "true", "yes", "on"]

section Int

variable (decimal : Char → Option Nat) (isPrintable : Char → Bool)

/-- `decimal` is the Unicode table behind `int`, past ASCII. -/
def digitValue (c : Char) : Option Nat :=
  if c.isDigit then some (c.toNat - '0'.toNat)
  else if c.toNat < 0x80 then none
  else decimal c

def readDigits : Bool → Nat → List Char → Option Nat
  | true, value, [] => some value
  | false, _, [] => none
  | true, value, '_' :: cs => readDigits false value cs
  | _, value, c :: cs =>
      (digitValue decimal c).bind (fun digit => readDigits true (10 * value + digit) cs)

def pyInt (text : String) : Except String Int :=
  let read := match PyText.stripChars text.toList with
    | '-' :: cs => (readDigits decimal false 0 cs).map (fun value => -(value : Int))
    | '+' :: cs => (readDigits decimal false 0 cs).map (fun value => (value : Int))
    | cs => (readDigits decimal false 0 cs).map (fun value => (value : Int))
  let quoted := PyText.repr isPrintable text
  match read with
  | some value => return value
  | none => throw s!"invalid literal for int() with base 10: {quoted}"

def getIntEnv (environ : Environ) (name : String) (default : Int) : Except String Int :=
  match environ name with
  | none => return default
  | some value => pyInt decimal isPrintable (PyText.strip value)

end Int

def rstripSlash (text : String) : String := String.ofList (text.toList.rdropWhile (· == '/'))

def normalizeApiPrefix (value : String) : String :=
  let stripped := PyText.strip value
  if stripped.isEmpty then ""
  else if stripped.toList.head? = some '/' then rstripSlash stripped
  else "/" ++ rstripSlash stripped

def normalizeRequiredPath (fs : FileSystem) (value : String) : Except String PurePath := do
  let expanded ← (PurePath.parse value).expandUser fs
  fs.resolve expanded

def normalizeOptionalPath (fs : FileSystem) : Option String → Except String (Option PurePath)
  | none => return none
  | some value => do
      let stripped := PyText.strip value
      if stripped.isEmpty then return none
      return some (← normalizeRequiredPath fs stripped)

structure Settings where
  appName : String := "Evalynx"
  environment : String := "development"
  debug : Bool := false
  apiPrefix : String := ""
  databaseUrl : String := "sqlite:///./evalynx.db"
  redisUrl : String := "redis://localhost:6379/0"
  rqQueueName : String := "evalynx-runs"
  rqJobTimeout : Int := 600
  soloWargameRepoPath : Option PurePath := none
  soloWargamePythonCommand : String := ".venv/bin/python"
  artifactRoot : PurePath := .parse "./artifacts"

def getSettings (decimal : Char → Option Nat) (isPrintable : Char → Bool) (fs : FileSystem)
    (environ : Environ) : Except String Settings := do
  let rqJobTimeout ← getIntEnv decimal isPrintable environ "EVALYNX_RQ_JOB_TIMEOUT" 600
  let soloWargameRepoPath ← normalizeOptionalPath fs (environ "EVALYNX_SOLO_WARGAME_REPO_PATH")
  let artifactRoot ← normalizeRequiredPath fs (environ.getD "EVALYNX_ARTIFACT_ROOT" "./artifacts")
  return {
    appName := environ.getD "EVALYNX_APP_NAME" "Evalynx"
    environment := environ.getD "EVALYNX_ENV" "development"
    debug := getBoolEnv environ "EVALYNX_DEBUG" false
    apiPrefix := normalizeApiPrefix (environ.getD "EVALYNX_API_PREFIX" "")
    databaseUrl := environ.getD "EVALYNX_DATABASE_URL" "sqlite:///./evalynx.db"
    redisUrl := environ.getD "EVALYNX_REDIS_URL" "redis://localhost:6379/0"
    rqQueueName := environ.getD "EVALYNX_RQ_QUEUE_NAME" "evalynx-runs"
    rqJobTimeout := rqJobTimeout
    soloWargameRepoPath := soloWargameRepoPath
    soloWargamePythonCommand :=
      environ.getD "EVALYNX_SOLO_WARGAME_PYTHON_COMMAND" ".venv/bin/python"
    artifactRoot := artifactRoot }

/-- What the calls of the wargame runner come to, whichever its arguments are. -/
structure RunnerCalls where
  split : String → Except String (List String)
  prepare : (artifactDir requestFile text : String) → Option SoloWargame.Fault
  invoke : (command : List String) → (workingDirectory : String) →
    Except SoloWargame.Fault SoloWargame.CompletedProcess
  loads : String → Except SoloWargame.LoadsFault Json
  isPrintable : Char → Bool

def SoloWargameRunner.init (calls : RunnerCalls) (fs : FileSystem) (repoPath : Option PurePath)
    (pythonCommand : String) (artifactRoot : PurePath) : Except String SoloWargameRunner := do
  let repoPath ← match repoPath with
    | none => pure none
    | some repoPath => some <$> fs.resolve repoPath
  let artifactRoot ← fs.resolve artifactRoot
  return {
    repoPath := repoPath.map PurePath.asPosix
    artifactRoot := artifactRoot.asPosix
    splitCommand := calls.split pythonCommand
    prepare := calls.prepare
    invoke := calls.invoke
    loads := calls.loads
    isPrintable := calls.isPrintable }

def Settings.soloWargameRunner (settings : Settings) (calls : RunnerCalls) (fs : FileSystem) :
    Except String SoloWargameRunner :=
  SoloWargameRunner.init calls fs settings.soloWargameRepoPath settings.soloWargamePythonCommand
    settings.artifactRoot

theorem partsOf_intercalate {parts : List (List Char)} (proper : ∀ name ∈ parts, IsComponent name) :
    partsOf (['/'].intercalate parts) = parts := by
  induction parts with
  | nil => rfl
  | cons name others ih =>
      have rest := ih (fun other member => proper other (List.mem_cons_of_mem _ member))
      have first := partsOf_component (proper name List.mem_cons_self)
      cases others with
      | nil =>
          rw [List.intercalate_singleton]
          exact first
      | cons next others =>
          rw [List.intercalate_cons_cons, List.append_assoc, List.singleton_append, partsOf_slash,
            first, rest]
          rfl

theorem intercalate_head {parts : List (List Char)} (proper : ∀ name ∈ parts, IsComponent name) :
    (['/'].intercalate parts).head? ≠ some '/' := by
  intro slash
  cases parts with
  | nil => cases slash
  | cons name others =>
      obtain ⟨single, nonempty, -⟩ := proper name List.mem_cons_self
      obtain ⟨c, cs, rfl⟩ := List.exists_cons_of_ne_nil nonempty
      have first : c = '/' := by
        cases others with
        | nil => simpa [List.intercalate_singleton] using slash
        | cons next others => simpa [List.intercalate_cons_cons] using slash
      subst first
      exact single List.mem_cons_self

theorem rootOf_text (root : Root) {rest : List Char} (solid : rest.head? ≠ some '/') :
    PurePath.rootOf (root.text ++ rest) = root := by
  cases root with
  | relative => exact PurePath.rootOf_relative rest solid
  | slash =>
      cases rest with
      | nil => rfl
      | cons c cs =>
          have other : c ≠ '/' := by simpa using solid
          change PurePath.rootOf ('/' :: c :: cs) = .slash
          simp [PurePath.rootOf, other]
  | doubleSlash =>
      cases rest with
      | nil => rfl
      | cons c cs =>
          have other : c ≠ '/' := by simpa using solid
          change PurePath.rootOf ('/' :: '/' :: c :: cs) = .doubleSlash
          simp [PurePath.rootOf, other]

theorem toList_asPosix {path : PurePath} (absolute : path.isAbsolute = true) :
    path.asPosix.toList = path.root.text ++ ['/'].intercalate path.parts := by
  unfold PurePath.asPosix
  split
  · rename_i relative _
    rw [PurePath.isAbsolute, relative] at absolute
    cases absolute
  · exact String.toList_ofList

theorem parse_asPosix_absolute {path : PurePath} (absolute : path.isAbsolute = true) :
    PurePath.parse path.asPosix = path := by
  have text := toList_asPosix absolute
  apply PurePath.ext
  · change PurePath.rootOf path.asPosix.toList = path.root
    rw [text]
    exact rootOf_text path.root (intercalate_head path.components)
  · rw [parts_parse, text]
    have below := partsOf_intercalate path.components
    cases path.root with
    | relative => exact below
    | slash => exact (partsOf_slash [] _).trans below
    | doubleSlash =>
        have first := partsOf_slash [] ('/' :: ['/'].intercalate path.parts)
        exact first.trans ((partsOf_slash [] _).trans below)

theorem asPosix_head {path : PurePath} (absolute : path.isAbsolute = true) :
    path.asPosix.toList.head? = some '/' := by
  rw [toList_asPosix absolute]
  rw [PurePath.isAbsolute] at absolute
  cases root : path.root with
  | relative => simp [root] at absolute
  | slash | doubleSlash => rfl

theorem isAbsolute_parse {text : String} (slash : text.toList.head? = some '/') :
    (PurePath.parse text).isAbsolute = true := by
  cases chars : text.toList with
  | nil => simp [chars] at slash
  | cons c cs =>
      obtain rfl : c = '/' := by simpa [chars] using slash
      have root : PurePath.rootOf ('/' :: cs) ≠ .relative := by
        unfold PurePath.rootOf
        split <;> simp_all
      simpa [PurePath.isAbsolute, PurePath.parse, chars] using root

theorem joinPath_head {parent : String} (slash : parent.toList.head? = some '/') (name : String) :
    (PyText.joinPath parent name).toList.head? = some '/' := by
  cases chars : parent.toList with
  | nil => simp [chars] at slash
  | cons c cs =>
      obtain rfl : c = '/' := by simpa [chars] using slash
      unfold PyText.joinPath
      split <;> simp [chars]

/-- What `include_router` asserts of its prefix. -/
def AcceptedPrefix (text : String) : Prop :=
  text = "" ∨ (text.toList.head? = some '/' ∧ text.toList.getLast? ≠ some '/')

theorem rstripSlash_last (text : String) : (rstripSlash text).toList.getLast? ≠ some '/' := by
  intro last
  rw [rstripSlash, String.toList_ofList] at last
  have nonempty : text.toList.rdropWhile (· == '/') ≠ [] := by
    intro empty
    rw [empty] at last
    cases last
  rw [List.getLast?_eq_some_getLast nonempty, Option.some.injEq] at last
  exact List.rdropWhile_last_not _ _ nonempty (by rw [last]; rfl)

theorem rstripSlash_head (text : String) :
    rstripSlash text = "" ∨ (rstripSlash text).toList.head? = text.toList.head? := by
  rw [rstripSlash, String.toList_ofList]
  obtain ⟨slashes, same⟩ := List.rdropWhile_prefix (· == '/') text.toList
  cases kept : text.toList.rdropWhile (· == '/') with
  | nil => exact Or.inl rfl
  | cons c cs =>
      right
      rw [← same, kept]
      rfl

theorem slash_of_rstripSlash {text : String} (empty : (rstripSlash text).toList = [])
    (nonempty : text ≠ "") : text.toList.head? = some '/' := by
  rw [rstripSlash, String.toList_ofList, List.rdropWhile_eq_nil_iff] at empty
  cases chars : text.toList with
  | nil => exact absurd (String.toList_inj.mp chars) nonempty
  | cons c cs =>
      have slash := empty c (chars ▸ List.mem_cons_self)
      rw [beq_iff_eq] at slash
      rw [slash]
      rfl

theorem normalizeApiPrefix_accepted (value : String) :
    AcceptedPrefix (normalizeApiPrefix value) := by
  unfold normalizeApiPrefix
  have last := rstripSlash_last (PyText.strip value)
  simp only []
  split
  · exact Or.inl rfl
  · rename_i nonempty
    split
    · rename_i slash
      rcases rstripSlash_head (PyText.strip value) with empty | head
      · exact Or.inl empty
      · exact Or.inr ⟨head.trans slash, last⟩
    · rename_i noSlash
      right
      rw [String.toList_append]
      refine ⟨rfl, ?_⟩
      cases left : (rstripSlash (PyText.strip value)).toList with
      | nil => exact absurd (slash_of_rstripSlash left (by simpa using nonempty)) noSlash
      | cons c cs =>
          rw [left] at last
          change ('/' :: c :: cs).getLast? ≠ some '/'
          rwa [List.getLast?_cons_cons]

theorem normalizeRequiredPath_resolved {fs : FileSystem} {value : String} {path : PurePath}
    (normalized : normalizeRequiredPath fs value = .ok path) :
    ∃ given, fs.resolve given = .ok path := by
  obtain ⟨given, -, resolved⟩ := (bind_ok _ _ _).mp normalized
  exact ⟨given, resolved⟩

theorem normalizeOptionalPath_cases {fs : FileSystem} {value : Option String}
    {path : Option PurePath} (normalized : normalizeOptionalPath fs value = .ok path) :
    ((∀ text, value = some text → PyText.isBlank text = true) ∧ path = none) ∨
      ((∃ text, value = some text ∧ PyText.isBlank text = false) ∧
        ∃ given resolved, path = some resolved ∧ fs.resolve given = .ok resolved) := by
  cases value with
  | none =>
      obtain rfl := Except.ok.inj normalized
      exact Or.inl ⟨nofun, rfl⟩
  | some text =>
      rw [normalizeOptionalPath] at normalized
      cases blank : PyText.isBlank text with
      | true =>
          left
          rw [if_pos (show (PyText.strip text).isEmpty = true from blank)] at normalized
          obtain rfl := Except.ok.inj normalized
          exact ⟨fun other same => Option.some.inj same ▸ blank, rfl⟩
      | false =>
          right
          rw [if_neg (ne_true_of_eq_false (show (PyText.strip text).isEmpty = false from blank))]
            at normalized
          cases required : normalizeRequiredPath fs (PyText.strip text) with
          | error message =>
              rw [required] at normalized
              cases normalized
          | ok resolved =>
              rw [required] at normalized
              obtain rfl := Except.ok.inj normalized
              obtain ⟨given, same⟩ := normalizeRequiredPath_resolved required
              exact ⟨⟨text, rfl, blank⟩, given, resolved, rfl, same⟩

/-- The configs are checked against the directory the subprocess starts in, and what the runner
writes has one place whichever that directory is. -/
structure SoloWargameRunner.Configured (runner : SoloWargameRunner) (fs : FileSystem)
    (repoPath : Option PurePath) : Prop where
  checked : runner.repoPath.map PurePath.parse = repoPath
  resolved : ∀ repo, repoPath = some repo →
    runner.repoPath = some repo.asPosix ∧ fs.resolve repo = .ok repo
  artifactDir : ∀ run attempt, (PurePath.parse (runner.artifactDir run attempt)).isAbsolute = true
  requestFile : ∀ run attempt, (PurePath.parse (runner.requestFile run attempt)).isAbsolute = true

theorem init_configured {fs : FileSystem} (lawful : fs.Lawful) (calls : RunnerCalls)
    {repoPath : Option PurePath} (pythonCommand : String) {artifactRoot : PurePath}
    (repo : ∀ path, repoPath = some path → ∃ given, fs.resolve given = .ok path)
    (root : ∃ given, fs.resolve given = .ok artifactRoot) :
    ∃ runner, SoloWargameRunner.init calls fs repoPath pythonCommand artifactRoot = .ok runner ∧
      runner.Configured fs repoPath := by
  obtain ⟨given, rooted⟩ := root
  have slash := asPosix_head (lawful.absolute _ _ rooted)
  have rootAgain := lawful.idempotent _ _ rooted
  have dir (self : SoloWargameRunner) (same : self.artifactRoot = artifactRoot.asPosix) (run : Run)
      (attempt : RunAttempt) : (self.artifactDir run attempt).toList.head? = some '/' :=
    joinPath_head (joinPath_head (same ▸ slash) _) _
  cases repoPath with
  | none =>
      rw [SoloWargameRunner.init, rootAgain]
      refine ⟨_, rfl, rfl, nofun, ?_, ?_⟩
      · exact fun run attempt => isAbsolute_parse (dir _ rfl run attempt)
      · exact fun run attempt => isAbsolute_parse (joinPath_head (dir _ rfl run attempt) _)
  | some path =>
      obtain ⟨givenRepo, resolved⟩ := repo path rfl
      have repoAgain := lawful.idempotent _ _ resolved
      have read := parse_asPosix_absolute (lawful.absolute _ _ resolved)
      rw [SoloWargameRunner.init, rootAgain]
      simp only [repoAgain]
      refine ⟨_, rfl, congrArg some read, ?_, ?_, ?_⟩
      · rintro other same
        obtain rfl := Option.some.inj same
        exact ⟨rfl, repoAgain⟩
      · exact fun run attempt => isAbsolute_parse (dir _ rfl run attempt)
      · exact fun run attempt => isAbsolute_parse (joinPath_head (dir _ rfl run attempt) _)

theorem getSettings_ok {decimal : Char → Option Nat} {isPrintable : Char → Bool} {fs : FileSystem}
    {environ : Environ} {settings : Settings}
    (read : getSettings decimal isPrintable fs environ = .ok settings) :
    settings.apiPrefix = normalizeApiPrefix (environ.getD "EVALYNX_API_PREFIX" "") ∧
      normalizeOptionalPath fs (environ "EVALYNX_SOLO_WARGAME_REPO_PATH") =
        .ok settings.soloWargameRepoPath ∧
      normalizeRequiredPath fs (environ.getD "EVALYNX_ARTIFACT_ROOT" "./artifacts") =
        .ok settings.artifactRoot := by
  obtain ⟨timeout, -, read⟩ := (bind_ok _ _ _).mp read
  obtain ⟨repoPath, repo, read⟩ := (bind_ok _ _ _).mp read
  obtain ⟨artifactRoot, root, read⟩ := (bind_ok _ _ _).mp read
  obtain rfl := (pure_ok _ _).mp read
  dsimp only
  exact ⟨rfl, repo, root⟩

/-- Settings that have been read give a prefix the application takes and a runner in one piece: it
checks configs against the directory it starts the subprocess in, or refuses to do either. -/
theorem settings_well_formed {decimal : Char → Option Nat} {isPrintable : Char → Bool}
    {fs : FileSystem} (lawful : fs.Lawful) {environ : Environ} {settings : Settings}
    (read : getSettings decimal isPrintable fs environ = .ok settings) (calls : RunnerCalls) :
    AcceptedPrefix settings.apiPrefix ∧
      (settings.soloWargameRepoPath = none ↔
        ∀ text, environ "EVALYNX_SOLO_WARGAME_REPO_PATH" = some text → PyText.isBlank text = true) ∧
      ∃ runner, settings.soloWargameRunner calls fs = .ok runner ∧
        runner.Configured fs settings.soloWargameRepoPath ∧
        (settings.soloWargameRepoPath = none →
          (∀ config, runner.normalizeConfig fs config =
            .error (.validation "solo_wargame repo path is not configured.")) ∧
          ∀ run attempt, runner.execute run attempt =
            .raised (SoloWargame.executionError "runner_configuration_error"
              "solo_wargame repo path is not configured." [])) := by
  obtain ⟨shown, repo, root⟩ := getSettings_ok read
  have repos : ∀ path, settings.soloWargameRepoPath = some path →
      ∃ given, fs.resolve given = .ok path := by
    intro path set
    rcases normalizeOptionalPath_cases repo with ⟨-, none⟩ | ⟨-, given, resolved, same, called⟩
    · rw [none] at set
      cases set
    · obtain rfl := Option.some.inj (set.symm.trans same)
      exact ⟨given, called⟩
  obtain ⟨runner, built, configured⟩ := init_configured lawful calls
    settings.soloWargamePythonCommand repos (normalizeRequiredPath_resolved root)
  refine ⟨shown ▸ normalizeApiPrefix_accepted _, ?_, runner, built, configured, ?_⟩
  · rcases normalizeOptionalPath_cases repo with
      ⟨blank, unset⟩ | ⟨⟨text, given, solid⟩, _, _, set, -⟩
    · exact ⟨fun _ => blank, fun _ => unset⟩
    · rw [set]
      refine ⟨nofun, ?_⟩
      intro blank
      rw [blank text given] at solid
      cases solid
  · intro unset
    have none : runner.repoPath = none :=
      Option.map_eq_none_iff.mp (configured.checked.trans unset)
    constructor
    · intro config
      rw [SoloWargameRunner.normalizeConfig, none]
      rfl
    · intro run attempt
      rw [SoloWargameRunner.execute, none]

def sampleEnviron : Environ := fun name =>
  if name = "EVALYNX_API_PREFIX" then some " api/v1// "
  else if name = "EVALYNX_SOLO_WARGAME_REPO_PATH" then some " /srv/wargame "
  else if name = "EVALYNX_RQ_JOB_TIMEOUT" then some "1_200 "
  else none

def sampleCalls : RunnerCalls where
  split := fun _ => .ok ["python3"]
  prepare := fun _ _ _ => none
  invoke := fun _ _ => .error (.os "")
  loads := fun _ => .error (.decode "")
  isPrintable := fun _ => false

theorem settings_well_formed_sample :
    ∃ settings runner,
      getSettings (fun _ => none) (fun _ => false) (.plain (fun _ => none) []) sampleEnviron =
        .ok settings ∧ settings.apiPrefix = "/api/v1" ∧ settings.rqJobTimeout = 1200 ∧
      settings.soloWargameRunner sampleCalls (.plain (fun _ => none) []) = .ok runner ∧
      runner.Configured (.plain (fun _ => none) []) settings.soloWargameRepoPath ∧
      settings.soloWargameRepoPath ≠ none := by
  obtain ⟨settings, read, shown, timeout⟩ : ∃ settings,
      getSettings (fun _ => none) (fun _ => false) (.plain (fun _ => none) []) sampleEnviron =
        .ok settings ∧ settings.apiPrefix = "/api/v1" ∧ settings.rqJobTimeout = 1200 :=
    ⟨_, rfl, by decide, by decide⟩
  obtain ⟨-, unset, runner, built, configured, -⟩ :=
    settings_well_formed (FileSystem.plain_lawful _ _) read sampleCalls
  refine ⟨settings, runner, read, shown, timeout, built, configured, ?_⟩
  intro missing
  have blank := unset.mp missing " /srv/wargame " rfl
  revert blank
  decide

end Evalynx
