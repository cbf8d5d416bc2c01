import Evalynx.MissionPath
import Evalynx.Transactions

namespace Evalynx

namespace SoloWargame

open Posix

theorem sortKeys_ordered {members : JsonObject}
    (inside : ∀ member ∈ members, member.2.sortKeys = member.2)
    (ordered : members.Pairwise (fun a b => a.1 ≤ b.1)) : members.sortKeys = members := by
  have same : Json.sortMembers members = members := by
    rw [Json.sortMembers_map]
    calc
      members.map (fun member => (member.1, member.2.sortKeys)) = members.map id := by
        apply List.map_congr_left
        intro member present
        rw [inside member present]
        rfl
      _ = members := List.map_id members
  rw [JsonObject.sortKeys, same]
  exact ordered.insertionSort_eq

section Members

variable (isPrintable : Char → Bool) {value : Json} {kept : JsonObject}

theorem parsePolicy_again (parsed : parsePolicy isPrintable value = .ok kept) :
    kept.sortKeys = kept ∧ parsePolicy isPrintable (.obj kept) = .ok kept := by
  obtain ⟨policy, name, _, _, _, _, supported, rfl⟩ := (parsePolicy_ok isPrintable _ _).mp parsed
  constructor
  · apply sortKeys_ordered
    · intro member present
      rcases List.mem_cons.mp present with rfl | present
      · rfl
      · rw [List.mem_singleton.mp present]
        rfl
    · simp
  · have known : ∀ key ∈ ["kind", "name"], key ∈ ["kind", "name"] := fun _ listed => listed
    exact (parsePolicy_ok isPrintable _ _).mpr ⟨_, name, rfl, known, rfl, rfl, supported, rfl⟩

theorem sortItems_ints (seeds : List Int) :
    Json.sortItems (seeds.map .int) = seeds.map .int := by
  rw [Json.sortItems_map, List.map_map]
  rfl

theorem parseSeedSpec_again (parsed : parseSeedSpec isPrintable value = .ok kept) :
    kept.sortKeys = kept ∧ parseSeedSpec isPrintable (.obj kept) = .ok kept := by
  obtain ⟨seedSpec, rfl, range | list⟩ := parseSeedSpec_kind isPrintable _ _ parsed
  · obtain ⟨_, start, stop, _, _, order, rfl⟩ := (parseSeedSpec_range isPrintable _ _ range).mp parsed
    constructor
    · apply sortKeys_ordered
      · intro member present
        simp only [rangeForm, List.mem_cons, List.not_mem_nil, or_false] at present
        rcases present with rfl | rfl | rfl <;> rfl
      · simp [rangeForm]
    · have known : ∀ key ∈ ["kind", "start", "stop"], key ∈ ["kind", "start", "stop"] :=
        fun _ listed => listed
      exact (parseSeedSpec_range isPrintable _ _ rfl).mpr
        ⟨known, start, stop, rfl, rfl, order, rfl⟩
  · obtain ⟨_, seeds, _, some, rfl⟩ := (parseSeedSpec_list isPrintable _ _ list).mp parsed
    constructor
    · apply sortKeys_ordered
      · intro member present
        simp only [listForm, List.mem_cons, List.not_mem_nil, or_false] at present
        rcases present with rfl | rfl
        · rfl
        · exact congrArg Json.arr (sortItems_ints seeds)
      · simp [listForm]
    · have known : ∀ key ∈ ["kind", "seeds"], key ∈ ["kind", "seeds"] := fun _ listed => listed
      exact (parseSeedSpec_list isPrintable _ _ rfl).mpr ⟨known, seeds, rfl, some, rfl⟩

end Members

section Form

variable {fs : FileSystem} {isPrintable : Char → Bool} {repo : PurePath} {config : JsonObject}
  {text : String} {file stored : PurePath} {policy seedSpec : JsonObject} {rows : Bool}
  (valid : Validated fs isPrintable repo config text file stored policy seedSpec rows)

include valid

theorem normalForm_sorted :
    (normalForm stored policy seedSpec rows).sortKeys = normalForm stored policy seedSpec rows := by
  apply sortKeys_ordered
  · intro member present
    simp only [normalForm, List.mem_cons, List.not_mem_nil, or_false] at present
    rcases present with rfl | rfl | rfl | rfl
    · rfl
    · exact congrArg Json.obj (parsePolicy_again isPrintable valid.policy).1
    · exact congrArg Json.obj (parseSeedSpec_again isPrintable valid.seedSpec).1
    · rfl
  · simp [normalForm]

/-- The stored path is read as the file it was stored for: it is not refused as blank, and a
leading "~" leads there too. -/
structure Rereads (fs : FileSystem) (repo file stored : PurePath) : Prop where
  written : PyText.isBlank stored.asPosix = false
  expands : stored.startsTilde = true → ∃ expanded, stored.underHome fs = some expanded ∧
    fs.resolve (repo.join expanded) = .ok file

theorem rereads_iff (lawful : fs.Lawful) (isRepo : fs.stat repo = .ok (some .directory)) :
    Rereads fs repo file stored ↔
      PyText.isBlank stored.asPosix = false ∧ MissionFile fs repo stored.asPosix file := by
  have parsed := stored_parsed isRepo valid.mission valid.stored
  have joined := stored_joined valid.stored
  constructor
  · intro rereads
    refine ⟨rereads.written, ?_, valid.mission.inside, valid.mission.regular⟩
    rw [parsed]
    by_cases tilde : stored.startsTilde = true
    · obtain ⟨expanded, home, resolved⟩ := rereads.expands tilde
      exact ⟨expanded, (stored.expandUser_tilde fs expanded tilde).mpr home, resolved⟩
    · refine ⟨stored, stored.expandUser_plain fs (Bool.eq_false_iff.mpr tilde), ?_⟩
      rw [joined]
      exact valid.mission.fixed lawful
  · intro given
    rcases given with ⟨written, again⟩
    refine ⟨written, ?_⟩
    intro tilde
    obtain ⟨expanded, expands, resolved⟩ := again.resolved
    rw [parsed] at expands
    exact ⟨expanded, (stored.expandUser_tilde fs expanded tilde).mp expands, resolved⟩

theorem normalForm_again (lawful : fs.Lawful) {repoPath : PurePath}
    (resolved : fs.resolve repoPath = .ok repo) (isRepo : fs.stat repo = .ok (some .directory)) :
    normalizeSoloWargameConfig fs isPrintable (some repoPath)
        (normalForm stored policy seedSpec rows) = .ok (normalForm stored policy seedSpec rows) ↔
      Rereads fs repo file stored := by
  rw [rereads_iff valid lawful isRepo, normalize_ok]
  have parsed := stored_parsed isRepo valid.mission valid.stored
  constructor
  · rintro ⟨other, found, _, again, laterFile, laterStored, laterPolicy, laterSeeds, laterRows, later,
      same⟩
    rw [resolved] at found
    obtain rfl := Except.ok.inj found
    have path : (normalForm stored policy seedSpec rows).get "mission_path" =
        (normalForm laterStored laterPolicy laterSeeds laterRows).get "mission_path" := by rw [same]
    have sameText : stored.asPosix = laterStored.asPosix := Json.str.inj path
    have sameStored : stored = laterStored := by
      rw [← parsed, sameText]
      exact stored_parsed isRepo later.mission later.stored
    have sameFile : file = laterFile := by
      rw [← stored_joined valid.stored, ← stored_joined later.stored, sameStored]
    have given : stored.asPosix = again := Json.str.inj later.missionPath
    rw [given, sameFile]
    exact ⟨later.written, later.mission⟩
  · intro given
    rcases given with ⟨written, again⟩
    have known : ∀ key ∈ ["mission_path", "policy", "seed_spec", "write_episode_rows"],
        key ∈ ["mission_path", "policy", "seed_spec", "write_episode_rows"] := fun _ listed => listed
    exact ⟨repo, resolved, isRepo, stored.asPosix, file, stored, policy, seedSpec, rows,
      ⟨known, rfl, written, again, valid.stored, (parsePolicy_again isPrintable valid.policy).2,
        (parseSeedSpec_again isPrintable valid.seedSpec).2, Or.inl rfl⟩, rfl⟩

end Form

end SoloWargame

open Relational Posix SoloWargame

/-- What a run's normalized config becomes when it is submitted again. -/
def Reproduces (env : ServiceEnv) (later : Database) (payload : RunCreate) (new : NewRun) : Prop :=
  ∃ again, prepareRun env later { payload with config := new.normalizedConfig } = .ok again ∧
    again.normalizedConfig = new.normalizedConfig ∧ again.configHash = new.configHash

section Runner

variable {self : SoloWargameRunner} {fs : FileSystem} {env : ServiceEnv} {payload : RunCreate}
  {runner : Runner} (registered : env.registry.lookup payload.runnerType = some runner)
  (normalizes : runner.normalizeConfig = self.normalizeConfig fs)

include registered normalizes

theorem prepareRun_wargame {db : Database} {new : NewRun}
    (prepared : prepareRun env db payload = .ok new) :
    ∃ repoPath repo text file stored policy seedSpec rows,
      self.repoPath.map PurePath.parse = some repoPath ∧ fs.resolve repoPath = .ok repo ∧
        fs.stat repo = .ok (some .directory) ∧
        Validated fs self.isPrintable repo payload.config text file stored policy seedSpec rows ∧
        new.normalizedConfig = normalForm stored policy seedSpec rows ∧
        new.configHash = computeConfigHash env.sha256 (.obj new.normalizedConfig) := by
  obtain ⟨project, found, normalized, _, lookup, parsed, rfl⟩ :=
    (prepareRun_ok env db payload new).mp prepared
  rw [registered] at lookup
  obtain rfl := Option.some.inj lookup
  rw [normalizes, SoloWargameRunner.normalizeConfig] at parsed
  cases configured : self.repoPath.map PurePath.parse with
  | none =>
      rw [configured] at parsed
      cases parsed
  | some repoPath =>
      rw [configured] at parsed
      obtain ⟨repo, resolved, isRepo, text, file, stored, policy, seedSpec, rows, valid, rfl⟩ :=
        (normalize_ok fs self.isPrintable _ _ _).mp parsed
      exact ⟨repoPath, repo, text, file, stored, policy, seedSpec, rows, rfl, resolved, isRepo, valid,
        normalForm_sorted valid, rfl⟩

/-- A resubmitted config is normalized to itself exactly when its stored path is read as the same
file. -/
theorem resubmission_reproduces (lawful : fs.Lawful) {db later : Database} {new : NewRun}
    (prepared : prepareRun env db payload = .ok new)
    (present : ∃ project, later.projects.get? payload.projectId = some project) :
    ∃ repoPath repo text file stored, self.repoPath.map PurePath.parse = some repoPath ∧
      fs.resolve repoPath = .ok repo ∧ payload.config.get "mission_path" = .str text ∧
      MissionFile fs repo text file ∧ file.relativeTo repo = some stored ∧
      new.normalizedConfig.get "mission_path" = .str stored.asPosix ∧
      (Reproduces env later payload new ↔ Rereads fs repo file stored) := by
  obtain ⟨repoPath, repo, text, file, stored, policy, seedSpec, rows, configured, resolved, isRepo,
    valid, form, hash⟩ := prepareRun_wargame registered normalizes prepared
  have sorted := normalForm_sorted valid
  have again := normalForm_again valid lawful resolved isRepo
  have missionPath : new.normalizedConfig.get "mission_path" = .str stored.asPosix := by
    rw [form]
    rfl
  refine ⟨repoPath, repo, text, file, stored, configured, resolved, valid.missionPath,
    valid.mission, valid.stored, missionPath, ?_⟩
  rw [← again]
  constructor
  · intro given
    rcases given with ⟨resubmitted, preparedAgain, same, _⟩
    obtain ⟨otherPath, other, _, _, _, _, _, _, otherConfigured, otherResolved, otherRepo, laterValid,
      laterForm, _⟩ := @prepareRun_wargame self fs env
        { payload with config := new.normalizedConfig } runner registered normalizes later _
        preparedAgain
    rw [configured] at otherConfigured
    obtain rfl := Option.some.inj otherConfigured
    rw [same, form] at laterForm
    rw [form] at laterValid
    exact (normalize_ok fs self.isPrintable _ _ _).mpr
      ⟨other, otherResolved, otherRepo, _, _, _, _, _, _, laterValid, laterForm⟩
  · intro accepted
    obtain ⟨project, found⟩ := present
    have parsed : runner.normalizeConfig new.normalizedConfig = .ok new.normalizedConfig := by
      rw [normalizes, SoloWargameRunner.normalizeConfig, configured, form]
      exact accepted
    have stable : new.normalizedConfig.sortKeys = new.normalizedConfig := by
      rw [form]
      exact sorted
    refine ⟨_, (prepareRun_ok env later _ _).mpr ⟨project, runner, _, found, registered, parsed, rfl⟩,
      stable, ?_⟩
    rw [hash, stable]

end Runner

def tildeFiles : FileSystem :=
  .plain (fun _ => some (.parse "/h"))
    [([['r']], .directory), ([['r'], ['~'], ['m']], .regular), ([['r'], ['m']], .regular)]

def tildeRunner : SoloWargameRunner where
  repoPath := some "/r"
  artifactRoot := "/a"
  splitCommand := .ok ["python"]
  prepare := fun _ _ _ => none
  invoke := fun _ _ => .error (.os "")
  loads := fun _ => .error (.decode "")
  isPrintable := fun _ => true

def tildeEnv : ServiceEnv where
  registry := [(runnerType, tildeRunner.runner (tildeRunner.normalizeConfig tildeFiles))]
  sha256 := fun _ => ""
  runCreatedAt := 0
  attemptCreatedAt := 0
  raises := fun _ => none

def wargameSubmission (missionPath : String) : RunCreate := ⟨1, runnerType, missionConfig missionPath⟩

/-- The absolute path is accepted, the relative one that is stored for it is read as a path in the
home directory and refused. -/
theorem resubmission_refused :
    ∃ new, prepareRun tildeEnv sampleProject (wargameSubmission "/r/~/m") = .ok new ∧
      new.normalizedConfig.get "mission_path" = .str "~/m" ∧
      ¬ Reproduces tildeEnv sampleProject (wargameSubmission "/r/~/m") new := by
  refine ⟨_, rfl, rfl, ?_⟩
  intro given
  rcases given with ⟨again, prepared, _⟩
  cases prepared

theorem resubmission_reproduces_mission :
    ∃ new, prepareRun tildeEnv sampleProject (wargameSubmission "./m") = .ok new ∧
      Reproduces tildeEnv sampleProject (wargameSubmission "./m") new := by
  have lawful : FileSystem.Lawful tildeFiles := FileSystem.plain_lawful _ _
  obtain ⟨_, _, _, _, stored, _, _, _, _, inside, path, iff⟩ :=
    @resubmission_reproduces tildeRunner tildeFiles tildeEnv (wargameSubmission "./m") _ rfl rfl lawful
      sampleProject sampleProject _ rfl ⟨_, rfl⟩
  have text : stored.asPosix = "m" := (Json.str.inj path).symm
  have relative := stored_relative inside
  have below : stored.parts ≠ [] := by
    intro empty
    rw [PurePath.asPosix, relative, empty] at text
    simp at text
  have same : stored = .parse "m" := by
    rw [← text]
    exact (stored.parse_asPosix relative below).symm
  refine ⟨_, rfl, iff.mpr ⟨?_, ?_⟩⟩
  · rw [text]
    decide
  · intro tilde
    rw [same] at tilde
    exact absurd tilde (by decide)

end Evalynx
