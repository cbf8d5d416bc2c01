import Evalynx.HashedRequest

namespace Evalynx

open Posix

namespace SoloWargame

/-- The two configs ask for the same episodes, however they are spelled. -/
structure SameRequest (fs : FileSystem) (repo : PurePath) (first second : JsonObject) : Prop where
  mission : ∃ text otherText file, first.get "mission_path" = .str text ∧
    second.get "mission_path" = .str otherText ∧ MissionFile fs repo text file ∧
      MissionFile fs repo otherText file
  policy : ∀ key, memberOf (first.get "policy") key = memberOf (second.get "policy") key
  seedSpec : ∀ key, memberOf (first.get "seed_spec") key = memberOf (second.get "seed_spec") key
  writeEpisodeRows : first.get "write_episode_rows" = .bool true ↔
    second.get "write_episode_rows" = .bool true

def EqualRequests (first second : JsonObject) : Prop :=
  ∀ artifactDir, ∃ request other, buildEpisodeBatchRequest first artifactDir = .ok request ∧
    buildEpisodeBatchRequest second artifactDir = .ok other ∧
      Json.Reorders (.obj request) (.obj other)

theorem MissionFile.unique {fs : FileSystem} {repo file other : PurePath} {text : String}
    (mission : MissionFile fs repo text file) (again : MissionFile fs repo text other) :
    other = file := by
  obtain ⟨candidate, expanded, resolved⟩ := mission.resolved
  obtain ⟨otherCandidate, otherExpanded, otherResolved⟩ := again.resolved
  rw [expanded] at otherExpanded
  obtain rfl := Except.ok.inj otherExpanded
  rw [resolved] at otherResolved
  exact (Except.ok.inj otherResolved).symm

section Members

variable {isPrintable : Char → Bool} {value other : Json} {kept otherKept : JsonObject}

theorem memberOf_kept {given kept : JsonObject} (same : ∀ key, kept.lookup key = given.lookup key)
    (key : String) : memberOf (.obj given) key = kept.get key := by
  have found : given.get key = kept.get key := by
    rw [JsonObject.get, JsonObject.get, same]
  exact found

theorem parsePolicy_same (parsed : parsePolicy isPrintable value = .ok kept)
    (otherParsed : parsePolicy isPrintable other = .ok otherKept) :
    kept = otherKept ↔ ∀ key, memberOf value key = memberOf other key := by
  constructor
  · intro same key
    obtain ⟨given, rfl, keeps⟩ := parsePolicy_keeps isPrintable _ parsed
    obtain ⟨otherGiven, rfl, otherKeeps⟩ := parsePolicy_keeps isPrintable _ otherParsed
    rw [memberOf_kept keeps, memberOf_kept otherKeeps, same]
  · intro members
    obtain ⟨policy, name, rfl, _, _, found, _, rfl⟩ := (parsePolicy_ok isPrintable _ _).mp parsed
    obtain ⟨otherPolicy, otherName, rfl, _, _, otherFound, _, rfl⟩ :=
      (parsePolicy_ok isPrintable _ _).mp otherParsed
    have names : policy.get "name" = otherPolicy.get "name" := members "name"
    rw [found, otherFound] at names
    rw [Json.str.inj names]

theorem parseSeedSpec_same (parsed : parseSeedSpec isPrintable value = .ok kept)
    (otherParsed : parseSeedSpec isPrintable other = .ok otherKept) :
    kept = otherKept ↔ ∀ key, memberOf value key = memberOf other key := by
  constructor
  · intro same key
    obtain ⟨given, rfl, keeps⟩ := parseSeedSpec_keeps isPrintable _ parsed
    obtain ⟨otherGiven, rfl, otherKeeps⟩ := parseSeedSpec_keeps isPrintable _ otherParsed
    rw [memberOf_kept keeps, memberOf_kept otherKeeps, same]
  · intro members
    obtain ⟨given, rfl, shape⟩ := parseSeedSpec_kind isPrintable _ _ parsed
    obtain ⟨otherGiven, rfl, otherShape⟩ := parseSeedSpec_kind isPrintable _ _ otherParsed
    have kinds : given.get "kind" = otherGiven.get "kind" := members "kind"
    rcases shape with range | list
    · have otherRange : otherGiven.get "kind" = .str "range" := kinds ▸ range
      obtain ⟨_, start, stop, startFound, stopFound, _, rfl⟩ :=
        (parseSeedSpec_range isPrintable _ _ range).mp parsed
      obtain ⟨_, otherStart, otherStop, otherStartFound, otherStopFound, _, rfl⟩ :=
        (parseSeedSpec_range isPrintable _ _ otherRange).mp otherParsed
      have starts : given.get "start" = otherGiven.get "start" := members "start"
      have stops : given.get "stop" = otherGiven.get "stop" := members "stop"
      rw [startFound, otherStartFound] at starts
      rw [stopFound, otherStopFound] at stops
      rw [Json.int.inj starts, Json.int.inj stops]
    · have otherList : otherGiven.get "kind" = .str "list" := kinds ▸ list
      obtain ⟨_, seeds, seedsFound, _, rfl⟩ := (parseSeedSpec_list isPrintable _ _ list).mp parsed
      obtain ⟨_, otherSeeds, otherSeedsFound, _, rfl⟩ :=
        (parseSeedSpec_list isPrintable _ _ otherList).mp otherParsed
      have same : given.get "seeds" = otherGiven.get "seeds" := members "seeds"
      rw [seedsFound, otherSeedsFound] at same
      rw [listForm, listForm, same]

end Members

theorem normalForm_inj {stored other : PurePath} {policy otherPolicy seedSpec otherSeedSpec : JsonObject}
    {rows otherRows : Bool} :
    normalForm stored policy seedSpec rows = normalForm other otherPolicy otherSeedSpec otherRows ↔
      stored.asPosix = other.asPosix ∧ policy = otherPolicy ∧ seedSpec = otherSeedSpec ∧
        rows = otherRows := by
  simp [normalForm]

section Forms

variable {fs : FileSystem} {isPrintable : Char → Bool} {repo : PurePath} {first second : JsonObject}
  {text otherText : String} {file otherFile stored otherStored : PurePath}
  {policy otherPolicy seedSpec otherSeedSpec : JsonObject} {rows otherRows : Bool}
  (valid : Validated fs isPrintable repo first text file stored policy seedSpec rows)
  (otherValid : Validated fs isPrintable repo second otherText otherFile otherStored otherPolicy
    otherSeedSpec otherRows)

include valid in
theorem Validated.writes_iff : first.get "write_episode_rows" = .bool true ↔ rows = true := by
  rcases valid.writeEpisodeRows with given | ⟨absent, rfl⟩
  · rw [given, Json.bool.injEq]
  · simp [absent]

include valid in
theorem Validated.form_distinct :
    (Json.obj (normalForm stored policy seedSpec rows)).distinctKeys = true :=
  Ledger.normalForm_distinct stored rows (Ledger.kept_policy_distinct valid.policy)
    (Ledger.kept_seedSpec_distinct valid.seedSpec)

include valid otherValid

theorem stored_iff (isRepo : fs.stat repo = .ok (some .directory)) :
    stored.asPosix = otherStored.asPosix ↔ file = otherFile := by
  constructor
  · intro same
    have paths : stored = otherStored := by
      calc
        stored = .parse stored.asPosix := (stored_parsed isRepo valid.mission valid.stored).symm
        _ = .parse otherStored.asPosix := by rw [same]
        _ = otherStored := stored_parsed isRepo otherValid.mission otherValid.stored
    rw [← stored_joined valid.stored, ← stored_joined otherValid.stored, paths]
  · intro same
    have found := valid.stored
    rw [same, otherValid.stored] at found
    rw [Option.some.inj found]

theorem mission_iff :
    (∃ name otherName mission, first.get "mission_path" = .str name ∧
        second.get "mission_path" = .str otherName ∧ MissionFile fs repo name mission ∧
          MissionFile fs repo otherName mission) ↔ file = otherFile := by
  constructor
  · intro given
    rcases given with ⟨name, otherName, mission, found, otherFound, isFile, isOther⟩
    rw [valid.missionPath] at found
    rw [otherValid.missionPath] at otherFound
    obtain rfl := Json.str.inj found
    obtain rfl := Json.str.inj otherFound
    calc
      file = mission := isFile.unique valid.mission
      _ = otherFile := (isOther.unique otherValid.mission).symm
  · intro same
    exact ⟨text, otherText, file, valid.missionPath, otherValid.missionPath, valid.mission,
      same ▸ otherValid.mission⟩

theorem sameRequest_iff (isRepo : fs.stat repo = .ok (some .directory)) :
    normalForm stored policy seedSpec rows =
        normalForm otherStored otherPolicy otherSeedSpec otherRows ↔
      SameRequest fs repo first second := by
  have bools : rows = otherRows ↔ (rows = true ↔ otherRows = true) := Bool.eq_iff_iff
  rw [normalForm_inj, stored_iff valid otherValid isRepo, ← mission_iff valid otherValid,
    parsePolicy_same valid.policy otherValid.policy,
    parseSeedSpec_same valid.seedSpec otherValid.seedSpec, bools, ← valid.writes_iff,
    ← otherValid.writes_iff]
  constructor
  · intro same
    exact ⟨same.1, same.2.1, same.2.2.1, same.2.2.2⟩
  · intro same
    exact ⟨same.mission, same.policy, same.seedSpec, same.writeEpisodeRows⟩

theorem equalRequests_iff :
    normalForm stored policy seedSpec rows =
        normalForm otherStored otherPolicy otherSeedSpec otherRows ↔
      EqualRequests (normalForm stored policy seedSpec rows)
        (normalForm otherStored otherPolicy otherSeedSpec otherRows) := by
  constructor
  · intro same artifactDir
    rw [← same]
    exact ⟨_, _, build_normalForm stored rows artifactDir, build_normalForm stored rows artifactDir,
      .refl _⟩
  · intro equal
    rcases equal "" with ⟨request, other, built, otherBuilt, same⟩
    obtain rfl := Except.ok.inj ((build_normalForm stored rows "").symm.trans built)
    obtain rfl := Except.ok.inj ((build_normalForm otherStored otherRows "").symm.trans otherBuilt)
    have distinct := formRequest_distinct stored rows (Ledger.kept_policy_distinct valid.policy)
      (Ledger.kept_seedSpec_distinct valid.seedSpec) ""
    have members := Json.get_of_reorders same distinct
    have path : Json.str stored.asPosix = .str otherStored.asPosix := members "mission_path"
    have policies : Json.obj policy.sortKeys = .obj otherPolicy.sortKeys := members "policy"
    have seedSpecs : Json.obj seedSpec.sortKeys = .obj otherSeedSpec.sortKeys := members "seed_spec"
    have writes : Json.bool rows = .bool otherRows := members "write_episode_rows"
    rw [(parsePolicy_again isPrintable valid.policy).1,
      (parsePolicy_again isPrintable otherValid.policy).1] at policies
    rw [(parseSeedSpec_again isPrintable valid.seedSpec).1,
      (parseSeedSpec_again isPrintable otherValid.seedSpec).1] at seedSpecs
    exact normalForm_inj.mpr
      ⟨Json.str.inj path, Json.obj.inj policies, Json.obj.inj seedSpecs, Json.bool.inj writes⟩

theorem payload_iff :
    normalForm stored policy seedSpec rows =
        normalForm otherStored otherPolicy otherSeedSpec otherRows ↔
      configPayload (.obj (normalForm stored policy seedSpec rows)) =
        configPayload (.obj (normalForm otherStored otherPolicy otherSeedSpec otherRows)) := by
  constructor
  · intro same
    rw [same]
  · intro same
    have sorted := configPayload_injective _ _ valid.form_distinct otherValid.form_distinct same
    rw [Json.sortKeys_obj, Json.sortKeys_obj, normalForm_sorted valid,
      normalForm_sorted otherValid] at sorted
    exact Json.obj.inj sorted

end Forms

end SoloWargame

open SoloWargame

/-- Two accepted configs get one hash exactly when equal requests are built from what is stored for
them, and exactly when they ask for the same episodes. -/
theorem request_identity {self : SoloWargameRunner} {fs : FileSystem} {env : ServiceEnv}
    {runner : Runner} (registered : env.registry.lookup runnerType = some runner)
    (normalizes : runner.normalizeConfig = self.normalizeConfig fs) {repoPath repo : PurePath}
    (configured : self.repoPath.map PurePath.parse = some repoPath)
    (resolved : fs.resolve repoPath = .ok repo) {db later : Database} {projectId otherProjectId : Nat}
    {first second : JsonObject} {new other : NewRun}
    (prepared : prepareRun env db ⟨projectId, runnerType, first⟩ = .ok new)
    (otherPrepared : prepareRun env later ⟨otherProjectId, runnerType, second⟩ = .ok other)
    (collisionFree : env.sha256 (configPayload (.obj new.normalizedConfig)) =
        env.sha256 (configPayload (.obj other.normalizedConfig)) →
      configPayload (.obj new.normalizedConfig) = configPayload (.obj other.normalizedConfig)) :
    (new.configHash = other.configHash ↔
        EqualRequests new.normalizedConfig other.normalizedConfig) ∧
      (EqualRequests new.normalizedConfig other.normalizedConfig ↔
        SameRequest fs repo first second) := by
  obtain ⟨path, root, text, file, stored, policy, seedSpec, rows, found, foundRoot, isRepo, valid,
    form, hash⟩ := prepareRun_wargame registered normalizes prepared
  obtain ⟨otherPath, otherRoot, otherText, otherFile, otherStored, otherPolicy, otherSeedSpec,
    otherRows, otherFound, otherFoundRoot, _, otherValid, otherForm, otherHash⟩ :=
    prepareRun_wargame registered normalizes otherPrepared
  obtain rfl : repoPath = path := Option.some.inj (configured.symm.trans found)
  obtain rfl : repoPath = otherPath := Option.some.inj (configured.symm.trans otherFound)
  obtain rfl : repo = root := Except.ok.inj (resolved.symm.trans foundRoot)
  obtain rfl : repo = otherRoot := Except.ok.inj (resolved.symm.trans otherFoundRoot)
  rw [form, otherForm] at collisionFree
  have hashes : new.configHash = other.configHash ↔
      configPayload (.obj (normalForm stored policy seedSpec rows)) =
        configPayload (.obj (normalForm otherStored otherPolicy otherSeedSpec otherRows)) := by
    rw [hash, otherHash, form, otherForm]
    constructor
    · exact collisionFree
    · intro same
      rw [computeConfigHash, same, computeConfigHash]
  rw [hashes, form, otherForm, ← payload_iff valid otherValid, ← equalRequests_iff valid otherValid]
  exact ⟨Iff.rfl, sameRequest_iff valid otherValid isRepo⟩

def digestEnv : ServiceEnv := { tildeEnv with
  sha256 := fun _ => "f24a520ee383001346ef31125c1ed7f253eff90100aa1861662c5207b417836b" }

theorem request_identity_spellings :
    ∃ new other, prepareRun digestEnv sampleProject (wargameSubmission "./m") = .ok new ∧
      prepareRun digestEnv sampleProject (wargameSubmission "/r/a/../m") = .ok other ∧
      new.configHash = other.configHash ∧
      EqualRequests new.normalizedConfig other.normalizedConfig := by
  have mission : MissionFile tildeFiles (.parse "/r") "./m" (.parse "/r/m") :=
    ⟨⟨.parse "./m", rfl, rfl⟩, by decide, rfl⟩
  have otherMission : MissionFile tildeFiles (.parse "/r") "/r/a/../m" (.parse "/r/m") :=
    ⟨⟨.parse "/r/a/../m", rfl, rfl⟩, by decide, rfl⟩
  have same : SameRequest tildeFiles (.parse "/r") (missionConfig "./m") (missionConfig "/r/a/../m") :=
    ⟨⟨"./m", "/r/a/../m", _, rfl, rfl, mission, otherMission⟩, fun _ => rfl, fun _ => rfl, Iff.rfl⟩
  obtain ⟨hashed, built⟩ := @request_identity tildeRunner tildeFiles digestEnv _ rfl rfl
    (.parse "/r") (.parse "/r") rfl rfl sampleProject sampleProject 1 1 (missionConfig "./m")
    (missionConfig "/r/a/../m") _ _ rfl rfl (fun _ => rfl)
  exact ⟨_, _, rfl, rfl, hashed.mpr (built.mpr same), built.mpr same⟩

end Evalynx
