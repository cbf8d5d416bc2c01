import Evalynx.History
import Evalynx.Registry
import Evalynx.Resubmission

/-! The columns a run is created with, and the requests its attempts are executed with. -/

namespace Evalynx

open Relational Relation Posix SoloWargame

def Run.requested (run : Run) : NewRun :=
  ⟨run.projectId, run.runnerType, run.submittedConfig, run.normalizedConfig, run.configHash⟩

theorem Commit.requested {db db' : Database} (commit : Commit db db') {run later : Run}
    (member : run ∈ db.runs.rows) (laterMember : later ∈ db'.runs.rows) (same : later.id = run.id) :
    later.requested = run.requested := by
  have kept (stored : later ∈ db.runs.rows) : later.requested = run.requested :=
    congrArg Run.requested (Table.eq_of_mem (Table.get?_of_mem member) stored same)
  cases commit with
  | project projects => exact kept laterMember
  | keysLost runs attempts => exact kept laterMember
  | founded founded attempt runKeys attemptKeys _ _ _ _ _ runFresh runReserved =>
      have rows := Table.mem_adopt (db.runs.reserve runKeys) founded runFresh runReserved
      rcases (rows later).mp laterMember with old | rfl
      · exact kept old
      · exact absurd same.symm ((db.runs.get?_eq_none later.id).mp runFresh run member)
  | advanced changed attempt attemptSnapshot runSnapshot runFound =>
      have rows := mem_putRun { changed with toSnapshot := runSnapshot } runFound
      rcases (rows later).mp laterMember with rfl | ⟨old, _⟩
      · rw [Table.eq_of_mem runFound member same.symm]
        rfl
      · exact kept old
  | retried changed current fresh runSnapshot keys runFound =>
      have rows := mem_putRun
        { changed with toSnapshot := runSnapshot, currentAttemptId := some fresh.id } runFound
      rcases (rows later).mp laterMember with rfl | ⟨old, _⟩
      · rw [Table.eq_of_mem runFound member same.symm]
        rfl
      · exact kept old

structure Ledger where
  db : Database
  created : List (Nat × NewRun)

namespace Ledger

def empty : Ledger := ⟨.empty, []⟩

/-- A `create_run` with the registry of its process on a payload whose dicts have distinct keys, or
a transaction that adds no run. -/
inductive Step (accepts : TerminalValues → Bool) (sha256 : ByteArray → String) (ledger : Ledger) :
    Ledger → Prop where
  | createRun (soloWargame : SoloWargameRunner) (fs : FileSystem) (env : ServiceEnv)
      (payload : RunCreate) (new : NewRun)
      (registry : env.registry = buildRunnerRegistry soloWargame fs) (hash : env.sha256 = sha256)
      (distinct : (Json.obj payload.config).distinctKeys = true)
      (prepared : prepareRun env ledger.db payload = .ok new) :
      Step accepts sha256 ledger
        ⟨(insertRun ledger.db new env.runCreatedAt env.attemptCreatedAt).1,
          (ledger.db.runs.next, new) :: ledger.created⟩
  | other (db : Database) (txn : Txn accepts ledger.db db)
      (known : ∀ run ∈ db.runs.rows, ∃ old ∈ ledger.db.runs.rows, old.id = run.id) :
      Step accepts sha256 ledger ⟨db, ledger.created⟩

structure Prepared (sha256 : ByteArray → String) (new : NewRun) : Prop where
  distinct : (Json.obj new.normalizedConfig).distinctKeys = true
  hash : new.configHash = computeConfigHash sha256 (.obj new.normalizedConfig)
  wargame : new.runnerType = runnerType → ∃ stored policy seedSpec rows,
    new.normalizedConfig = normalForm stored policy seedSpec rows ∧
      (Json.obj policy).distinctKeys = true ∧ (Json.obj seedSpec).distinctKeys = true

structure Valid (sha256 : ByteArray → String) (ledger : Ledger) : Prop where
  consistent : Consistent ledger.db
  keys : (ledger.created.map Prod.fst).Nodup
  stored : ∀ entry ∈ ledger.created, ∃ run ∈ ledger.db.runs.rows, run.id = entry.1
  recorded : ∀ run ∈ ledger.db.runs.rows, (run.id, run.requested) ∈ ledger.created
  prepared : ∀ entry ∈ ledger.created, Prepared sha256 entry.2

theorem valid_empty (sha256 : ByteArray → String) : Valid sha256 empty where
  consistent := consistent_empty
  keys := List.nodup_nil
  stored := fun _ member => nomatch member
  recorded := fun _ member => nomatch member
  prepared := fun _ member => nomatch member

theorem distinct_members {members : JsonObject} (keys : members.keys.Nodup)
    (flat : ∀ member ∈ members, member.2.distinctKeys = true) :
    (Json.obj members).distinctKeys = true :=
  (Json.distinctKeys_obj members).mpr ⟨keys, flat⟩

theorem kept_policy_distinct {isPrintable : Char → Bool} {value : Json} {kept : JsonObject}
    (parsed : parsePolicy isPrintable value = .ok kept) : (Json.obj kept).distinctKeys = true := by
  obtain ⟨_, name, _, _, _, _, _, rfl⟩ := (parsePolicy_ok isPrintable _ _).mp parsed
  apply distinct_members
  · simp [JsonObject.keys]
  · simp [Json.distinctKeys]

theorem kept_seedSpec_distinct {isPrintable : Char → Bool} {value : Json} {kept : JsonObject}
    (parsed : parseSeedSpec isPrintable value = .ok kept) : (Json.obj kept).distinctKeys = true := by
  obtain ⟨_, rfl, range | list⟩ := parseSeedSpec_kind isPrintable _ _ parsed
  · obtain ⟨_, start, stop, _, _, _, rfl⟩ := (parseSeedSpec_range isPrintable _ _ range).mp parsed
    apply distinct_members
    · simp [rangeForm, JsonObject.keys]
    · simp [rangeForm, Json.distinctKeys]
  · obtain ⟨_, seeds, _, _, rfl⟩ := (parseSeedSpec_list isPrintable _ _ list).mp parsed
    apply distinct_members
    · simp [listForm, JsonObject.keys]
    · simp [listForm, Json.distinctKeys, Json.distinctItems_iff]

theorem normalForm_distinct (stored : PurePath) {policy seedSpec : JsonObject} (rows : Bool)
    (policyDistinct : (Json.obj policy).distinctKeys = true)
    (seedSpecDistinct : (Json.obj seedSpec).distinctKeys = true) :
    (Json.obj (normalForm stored policy seedSpec rows)).distinctKeys = true := by
  apply distinct_members
  · simp [normalForm, JsonObject.keys]
  · intro member present
    simp only [normalForm, List.mem_cons, List.not_mem_nil, or_false] at present
    rcases present with rfl | rfl | rfl | rfl
    · rfl
    · exact policyDistinct
    · exact seedSpecDistinct
    · rfl

theorem prepared_of_prepareRun {soloWargame : SoloWargameRunner} {fs : FileSystem}
    {env : ServiceEnv} {db : Database} {payload : RunCreate} {new : NewRun}
    (registry : env.registry = buildRunnerRegistry soloWargame fs)
    (distinct : (Json.obj payload.config).distinctKeys = true)
    (prepared : prepareRun env db payload = .ok new) : Prepared env.sha256 new := by
  obtain ⟨project, runner, normalized, _, registered, parsed, rfl⟩ :=
    (prepareRun_ok env db payload new).mp prepared
  have lookup := registered
  rw [registry] at lookup
  rcases registered_cases lookup with ⟨isWargame, rfl⟩ | ⟨isStub, rfl⟩
  · obtain ⟨_, _, _, _, stored, policy, seedSpec, rows, _, _, _, valid, form, _⟩ :=
      prepareRun_wargame registered rfl prepared
    have policyDistinct := kept_policy_distinct valid.policy
    have seedSpecDistinct := kept_seedSpec_distinct valid.seedSpec
    have sorted : normalized.sortKeys = normalForm stored policy seedSpec rows := form
    refine ⟨?_, rfl, fun _ => ⟨stored, policy, seedSpec, rows, form, policyDistinct,
      seedSpecDistinct⟩⟩
    rw [sorted]
    exact normalForm_distinct stored rows policyDistinct seedSpecDistinct
  · obtain rfl : payload.config = normalized := Except.ok.inj parsed
    refine ⟨?_, rfl, ?_⟩
    · rw [← Json.sortKeys_obj]
      exact (Json.distinctKeys_sortKeys _).mpr distinct
    · intro isWargame
      have absurdType : StubRunner.runnerType = SoloWargame.runnerType := isStub.symm.trans isWargame
      exact absurd absurdType (by decide)

section Steps

variable {accepts : TerminalValues → Bool} {sha256 : ByteArray → String} {ledger later : Ledger}

theorem valid_step (valid : Valid sha256 ledger) (step : Step accepts sha256 ledger later) :
    Valid sha256 later := by
  cases step with
  | createRun soloWargame fs env payload new registry hash distinct prepared =>
      have commit := commit_insertRun ledger.db new env.runCreatedAt env.attemptCreatedAt
      obtain ⟨runs, -⟩ := insertRun_rows ledger.db new env.runCreatedAt env.attemptCreatedAt
      constructor
      · exact commit_consistent valid.consistent commit
      · rw [List.map_cons, List.nodup_cons]
        refine ⟨?_, valid.keys⟩
        intro member
        obtain ⟨entry, present, same⟩ := List.mem_map.mp member
        obtain ⟨run, row, key⟩ := valid.stored entry present
        have bound := ledger.db.runs.below run row
        rw [rowId_run] at bound
        omega
      · intro entry member
        rw [runs]
        rcases List.mem_cons.mp member with rfl | old
        · exact ⟨_, List.mem_append_right _ (List.mem_singleton.mpr rfl), rfl⟩
        · obtain ⟨run, row, key⟩ := valid.stored entry old
          exact ⟨run, List.mem_append_left _ row, key⟩
      · intro run member
        rw [runs, List.mem_append, List.mem_singleton] at member
        rcases member with old | rfl
        · exact List.mem_cons_of_mem _ (valid.recorded run old)
        · exact List.mem_cons_self
      · intro entry member
        rcases List.mem_cons.mp member with rfl | old
        · exact hash ▸ prepared_of_prepareRun registry distinct prepared
        · exact valid.prepared entry old
  | other db txn known =>
      rcases txn.commit valid.consistent with rfl | commit
      · exact valid
      · refine ⟨txn.consistent valid.consistent, valid.keys, ?_, ?_, valid.prepared⟩
        · intro entry member
          obtain ⟨run, row, key⟩ := valid.stored entry member
          obtain ⟨later, laterRow, same, -⟩ := (commit.stepLaw valid.consistent).pointer run row
          exact ⟨later, laterRow, same.trans key⟩
        · intro run member
          obtain ⟨old, present, same⟩ := known run member
          rw [← same, commit.requested present member same.symm]
          exact valid.recorded old present

theorem valid_reached (reached : ReflTransGen (Step accepts sha256) empty ledger) :
    Valid sha256 ledger :=
  Transition.invariant (valid_empty sha256) (fun _ _ valid step => valid_step valid step) reached

theorem created_kept (history : ReflTransGen (Step accepts sha256) ledger later) :
    ∀ entry ∈ ledger.created, entry ∈ later.created := by
  induction history with
  | refl => exact fun _ member => member
  | tail _ step ih =>
      intro entry member
      cases step with
      | createRun => exact List.mem_cons_of_mem _ (ih entry member)
      | other => exact ih entry member

end Steps

end Ledger

def DecodesBack (request : JsonObject) : Prop :=
  ∃ decoded, Json.loads (Json.dumps (Json.indented 2) (Json.obj request).sortKeys) = some decoded ∧
    Json.Reorders (.obj request) decoded

/-- Both executions build a request, the two differ in `artifact_dir` at most, and both are what
their files decode to. -/
def ShareRequest (first second : Except String JsonObject) : Prop :=
  ∃ request other, first = .ok request ∧ second = .ok other ∧
    (∀ key, key ≠ "artifact_dir" → request.lookup key = other.lookup key) ∧
    DecodesBack request ∧ DecodesBack other

def Conveys (config : JsonObject) (artifactDir : String) (built : Except String JsonObject) : Prop :=
  ∃ request, built = .ok request ∧ request.lookup "artifact_dir" = some (.str artifactDir) ∧
    ∀ key ∈ ["mission_path", "policy", "seed_spec", "write_episode_rows"],
      ∃ value, config.lookup key = some value ∧ request.lookup key = some value

def SoloWargameRunner.request (self : SoloWargameRunner) (run : Run) (attempt : RunAttempt) :
    Except String JsonObject :=
  buildEpisodeBatchRequest run.normalizedConfig (self.artifactDir run attempt)

theorem decodesBack {request : JsonObject} (distinct : (Json.obj request).distinctKeys = true) :
    DecodesBack request := by
  have sorted : (Json.obj request).sortKeys.distinctKeys = true :=
    (Json.distinctKeys_sortKeys _).mpr distinct
  exact ⟨_, Json.loads_dumps _ (Json.indented_blank 2) _ sorted, Json.reorders_sortKeys _⟩

section Form

variable (stored : PurePath) {policy seedSpec : JsonObject} (rows : Bool)

def formRequest (policy seedSpec : JsonObject) (artifactDir : String) : JsonObject :=
  [("schema_version", .str runnerSchemaVersion), ("operation", .str episodeBatchOperation),
    ("mission_path", .str stored.asPosix), ("policy", .obj policy), ("seed_spec", .obj seedSpec)] ++
    [("artifact_dir", .str artifactDir)] ++ [("write_episode_rows", .bool rows)]

theorem build_normalForm (artifactDir : String) :
    buildEpisodeBatchRequest (normalForm stored policy seedSpec rows) artifactDir =
      .ok (formRequest stored rows policy seedSpec artifactDir) := rfl

theorem form_conveys (artifactDir : String) :
    Conveys (normalForm stored policy seedSpec rows) artifactDir
      (buildEpisodeBatchRequest (normalForm stored policy seedSpec rows) artifactDir) := by
  refine ⟨_, build_normalForm stored rows artifactDir, rfl, ?_⟩
  intro key member
  simp only [List.mem_cons, List.not_mem_nil, or_false] at member
  rcases member with rfl | rfl | rfl | rfl <;> exact ⟨_, rfl, rfl⟩

variable (policyDistinct : (Json.obj policy).distinctKeys = true)
  (seedSpecDistinct : (Json.obj seedSpec).distinctKeys = true)

include policyDistinct seedSpecDistinct

theorem formRequest_distinct (artifactDir : String) :
    (Json.obj (formRequest stored rows policy seedSpec artifactDir)).distinctKeys = true := by
  apply Ledger.distinct_members
  · simp [formRequest, JsonObject.keys]
  · intro member present
    simp only [formRequest, List.cons_append, List.nil_append, List.mem_cons, List.not_mem_nil,
      or_false] at present
    rcases present with rfl | rfl | rfl | rfl | rfl | rfl | rfl
    · rfl
    · rfl
    · rfl
    · exact policyDistinct
    · exact seedSpecDistinct
    · rfl
    · rfl

theorem form_shareRequest (firstDir secondDir : String) :
    ShareRequest (buildEpisodeBatchRequest (normalForm stored policy seedSpec rows) firstDir)
      (buildEpisodeBatchRequest (normalForm stored policy seedSpec rows) secondDir) := by
  refine ⟨_, _, build_normalForm stored rows firstDir, build_normalForm stored rows secondDir, ?_,
    decodesBack (formRequest_distinct stored rows policyDistinct seedSpecDistinct firstDir),
    decodesBack (formRequest_distinct stored rows policyDistinct seedSpecDistinct secondDir)⟩
  intro key other
  have skipped (text : String) : List.lookup key [("artifact_dir", Json.str text)] = none := by
    rw [lookup_entry, if_neg other]
  simp only [formRequest, List.lookup_append, skipped]

end Form

open Ledger

/-- A run keeps the columns it was created with, its hash is that of its stored config, and all its
attempts are executed with the one request this config says. -/
theorem attempts_share_request {accepts : TerminalValues → Bool} {sha256 : ByteArray → String}
    {ledger : Ledger} (encode : Json → String) (decode : String → Option Json)
    (roundTrips : ∀ value : Json, value.strict = true → value.distinctKeys = true →
      decode (encode value) = some value)
    (reached : ReflTransGen (Ledger.Step accepts sha256) Ledger.empty ledger) (run : Run)
    (member : run ∈ ledger.db.runs.rows) :
    ledger.created.lookup run.id = some run.requested ∧
      ((Json.obj run.normalizedConfig).strict = true →
        ∃ stored, decode (encode (.obj run.normalizedConfig)) = some stored ∧
          run.configHash = computeConfigHash sha256 stored) ∧
      (run.runnerType = SoloWargame.runnerType →
        ∀ later, ReflTransGen (Ledger.Step accepts sha256) ledger later →
          ∀ version ∈ later.db.runs.rows, version.id = run.id →
            ∀ (first second : SoloWargameRunner) (attempt other : RunAttempt),
              ShareRequest (first.request run attempt) (second.request version other) ∧
                Conveys run.normalizedConfig (first.artifactDir run attempt)
                  (first.request run attempt) ∧
                Conveys run.normalizedConfig (second.artifactDir version other)
                  (second.request version other)) := by
  have valid := valid_reached reached
  have recorded := valid.recorded run member
  have prepared := valid.prepared _ recorded
  refine ⟨(lookup_iff_mem valid.keys _ _).mpr recorded, ?_, ?_⟩
  · intro strict
    exact ⟨_, roundTrips _ strict prepared.distinct, prepared.hash⟩
  · intro isWargame later history version versionMember same first second attempt other
    have validLater := valid_reached (reached.trans history)
    have versionRecorded := validLater.recorded version versionMember
    have kept := created_kept history _ recorded
    have equal : version.requested = run.requested := by
      have entry := (lookup_iff_mem validLater.keys _ _).mpr kept
      have versionEntry := (lookup_iff_mem validLater.keys _ _).mpr versionRecorded
      rw [same, entry] at versionEntry
      exact (Option.some.inj versionEntry).symm
    have config : version.normalizedConfig = run.normalizedConfig :=
      congrArg NewRun.normalizedConfig equal
    obtain ⟨stored, policy, seedSpec, rows, form, policyDistinct, seedSpecDistinct⟩ :=
      prepared.wargame isWargame
    have runForm : run.normalizedConfig = normalForm stored policy seedSpec rows := form
    rw [SoloWargameRunner.request, SoloWargameRunner.request, config, runForm]
    exact ⟨form_shareRequest stored rows policyDistinct seedSpecDistinct _ _,
      form_conveys stored rows _, form_conveys stored rows _⟩

def registryEnv : ServiceEnv := { tildeEnv with registry := buildRunnerRegistry tildeRunner tildeFiles }

theorem Ledger.known_of_ids {before after : Database}
    (same : after.runs.rows.map Run.id = before.runs.rows.map Run.id) :
    ∀ run ∈ after.runs.rows, ∃ old ∈ before.runs.rows, old.id = run.id := by
  intro run member
  exact List.mem_map.mp (same ▸ List.mem_map_of_mem member)

/-- Both attempts of a run that was created from a relative mission path, failed and was retried.
The columns hold what `Json.dumps` writes and are read back by `Json.loads`. -/
theorem attempts_share_request_retried :
    ∃ (ledger later : Ledger) (run version : Run), run ∈ ledger.db.runs.rows ∧
      version ∈ later.db.runs.rows ∧ run.currentAttemptId = some 1 ∧
      version.currentAttemptId = some 2 ∧
      ledger.created.lookup run.id = some run.requested ∧
      ShareRequest (tildeRunner.request run (newAttempt 1 1 1 0))
        (tildeRunner.request version (newAttempt 2 1 2 3)) := by
  have project : Ledger.Step (fun _ => true) (fun _ => "") Ledger.empty ⟨sampleProject, []⟩ :=
    .other _ (.createProject "evals" none 0) (fun _ member => nomatch member)
  obtain ⟨new, prepared, isWargame⟩ : ∃ new,
      prepareRun registryEnv sampleProject (wargameSubmission "./m") = .ok new ∧
        new.runnerType = SoloWargame.runnerType := ⟨_, rfl, rfl⟩
  have created : Ledger.Step (fun _ => true) (fun _ => "") ⟨sampleProject, []⟩
      ⟨(insertRun sampleProject new 0 0).1, [(1, new)]⟩ :=
    .createRun tildeRunner tildeFiles registryEnv (wargameSubmission "./m") new rfl rfl (by decide)
      prepared
  have reached := (ReflTransGen.single project).tail created
  let run : Run := { new.row 1 0 with currentAttemptId := some 1 }
  have member : run ∈ (insertRun sampleProject new 0 0).1.runs.rows := by
    rw [(insertRun_rows sampleProject new 0 0).1]
    exact List.mem_append_right _ (List.mem_singleton.mpr rfl)
  obtain ⟨later, history, version, row, key, pointer⟩ : ∃ later,
      ReflTransGen (Ledger.Step (fun _ => true) (fun _ => ""))
          ⟨(insertRun sampleProject new 0 0).1, [(1, new)]⟩ later ∧
        ∃ version ∈ later.db.runs.rows, version.id = 1 ∧ version.currentAttemptId = some 2 := by
    refine Transition.reach _ (.other _ (.claim (newAttempt 1 1 1 0) 1 _ rfl rfl)
      (known_of_ids rfl)) ?_
    refine Transition.reach _ (.other _ (.persist ((newAttempt 1 1 1 0).start 1)
      { status := .failed } 2 _ rfl rfl) (known_of_ids rfl)) ?_
    refine Transition.reach _ (.other _ (.retryRun 1 _ 3 _ 2 rfl rfl rfl) (known_of_ids rfl)) ?_
    exact Transition.reached ⟨_, List.mem_singleton.mpr rfl, rfl, rfl⟩
  have python (value : Json) (_ : value.strict = true) (distinct : value.distinctKeys = true) :
      Json.loads (Json.dumps Json.compact value) = some value :=
    Json.loads_dumps Json.compact Json.compact_blank value distinct
  obtain ⟨recorded, _, shared⟩ := attempts_share_request (Json.dumps Json.compact) Json.loads python
    reached run member
  exact ⟨_, later, run, version, member, row, rfl, pointer, recorded,
    (shared isWargame later history version row key _ _ _ _).1⟩

end Evalynx
