import Evalynx.PayloadContract
import Evalynx.SoloWargameConfig

/-! Which configs the solo_wargame runner accepts, and what it makes of one. -/

namespace Evalynx

namespace SoloWargame

open Posix Checking

def IsPolicy (policy : JsonObject) : Prop :=
  (∀ key ∈ policy.keys, key ∈ ["kind", "name"]) ∧ policy.get "kind" = .str "builtin" ∧
    ∃ name ∈ supportedBuiltinPolicies, policy.get "name" = .str name

def IsSeedRange (seedSpec : JsonObject) : Prop :=
  (∀ key ∈ seedSpec.keys, key ∈ ["kind", "start", "stop"]) ∧ seedSpec.get "kind" = .str "range" ∧
    ∃ start stop : Int, seedSpec.get "start" = .int start ∧ seedSpec.get "stop" = .int stop ∧
      start < stop

def IsSeedList (seedSpec : JsonObject) : Prop :=
  (∀ key ∈ seedSpec.keys, key ∈ ["kind", "seeds"]) ∧ seedSpec.get "kind" = .str "list" ∧
    ∃ seeds : List Int, seedSpec.get "seeds" = .arr (seeds.map .int) ∧ seeds ≠ []

structure MissionFile (fs : FileSystem) (repo : PurePath) (text : String) (file : PurePath) :
    Prop where
  resolved : ∃ candidate, (PurePath.parse text).expandUser fs = .ok candidate ∧
    fs.resolve (repo.join candidate) = .ok file
  inside : repo.Inside file
  regular : fs.stat file = .ok (some .regular)

structure IsWargameConfig (fs : FileSystem) (repo : PurePath) (config : JsonObject) : Prop where
  keys : ∀ key ∈ config.keys, key ∈ ["mission_path", "policy", "seed_spec", "write_episode_rows"]
  missionPath : ∃ text file, config.get "mission_path" = .str text ∧
    PyText.isBlank text = false ∧ MissionFile fs repo text file
  policy : ∃ policy, config.get "policy" = .obj policy ∧ IsPolicy policy
  seedSpec : ∃ seedSpec, config.get "seed_spec" = .obj seedSpec ∧
    (IsSeedRange seedSpec ∨ IsSeedList seedSpec)
  writeEpisodeRows : config.get "write_episode_rows" = .null ∨
    ∃ value, config.get "write_episode_rows" = .bool value

/-- What the normalized config keeps of the config. -/
structure Normalizes (fs : FileSystem) (repo : PurePath) (config result : JsonObject) : Prop where
  keys : result.keys = ["mission_path", "policy", "seed_spec", "write_episode_rows"]
  missionPath : ∃ text file stored, config.get "mission_path" = .str text ∧
    MissionFile fs repo text file ∧ file.relativeTo repo = some stored ∧
      result.get "mission_path" = .str stored.asPosix
  policy : ∃ given kept : JsonObject, config.get "policy" = .obj given ∧
    result.get "policy" = .obj kept ∧ ∀ key, kept.lookup key = given.lookup key
  seedSpec : ∃ given kept : JsonObject, config.get "seed_spec" = .obj given ∧
    result.get "seed_spec" = .obj kept ∧ ∀ key, kept.lookup key = given.lookup key
  writeEpisodeRows : ∃ value, result.get "write_episode_rows" = .bool value ∧
    (config.get "write_episode_rows" = .bool value ∨
      (config.get "write_episode_rows" = .null ∧ value = false))

theorem shared_ok {α : Type} (checked : Except PayloadError α) (value : α) :
    shared checked = .ok value ↔ checked = .ok value :=
  mapError_ok asConfigError checked value

theorem pathlib_ok {α : Type} (called : Except String α) (value : α) :
    pathlib called = .ok value ↔ called = .ok value :=
  mapError_ok ConfigError.crashed called value

theorem requirePlainInt_ok (value : Json) (fieldName : String) (n : Int) :
    requirePlainInt value fieldName = .ok n ↔ value = .int n := by
  cases value <;> simp [requirePlainInt, pure, Except.pure, throw, throwThe, MonadExceptOf.throw]

theorem parseOptionalBool_ok (value : Json) (fieldName : String) (default result : Bool) :
    parseOptionalBool value fieldName default = .ok result ↔
      value = .bool result ∨ (value = .null ∧ result = default) := by
  cases value <;>
    simp [parseOptionalBool, pure, Except.pure, throw, throwThe, MonadExceptOf.throw, eq_comm]

theorem parseSeeds_ok (value : Json) (seeds : List Int) :
    parseSeeds value = .ok seeds ↔ value = .arr (seeds.map .int) := by
  unfold parseSeeds
  split
  · rename_i items
    rw [readAll_ok (fun _ _ _ => requirePlainInt_ok _ _ _), Json.arr.injEq]
  · rename_i noArray
    constructor
    · intro parsed
      cases parsed
    · intro same
      exact absurd same (noArray _)

section Checks

variable (isPrintable : Char → Bool)

theorem rejectUnknownKeys_ok (mapping : JsonObject) (allowed : List String) (fieldName : String)
    (done : Unit) :
    rejectUnknownKeys isPrintable mapping allowed fieldName = .ok done ↔
      ∀ key ∈ mapping.keys, key ∈ allowed := by
  have sorted (texts : List String) : texts.insertionSort (· ≤ ·) = [] ↔ texts = [] := by
    rw [← List.length_eq_zero_iff, List.length_insertionSort, List.length_eq_zero_iff]
  rw [rejectUnknownKeys, raiseIf_ok, not_not, sorted, List.filter_eq_nil_iff]
  simp

theorem parsePolicy_ok (value : Json) (kept : JsonObject) :
    parsePolicy isPrintable value = .ok kept ↔
      ∃ (policy : JsonObject) (name : String), value = .obj policy ∧
        (∀ key ∈ policy.keys, key ∈ ["kind", "name"]) ∧ policy.get "kind" = .str "builtin" ∧
        policy.get "name" = .str name ∧ name ∈ supportedBuiltinPolicies ∧
        kept = [("kind", .str "builtin"), ("name", .str name)] := by
  have written : ∀ name ∈ supportedBuiltinPolicies, PyText.isBlank name = false := by decide
  constructor
  · intro parsed
    obtain ⟨policy, isObject, parsed⟩ := (bind_ok _ _ _).mp parsed
    obtain ⟨_, known, parsed⟩ := (bind_ok _ _ _).mp parsed
    obtain ⟨kind, kindFound, parsed⟩ := (bind_ok _ _ _).mp parsed
    obtain ⟨_, builtin, parsed⟩ := (bind_ok _ _ _).mp parsed
    obtain ⟨name, nameFound, parsed⟩ := (bind_ok _ _ _).mp parsed
    obtain ⟨_, supported, parsed⟩ := (bind_ok _ _ _).mp parsed
    have same : kind = "builtin" := not_not.mp ((raiseIf_ok _ _ _).mp builtin)
    subst same
    exact ⟨policy, name, (requireObject_ok _ _ _).mp ((shared_ok _ _).mp isObject),
      (rejectUnknownKeys_ok isPrintable _ _ _ _).mp known,
      ((requireString_ok _ _ _ _).mp ((shared_ok _ _).mp kindFound)).1,
      ((requireString_ok _ _ _ _).mp ((shared_ok _ _).mp nameFound)).1,
      not_not.mp ((raiseIf_ok _ _ _).mp supported), ((pure_ok _ _).mp parsed).symm⟩
  · intro given
    rcases given with ⟨policy, name, rfl, known, kindFound, nameFound, supported, rfl⟩
    refine (bind_ok _ _ _).mpr ⟨policy, rfl, ?_⟩
    refine (bind_ok _ _ _).mpr ⟨(), (rejectUnknownKeys_ok isPrintable _ _ _ _).mpr known, ?_⟩
    refine (bind_ok _ _ _).mpr ⟨"builtin", (shared_ok _ _).mpr ((requireString_ok _ _ _ _).mpr
      ⟨kindFound, by decide⟩), ?_⟩
    refine (bind_ok _ _ _).mpr ⟨(), (raiseIf_ok _ _ _).mpr (not_not.mpr rfl), ?_⟩
    refine (bind_ok _ _ _).mpr ⟨name, (shared_ok _ _).mpr ((requireString_ok _ _ _ _).mpr
      ⟨nameFound, written name supported⟩), ?_⟩
    exact (bind_ok _ _ _).mpr ⟨(), (raiseIf_ok _ _ _).mpr (not_not.mpr supported), rfl⟩

def rangeForm (start stop : Int) : JsonObject :=
  [("kind", .str "range"), ("start", .int start), ("stop", .int stop)]

def listForm (seeds : List Int) : JsonObject :=
  [("kind", .str "list"), ("seeds", .arr (seeds.map .int))]

theorem readKind_ok {seedSpec kept : JsonObject} {kind : String}
    (found : seedSpec.get "kind" = .str kind) (written : PyText.isBlank kind = false)
    (next : JsonObject → String → Except ConfigError JsonObject) :
    (do
      let opened ← shared (requireObject (.obj seedSpec) "config.seed_spec")
      let read ← shared (requireString opened "kind" "config.seed_spec")
      next opened read) = .ok kept ↔ next seedSpec kind = .ok kept := by
  constructor
  · intro parsed
    obtain ⟨_, isObject, parsed⟩ := (bind_ok _ _ _).mp parsed
    obtain rfl := Json.obj.inj ((requireObject_ok _ _ _).mp ((shared_ok _ _).mp isObject))
    obtain ⟨text, read, parsed⟩ := (bind_ok _ _ _).mp parsed
    have same := ((requireString_ok _ _ _ _).mp ((shared_ok _ _).mp read)).1
    rw [found, Json.str.injEq] at same
    rw [same]
    exact parsed
  · intro parsed
    refine (bind_ok _ _ _).mpr ⟨seedSpec, rfl, ?_⟩
    exact (bind_ok _ _ _).mpr ⟨kind, (shared_ok _ _).mpr ((requireString_ok _ _ _ _).mpr
      ⟨found, written⟩), parsed⟩

theorem parseSeedSpec_range (seedSpec kept : JsonObject) (kind : seedSpec.get "kind" = .str "range") :
    parseSeedSpec isPrintable (.obj seedSpec) = .ok kept ↔
      (∀ key ∈ seedSpec.keys, key ∈ ["kind", "start", "stop"]) ∧ ∃ start stop : Int,
        seedSpec.get "start" = .int start ∧ seedSpec.get "stop" = .int stop ∧ start < stop ∧
          kept = rangeForm start stop := by
  rw [parseSeedSpec, readKind_ok kind (by decide), if_pos rfl]
  constructor
  · intro parsed
    obtain ⟨_, known, parsed⟩ := (bind_ok _ _ _).mp parsed
    obtain ⟨start, startFound, parsed⟩ := (bind_ok _ _ _).mp parsed
    obtain ⟨stop, stopFound, parsed⟩ := (bind_ok _ _ _).mp parsed
    obtain ⟨_, order, parsed⟩ := (bind_ok _ _ _).mp parsed
    exact ⟨(rejectUnknownKeys_ok isPrintable _ _ _ _).mp known, start, stop,
      (requirePlainInt_ok _ _ _).mp startFound, (requirePlainInt_ok _ _ _).mp stopFound,
      Int.not_le.mp ((raiseIf_ok _ _ _).mp order), ((pure_ok _ _).mp parsed).symm⟩
  · intro given
    rcases given with ⟨known, start, stop, startFound, stopFound, order, rfl⟩
    refine (bind_ok _ _ _).mpr ⟨(), (rejectUnknownKeys_ok isPrintable _ _ _ _).mpr known, ?_⟩
    refine (bind_ok _ _ _).mpr ⟨start, (requirePlainInt_ok _ _ _).mpr startFound, ?_⟩
    refine (bind_ok _ _ _).mpr ⟨stop, (requirePlainInt_ok _ _ _).mpr stopFound, ?_⟩
    exact (bind_ok _ _ _).mpr ⟨(), (raiseIf_ok _ _ _).mpr (Int.not_le.mpr order), rfl⟩

theorem parseSeedSpec_list (seedSpec kept : JsonObject) (kind : seedSpec.get "kind" = .str "list") :
    parseSeedSpec isPrintable (.obj seedSpec) = .ok kept ↔
      (∀ key ∈ seedSpec.keys, key ∈ ["kind", "seeds"]) ∧ ∃ seeds : List Int,
        seedSpec.get "seeds" = .arr (seeds.map .int) ∧ seeds ≠ [] ∧ kept = listForm seeds := by
  rw [parseSeedSpec, readKind_ok kind (by decide), if_neg (by decide), if_pos rfl]
  constructor
  · intro parsed
    obtain ⟨_, known, parsed⟩ := (bind_ok _ _ _).mp parsed
    obtain ⟨seeds, seedsFound, parsed⟩ := (bind_ok _ _ _).mp parsed
    obtain ⟨_, some, parsed⟩ := (bind_ok _ _ _).mp parsed
    exact ⟨(rejectUnknownKeys_ok isPrintable _ _ _ _).mp known, seeds,
      (parseSeeds_ok _ _).mp seedsFound, (raiseIf_ok _ _ _).mp some,
      ((pure_ok _ _).mp parsed).symm⟩
  · intro given
    rcases given with ⟨known, seeds, seedsFound, some, rfl⟩
    refine (bind_ok _ _ _).mpr ⟨(), (rejectUnknownKeys_ok isPrintable _ _ _ _).mpr known, ?_⟩
    refine (bind_ok _ _ _).mpr ⟨seeds, (parseSeeds_ok _ _).mpr seedsFound, ?_⟩
    exact (bind_ok _ _ _).mpr ⟨(), (raiseIf_ok _ _ _).mpr some, rfl⟩

theorem parseSeedSpec_kind (value : Json) (kept : JsonObject)
    (parsed : parseSeedSpec isPrintable value = .ok kept) :
    ∃ seedSpec : JsonObject, value = .obj seedSpec ∧
      (seedSpec.get "kind" = .str "range" ∨ seedSpec.get "kind" = .str "list") := by
  obtain ⟨seedSpec, isObject, parsed⟩ := (bind_ok _ _ _).mp parsed
  obtain ⟨kind, found, parsed⟩ := (bind_ok _ _ _).mp parsed
  have kindFound := ((requireString_ok _ _ _ _).mp ((shared_ok _ _).mp found)).1
  refine ⟨seedSpec, (requireObject_ok _ _ _).mp ((shared_ok _ _).mp isObject), ?_⟩
  by_cases range : kind = "range"
  · exact Or.inl (range ▸ kindFound)
  · by_cases list : kind = "list"
    · exact Or.inr (list ▸ kindFound)
    · rw [if_neg range, if_neg list] at parsed
      cases parsed

end Checks

section Paths

variable (fs : FileSystem)

theorem isKind_ok (path : PurePath) (kind : FileKind) :
    isKind fs path kind = .ok true ↔ fs.stat path = .ok (some kind) := by
  rw [isKind, bind_ok]
  constructor
  · intro given
    rcases given with ⟨found, called, same⟩
    have kept : found = some kind := of_decide_eq_true ((pure_ok _ _).mp same)
    exact kept ▸ (pathlib_ok _ _).mp called
  · intro called
    exact ⟨some kind, (pathlib_ok _ _).mpr called, (pure_ok _ _).mpr (decide_eq_true rfl)⟩

theorem existsAs_ok (path : PurePath) (kind : FileKind) :
    existsAs fs path kind = .ok true ↔ fs.stat path = .ok (some kind) := by
  rw [existsAs, bind_ok]
  constructor
  · intro given
    rcases given with ⟨found, -, checked⟩
    cases found with
    | false => cases (pure_ok _ _).mp checked
    | true => exact (isKind_ok fs path kind).mp checked
  · intro called
    have found : pathExists fs path = .ok true :=
      (bind_ok _ _ _).mpr ⟨some kind, (pathlib_ok _ _).mpr called, rfl⟩
    exact ⟨true, found, (isKind_ok fs path kind).mpr called⟩

theorem normalizeRepoRelativePath_ok (value : String) (repo file : PurePath) (fieldName : String) :
    normalizeRepoRelativePath fs value repo fieldName = .ok file ↔
      (∃ candidate, (PurePath.parse value).expandUser fs = .ok candidate ∧
        fs.resolve (repo.join candidate) = .ok file) ∧ repo.Inside file := by
  constructor
  · intro parsed
    obtain ⟨candidate, expanded, parsed⟩ := (bind_ok _ _ _).mp parsed
    obtain ⟨resolved, found, parsed⟩ := (bind_ok _ _ _).mp parsed
    obtain ⟨_, inside, parsed⟩ := (bind_ok _ _ _).mp parsed
    obtain rfl := (pure_ok _ _).mp parsed
    rw [PurePath.join_candidate] at found
    rw [raiseIf_ok, PurePath.relativeTo_eq_none, not_not] at inside
    exact ⟨⟨candidate, (pathlib_ok _ _).mp expanded, (pathlib_ok _ _).mp found⟩, inside⟩
  · intro given
    rcases given with ⟨⟨candidate, expanded, found⟩, inside⟩
    refine (bind_ok _ _ _).mpr ⟨candidate, (pathlib_ok _ _).mpr expanded, ?_⟩
    rw [PurePath.join_candidate]
    refine (bind_ok _ _ _).mpr ⟨file, (pathlib_ok _ _).mpr found, ?_⟩
    refine (bind_ok _ _ _).mpr ⟨(), ?_, rfl⟩
    rw [raiseIf_ok, PurePath.relativeTo_eq_none, not_not]
    exact inside

end Paths

def normalForm (stored : PurePath) (policy seedSpec : JsonObject) (writeEpisodeRows : Bool) :
    JsonObject :=
  [("mission_path", .str stored.asPosix), ("policy", .obj policy), ("seed_spec", .obj seedSpec),
    ("write_episode_rows", .bool writeEpisodeRows)]

section Config

variable (fs : FileSystem) (isPrintable : Char → Bool)

structure Validated (repo : PurePath) (config : JsonObject) (text : String) (file stored : PurePath)
    (policy seedSpec : JsonObject) (writeEpisodeRows : Bool) : Prop where
  keys : ∀ key ∈ config.keys, key ∈ ["mission_path", "policy", "seed_spec", "write_episode_rows"]
  missionPath : config.get "mission_path" = .str text
  written : PyText.isBlank text = false
  mission : MissionFile fs repo text file
  stored : file.relativeTo repo = some stored
  policy : parsePolicy isPrintable (config.get "policy") = .ok policy
  seedSpec : parseSeedSpec isPrintable (config.get "seed_spec") = .ok seedSpec
  writeEpisodeRows : config.get "write_episode_rows" = .bool writeEpisodeRows ∨
    (config.get "write_episode_rows" = .null ∧ writeEpisodeRows = false)

theorem relativeText_ok {file repo stored : PurePath} (inside : file.relativeTo repo = some stored)
    (text : String) : relativeText file repo = .ok text ↔ stored.asPosix = text := by
  rw [relativeText, inside]
  exact pure_ok _ _

theorem normalize_ok (repoPath : PurePath) (config result : JsonObject) :
    normalizeSoloWargameConfig fs isPrintable (some repoPath) config = .ok result ↔
      ∃ repo, fs.resolve repoPath = .ok repo ∧ fs.stat repo = .ok (some .directory) ∧
        ∃ text file stored policy seedSpec writeEpisodeRows,
          Validated fs isPrintable repo config text file stored policy seedSpec writeEpisodeRows ∧
            result = normalForm stored policy seedSpec writeEpisodeRows := by
  constructor
  · intro parsed
    obtain ⟨repo, resolved, parsed⟩ := (bind_ok _ _ _).mp parsed
    obtain ⟨isRepo, repoFound, parsed⟩ := (bind_ok _ _ _).mp parsed
    obtain ⟨_, repoChecked, parsed⟩ := (bind_ok _ _ _).mp parsed
    obtain ⟨_, known, parsed⟩ := (bind_ok _ _ _).mp parsed
    obtain ⟨text, textFound, parsed⟩ := (bind_ok _ _ _).mp parsed
    obtain ⟨file, fileFound, parsed⟩ := (bind_ok _ _ _).mp parsed
    obtain ⟨isMission, missionFound, parsed⟩ := (bind_ok _ _ _).mp parsed
    obtain ⟨_, missionChecked, parsed⟩ := (bind_ok _ _ _).mp parsed
    obtain ⟨policy, policyFound, parsed⟩ := (bind_ok _ _ _).mp parsed
    obtain ⟨seedSpec, seedSpecFound, parsed⟩ := (bind_ok _ _ _).mp parsed
    obtain ⟨rows, rowsFound, parsed⟩ := (bind_ok _ _ _).mp parsed
    obtain ⟨shown, shownFound, parsed⟩ := (bind_ok _ _ _).mp parsed
    have isRepoTrue : isRepo = true := by simpa using (raiseIf_ok _ _ _).mp repoChecked
    have isMissionTrue : isMission = true := by simpa using (raiseIf_ok _ _ _).mp missionChecked
    subst isRepoTrue isMissionTrue
    obtain ⟨missionPath, written⟩ := (requireString_ok _ _ _ _).mp ((shared_ok _ _).mp textFound)
    obtain ⟨named, inside⟩ := (normalizeRepoRelativePath_ok fs _ _ _ _).mp fileFound
    obtain ⟨stored, storedFound⟩ : ∃ stored, file.relativeTo repo = some stored := by
      apply Option.ne_none_iff_exists'.mp
      intro outside
      exact (PurePath.relativeTo_eq_none _ _).mp outside inside
    obtain rfl := (relativeText_ok storedFound _).mp shownFound
    exact ⟨repo, (pathlib_ok _ _).mp resolved, (existsAs_ok fs _ _).mp repoFound, text, file, stored,
      policy, seedSpec, rows,
      { keys := (rejectUnknownKeys_ok isPrintable _ _ _ _).mp known
        missionPath := missionPath
        written := written
        mission := ⟨named, inside, (existsAs_ok fs _ _).mp missionFound⟩
        stored := storedFound
        policy := policyFound
        seedSpec := seedSpecFound
        writeEpisodeRows := (parseOptionalBool_ok _ _ _ _).mp rowsFound },
      ((pure_ok _ _).mp parsed).symm⟩
  · intro given
    rcases given with ⟨repo, resolved, repoFound, text, file, stored, policy, seedSpec, rows, valid, rfl⟩
    refine (bind_ok _ _ _).mpr ⟨repo, (pathlib_ok _ _).mpr resolved, ?_⟩
    refine (bind_ok _ _ _).mpr ⟨true, (existsAs_ok fs _ _).mpr repoFound, ?_⟩
    refine (bind_ok _ _ _).mpr ⟨(), (raiseIf_ok _ _ _).mpr (by simp), ?_⟩
    refine (bind_ok _ _ _).mpr ⟨(), (rejectUnknownKeys_ok isPrintable _ _ _ _).mpr valid.keys, ?_⟩
    refine (bind_ok _ _ _).mpr ⟨text, (shared_ok _ _).mpr ((requireString_ok _ _ _ _).mpr
      ⟨valid.missionPath, valid.written⟩), ?_⟩
    refine (bind_ok _ _ _).mpr ⟨file, (normalizeRepoRelativePath_ok fs _ _ _ _).mpr
      ⟨valid.mission.resolved, valid.mission.inside⟩, ?_⟩
    refine (bind_ok _ _ _).mpr ⟨true, (existsAs_ok fs _ _).mpr valid.mission.regular, ?_⟩
    refine (bind_ok _ _ _).mpr ⟨(), (raiseIf_ok _ _ _).mpr (by simp), ?_⟩
    refine (bind_ok _ _ _).mpr ⟨policy, valid.policy, ?_⟩
    refine (bind_ok _ _ _).mpr ⟨seedSpec, valid.seedSpec, ?_⟩
    refine (bind_ok _ _ _).mpr ⟨rows, (parseOptionalBool_ok _ _ _ _).mpr valid.writeEpisodeRows, ?_⟩
    exact (bind_ok _ _ _).mpr ⟨_, (relativeText_ok valid.stored _).mpr rfl, rfl⟩

end Config

theorem lookup_of_get {object : JsonObject} {key : String} {value : Json}
    (found : object.get key = value) (solid : value ≠ .null) : object.lookup key = some value := by
  rw [JsonObject.get] at found
  cases member : object.lookup key with
  | none =>
      rw [member] at found
      exact absurd found.symm solid
  | some stored =>
      rw [member] at found
      exact congrArg some found

theorem lookup_unknown {object : JsonObject} {key : String} (unknown : key ∉ object.keys) :
    object.lookup key = none := by
  rw [List.lookup_eq_none_iff]
  intro entry member
  rw [bne_iff_ne]
  rintro rfl
  exact unknown (List.mem_map_of_mem member)

theorem rebuilt_lookup {given kept : JsonObject} (known : ∀ key ∈ given.keys, key ∈ kept.keys)
    (same : ∀ entry ∈ kept, given.get entry.1 = entry.2 ∧ entry.2 ≠ .null) (key : String) :
    kept.lookup key = given.lookup key := by
  cases found : kept.lookup key with
  | none =>
      symm
      apply lookup_unknown
      intro member
      obtain ⟨entry, present, sameKey⟩ := List.mem_map.mp (known key member)
      have other := List.lookup_eq_none_iff.mp found entry present
      rw [bne_iff_ne] at other
      exact other sameKey.symm
  | some value =>
      obtain ⟨front, back, split, _⟩ := List.lookup_eq_some_iff.mp found
      have present : (key, value) ∈ kept := by
        rw [split]
        exact List.mem_append_right _ List.mem_cons_self
      obtain ⟨stored, solid⟩ := same (key, value) present
      exact (lookup_of_get stored solid).symm

section Members

variable (isPrintable : Char → Bool) (value : Json)

theorem parsePolicy_accepts :
    (∃ kept, parsePolicy isPrintable value = .ok kept) ↔
      ∃ policy, value = .obj policy ∧ IsPolicy policy := by
  constructor
  · intro given
    rcases given with ⟨kept, parsed⟩
    obtain ⟨policy, name, same, known, kind, found, supported, -⟩ :=
      (parsePolicy_ok isPrintable _ _).mp parsed
    exact ⟨policy, same, known, kind, name, supported, found⟩
  · intro given
    rcases given with ⟨policy, same, known, kind, name, supported, found⟩
    exact ⟨_, (parsePolicy_ok isPrintable _ _).mpr
      ⟨policy, name, same, known, kind, found, supported, rfl⟩⟩

theorem parsePolicy_keeps {kept : JsonObject} (parsed : parsePolicy isPrintable value = .ok kept) :
    ∃ policy : JsonObject, value = .obj policy ∧ ∀ key, kept.lookup key = policy.lookup key := by
  obtain ⟨policy, name, same, known, kind, found, _, rfl⟩ :=
    (parsePolicy_ok isPrintable _ _).mp parsed
  refine ⟨policy, same, rebuilt_lookup known ?_⟩
  intro entry member
  rcases List.mem_cons.mp member with rfl | member
  · exact ⟨kind, nofun⟩
  · rw [List.mem_singleton.mp member]
    exact ⟨found, nofun⟩

theorem parseSeedSpec_accepts :
    (∃ kept, parseSeedSpec isPrintable value = .ok kept) ↔
      ∃ seedSpec, value = .obj seedSpec ∧ (IsSeedRange seedSpec ∨ IsSeedList seedSpec) := by
  constructor
  · intro given
    rcases given with ⟨kept, parsed⟩
    obtain ⟨seedSpec, rfl, range | list⟩ := parseSeedSpec_kind isPrintable _ _ parsed
    · obtain ⟨known, start, stop, startFound, stopFound, order, -⟩ :=
        (parseSeedSpec_range isPrintable _ _ range).mp parsed
      exact ⟨seedSpec, rfl, Or.inl ⟨known, range, start, stop, startFound, stopFound, order⟩⟩
    · obtain ⟨known, seeds, found, some, -⟩ :=
        (parseSeedSpec_list isPrintable _ _ list).mp parsed
      exact ⟨seedSpec, rfl, Or.inr ⟨known, list, seeds, found, some⟩⟩
  · intro given
    rcases given with ⟨seedSpec, rfl, range | list⟩
    · obtain ⟨known, kind, start, stop, startFound, stopFound, order⟩ := range
      exact ⟨_, (parseSeedSpec_range isPrintable _ _ kind).mpr
        ⟨known, start, stop, startFound, stopFound, order, rfl⟩⟩
    · obtain ⟨known, kind, seeds, found, some⟩ := list
      exact ⟨_, (parseSeedSpec_list isPrintable _ _ kind).mpr ⟨known, seeds, found, some, rfl⟩⟩

theorem parseSeedSpec_keeps {kept : JsonObject}
    (parsed : parseSeedSpec isPrintable value = .ok kept) :
    ∃ seedSpec : JsonObject, value = .obj seedSpec ∧
      ∀ key, kept.lookup key = seedSpec.lookup key := by
  obtain ⟨seedSpec, rfl, range | list⟩ := parseSeedSpec_kind isPrintable _ _ parsed
  · obtain ⟨known, start, stop, startFound, stopFound, _, rfl⟩ :=
      (parseSeedSpec_range isPrintable _ _ range).mp parsed
    refine ⟨seedSpec, rfl, rebuilt_lookup known ?_⟩
    intro entry member
    simp only [rangeForm, List.mem_cons, List.not_mem_nil, or_false] at member
    rcases member with rfl | rfl | rfl
    · exact ⟨range, nofun⟩
    · exact ⟨startFound, nofun⟩
    · exact ⟨stopFound, nofun⟩
  · obtain ⟨known, seeds, found, _, rfl⟩ := (parseSeedSpec_list isPrintable _ _ list).mp parsed
    refine ⟨seedSpec, rfl, rebuilt_lookup known ?_⟩
    intro entry member
    simp only [listForm, List.mem_cons, List.not_mem_nil, or_false] at member
    rcases member with rfl | rfl
    · exact ⟨list, nofun⟩
    · exact ⟨found, nofun⟩

end Members

/-- With an existing repo the validator accepts its grammar and nothing else. -/
theorem config_grammar (fs : FileSystem) (isPrintable : Char → Bool) (repoPath repo : PurePath)
    (resolved : fs.resolve repoPath = .ok repo) (isRepo : fs.stat repo = .ok (some .directory))
    (config : JsonObject) :
    ((∃ result, normalizeSoloWargameConfig fs isPrintable (some repoPath) config = .ok result) ↔
        IsWargameConfig fs repo config) ∧
      ∀ result, normalizeSoloWargameConfig fs isPrintable (some repoPath) config = .ok result →
        Normalizes fs repo config result := by
  refine ⟨⟨?_, ?_⟩, ?_⟩
  · intro given
    rcases given with ⟨result, parsed⟩
    obtain ⟨other, found, _, text, file, stored, policy, seedSpec, rows, valid, -⟩ :=
      (normalize_ok fs isPrintable _ _ _).mp parsed
    rw [resolved] at found
    obtain rfl := Except.ok.inj found
    refine ⟨valid.keys, ⟨text, file, valid.missionPath, valid.written, valid.mission⟩,
      (parsePolicy_accepts isPrintable _).mp ⟨policy, valid.policy⟩,
      (parseSeedSpec_accepts isPrintable _).mp ⟨seedSpec, valid.seedSpec⟩, ?_⟩
    rcases valid.writeEpisodeRows with given | ⟨absent, -⟩
    · exact Or.inr ⟨rows, given⟩
    · exact Or.inl absent
  · intro accepted
    obtain ⟨text, file, missionPath, written, mission⟩ := accepted.missionPath
    obtain ⟨policy, policyParsed⟩ := (parsePolicy_accepts isPrintable _).mpr accepted.policy
    obtain ⟨seedSpec, seedSpecParsed⟩ := (parseSeedSpec_accepts isPrintable _).mpr accepted.seedSpec
    obtain ⟨stored, storedFound⟩ : ∃ stored, file.relativeTo repo = some stored := by
      apply Option.ne_none_iff_exists'.mp
      intro outside
      exact (PurePath.relativeTo_eq_none _ _).mp outside mission.inside
    obtain ⟨rows, rowsFound⟩ : ∃ rows, config.get "write_episode_rows" = .bool rows ∨
        (config.get "write_episode_rows" = .null ∧ rows = false) := by
      rcases accepted.writeEpisodeRows with absent | ⟨rows, given⟩
      · exact ⟨false, Or.inr ⟨absent, rfl⟩⟩
      · exact ⟨rows, Or.inl given⟩
    exact ⟨_, (normalize_ok fs isPrintable _ _ _).mpr ⟨repo, resolved, isRepo, text, file, stored,
      policy, seedSpec, rows, ⟨accepted.keys, missionPath, written, mission, storedFound,
      policyParsed, seedSpecParsed, rowsFound⟩, rfl⟩⟩
  · intro result parsed
    obtain ⟨other, found, _, text, file, stored, policy, seedSpec, rows, valid, rfl⟩ :=
      (normalize_ok fs isPrintable _ _ _).mp parsed
    rw [resolved] at found
    obtain rfl := Except.ok.inj found
    obtain ⟨givenPolicy, policyFound, policySame⟩ := parsePolicy_keeps isPrintable _ valid.policy
    obtain ⟨givenSeeds, seedsFound, seedsSame⟩ := parseSeedSpec_keeps isPrintable _ valid.seedSpec
    exact ⟨rfl, ⟨text, file, stored, valid.missionPath, valid.mission, valid.stored, rfl⟩,
      ⟨givenPolicy, policy, policyFound, rfl, policySame⟩,
      ⟨givenSeeds, seedSpec, seedsFound, rfl, seedsSame⟩, rows, rfl, valid.writeEpisodeRows⟩

def missionEntries : List (List (List Char) × FileKind) :=
  [([['r']], .directory), ([['r'], ['m']], .regular)]

def missionFiles : FileSystem := .plain (fun _ => none) missionEntries

def missionConfig (missionPath : String) : JsonObject :=
  [("mission_path", .str missionPath),
    ("policy", .obj [("name", .str "random"), ("kind", .str "builtin")]),
    ("seed_spec", .obj [("kind", .str "list"), ("seeds", .arr [.int 4, .int 2])])]

theorem missionConfig_accepted (fs : FileSystem) (repo : PurePath) (missionPath : String)
    (written : PyText.isBlank missionPath = false)
    (mission : ∃ file, MissionFile fs repo missionPath file) :
    IsWargameConfig fs repo (missionConfig missionPath) where
  keys := by
    have known : ∀ key ∈ ["mission_path", "policy", "seed_spec"],
        key ∈ ["mission_path", "policy", "seed_spec", "write_episode_rows"] := by decide
    exact known
  missionPath := by
    obtain ⟨file, found⟩ := mission
    exact ⟨missionPath, file, rfl, written, found⟩
  policy := ⟨_, rfl, by decide, rfl, "random", by decide, rfl⟩
  seedSpec := ⟨_, rfl, Or.inr ⟨by decide, rfl, [4, 2], rfl, by decide⟩⟩
  writeEpisodeRows := Or.inl rfl

theorem config_grammar_mission :
    ∃ result, normalizeSoloWargameConfig missionFiles (fun _ => true) (some (.parse "/r"))
        (missionConfig "a/../m") = .ok result ∧
      Normalizes missionFiles (.parse "/r") (missionConfig "a/../m") result := by
  obtain ⟨accepts, keeps⟩ := config_grammar missionFiles (fun _ => true) (.parse "/r") (.parse "/r")
    rfl rfl (missionConfig "a/../m")
  have mission : MissionFile missionFiles (.parse "/r") "a/../m" (.parse "/r/m") :=
    ⟨⟨.parse "a/../m", rfl, rfl⟩, by decide, rfl⟩
  obtain ⟨result, parsed⟩ := accepts.mpr
    (missionConfig_accepted _ _ _ (by decide) ⟨_, mission⟩)
  exact ⟨result, parsed, keeps result parsed⟩

end SoloWargame

end Evalynx
