import Evalynx.ConfigGrammar

namespace Evalynx

namespace SoloWargame

open Posix

/-- A stored path denotes one regular file strictly below the repo. -/
structure Contained (fs : FileSystem) (repo : PurePath) (stored : String) (file : PurePath) : Prop where
  nonempty : stored ≠ ""
  relative : (PurePath.parse stored).isAbsolute = false
  components : ∀ name ∈ stored.toList.splitOn '/', name ≠ [] ∧ name ≠ ['.'] ∧ name ≠ ['.', '.']
  resolves : fs.resolve (repo.join (PurePath.parse stored)) = .ok file
  regular : fs.stat file = .ok (some .regular)
  below : file.root = repo.root ∧ ∃ parts, parts ≠ [] ∧ file.parts = repo.parts ++ parts

theorem MissionFile.fixed {fs : FileSystem} {repo file : PurePath} {text : String}
    (mission : MissionFile fs repo text file) (lawful : fs.Lawful) : fs.resolve file = .ok file := by
  obtain ⟨candidate, _, resolved⟩ := mission.resolved
  exact lawful.idempotent _ _ resolved

section Stored

variable {fs : FileSystem} (lawful : fs.Lawful) {repo file stored : PurePath} {text : String}
  (isRepo : fs.stat repo = .ok (some .directory)) (mission : MissionFile fs repo text file)
  (inside : file.relativeTo repo = some stored)

include inside

theorem stored_relative : stored.root = .relative :=
  ((PurePath.relativeTo_eq_some _ _ _).mp inside).1

theorem stored_joined : repo.join stored = file :=
  ((PurePath.relativeTo_eq_some _ _ _).mp inside).2

theorem stored_parts : file.root = repo.root ∧ file.parts = repo.parts ++ stored.parts := by
  rw [← stored_joined inside]
  exact repo.join_relative stored (stored_relative inside)

include isRepo mission

theorem stored_ne_nil : stored.parts ≠ [] := by
  intro empty
  obtain ⟨root, parts⟩ := stored_parts inside
  rw [empty, List.append_nil] at parts
  have same : file = repo := PurePath.ext root parts
  have regular := mission.regular
  rw [same, isRepo] at regular
  simp at regular

theorem stored_parsed : PurePath.parse stored.asPosix = stored :=
  stored.parse_asPosix (stored_relative inside) (stored_ne_nil isRepo mission inside)

include lawful

theorem stored_contained : Contained fs repo stored.asPosix file := by
  have below := stored_ne_nil isRepo mission inside
  have parsed := stored_parsed isRepo mission inside
  have pieces := stored.asPosix_splitOn (stored_relative inside) below
  obtain ⟨root, parts⟩ := stored_parts inside
  obtain ⟨candidate, _, resolved⟩ := mission.resolved
  refine ⟨?_, ?_, ?_, ?_, mission.regular, root, stored.parts, below, parts⟩
  · intro empty
    rw [empty] at parsed
    exact below (congrArg PurePath.parts parsed).symm
  · rw [parsed, PurePath.isAbsolute_eq_false]
    exact stored_relative inside
  · intro name member
    rw [pieces] at member
    obtain ⟨_, proper⟩ := stored.components name member
    refine ⟨proper.1, proper.2, ?_⟩
    intro dots
    have inFile : ['.', '.'] ∈ file.parts := by
      rw [parts]
      exact List.mem_append_right _ (dots ▸ member)
    exact lawful.dotless _ _ resolved inFile
  · rw [parsed, stored_joined inside]
    exact mission.fixed lawful

end Stored

/-- What the subprocess is given denotes the file that was checked, below its working directory. -/
theorem mission_path_contained (fs : FileSystem) (lawful : fs.Lawful) (isPrintable : Char → Bool)
    (repoPath : PurePath) (config result : JsonObject)
    (accepted : normalizeSoloWargameConfig fs isPrintable (some repoPath) config = .ok result) :
    ∃ repo text file stored, fs.resolve repoPath = .ok repo ∧
      config.get "mission_path" = .str text ∧ MissionFile fs repo text file ∧
      result.get "mission_path" = .str stored ∧ Contained fs repo stored file ∧
      ∀ artifactDir, ∃ request, buildEpisodeBatchRequest result artifactDir = .ok request ∧
        request.get "mission_path" = .str stored := by
  obtain ⟨repo, resolved, isRepo, text, file, stored, policy, seedSpec, rows, valid, rfl⟩ :=
    (normalize_ok fs isPrintable _ _ _).mp accepted
  refine ⟨repo, text, file, stored.asPosix, resolved, valid.missionPath, valid.mission, rfl,
    stored_contained lawful isRepo valid.mission valid.stored, ?_⟩
  intro artifactDir
  exact ⟨_, rfl, rfl⟩

theorem mission_path_contained_mission :
    ∃ repo text file stored, missionFiles.resolve (.parse "/r") = .ok repo ∧
      (missionConfig "a/../m").get "mission_path" = .str text ∧
      MissionFile missionFiles repo text file ∧
      (normalForm (.parse "m") [("kind", .str "builtin"), ("name", .str "random")]
        (listForm [4, 2]) false).get "mission_path" = .str stored ∧
      Contained missionFiles repo stored file ∧
      ∀ artifactDir, ∃ request, buildEpisodeBatchRequest
          (normalForm (.parse "m") [("kind", .str "builtin"), ("name", .str "random")]
            (listForm [4, 2]) false) artifactDir = .ok request ∧
        request.get "mission_path" = .str stored :=
  mission_path_contained missionFiles (FileSystem.plain_lawful _ _) (fun _ => true) (.parse "/r")
    (missionConfig "a/../m") _ rfl

end SoloWargame

end Evalynx
