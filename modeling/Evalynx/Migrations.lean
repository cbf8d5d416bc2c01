import Evalynx.Backfill

/-! The three revisions of the schema, up and down. -/

namespace Evalynx

open Relational Relation

/-- A row of `runs` at revision `0001_create_projects_and_runs`. -/
structure InitialRun where
  id : Nat
  projectId : Nat
  runnerType : String
  status : String
  submittedConfig : Json
  normalizedConfig : Json
  configHash : String
  summary : JsonColumn
  failureMessage : Option String
  createdAt : Timestamp
  startedAt : Option Timestamp
  finishedAt : Option Timestamp

instance : Row InitialRun := ⟨InitialRun.id⟩

def InitialRun.addResultFields (run : InitialRun) : LegacyRun where
  status := run.status
  summary := run.summary
  resultMetrics := none
  resultExecution := none
  resultArtifacts := none
  resultWarnings := none
  resultError := none
  failureMessage := run.failureMessage
  startedAt := run.startedAt
  finishedAt := run.finishedAt
  id := run.id
  projectId := run.projectId
  runnerType := run.runnerType
  submittedConfig := run.submittedConfig
  normalizedConfig := run.normalizedConfig
  configHash := run.configHash
  createdAt := run.createdAt

def LegacyRun.dropResultFields (run : LegacyRun) : InitialRun where
  id := run.id
  projectId := run.projectId
  runnerType := run.runnerType
  status := run.status
  submittedConfig := run.submittedConfig
  normalizedConfig := run.normalizedConfig
  configHash := run.configHash
  summary := run.summary
  failureMessage := run.failureMessage
  createdAt := run.createdAt
  startedAt := run.startedAt
  finishedAt := run.finishedAt

/-- The upgrade of `0002_add_run_result_fields`. -/
def addResultFields (runs : Table InitialRun) : Table LegacyRun :=
  runs.map InitialRun.addResultFields (fun _ => rfl)

def dropResultFields (runs : Table LegacyRun) : Table InitialRun :=
  runs.map LegacyRun.dropResultFields (fun _ => rfl)

/-- The downgrade of `0003_add_run_attempts`. -/
def dropRunAttempts (tables : MigratedTables) : Table LegacyRun :=
  tables.runs.map MigratedRun.toLegacyRun (fun _ => rfl)

def Snapshot.stored (snapshot : Snapshot) : StoredSnapshot where
  status := snapshot.status.name
  summary := snapshot.summary
  resultMetrics := snapshot.resultMetrics
  resultExecution := snapshot.resultExecution
  resultArtifacts := snapshot.resultArtifacts
  resultWarnings := snapshot.resultWarnings
  resultError := snapshot.resultError
  failureMessage := snapshot.failureMessage
  startedAt := snapshot.startedAt
  finishedAt := snapshot.finishedAt

def Run.stored (run : Run) : MigratedRun where
  toStoredSnapshot := run.toSnapshot.stored
  id := run.id
  projectId := run.projectId
  runnerType := run.runnerType
  submittedConfig := .obj run.submittedConfig
  normalizedConfig := .obj run.normalizedConfig
  configHash := run.configHash
  createdAt := run.createdAt
  currentAttemptId := run.currentAttemptId

def RunAttempt.stored (attempt : RunAttempt) : StoredAttempt where
  toStoredSnapshot := attempt.toSnapshot.stored
  id := attempt.id
  runId := attempt.runId
  attemptNumber := attempt.attemptNumber
  createdAt := attempt.createdAt

def Database.stored (db : Database) : MigratedTables where
  runs := db.runs.map Run.stored (fun _ => rfl)
  attempts := db.attempts.map RunAttempt.stored (fun _ => rfl)

def Run.unpointed (run : Run) : Run := { run with currentAttemptId := none }

def MigratedRun.unpointed (row : MigratedRun) : MigratedRun := { row with currentAttemptId := none }

theorem RunStatus.ofName_name (status : RunStatus) : RunStatus.ofName status.name = some status :=
  (RunStatus.ofName_eq_some _ _).mpr rfl

theorem Run.stored_load (run : Run) : run.stored.load = some run := by
  simp only [MigratedRun.load, Run.stored, Snapshot.stored, RunStatus.ofName_name]
  rfl

theorem RunAttempt.stored_load (attempt : RunAttempt) : attempt.stored.load = some attempt := by
  simp only [StoredAttempt.load, RunAttempt.stored, Snapshot.stored, RunStatus.ofName_name]
  rfl

/-- What the ORM stores it loads again. -/
theorem stored_loadAs (db : Database) : db.stored.LoadAs db where
  runs := by
    simp only [Database.stored, Table.map, List.map_map]
    exact List.map_congr_left fun run _ => run.stored_load
  attempts := by
    simp only [Database.stored, Table.map, List.map_map]
    exact List.map_congr_left fun attempt _ => attempt.stored_load

theorem MigratedRun.load_unpointed (row : MigratedRun) :
    row.load.map Run.unpointed = row.unpointed.load := by
  unfold MigratedRun.load MigratedRun.unpointed
  simp only []
  split <;> rfl

theorem dropResultFields_rows (runs : Table InitialRun) :
    (dropResultFields (addResultFields runs)).rows = runs.rows := by
  simp only [dropResultFields, addResultFields, Table.map, List.map_map]
  exact List.map_id' runs.rows

/-- From the first revision to the last one and back: the rows are as they were, whatever the
upgrade has made of them in between. -/
theorem upgrade_reversible (upperFull : Char → List Char) (isPrintable : Char → Bool)
    (runs : Table InitialRun) (after : MigratedTables)
    (upgraded : upgrade upperFull isPrintable (addResultFields runs) = .ok after) :
    (dropResultFields (dropRunAttempts after)).rows = runs.rows := by
  have accepted := (upgrade_ok_iff (addResultFields runs)).mp ⟨after, upgraded⟩
  obtain ⟨tables, same, loop⟩ := upgrade_backfills (addResultFields runs) accepted
  obtain rfl : after = tables := Except.ok.inj (upgraded.symm.trans same)
  have kept : (dropRunAttempts after).rows = (addResultFields runs).rows := loop.kept
  change (dropRunAttempts after).rows.map LegacyRun.dropResultFields = runs.rows
  rw [kept]
  exact dropResultFields_rows runs

def initialRuns : Table InitialRun := dropResultFields (storedRuns "queued")

theorem upgrade_reversible_queued :
    ∃ after, upgrade (fun c => [c]) (fun _ => true) (addResultFields initialRuns) = .ok after ∧
      (dropResultFields (dropRunAttempts after)).rows = initialRuns.rows := by
  have accepted : ∀ run ∈ (addResultFields initialRuns).rows, ∃ name,
      normalizeRunStatus (fun c => [c]) (fun _ => true) run.status = .ok name := by
    intro run member
    rw [List.mem_singleton.mp member]
    exact ⟨"QUEUED", by decide⟩
  obtain ⟨after, upgraded⟩ := (upgrade_ok_iff (addResultFields initialRuns)).mpr accepted
  exact ⟨after, upgraded, upgrade_reversible _ _ initialRuns after upgraded⟩

section Runtime

variable {upperFull : Char → List Char} {isPrintable : Char → Bool} {db : Database}
  {after : MigratedTables}

theorem stored_accepted (db : Database) :
    ∀ run ∈ (dropRunAttempts db.stored).rows, run.status ∈ runStatusNames := by
  intro run member
  obtain ⟨row, present, rfl⟩ := List.mem_map.mp member
  obtain ⟨source, _, rfl⟩ := List.mem_map.mp present
  exact (mem_runStatusNames _).mpr ⟨source.status, rfl⟩

theorem load_of_stored {row : MigratedRun} {run : Run}
    (same : row.toLegacyRun = run.stored.toLegacyRun) :
    row.load = some { run with currentAttemptId := row.currentAttemptId } := by
  obtain ⟨legacy, pointer⟩ := row
  obtain rfl : legacy = run.stored.toLegacyRun := same
  have load := run.stored_load
  simp only [MigratedRun.load, Run.stored, Snapshot.stored, RunStatus.ofName_name] at load ⊢
  rfl

theorem upgraded_runs
    (loop : Backfilling upperFull isPrintable (dropRunAttempts db.stored) [] after) :
    ∀ row ∈ after.runs.rows, ∃ run ∈ db.runs.rows, row.toLegacyRun = run.stored.toLegacyRun := by
  intro row member
  have listed : row.toLegacyRun ∈ (dropRunAttempts db.stored).rows :=
    loop.kept ▸ List.mem_map_of_mem member
  obtain ⟨source, present, same⟩ := List.mem_map.mp listed
  obtain ⟨run, runMember, rfl⟩ := List.mem_map.mp present
  exact ⟨run, runMember, same.symm⟩

theorem upgraded_attempts
    (loop : Backfilling upperFull isPrintable (dropRunAttempts db.stored) [] after) :
    ∀ row ∈ after.attempts.rows, ∃ attempt, row.load = some attempt := by
  intro row member
  obtain ⟨run, present, served⟩ := loop.owned row member
  obtain ⟨source, _, same⟩ := upgraded_runs loop run present
  have spelled : run.status = source.status.name := congrArg (fun legacy => legacy.status) same
  have normalized := served.status
  rw [spelled, normalizeRunStatus_of_mem _ _ ((mem_runStatusNames _).mpr ⟨_, rfl⟩)] at normalized
  have named : row.status = source.status.name := (Except.ok.inj normalized).symm
  rw [StoredAttempt.load, named, RunStatus.ofName_name]
  exact ⟨_, rfl⟩

theorem upgraded_loads
    (loop : Backfilling upperFull isPrintable (dropRunAttempts db.stored) [] after) :
    ∃ later : Database, later.projects = db.projects ∧ after.LoadAs later := by
  obtain ⟨runs, loadedRuns⟩ := after.runs.exists_loaded MigratedRun.load
    (fun _ _ loaded => (MigratedRun.load_ok loaded).1) (by
      intro row member
      obtain ⟨run, _, same⟩ := upgraded_runs loop row member
      exact ⟨_, load_of_stored same⟩)
  obtain ⟨attempts, loadedAttempts⟩ := after.attempts.exists_loaded StoredAttempt.load
    (fun _ _ loaded => (StoredAttempt.load_ok loaded).1) (upgraded_attempts loop)
  exact ⟨⟨db.projects, runs, attempts⟩, rfl, loadedRuns, loadedAttempts⟩

theorem upgraded_unpointed {later : Database}
    (loop : Backfilling upperFull isPrintable (dropRunAttempts db.stored) [] after)
    (loads : after.LoadAs later) :
    later.runs.rows.map Run.unpointed = db.runs.rows.map Run.unpointed := by
  have forget : ∀ rows : List MigratedRun,
      (rows.map MigratedRun.load).map (Option.map Run.unpointed) =
        (rows.map MigratedRun.toLegacyRun).map
          (fun legacy => ({ legacy with currentAttemptId := none } : MigratedRun).load) := by
    intro rows
    rw [List.map_map, List.map_map]
    exact List.map_congr_left fun row _ => row.load_unpointed
  have read : ∀ runs : List Run, (runs.map some).map (Option.map Run.unpointed) =
      (runs.map Run.unpointed).map some := by
    intro runs
    rw [List.map_map, List.map_map]
    rfl
  have same : (later.runs.rows.map Run.unpointed).map some =
      (db.runs.rows.map Run.unpointed).map some :=
    calc
      _ = (after.runs.rows.map MigratedRun.load).map (Option.map Run.unpointed) := by
        rw [loads.runs, read]
      _ = (db.stored.runs.rows.map MigratedRun.load).map (Option.map Run.unpointed) := by
        rw [forget, forget, loop.kept]
        rfl
      _ = _ := by rw [(stored_loadAs db).runs, read]
  exact List.map_injective_iff.mpr (fun _ _ => Option.some.inj) same

end Runtime

/-- A database that the service and the workers have brought to any state is taken back to the
revision before the attempts and up again. The ORM can load it, every run is as it was, and its first
and only attempt has what its current one had in the columns runs and attempts share, and the run's
own `created_at`. From there the service and the workers can go on. -/
theorem downgrade_upgrade_resumes {accepts : TerminalValues → Bool} {db : Database}
    (history : ReflTransGen (Txn accepts) .empty db) (upperFull : Char → List Char)
    (isPrintable : Char → Bool) :
    ∃ after later, upgrade upperFull isPrintable (dropRunAttempts db.stored) = .ok after ∧
      after.LoadAs later ∧
      later.runs.rows.map Run.unpointed = db.runs.rows.map Run.unpointed ∧
      (∀ run ∈ db.runs.rows, ∃ current attempt, selectCurrentAttempt db run = some current ∧
        later.attemptRows run.id = [attempt] ∧ attempt.attemptNumber = 1 ∧
        attempt.createdAt = run.createdAt ∧
        attempt.toSnapshot.load = current.toSnapshot.load) ∧
      ∀ last, ReflTransGen (Txn accepts) later last → Consistent last ∧ Mirrored last := by
  have spelled := stored_accepted db
  have accepted : ∀ run ∈ (dropRunAttempts db.stored).rows, ∃ name,
      normalizeRunStatus upperFull isPrintable run.status = .ok name := fun run member =>
    ⟨run.status, normalizeRunStatus_of_mem _ _ (spelled run member)⟩
  obtain ⟨after, upgraded, loop⟩ := upgrade_backfills (dropRunAttempts db.stored) accepted
  obtain ⟨later, -, loads⟩ := upgraded_loads loop
  have established := loop.established_iff.mpr spelled
  have same := upgraded_unpointed loop loads
  refine ⟨after, later, upgraded, loads, same, ?_, ?_⟩
  · intro run member
    obtain ⟨past, current, lineage⟩ := (history_consistent history).lineage run member
    have listed : run.unpointed ∈ later.runs.rows.map Run.unpointed :=
      same ▸ List.mem_map_of_mem member
    obtain ⟨version, present, equal⟩ := List.mem_map.mp listed
    obtain ⟨attempt, rows, number, -, created, mirrored⟩ :=
      established.loaded_attempt loads present
    have key : version.id = run.id :=
      show version.unpointed.id = run.unpointed.id from congrArg Run.id equal
    have columns : version.toSnapshot = run.toSnapshot :=
      show version.unpointed.toSnapshot = run.unpointed.toSnapshot from
        congrArg Run.toSnapshot equal
    have sameCreated : version.createdAt = run.createdAt :=
      show version.unpointed.createdAt = run.unpointed.createdAt from congrArg Run.createdAt equal
    refine ⟨current, attempt, lineage.selectCurrentAttempt, key ▸ rows, number,
      created.trans sameCreated, ?_⟩
    rw [← mirrored, columns]
    exact history_mirrored history run member current lineage.current_mem.1 lineage.pointer
  · intro last more
    let kept (state : Database) := Consistent state ∧ Mirrored state
    have step (before next : Database) (both : kept before) (txn : Txn accepts before next) :
        kept next :=
      ⟨txn.consistent both.1, mirrored_txn both.1 both.2 txn⟩
    have both : kept last := Transition.invariant (established.consistent loads) step more
    exact both

theorem downgrade_upgrade_resumes_retried :
    ∃ after later, upgrade (fun c => [c]) (fun _ => true) (dropRunAttempts sampleRetried.stored) =
        .ok after ∧ after.LoadAs later ∧
      (sampleRetried.attemptRows 1).length = 2 ∧ (later.attemptRows 1).length = 1 := by
  obtain ⟨after, later, upgraded, loads, -, left, -⟩ :=
    downgrade_upgrade_resumes sample_history (fun c => [c]) (fun _ => true)
  obtain ⟨run, row, key⟩ : ∃ run, run ∈ sampleRetried.runs.rows ∧ run.id = 1 :=
    ⟨_, List.mem_singleton.mpr rfl, rfl⟩
  obtain ⟨-, attempt, -, rows, -⟩ := left run row
  rw [key] at rows
  exact ⟨after, later, upgraded, loads, rfl, by rw [rows]; rfl⟩

end Evalynx
