import Evalynx.Checking
import Evalynx.PyText
import Evalynx.Mirror

/-! The upgrade of `0003_add_run_attempts`: a first attempt for every run that has none. -/

namespace Evalynx

open Relational

structure StoredSnapshot where
  status : String
  summary : JsonColumn
  resultMetrics : JsonColumn
  resultExecution : JsonColumn
  resultArtifacts : JsonColumn
  resultWarnings : JsonColumn
  resultError : JsonColumn
  failureMessage : Option String
  startedAt : Option Timestamp
  finishedAt : Option Timestamp

/-- A row of `runs` at revision `0002_add_run_result_fields`. -/
structure LegacyRun extends StoredSnapshot where
  id : Nat
  projectId : Nat
  runnerType : String
  submittedConfig : Json
  normalizedConfig : Json
  configHash : String
  createdAt : Timestamp

structure MigratedRun extends LegacyRun where
  currentAttemptId : Option Nat

structure StoredAttempt extends StoredSnapshot where
  id : Nat
  runId : Nat
  attemptNumber : Nat
  createdAt : Timestamp

instance : Row LegacyRun := ⟨LegacyRun.id⟩
instance : Row MigratedRun := ⟨fun row => row.id⟩
instance : Row StoredAttempt := ⟨StoredAttempt.id⟩

structure MigratedTables where
  runs : Table MigratedRun
  attempts : Table StoredAttempt

def RunStatus.name : RunStatus → String
  | .queued => "QUEUED"
  | .running => "RUNNING"
  | .succeeded => "SUCCEEDED"
  | .failed => "FAILED"

def RunStatus.ofName (name : String) : Option RunStatus :=
  [RunStatus.queued, .running, .succeeded, .failed].find? (fun status => status.name == name)

theorem RunStatus.ofName_eq_some (name : String) (status : RunStatus) :
    RunStatus.ofName name = some status ↔ name = status.name := by
  constructor
  · intro found
    exact (by simpa using List.find?_some found : status.name = name).symm
  · rintro rfl
    cases status <;> rfl

def runStatusNames : List String := ["QUEUED", "RUNNING", "SUCCEEDED", "FAILED"]

theorem mem_runStatusNames (text : String) :
    text ∈ runStatusNames ↔ ∃ status : RunStatus, text = status.name := by
  constructor
  · intro member
    simp only [runStatusNames, List.mem_cons, List.not_mem_nil, or_false] at member
    rcases member with queued | running | succeeded | failed
    · exact ⟨.queued, queued⟩
    · exact ⟨.running, running⟩
    · exact ⟨.succeeded, succeeded⟩
    · exact ⟨.failed, failed⟩
  · intro given
    rcases given with ⟨status, rfl⟩
    cases status <;> simp [runStatusNames, RunStatus.name]

section Upgrade

variable (upperFull : Char → List Char) (isPrintable : Char → Bool)

/-- `_normalize_run_status`. The column is `VARCHAR NOT NULL`, so the value is a `str`. -/
def normalizeRunStatus (value : String) : Except String String :=
  let normalized := PyText.upper upperFull (PyText.strip value)
  if normalized ∈ runStatusNames then .ok normalized
  else .error
    s!"Unexpected run status value during migration: {PyText.repr isPrintable value}"

def StoredSnapshot.copied (snapshot : StoredSnapshot) (status : String) : StoredSnapshot where
  status := status
  summary := .bind snapshot.summary.load
  resultMetrics := .bind snapshot.resultMetrics.load
  resultExecution := .bind snapshot.resultExecution.load
  resultArtifacts := .bind snapshot.resultArtifacts.load
  resultWarnings := .bind snapshot.resultWarnings.load
  resultError := .bind snapshot.resultError.load
  failureMessage := snapshot.failureMessage
  startedAt := snapshot.startedAt
  finishedAt := snapshot.finishedAt

def firstAttempt (run : LegacyRun) (id : Nat) (status : String) : StoredAttempt where
  toStoredSnapshot := run.toStoredSnapshot.copied status
  id := id
  runId := run.id
  attemptNumber := 1
  createdAt := run.createdAt

/-- One round of the loop: the INSERT, then the UPDATE of `current_attempt_id` to the key the INSERT
reports, which is taken to be that of the new row. -/
def backfillRun (tables : MigratedTables) (run : LegacyRun) : Except String MigratedTables := do
  let status ← normalizeRunStatus upperFull isPrintable run.status
  let attempt := firstAttempt run tables.attempts.next status
  return {
    attempts := (tables.attempts.reserve 1).adopt attempt
    runs := (tables.runs.update run.id (fun _ => true)
      (fun row => { row with currentAttemptId := some attempt.id })).1 }

def addCurrentAttemptId (runs : Table LegacyRun) : Table MigratedRun :=
  runs.map (fun run => { run with currentAttemptId := none }) (fun _ => rfl)

def upgrade (runs : Table LegacyRun) : Except String MigratedTables :=
  runs.rows.foldlM (backfillRun upperFull isPrintable)
    { runs := addCurrentAttemptId runs, attempts := .empty }

theorem normalizeRunStatus_of_mem {value : String} (listed : value ∈ runStatusNames) :
    normalizeRunStatus upperFull isPrintable value = .ok value := by
  have capitals : ∀ name ∈ runStatusNames, ∀ c ∈ name.toList, c.isUpper = true := by
    simp [runStatusNames]
  have same := PyText.upper_strip_of_capitals upperFull value (capitals value listed)
  simp only [normalizeRunStatus, same, if_pos listed]

end Upgrade

structure StoredAttempt.Copies (attempt : StoredAttempt) (run : LegacyRun) : Prop where
  summary : attempt.summary.load = run.summary.load
  resultMetrics : attempt.resultMetrics.load = run.resultMetrics.load
  resultExecution : attempt.resultExecution.load = run.resultExecution.load
  resultArtifacts : attempt.resultArtifacts.load = run.resultArtifacts.load
  resultWarnings : attempt.resultWarnings.load = run.resultWarnings.load
  resultError : attempt.resultError.load = run.resultError.load
  failureMessage : attempt.failureMessage = run.failureMessage
  createdAt : attempt.createdAt = run.createdAt
  startedAt : attempt.startedAt = run.startedAt
  finishedAt : attempt.finishedAt = run.finishedAt

theorem firstAttempt_copies (run : LegacyRun) (id : Nat) (status : String) :
    (firstAttempt run id status).Copies run := by
  constructor <;> rfl

section Loop

variable (upperFull : Char → List Char) (isPrintable : Char → Bool)

structure MigratedRun.Served (row : MigratedRun) (attempt : StoredAttempt) : Prop where
  owner : attempt.runId = row.id
  first : attempt.attemptNumber = 1
  pointer : row.currentAttemptId = some attempt.id
  copies : attempt.Copies row.toLegacyRun
  status : normalizeRunStatus upperFull isPrintable row.status = .ok attempt.status

structure Backfilling (runs : Table LegacyRun) (pending : List LegacyRun)
    (tables : MigratedTables) : Prop where
  remaining : ∃ done, done ++ pending = runs.rows
  accepted : ∀ run ∈ pending, ∃ name, normalizeRunStatus upperFull isPrintable run.status = .ok name
  kept : tables.runs.rows.map MigratedRun.toLegacyRun = runs.rows
  waiting : ∀ row ∈ tables.runs.rows, row.toLegacyRun ∈ pending → row.currentAttemptId = none
  served : ∀ row ∈ tables.runs.rows, row.toLegacyRun ∈ pending ∨
    ∃ attempt ∈ tables.attempts.rows, row.Served upperFull isPrintable attempt
  owned : ∀ attempt ∈ tables.attempts.rows,
    ∃ row ∈ tables.runs.rows, row.Served upperFull isPrintable attempt

variable {upperFull : Char → List Char} {isPrintable : Char → Bool}

theorem backfilling_start (runs : Table LegacyRun)
    (accepted : ∀ run ∈ runs.rows, ∃ name,
      normalizeRunStatus upperFull isPrintable run.status = .ok name) :
    Backfilling upperFull isPrintable runs runs.rows
      { runs := addCurrentAttemptId runs, attempts := .empty } where
  remaining := ⟨[], rfl⟩
  accepted := accepted
  kept := by
    calc
      (addCurrentAttemptId runs).rows.map MigratedRun.toLegacyRun = runs.rows.map id := by
        simp only [addCurrentAttemptId, Table.map, List.map_map]
        rfl
      _ = runs.rows := List.map_id _
  waiting := by
    intro row member _
    obtain ⟨run, _, rfl⟩ := List.mem_map.mp member
    rfl
  served := by
    intro row member
    obtain ⟨run, present, rfl⟩ := List.mem_map.mp member
    exact Or.inl present
  owned := by
    intro attempt member
    cases member

theorem Backfilling.head_apart {runs : Table LegacyRun} {run : LegacyRun} {pending : List LegacyRun}
    {tables : MigratedTables}
    (loop : Backfilling upperFull isPrintable runs (run :: pending) tables) :
    ∀ other ∈ pending, other.id ≠ run.id := by
  obtain ⟨done, split⟩ := loop.remaining
  have keys : ((done ++ run :: pending).map LegacyRun.id).Nodup := split ▸ runs.nodup
  rw [List.map_append, List.map_cons] at keys
  have headFirst := (List.nodup_cons.mp (List.nodup_append.mp keys).2.1).1
  intro other member same
  exact headFirst (same ▸ List.mem_map_of_mem member)

theorem Backfilling.head_row {runs : Table LegacyRun} {run : LegacyRun} {pending : List LegacyRun}
    {tables : MigratedTables}
    (loop : Backfilling upperFull isPrintable runs (run :: pending) tables) :
    ∃ row, tables.runs.get? run.id = some row ∧ row.toLegacyRun = run ∧
      row.currentAttemptId = none := by
  obtain ⟨done, split⟩ := loop.remaining
  have member : run ∈ tables.runs.rows.map MigratedRun.toLegacyRun := by
    rw [loop.kept, ← split]
    exact List.mem_append_right done List.mem_cons_self
  obtain ⟨row, present, rfl⟩ := List.mem_map.mp member
  exact ⟨row, Table.get?_of_mem present, rfl, loop.waiting row present List.mem_cons_self⟩

theorem backfillRun_advances {runs : Table LegacyRun} {run : LegacyRun} {pending : List LegacyRun}
    {tables : MigratedTables}
    (loop : Backfilling upperFull isPrintable runs (run :: pending) tables) :
    ∃ next, backfillRun upperFull isPrintable tables run = .ok next ∧
      Backfilling upperFull isPrintable runs pending next := by
  have apart := loop.head_apart
  obtain ⟨row, found, rfl, unpointed⟩ := loop.head_row
  obtain ⟨status, normalized⟩ := loop.accepted _ List.mem_cons_self
  let attempt := firstAttempt row.toLegacyRun tables.attempts.next status
  let pointed : MigratedRun := { row with currentAttemptId := some attempt.id }
  have stepped : backfillRun upperFull isPrintable tables row.toLegacyRun = .ok
      { attempts := (tables.attempts.reserve 1).adopt attempt, runs := tables.runs.put pointed } := by
    have written := tables.runs.update_of_match row.id (fun _ => true)
      (fun row => { row with currentAttemptId := some attempt.id }) row found rfl
    calc
      backfillRun upperFull isPrintable tables row.toLegacyRun = .ok
          { attempts := (tables.attempts.reserve 1).adopt attempt
            runs := (tables.runs.update row.id (fun _ => true)
              (fun row => { row with currentAttemptId := some attempt.id })).1 } := by
        rw [backfillRun, normalized]
        rfl
      _ = _ := by rw [written]
  have runRows := Table.mem_put pointed found
  have unused : (tables.attempts.reserve 1).get? attempt.id = none :=
    tables.attempts.get?_next _ (Nat.le_refl _)
  have attemptRows :=
    Table.mem_adopt (tables.attempts.reserve 1) attempt unused (Nat.lt_succ_self _)
  have served : pointed.Served upperFull isPrintable attempt :=
    ⟨rfl, rfl, rfl, firstAttempt_copies row.toLegacyRun _ status, normalized⟩
  obtain ⟨done, split⟩ := loop.remaining
  refine ⟨_, stepped, ?_, ?_, ?_, ?_, ?_, ?_⟩
  · exact ⟨done ++ [row.toLegacyRun], by rw [List.append_assoc]; exact split⟩
  · intro other member
    exact loop.accepted other (List.mem_cons_of_mem _ member)
  · rw [← loop.kept, Table.rows_put, List.map_map]
    apply List.map_congr_left
    intro old member
    by_cases same : Row.id old = Row.id pointed
    · rw [Function.comp_apply, if_pos same, Table.eq_of_mem found member same]
    · rw [Function.comp_apply, if_neg same]
  · intro other member isPending
    rcases (runRows other).mp member with rfl | ⟨old, _⟩
    · exact absurd rfl (apart _ isPending)
    · exact loop.waiting other old (List.mem_cons_of_mem _ isPending)
  · intro other member
    rcases (runRows other).mp member with rfl | ⟨old, different⟩
    · exact Or.inr ⟨attempt, (attemptRows attempt).mpr (Or.inr rfl), served⟩
    · rcases loop.served other old with isPending | ⟨earlier, present, serves⟩
      · rcases List.mem_cons.mp isPending with same | later
        · exact absurd (congrArg LegacyRun.id same) different
        · exact Or.inl later
      · exact Or.inr ⟨earlier, (attemptRows earlier).mpr (Or.inl present), serves⟩
  · intro candidate member
    rcases (attemptRows candidate).mp member with old | rfl
    · obtain ⟨owner, present, serves⟩ := loop.owned candidate old
      have different : Row.id owner ≠ Row.id pointed := by
        intro same
        rw [Table.eq_of_mem found present same] at serves
        have unset := unpointed.symm.trans serves.pointer
        cases unset
      exact ⟨owner, (runRows owner).mpr (Or.inr ⟨present, different⟩), serves⟩
    · exact ⟨pointed, (runRows pointed).mpr (Or.inl rfl), served⟩

theorem upgrade_backfills (runs : Table LegacyRun)
    (accepted : ∀ run ∈ runs.rows, ∃ name,
      normalizeRunStatus upperFull isPrintable run.status = .ok name) :
    ∃ after, upgrade upperFull isPrintable runs = .ok after ∧
      Backfilling upperFull isPrintable runs [] after := by
  let invariant := Backfilling upperFull isPrintable runs
  have advances (run : LegacyRun) (pending : List LegacyRun) (tables : MigratedTables)
      (loop : invariant (run :: pending) tables) :
      ∃ next, backfillRun upperFull isPrintable tables run = .ok next ∧ invariant pending next :=
    backfillRun_advances loop
  exact Checking.foldlM_ok advances runs.rows _ (backfilling_start runs accepted)

theorem upgrade_ok_iff (runs : Table LegacyRun) :
    (∃ after, upgrade upperFull isPrintable runs = .ok after) ↔
      ∀ run ∈ runs.rows, ∃ name, normalizeRunStatus upperFull isPrintable run.status = .ok name := by
  constructor
  · intro upgraded run member
    rcases upgraded with ⟨after, upgraded⟩
    obtain ⟨before, next, stepped⟩ := Checking.foldlM_rounds upgraded run member
    obtain ⟨name, normalized, _⟩ := (Checking.bind_ok _ _ _).mp stepped
    exact ⟨name, normalized⟩
  · intro accepted
    obtain ⟨after, upgraded, _⟩ := upgrade_backfills runs accepted
    exact ⟨after, upgraded⟩

theorem Backfilling.serves {runs : Table LegacyRun} {after : MigratedTables}
    (loop : Backfilling upperFull isPrintable runs [] after) (row : MigratedRun)
    (member : row ∈ after.runs.rows) :
    ∃ attempt ∈ after.attempts.rows, row.Served upperFull isPrintable attempt := by
  rcases loop.served row member with isPending | served
  · cases isPending
  · exact served

theorem Backfilling.served_of_owner {runs : Table LegacyRun} {pending : List LegacyRun}
    {tables : MigratedTables} (loop : Backfilling upperFull isPrintable runs pending tables)
    {row : MigratedRun} (member : row ∈ tables.runs.rows) {attempt : StoredAttempt}
    (made : attempt ∈ tables.attempts.rows) (owner : attempt.runId = row.id) :
    row.Served upperFull isPrintable attempt := by
  obtain ⟨other, present, served⟩ := loop.owned attempt made
  have same : other = row :=
    Table.eq_of_mem (Table.get?_of_mem member) present (served.owner.symm.trans owner)
  exact same ▸ served

end Loop

section Established

variable (upperFull : Char → List Char) (isPrintable : Char → Bool)

def LegacyRun.Respelled (run row : LegacyRun) : Prop :=
  ∃ status, row = { run with status := status } ∧
    normalizeRunStatus upperFull isPrintable status =
      normalizeRunStatus upperFull isPrintable run.status

structure Established (before : Table LegacyRun) (after : MigratedTables) : Prop where
  kept : List.Forall₂ (LegacyRun.Respelled upperFull isPrintable) before.rows
    (after.runs.rows.map MigratedRun.toLegacyRun)
  one : ∀ run ∈ after.runs.rows, ∃! attempt, attempt ∈ after.attempts.rows ∧ attempt.runId = run.id
  owned : ∀ attempt ∈ after.attempts.rows, ∃ run ∈ after.runs.rows, attempt.runId = run.id
  first : ∀ attempt ∈ after.attempts.rows, attempt.attemptNumber = 1
  pointer : ∀ run ∈ after.runs.rows, ∀ attempt ∈ after.attempts.rows, attempt.runId = run.id →
    run.currentAttemptId = some attempt.id
  copies : ∀ run ∈ after.runs.rows, ∀ attempt ∈ after.attempts.rows, attempt.runId = run.id →
    attempt.Copies run.toLegacyRun
  status : ∀ run ∈ after.runs.rows, ∀ attempt ∈ after.attempts.rows, attempt.runId = run.id →
    ∃ status : RunStatus, run.status = status.name ∧ attempt.status = status.name

variable {upperFull isPrintable}

theorem Backfilling.one {runs : Table LegacyRun} {after : MigratedTables}
    (loop : Backfilling upperFull isPrintable runs [] after) (row : MigratedRun)
    (member : row ∈ after.runs.rows) :
    ∃! attempt, attempt ∈ after.attempts.rows ∧ attempt.runId = row.id := by
  obtain ⟨attempt, made, served⟩ := loop.serves row member
  refine ⟨attempt, ⟨made, served.owner⟩, ?_⟩
  rintro other ⟨present, owner⟩
  have pointers : some other.id = some attempt.id :=
    (loop.served_of_owner member present owner).pointer.symm.trans served.pointer
  exact Table.eq_of_mem (Table.get?_of_mem made) present (Option.some.inj pointers)

/-- The loop never writes `runs.status`, so the rows agree on it only if it was right before. -/
theorem Backfilling.established_iff {runs : Table LegacyRun} {after : MigratedTables}
    (loop : Backfilling upperFull isPrintable runs [] after) :
    Established upperFull isPrintable runs after ↔ ∀ run ∈ runs.rows, run.status ∈ runStatusNames := by
  constructor
  · intro established run member
    rw [← loop.kept] at member
    obtain ⟨row, present, rfl⟩ := List.mem_map.mp member
    obtain ⟨attempt, made, served⟩ := loop.serves row present
    obtain ⟨status, spelled, _⟩ := established.status row present attempt made served.owner
    exact (mem_runStatusNames _).mpr ⟨status, spelled⟩
  · intro canonical
    constructor
    · rw [loop.kept]
      exact List.forall₂_same.mpr (fun run _ => ⟨run.status, rfl, rfl⟩)
    · exact loop.one
    · intro attempt made
      obtain ⟨row, present, served⟩ := loop.owned attempt made
      exact ⟨row, present, served.owner⟩
    · intro attempt made
      obtain ⟨row, _, served⟩ := loop.owned attempt made
      exact served.first
    · intro row present attempt made owner
      exact (loop.served_of_owner present made owner).pointer
    · intro row present attempt made owner
      exact (loop.served_of_owner present made owner).copies
    · intro row present attempt made owner
      have before : row.toLegacyRun ∈ runs.rows := loop.kept ▸ List.mem_map_of_mem present
      have listed := canonical row.toLegacyRun before
      obtain ⟨status, spelled⟩ := (mem_runStatusNames _).mp listed
      have normalized : (.ok row.status : Except String String) = .ok attempt.status :=
        (normalizeRunStatus_of_mem upperFull isPrintable listed).symm.trans
          (loop.served_of_owner present made owner).status
      exact ⟨status, spelled, (Except.ok.inj normalized).symm.trans spelled⟩

end Established

def storedRun (status : String) : LegacyRun where
  status := status
  summary := some (.obj [("message", .str "done")])
  resultMetrics := some (.obj [("episode_count", .int 1)])
  resultExecution := some (.obj [("runner", .str "stub")])
  resultArtifacts := some (.arr [])
  resultWarnings := some (.arr [])
  resultError := none
  failureMessage := none
  startedAt := some 2
  finishedAt := some 3
  id := 1
  projectId := 1
  runnerType := "stub"
  submittedConfig := .obj []
  normalizedConfig := .obj []
  configHash := "hash"
  createdAt := 1

def storedRuns (status : String) : Table LegacyRun where
  rows := [storedRun status]
  next := 2
  nodup := List.nodup_singleton _
  below := by
    intro row member
    rw [List.mem_singleton.mp member]
    exact Nat.lt_succ_self 1

theorem storedRuns_accepted (status name : String)
    (accepted : normalizeRunStatus (fun c => [c]) (fun _ => true) status = .ok name) :
    ∀ run ∈ (storedRuns status).rows, ∃ name,
      normalizeRunStatus (fun c => [c]) (fun _ => true) run.status = .ok name := by
  intro run member
  rw [List.mem_singleton.mp member]
  exact ⟨name, accepted⟩

/-- The upgrade leaves the tables as the ORM expects them exactly when every run already had its
status in the ORM's spelling: the normalized status goes to the attempt only. -/
theorem upgrade_establishes_iff (upperFull : Char → List Char) (isPrintable : Char → Bool)
    (runs : Table LegacyRun)
    (accepted : ∀ run ∈ runs.rows, ∃ name,
      normalizeRunStatus upperFull isPrintable run.status = .ok name) :
    ∃ after, upgrade upperFull isPrintable runs = .ok after ∧
      (Established upperFull isPrintable runs after ↔
        ∀ run ∈ runs.rows, run.status ∈ runStatusNames) := by
  obtain ⟨after, upgraded, loop⟩ := upgrade_backfills runs accepted
  exact ⟨after, upgraded, loop.established_iff⟩

theorem upgrade_establishes_succeeded :
    ∃ after, upgrade (fun c => [c]) (fun _ => true) (storedRuns "SUCCEEDED") = .ok after ∧
      Established (fun c => [c]) (fun _ => true) (storedRuns "SUCCEEDED") after := by
  obtain ⟨after, upgraded, establishes⟩ := upgrade_establishes_iff (fun c => [c]) (fun _ => true)
    (storedRuns "SUCCEEDED") (storedRuns_accepted "SUCCEEDED" "SUCCEEDED" (by decide))
  refine ⟨after, upgraded, establishes.mpr ?_⟩
  intro run member
  rw [List.mem_singleton.mp member]
  exact List.mem_cons_of_mem _ (List.mem_cons_of_mem _ List.mem_cons_self)

/-- The spelling revision `0001_create_projects_and_runs` declares stays in `runs.status`. -/
theorem upgrade_leaves_queued :
    (∀ run ∈ (storedRuns "queued").rows, ∃ name,
      normalizeRunStatus (fun c => [c]) (fun _ => true) run.status = .ok name) ∧
    ∃ after, upgrade (fun c => [c]) (fun _ => true) (storedRuns "queued") = .ok after ∧
      ¬ Established (fun c => [c]) (fun _ => true) (storedRuns "queued") after := by
  have accepted := storedRuns_accepted "queued" "QUEUED" (by decide)
  obtain ⟨after, upgraded, loop⟩ := upgrade_backfills (storedRuns "queued") accepted
  refine ⟨accepted, after, upgraded, ?_⟩
  intro established
  have listed := loop.established_iff.mp established (storedRun "queued") List.mem_cons_self
  have unlisted : "queued" ∉ runStatusNames := by decide
  exact unlisted listed

def StoredSnapshot.typed (snapshot : StoredSnapshot) (status : RunStatus) : Snapshot where
  status := status
  summary := snapshot.summary
  resultMetrics := snapshot.resultMetrics
  resultExecution := snapshot.resultExecution
  resultArtifacts := snapshot.resultArtifacts
  resultWarnings := snapshot.resultWarnings
  resultError := snapshot.resultError
  failureMessage := snapshot.failureMessage
  startedAt := snapshot.startedAt
  finishedAt := snapshot.finishedAt

/-- A status `Enum(RunStatus)` does not know is a `LookupError`. -/
def MigratedRun.load (row : MigratedRun) : Option Run :=
  match RunStatus.ofName row.status, row.submittedConfig, row.normalizedConfig with
  | some status, .obj submittedConfig, .obj normalizedConfig => some {
      toSnapshot := row.toStoredSnapshot.typed status
      id := row.id
      projectId := row.projectId
      runnerType := row.runnerType
      currentAttemptId := row.currentAttemptId
      submittedConfig := submittedConfig
      normalizedConfig := normalizedConfig
      configHash := row.configHash
      createdAt := row.createdAt }
  | _, _, _ => none

def StoredAttempt.load (row : StoredAttempt) : Option RunAttempt :=
  (RunStatus.ofName row.status).map fun status => {
    toSnapshot := row.toStoredSnapshot.typed status
    id := row.id
    runId := row.runId
    attemptNumber := row.attemptNumber
    createdAt := row.createdAt }

structure MigratedTables.LoadAs (tables : MigratedTables) (db : Database) : Prop where
  runs : tables.runs.rows.map MigratedRun.load = db.runs.rows.map some
  attempts : tables.attempts.rows.map StoredAttempt.load = db.attempts.rows.map some

theorem MigratedRun.load_ok {row : MigratedRun} {run : Run} (loaded : row.load = some run) :
    run.id = row.id ∧ run.currentAttemptId = row.currentAttemptId ∧ row.status = run.status.name ∧
      run.toSnapshot = row.toStoredSnapshot.typed run.status := by
  unfold MigratedRun.load at loaded
  split at loaded
  · rename_i status _ _ named _ _
    cases loaded
    exact ⟨rfl, rfl, (RunStatus.ofName_eq_some _ _).mp named, rfl⟩
  · cases loaded

theorem StoredAttempt.load_ok {row : StoredAttempt} {attempt : RunAttempt}
    (loaded : row.load = some attempt) :
    attempt.id = row.id ∧ attempt.runId = row.runId ∧ attempt.attemptNumber = row.attemptNumber ∧
      row.status = attempt.status.name ∧
      attempt.toSnapshot = row.toStoredSnapshot.typed attempt.status := by
  unfold StoredAttempt.load at loaded
  obtain ⟨status, named, rfl⟩ := Option.map_eq_some_iff.mp loaded
  exact ⟨rfl, rfl, rfl, (RunStatus.ofName_eq_some _ _).mp named, rfl⟩

theorem MigratedRun.load_createdAt {row : MigratedRun} {run : Run}
    (loaded : row.load = some run) : run.createdAt = row.createdAt := by
  unfold MigratedRun.load at loaded
  split at loaded <;> cases loaded
  rfl

theorem StoredAttempt.load_createdAt {row : StoredAttempt} {attempt : RunAttempt}
    (loaded : row.load = some attempt) : attempt.createdAt = row.createdAt := by
  unfold StoredAttempt.load at loaded
  obtain ⟨status, -, rfl⟩ := Option.map_eq_some_iff.mp loaded
  rfl

section Loaded

variable {tables : MigratedTables} {db : Database} (loads : tables.LoadAs db)
include loads

theorem run_of_loaded {run : Run} (member : run ∈ db.runs.rows) :
    ∃ row ∈ tables.runs.rows, row.load = some run :=
  List.mem_map.mp (loads.runs ▸ List.mem_map_of_mem member)

theorem attempt_of_loaded {attempt : RunAttempt} (member : attempt ∈ db.attempts.rows) :
    ∃ row ∈ tables.attempts.rows, row.load = some attempt :=
  List.mem_map.mp (loads.attempts ▸ List.mem_map_of_mem member)

theorem loaded_of_run {row : MigratedRun} (member : row ∈ tables.runs.rows) :
    ∃ run ∈ db.runs.rows, row.load = some run := by
  have loaded : row.load ∈ db.runs.rows.map some := loads.runs ▸ List.mem_map_of_mem member
  obtain ⟨run, present, same⟩ := List.mem_map.mp loaded
  exact ⟨run, present, same.symm⟩

theorem loaded_of_attempt {row : StoredAttempt} (member : row ∈ tables.attempts.rows) :
    ∃ attempt ∈ db.attempts.rows, row.load = some attempt := by
  have loaded : row.load ∈ db.attempts.rows.map some :=
    loads.attempts ▸ List.mem_map_of_mem member
  obtain ⟨attempt, present, same⟩ := List.mem_map.mp loaded
  exact ⟨attempt, present, same.symm⟩

theorem Established.loaded_attempt {upperFull : Char → List Char} {isPrintable : Char → Bool}
    {before : Table LegacyRun} (established : Established upperFull isPrintable before tables)
    {run : Run} (member : run ∈ db.runs.rows) :
    ∃ attempt, db.attemptRows run.id = [attempt] ∧ attempt.attemptNumber = 1 ∧
      run.currentAttemptId = some attempt.id ∧ attempt.createdAt = run.createdAt ∧
      run.toSnapshot.load = attempt.toSnapshot.load := by
  obtain ⟨row, present, loaded⟩ := run_of_loaded loads member
  obtain ⟨sameId, samePointer, named, columns⟩ := MigratedRun.load_ok loaded
  obtain ⟨stored, ⟨made, owner⟩, only⟩ := established.one row present
  obtain ⟨attempt, kept, loadedAttempt⟩ := loaded_of_attempt loads made
  obtain ⟨attemptId, attemptOwner, attemptNumber, attemptNamed, attemptColumns⟩ :=
    StoredAttempt.load_ok loadedAttempt
  have copies := established.copies row present stored made owner
  refine ⟨attempt, ?_, ?_, ?_, ?_, ?_⟩
  · have members (other : RunAttempt) : other ∈ db.attemptRows run.id ↔ other = attempt := by
      rw [db.mem_attemptRows]
      constructor
      · intro given
        rcases given with ⟨listed, owned⟩
        obtain ⟨source, sourceMade, sourceLoaded⟩ := attempt_of_loaded loads listed
        obtain ⟨_, sourceOwner, _⟩ := StoredAttempt.load_ok sourceLoaded
        have same : source = stored :=
          only source ⟨sourceMade, sourceOwner.symm.trans (owned.trans sameId)⟩
        rw [same, loadedAttempt] at sourceLoaded
        exact (Option.some.inj sourceLoaded).symm
      · rintro rfl
        exact ⟨kept, attemptOwner.trans (owner.trans sameId.symm)⟩
    have distinct : (db.attemptRows run.id).Nodup := (List.Nodup.of_map _ db.attempts.nodup).filter _
    have perm : (db.attemptRows run.id).Perm [attempt] := by
      rw [List.perm_ext_iff_of_nodup distinct (List.nodup_singleton _)]
      intro other
      rw [members, List.mem_singleton]
    exact List.perm_singleton.mp perm
  · exact attemptNumber.trans (established.first stored made)
  · rw [samePointer, attemptId]
    exact established.pointer row present stored made owner
  · calc
      attempt.createdAt = stored.createdAt := StoredAttempt.load_createdAt loadedAttempt
      _ = row.createdAt := copies.createdAt
      _ = run.createdAt := (MigratedRun.load_createdAt loaded).symm
  · obtain ⟨status, runStatus, attemptStatus⟩ := established.status row present stored made owner
    have runSpelled := (RunStatus.ofName_eq_some _ _).mpr (runStatus.symm.trans named)
    have attemptSpelled := (RunStatus.ofName_eq_some _ _).mpr (attemptStatus.symm.trans attemptNamed)
    have sameStatus : run.status = attempt.status :=
      Option.some.inj (runSpelled.symm.trans attemptSpelled)
    rw [columns, attemptColumns, sameStatus]
    simp only [Snapshot.load, StoredSnapshot.typed, copies.summary, copies.resultMetrics,
      copies.resultExecution, copies.resultArtifacts, copies.resultWarnings, copies.resultError,
      copies.failureMessage, copies.startedAt, copies.finishedAt]

theorem Established.consistent {upperFull : Char → List Char} {isPrintable : Char → Bool}
    {before : Table LegacyRun} (established : Established upperFull isPrintable before tables) :
    Consistent db ∧ Mirrored db := by
  refine ⟨⟨?_, ?_⟩, ?_⟩
  · intro run member
    obtain ⟨attempt, rows, first, pointer, -, mirrored⟩ := established.loaded_attempt loads member
    refine ⟨[], attempt, ?_⟩
    constructor
    · exact rows
    · exact pointer
    · exact congrArg LoadedSnapshot.status mirrored
    · intro other absent
      cases absent
    · simp [first]
    · exact List.pairwise_singleton _ _
  · intro attempt member
    obtain ⟨stored, made, loadedAttempt⟩ := attempt_of_loaded loads member
    obtain ⟨row, present, owner⟩ := established.owned stored made
    obtain ⟨run, kept, loaded⟩ := loaded_of_run loads present
    have sameId : run.id = row.id := (MigratedRun.load_ok loaded).1
    have sameOwner : attempt.runId = stored.runId := (StoredAttempt.load_ok loadedAttempt).2.1
    exact ⟨run, kept, sameId.trans (owner.symm.trans sameOwner.symm)⟩
  · intro run member attempt made points
    obtain ⟨only, rows, -, pointer, -, mirrored⟩ := established.loaded_attempt loads member
    have listed : only ∈ db.attemptRows run.id := rows ▸ List.mem_singleton_self only
    have same : attempt = only := Table.eq_of_mem
      (Table.get?_of_mem ((db.mem_attemptRows _ _).mp listed).1) made
      (Option.some.inj (points.symm.trans pointer))
    rw [same]
    exact mirrored

end Loaded

end Evalynx
