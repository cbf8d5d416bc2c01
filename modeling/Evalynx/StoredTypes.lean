import Evalynx.Clocked
import Evalynx.RunDetail

namespace Evalynx

open Relational Relation

def Typed (db : Database) : Prop :=
  ∀ attempt ∈ db.attempts.rows, attempt.toSnapshot.load.wellTyped = true

theorem typed_empty : Typed .empty := by
  intro attempt member
  cases member

theorem optionalObject_typed (members : Option JsonObject) :
    isOptionalDict (optionalObject members) = true := by
  cases members <;> rfl

theorem finish_typed (snapshot : Snapshot) (result : RunnerResult) (now : Timestamp) :
    (snapshot.finish (terminalValues result now)).load.wellTyped = true := by
  simp [LoadedSnapshot.wellTyped, Snapshot.load, Snapshot.finish, terminalValues,
    optionalObject_typed, isOptionalDicts, isOptionalStrings]

section Histories

variable {accepts : TerminalValues → Bool} {db db' : Database}

theorem typed_append (typed : Typed db) {written : Database} {id runId attemptNumber : Nat}
    {createdAt : Timestamp}
    (attempts : written.attempts.rows =
      db.attempts.rows ++ [newAttempt id runId attemptNumber createdAt]) : Typed written := by
  intro attempt member
  rw [attempts, List.mem_append, List.mem_singleton] at member
  rcases member with old | rfl
  · exact typed attempt old
  · rfl

theorem typed_txn (consistent : Consistent db) (typed : Typed db) (txn : Txn accepts db db') :
    Typed db' := by
  cases txn with
  | createProject name description createdAt => exact typed
  | createRun project new runCreatedAt attemptCreatedAt found =>
      exact typed_append typed (insertRun_rows db new runCreatedAt attemptCreatedAt).2
  | retryRun runId loaded now attemptId written seen allowed inserted =>
      exact typed_append typed (insertRetry_rows inserted).2.2
  | claim attempt now claimed found success =>
      intro row member
      rcases ((claim_rows found success).2 row).mp member with rfl | ⟨old, _⟩
      · exact typed attempt (Table.get?_mem found)
      · exact typed row old
  | persist attempt result now persisted found success =>
      rcases persist_rows consistent found success with rfl | ⟨_, _, rows⟩
      · exact typed
      · intro row member
        rcases (rows row).mp member with rfl | ⟨old, _⟩
        · exact finish_typed attempt.toSnapshot result now
        · exact typed row old
  | rollback runs attempts => exact typed

theorem history_typed (history : ReflTransGen (Txn accepts) .empty db) : Typed db := by
  induction history with
  | refl => exact typed_empty
  | tail before txn ih => exact typed_txn (history_consistent before) ih txn

theorem run_typed (history : ReflTransGen (Txn accepts) .empty db) {run : Run}
    (member : run ∈ db.runs.rows) : run.toSnapshot.load.wellTyped = true := by
  obtain ⟨past, current, lineage⟩ := (history_consistent history).lineage run member
  rw [history_mirrored history run member current lineage.current_mem.1 lineage.pointer]
  exact history_typed history current lineage.current_mem.1

theorem selected_typed (history : ReflTransGen (Txn accepts) .empty db) {runId : Nat}
    {attempt : RunAttempt} (listed : attempt ∈ selectAttempts db runId) :
    attempt.toSnapshot.load.wellTyped = true :=
  history_typed history attempt
    ((db.mem_attemptRows runId attempt).mp ((mem_selectAttempts db runId attempt).mp listed)).1

theorem loadRun_validates (history : ReflTransGen (Txn accepts) .empty db) {runId : Nat}
    {loaded : LoadedRun} (seen : loadRun db runId = some loaded) :
    RunRead.modelValidate loaded = .ok loaded.read := by
  obtain ⟨run, found, -, rfl⟩ := loadRun_eq_some seen
  have mine := run_typed history (Table.get?_mem found)
  have attempts : ∀ attempt ∈ selectAttempts db run.id,
      attempt.toSnapshot.load.wellTyped = true :=
    fun attempt listed => selected_typed history listed
  have valid : (LoadedRun.read ⟨run, selectCurrentAttempt db run,
      selectAttempts db run.id⟩).wellTyped = true := by
    rw [RunRead.wellTyped, Bool.and_eq_true]
    refine ⟨mine, ?_⟩
    simpa [LoadedRun.read, RunAttempt.read] using attempts
  rw [RunRead.modelValidate, if_pos valid]

theorem getRun_quiet (history : ReflTransGen (Txn accepts) .empty db) (order : SelectOrder)
    (runId : Nat) :
    getRun order db db db runId =
      match loadRun db runId with
      | none => .error (.notFound s!"Run {runId} was not found.")
      | some loaded => .ok loaded.read := by
  rw [getRun, selectRun_quiet]
  cases seen : loadRun db runId with
  | none => rfl
  | some loaded => exact loadRun_validates history seen

end Histories

end Evalynx
