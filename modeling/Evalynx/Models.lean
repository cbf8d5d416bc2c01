import Evalynx.Json
import Evalynx.Relational

/-! The tables of `app/db/models.py`. -/

namespace Evalynx

open Relational

/-- `utcnow()`, in any unit. -/
abbrev Timestamp := Nat

inductive RunStatus where
  | queued
  | running
  | succeeded
  | failed
  deriving DecidableEq, Repr

def RunStatus.terminal : RunStatus → Bool
  | .succeeded | .failed => true
  | .queued | .running => false

abbrev JsonColumn := Option Json

/-- SQL NULL and the JSON text `null` both load as `None`. -/
def JsonColumn.load (column : JsonColumn) : Json := column.getD .null

/-- `JSON()` keeps `none_as_null=False`: `None` bound in an UPDATE is stored as JSON `null`. -/
def JsonColumn.bind (value : Json) : JsonColumn := some value

@[simp] theorem JsonColumn.load_bind (value : Json) : (JsonColumn.bind value).load = value := rfl

@[simp] theorem JsonColumn.load_none : JsonColumn.load none = .null := rfl

structure Snapshot where
  status : RunStatus
  summary : JsonColumn
  resultMetrics : JsonColumn
  resultExecution : JsonColumn
  resultArtifacts : JsonColumn
  resultWarnings : JsonColumn
  resultError : JsonColumn
  failureMessage : Option String
  startedAt : Option Timestamp
  finishedAt : Option Timestamp

def Snapshot.initial : Snapshot where
  status := .queued
  summary := none
  resultMetrics := none
  resultExecution := none
  resultArtifacts := none
  resultWarnings := none
  resultError := none
  failureMessage := none
  startedAt := none
  finishedAt := none

structure LoadedSnapshot where
  status : RunStatus
  summary : Json
  resultMetrics : Json
  resultExecution : Json
  resultArtifacts : Json
  resultWarnings : Json
  resultError : Json
  failureMessage : Option String
  startedAt : Option Timestamp
  finishedAt : Option Timestamp

def Snapshot.load (snapshot : Snapshot) : LoadedSnapshot where
  status := snapshot.status
  summary := snapshot.summary.load
  resultMetrics := snapshot.resultMetrics.load
  resultExecution := snapshot.resultExecution.load
  resultArtifacts := snapshot.resultArtifacts.load
  resultWarnings := snapshot.resultWarnings.load
  resultError := snapshot.resultError.load
  failureMessage := snapshot.failureMessage
  startedAt := snapshot.startedAt
  finishedAt := snapshot.finishedAt

structure Project where
  id : Nat
  name : String
  description : Option String
  createdAt : Timestamp

structure Run extends Snapshot where
  id : Nat
  projectId : Nat
  runnerType : String
  currentAttemptId : Option Nat
  submittedConfig : JsonObject
  normalizedConfig : JsonObject
  configHash : String
  createdAt : Timestamp

structure RunAttempt extends Snapshot where
  id : Nat
  runId : Nat
  attemptNumber : Nat
  createdAt : Timestamp

instance : Row Project := ⟨Project.id⟩
instance : Row Run := ⟨Run.id⟩
instance : Row RunAttempt := ⟨RunAttempt.id⟩

@[simp] theorem rowId_run (run : Run) : Row.id run = run.id := rfl
@[simp] theorem rowId_attempt (attempt : RunAttempt) : Row.id attempt = attempt.id := rfl

theorem mem_putRun {runs : Table Run} (run : Run) {old : Run} (found : runs.get? run.id = some old)
    (other : Run) :
    other ∈ (runs.put run).rows ↔ other = run ∨ (other ∈ runs.rows ∧ other.id ≠ run.id) :=
  Table.mem_put run found other

theorem mem_putAttempt {attempts : Table RunAttempt} (attempt : RunAttempt) {old : RunAttempt}
    (found : attempts.get? attempt.id = some old) (other : RunAttempt) :
    other ∈ (attempts.put attempt).rows ↔
      other = attempt ∨ (other ∈ attempts.rows ∧ other.id ≠ attempt.id) :=
  Table.mem_put attempt found other

structure Database where
  projects : Table Project
  runs : Table Run
  attempts : Table RunAttempt

def Database.empty : Database where
  projects := .empty
  runs := .empty
  attempts := .empty

def Database.attemptRows (db : Database) (runId : Nat) : List RunAttempt :=
  db.attempts.rows.filter (fun attempt => attempt.runId == runId)

theorem Database.mem_attemptRows (db : Database) (runId : Nat) (attempt : RunAttempt) :
    attempt ∈ db.attemptRows runId ↔ attempt ∈ db.attempts.rows ∧ attempt.runId = runId := by
  simp [attemptRows]

end Evalynx
