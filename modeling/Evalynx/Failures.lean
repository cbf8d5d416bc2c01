import Evalynx.Transactions

namespace Evalynx

open Relational

inductive Request where
  | createRun (payload : RunCreate)
  | retryRun (runId : Nat)

namespace Request

/-- The call; `seen` is what the SELECTs of a retry read, `db` what the writes meet. -/
def serve (env : ServiceEnv) (seen db : Database) : Request → Served
  | .createRun payload => Evalynx.createRun env db payload
  | .retryRun runId => Evalynx.retryRun env seen db runId

def points : Request → List FailurePoint
  | .createRun _ => [.select, .flushRun, .flushAttempt, .commit]
  | .retryRun _ => [.select, .flushAttempt, .commit]

/-- The checks of the service and the unique key let the request pass. -/
def accepted (env : ServiceEnv) (seen db : Database) : Request → Bool
  | .createRun payload => (prepareRun env db payload).isOk
  | .retryRun runId =>
      match prepareRetry seen runId with
      | .ok loaded =>
          !violatesUniqueNumber db.attempts.rows loaded.run.id (nextAttemptNumber loaded.attempts)
      | .error _ => false

def commits (env : ServiceEnv) (seen db : Database) (request : Request) : Bool :=
  request.accepted env seen db && request.points.all (fun point => (env.raises point).isNone)

end Request

def ServiceEnv.delivers (env : ServiceEnv) : Bool :=
  (env.raises .refresh).isNone && (env.raises .enqueue).isNone

def Unchanged (before after : Database) : Prop :=
  after.runs.rows = before.runs.rows ∧ after.attempts.rows = before.attempts.rows

def Queues (before after : Database) : Prop :=
  ∃ attempt : RunAttempt, attempt.status = .queued ∧
    after.attempts.rows = before.attempts.rows ++ [attempt]

theorem Queues.not_unchanged {before after : Database} (queues : Queues before after) :
    ¬ Unchanged before after := by
  intro unchanged
  obtain ⟨attempt, -, rows⟩ := queues
  rw [unchanged.2] at rows
  simp at rows

structure Served.Rejected (served : Served) (before : Database) : Prop where
  unchanged : Unchanged before served.db
  nothing : served.enqueued = []
  raised : ∃ error, served.outcome = .error error

theorem rejected_lost (db : Database) (runs attempts : Nat) (error : ServiceError) :
    Served.Rejected ⟨loseKeys db runs attempts, [], .error error⟩ db :=
  ⟨⟨rfl, rfl⟩, rfl, error, rfl⟩

theorem rejected_before (db : Database) (error : ServiceError) :
    Served.Rejected ⟨db, [], .error error⟩ db :=
  ⟨⟨rfl, rfl⟩, rfl, error, rfl⟩

structure Served.Committed (served : Served) (env : ServiceEnv) (before : Database) : Prop where
  queues : Queues before served.db
  answered : env.delivers = true → ∃ runId, served.outcome = .ok runId
  stranded : env.delivers = false → served.enqueued = [] ∧ ∃ error, served.outcome = .error error

theorem commitAndEnqueue_raised {env : ServiceEnv} {text : String}
    (raised : env.raises .commit = some text) (rolledBack written : Database)
    (attemptId runId : Nat) :
    commitAndEnqueue env rolledBack written attemptId runId =
      ⟨rolledBack, [], .error (.crashed text)⟩ := by
  simp only [commitAndEnqueue, raised]

theorem commitAndEnqueue_committed {env : ServiceEnv} (committed : env.raises .commit = none)
    {before written : Database} (queues : Queues before written) (rolledBack : Database)
    (attemptId runId : Nat) :
    (commitAndEnqueue env rolledBack written attemptId runId).Committed env before := by
  simp only [commitAndEnqueue, committed]
  cases refresh : env.raises .refresh with
  | some text =>
      exact ⟨queues, by simp [ServiceEnv.delivers, refresh], fun _ => ⟨rfl, _, rfl⟩⟩
  | none =>
      cases enqueue : env.raises .enqueue with
      | some text =>
          exact ⟨queues, by simp [ServiceEnv.delivers, enqueue], fun _ => ⟨rfl, _, rfl⟩⟩
      | none =>
          exact ⟨queues, fun _ => ⟨runId, rfl⟩, by simp [ServiceEnv.delivers, refresh, enqueue]⟩

theorem createRun_served (env : ServiceEnv) (seen db : Database) (payload : RunCreate) :
    ((Request.createRun payload).commits env seen db = false ∧
        (createRun env db payload).Rejected db) ∨
      ((Request.createRun payload).commits env seen db = true ∧
        (createRun env db payload).Committed env db) := by
  simp only [Request.commits, Request.accepted, Request.points, createRun]
  cases select : env.raises .select with
  | some text => exact Or.inl ⟨by simp [select], rejected_before db _⟩
  | none =>
  cases prepared : prepareRun env db payload with
  | error error => exact Or.inl ⟨rfl, rejected_before db _⟩
  | ok new =>
  cases flushRun : env.raises .flushRun with
  | some text => exact Or.inl ⟨by simp [flushRun], rejected_lost db 1 0 _⟩
  | none =>
  cases flushAttempt : env.raises .flushAttempt with
  | some text => exact Or.inl ⟨by simp [flushAttempt], rejected_lost db 1 1 _⟩
  | none =>
  cases commit : env.raises .commit with
  | some text =>
      simp only [commitAndEnqueue_raised commit]
      exact Or.inl ⟨by simp [commit], rejected_lost db 1 1 _⟩
  | none =>
      right
      refine ⟨by simp [select, flushRun, flushAttempt, commit, Except.isOk, Except.toBool], ?_⟩
      apply commitAndEnqueue_committed commit
      exact ⟨_, rfl, (insertRun_rows db new env.runCreatedAt env.attemptCreatedAt).2⟩

theorem retryRun_served (env : ServiceEnv) (seen db : Database) (runId : Nat) :
    ((Request.retryRun runId).commits env seen db = false ∧
        (retryRun env seen db runId).Rejected db) ∨
      ((Request.retryRun runId).commits env seen db = true ∧
        (retryRun env seen db runId).Committed env db) := by
  simp only [Request.commits, Request.accepted, Request.points, retryRun]
  cases select : env.raises .select with
  | some text => exact Or.inl ⟨by simp [select], rejected_before db _⟩
  | none =>
  cases prepared : prepareRetry seen runId with
  | error error => exact Or.inl ⟨rfl, rejected_before db _⟩
  | ok loaded =>
  cases flushAttempt : env.raises .flushAttempt with
  | some text => exact Or.inl ⟨by simp [flushAttempt], rejected_lost db 0 1 _⟩
  | none =>
  dsimp only
  cases inserted : insertRetry db loaded env.attemptCreatedAt with
  | none =>
      left
      refine ⟨?_, rejected_lost db 0 1 _⟩
      have taken : violatesUniqueNumber db.attempts.rows loaded.run.id
          (nextAttemptNumber loaded.attempts) = true := by
        simp only [insertRetry] at inserted
        split at inserted
        · assumption
        · cases inserted
      simp [taken]
  | some result =>
  obtain ⟨written, attemptId⟩ := result
  obtain ⟨free, -, rows⟩ := insertRetry_rows inserted
  cases commit : env.raises .commit with
  | some text =>
      simp only [commitAndEnqueue_raised commit]
      exact Or.inl ⟨by simp [commit], rejected_lost db 0 1 _⟩
  | none =>
      right
      refine ⟨by simp [select, flushAttempt, commit, free], ?_⟩
      exact commitAndEnqueue_committed commit ⟨_, rfl, rows⟩ _ _ _

theorem Request.served (env : ServiceEnv) (seen db : Database) (request : Request) :
    (request.commits env seen db = false ∧ (request.serve env seen db).Rejected db) ∨
      (request.commits env seen db = true ∧ (request.serve env seen db).Committed env db) := by
  cases request with
  | createRun payload => exact createRun_served env seen db payload
  | retryRun runId => exact retryRun_served env seen db runId

/-- A call that raises leaves the tables alone unless it raises behind its COMMIT. -/
theorem Request.failure_atomic (env : ServiceEnv) (seen db : Database) (request : Request) :
    ((∃ error, (request.serve env seen db).outcome = .error error) →
        Unchanged db (request.serve env seen db).db) ↔
      (request.commits env seen db = true → env.delivers = true) := by
  rcases request.served env seen db with ⟨refused, rejected⟩ | ⟨commits, committed⟩
  · constructor
    · intro _ commits
      rw [refused] at commits
      cases commits
    · intro _ _
      exact rejected.unchanged
  · constructor
    · intro unchanged _
      by_contra broken
      obtain ⟨-, error, raised⟩ := committed.stranded (Bool.eq_false_iff.mpr broken)
      exact committed.queues.not_unchanged (unchanged ⟨error, raised⟩)
    · intro delivers raised
      obtain ⟨runId, answered⟩ := committed.answered (delivers commits)
      obtain ⟨error, raised⟩ := raised
      rw [answered] at raised
      cases raised

def brokenQueue : ServiceEnv where
  registry := [("stub", sampleRunner)]
  sha256 := fun _ => ""
  runCreatedAt := 0
  attemptCreatedAt := 0
  raises := fun point => if point = .enqueue then some "Connection refused." else none

/-- A failed `create_run` leaves one attempt, QUEUED and without a job. -/
theorem Request.failure_leaves_attempt :
    ∃ served : Served,
      served = (Request.createRun ⟨1, "stub", []⟩).serve brokenQueue sampleProject sampleProject ∧
      (∃ error, served.outcome = .error error) ∧ served.enqueued = [] ∧
      ¬ Unchanged sampleProject served.db ∧
      ∃ attempt, served.db.attempts.rows = [attempt] ∧ attempt.status = .queued := by
  have commits : (Request.createRun ⟨1, "stub", []⟩).commits brokenQueue sampleProject
      sampleProject = true := rfl
  rcases Request.served brokenQueue sampleProject sampleProject (.createRun ⟨1, "stub", []⟩) with
    ⟨refused, _⟩ | ⟨_, committed⟩
  · rw [commits] at refused
    cases refused
  · obtain ⟨nothing, raised⟩ := committed.stranded rfl
    obtain ⟨attempt, queued, rows⟩ := committed.queues
    exact ⟨_, rfl, raised, nothing, committed.queues.not_unchanged, attempt, rows, queued⟩

end Evalynx
