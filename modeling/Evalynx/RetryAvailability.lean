import Evalynx.World
import Evalynx.Processing

namespace Evalynx

open Relational Relation

/-- A whole call, from the first statement to the answer or the exception. -/
inductive Call (accepts : TerminalValues → Bool) (db : Database) : Database → Prop where
  | createProject (name : String) (description : Option String) (createdAt : Timestamp) :
      Call accepts db (insertProject db name description createdAt)
  | createRun (env : ServiceEnv) (payload : RunCreate) :
      Call accepts db (Evalynx.createRun env db payload).db
  | retryRun (env : ServiceEnv) (runId : Nat) :
      Call accepts db (Evalynx.retryRun env db db runId).db
  | processAttempt (env : WorkerEnv) (attemptId : Nat) (database : env.accepts = accepts) :
      Call accepts db (Evalynx.processAttempt env db attemptId).db

section Calls

variable {accepts : TerminalValues → Bool} {db : Database}

theorem commitAndEnqueue_db (env : ServiceEnv) (rolledBack written : Database)
    (attemptId runId : Nat) :
    (commitAndEnqueue env rolledBack written attemptId runId).db = rolledBack ∨
      (commitAndEnqueue env rolledBack written attemptId runId).db = written := by
  unfold commitAndEnqueue
  cases env.raises .commit with
  | some text => exact Or.inl rfl
  | none =>
      right
      cases env.raises .refresh with
      | some text => rfl
      | none =>
          cases env.raises .enqueue with
          | some text => rfl
          | none => rfl

theorem createRun_history (env : ServiceEnv) (payload : RunCreate) :
    ReflTransGen (Txn accepts) db (createRun env db payload).db := by
  unfold createRun
  cases env.raises .select with
  | some text => exact .refl
  | none =>
  cases prepared : prepareRun env db payload with
  | error error => exact .refl
  | ok new =>
  cases env.raises .flushRun with
  | some text => exact .single (.rollback 1 0)
  | none =>
  cases env.raises .flushAttempt with
  | some text => exact .single (.rollback 1 1)
  | none =>
  obtain ⟨project, runner, normalized, found, -, -, same⟩ :=
    (prepareRun_ok env db payload new).mp prepared
  have owner : new.projectId = payload.projectId := by
    rw [same]
    exact Table.get?_id found
  have written : Txn accepts db (insertRun db new env.runCreatedAt env.attemptCreatedAt).1 :=
    .createRun project new env.runCreatedAt env.attemptCreatedAt (owner ▸ found)
  dsimp only
  rcases commitAndEnqueue_db env (loseKeys db 1 1)
      (insertRun db new env.runCreatedAt env.attemptCreatedAt).1
      (insertRun db new env.runCreatedAt env.attemptCreatedAt).2 db.runs.next with same | same
  · rw [same]
    exact .single (.rollback 1 1)
  · rw [same]
    exact .single written

theorem retryRun_history (env : ServiceEnv) (runId : Nat) :
    ReflTransGen (Txn accepts) db (retryRun env db db runId).db := by
  unfold retryRun
  cases env.raises .select with
  | some text => exact .refl
  | none =>
  cases prepared : prepareRetry db runId with
  | error error => exact .refl
  | ok loaded =>
  cases env.raises .flushAttempt with
  | some text => exact .single (.rollback 0 1)
  | none =>
  dsimp only
  cases inserted : insertRetry db loaded env.attemptCreatedAt with
  | none => exact .single (.rollback 0 1)
  | some result =>
  obtain ⟨-, allowed, seen⟩ := prepareRetry_eq_ok prepared
  have written : Txn accepts db result.1 :=
    .retryRun loaded.run.id loaded env.attemptCreatedAt result.1 result.2 seen allowed inserted
  dsimp only
  rcases commitAndEnqueue_db env (loseKeys db 0 1) result.1 result.2 runId with same | same
  · rw [same]
    exact .single (.rollback 0 1)
  · rw [same]
    exact .single written

theorem processAttempt_history (env : WorkerEnv) (attemptId : Nat) :
    ReflTransGen (Txn env.accepts) db (processAttempt env db attemptId).db := by
  rcases claimable_cases db attemptId with ⟨attempt, run, rfl, claimable⟩ | unclaimable
  · let started := db.replace (attempt.start env.startedAt) (run.start env.startedAt)
    have claimed : Txn env.accepts db started :=
      .claim attempt env.startedAt started claimable.attemptFound
        ((claimAttempt_iff claimable.attemptFound env.startedAt started).mpr ⟨run, claimable, rfl⟩)
    have row : started.attempts.get? attempt.id = some (attempt.start env.startedAt) :=
      (claimable.replaced (attempt.start env.startedAt) (run.start env.startedAt) rfl rfl).1
    have persists := claimable.persists env
    rw [processAttempt_claimable claimable]
    by_cases taken : env.accepts (env.values attempt run) = true
    · rw [if_pos taken] at persists ⊢
      exact .tail (.single claimed)
        (.persist (attempt.start env.startedAt) _ env.finishedAt _ row persists)
    · rw [if_neg taken]
      exact .single claimed
  · rw [processAttempt_unclaimed env unclaimable]

theorem Call.history {db' : Database} (call : Call accepts db db') :
    ReflTransGen (Txn accepts) db db' := by
  cases call with
  | createProject name description createdAt =>
      exact .single (.createProject name description createdAt)
  | createRun env payload => exact createRun_history env payload
  | retryRun env runId => exact retryRun_history env runId
  | processAttempt env attemptId database =>
      rw [← database]
      exact processAttempt_history env attemptId

theorem calls_history {db' : Database} (calls : ReflTransGen (Call accepts) db db') :
    ReflTransGen (Txn accepts) db db' := by
  induction calls with
  | refl => exact .refl
  | tail _ last ih => exact ih.trans last.history

theorem consistent_reached (reached : ReflTransGen (Call accepts) .empty db) : Consistent db :=
  Transition.invariant consistent_empty
    (fun _ _ consistent call =>
      Transition.invariant consistent (fun _ _ before txn => txn.consistent before) call.history)
    reached

end Calls

/-- One more attempt, QUEUED and numbered behind all others of its run; the run is QUEUED, points to
it and loads like a run that was never started; all else is as before. -/
structure Retried (before after : Database) (run : Run) (attempt : RunAttempt) : Prop where
  attempts : after.attempts.rows = before.attempts.rows ++ [attempt]
  initial : attempt.toSnapshot = .initial
  owner : attempt.runId = run.id
  fresh : ∀ row ∈ before.attempts.rows, row.id ≠ attempt.id
  above : ∀ row ∈ before.attemptRows run.id, row.attemptNumber < attempt.attemptNumber
  next : ∃ row ∈ before.attemptRows run.id, attempt.attemptNumber = row.attemptNumber + 1
  runs : ∃ snapshot : Snapshot, snapshot.load = Snapshot.initial.load ∧
    after.runs.rows = before.runs.rows.map fun row =>
      if row.id = run.id then
        { row with toSnapshot := snapshot, currentAttemptId := some attempt.id }
      else row
  projects : after.projects = before.projects

section Retry

variable {db : Database} {env : ServiceEnv} (quiet : ∀ point, env.raises point = none)
include quiet

theorem retryRun_missing {runId : Nat} (absent : db.runs.get? runId = none) :
    ∃ message, retryRun env db db runId = ⟨db, [], .error (.runNotFound message)⟩ := by
  have unseen : loadRun db runId = none := by rw [loadRun, absent, Option.map_none]
  exact ⟨_, by simp only [retryRun, quiet, prepareRetry, unseen]; rfl⟩

theorem retryRun_refused {run : Run} (found : db.runs.get? run.id = some run)
    (alive : run.status ≠ .failed) :
    ∃ message, retryRun env db db run.id = ⟨db, [], .error (.retryNotAllowed message)⟩ := by
  have seen := loadRun_found found
  have refused : retryAllowed ⟨run, selectCurrentAttempt db run, selectAttempts db run.id⟩ = false := by
    rw [← Bool.not_eq_true, retryAllowed_iff]
    intro allowed
    exact alive allowed.1
  exact ⟨_, by simp only [retryRun, quiet, prepareRetry, seen, refused]; rfl⟩

theorem retryRun_failed {run : Run} {past : List RunAttempt} {current : RunAttempt}
    (lineage : Lineage db run past current) (found : db.runs.get? run.id = some run)
    (failed : run.status = .failed) :
    retryRun env db db run.id =
      ⟨{ db with
          attempts := (db.attempts.reserve 1).adopt
            (newAttempt db.attempts.next run.id (past.length + 2) env.attemptCreatedAt)
          runs := db.runs.put { run with
            toSnapshot := clearRunSnapshot run.toSnapshot run.toSnapshot
            currentAttemptId := some db.attempts.next } },
        [db.attempts.next], .ok run.id⟩ := by
  have seen := loadRun_found found
  -- The second guard reads the attempt the run points to, whose status is the run's.
  have allowed : retryAllowed ⟨run, selectCurrentAttempt db run, selectAttempts db run.id⟩ = true :=
    (retryAllowed_iff _).mpr
      ⟨failed, current, lineage.selectCurrentAttempt, lineage.status.symm.trans failed⟩
  have inserted := insertRetry_current lineage found (selectCurrentAttempt db run)
    env.attemptCreatedAt
  simp only [retryRun, quiet, prepareRetry, seen, allowed, inserted, commitAndEnqueue, if_true]

end Retry

theorem Lineage.retried {db : Database} {run : Run} {past : List RunAttempt} {current : RunAttempt}
    (lineage : Lineage db run past current) (found : db.runs.get? run.id = some run)
    (now : Timestamp) :
    Retried db
      { db with
        attempts := (db.attempts.reserve 1).adopt
          (newAttempt db.attempts.next run.id (past.length + 2) now)
        runs := db.runs.put { run with
          toSnapshot := clearRunSnapshot run.toSnapshot run.toSnapshot
          currentAttemptId := some db.attempts.next } }
      run (newAttempt db.attempts.next run.id (past.length + 2) now) where
  attempts := Table.rows_adopt (db.attempts.reserve 1) _
    (db.attempts.get?_next _ (Nat.le_refl _)) (Nat.lt_succ_self _)
  initial := rfl
  owner := rfl
  fresh := by
    intro row member
    exact Nat.ne_of_lt (db.attempts.below row member)
  above := by
    intro row member
    have bound := (lineage.number_le member).2
    calc
      row.attemptNumber ≤ past.length + 1 := bound
      _ < past.length + 2 := Nat.lt_succ_self _
  next := by
    refine ⟨current, ?_, ?_⟩
    · rw [lineage.rows]
      exact List.mem_append_right past (List.mem_singleton.mpr rfl)
    · rw [lineage.current_number]
      rfl
  runs := by
    let snapshot := clearRunSnapshot run.toSnapshot run.toSnapshot
    let change (row : Run) : Run :=
      { row with toSnapshot := snapshot, currentAttemptId := some db.attempts.next }
    exact ⟨snapshot, clearRunSnapshot_load run.toSnapshot,
      Table.rows_put_change change rfl found⟩
  projects := rfl

/-- In every reached state a retry that runs alone fails on unknown runs and on runs that have not
failed, and goes through on all others. -/
theorem retry_available {accepts : TerminalValues → Bool} {db : Database}
    (reached : ReflTransGen (Call accepts) .empty db) (env : ServiceEnv)
    (quiet : ∀ point, env.raises point = none) (runId : Nat) :
    ((∃ message, (retryRun env db db runId).outcome = .error (.runNotFound message)) ↔
        db.runs.get? runId = none) ∧
      ((∃ message, (retryRun env db db runId).outcome = .error (.retryNotAllowed message)) ↔
        ∃ run, db.runs.get? runId = some run ∧ run.status ≠ .failed) ∧
      (∀ run, db.runs.get? runId = some run → run.status = .failed →
        (retryRun env db db runId).outcome = .ok runId ∧
          ∃ attempt, (retryRun env db db runId).enqueued = [attempt.id] ∧
            Retried db (retryRun env db db runId).db run attempt) := by
  have consistent := consistent_reached reached
  cases stored : db.runs.get? runId with
  | none =>
      rcases retryRun_missing quiet stored with ⟨message, served⟩
      rw [served]
      exact ⟨by simp, by simp, by simp⟩
  | some run =>
      obtain rfl : run.id = runId := Table.get?_id stored
      by_cases failed : run.status = .failed
      · obtain ⟨past, current, lineage⟩ := consistent.of_run stored
        rw [retryRun_failed quiet lineage stored failed]
        refine ⟨by simp, by simp [failed], ?_⟩
        intro other found _
        cases found
        exact ⟨rfl, _, rfl, lineage.retried stored env.attemptCreatedAt⟩
      · rcases retryRun_refused quiet stored failed with ⟨message, served⟩
        rw [served]
        exact ⟨by simp, by simp [failed], by simp [failed]⟩

theorem retry_available_failed :
    ∃ env : ServiceEnv, (retryRun env sampleFailed sampleFailed 1).outcome = .ok 1 ∧
      ∃ attempt, (retryRun env sampleFailed sampleFailed 1).enqueued = [attempt.id] ∧
        Retried sampleFailed (retryRun env sampleFailed sampleFailed 1).db sampleRun attempt := by
  let env : ServiceEnv := ⟨[("stub", sampleRunner)], fun _ => "", 0, 0, fun _ => none⟩
  let worker : WorkerEnv := ⟨[("stub", sampleRunner)], fun _ => true, 1, 2⟩
  have project : Call (fun _ => true) .empty sampleProject := .createProject "evals" none 0
  have created : Call (fun _ => true) sampleProject sampleCreated :=
    .createRun env ⟨1, "stub", []⟩
  have failed : Call (fun _ => true) sampleCreated sampleFailed :=
    .processAttempt worker 1 rfl
  have reached : ReflTransGen (Call (fun _ => true)) .empty sampleFailed :=
    (((ReflTransGen.single project).tail created).tail failed)
  exact ⟨env, (retry_available reached env (fun _ => rfl) 1).2.2 sampleRun rfl rfl⟩

end Evalynx
