import Evalynx.Redelivery
import Evalynx.RetryAvailability
import Evalynx.RunBook

namespace Evalynx

open Relational Relation Retrying

section Calls

variable {db : Database}

theorem createRun_quiet {env : ServiceEnv} (quiet : ∀ point, env.raises point = none)
    (db : Database) (payload : RunCreate) :
    createRun env db payload =
      match prepareRun env db payload with
      | .error error => ⟨db, [], .error error⟩
      | .ok new =>
          ⟨(insertRun db new env.runCreatedAt env.attemptCreatedAt).1, [db.attempts.next],
            .ok db.runs.next⟩ := by
  unfold createRun
  simp only [quiet]
  cases prepareRun env db payload with
  | error error => rfl
  | ok new => simp only [commitAndEnqueue, quiet, insertRun, newAttempt]

theorem insertRun_book (consistent : Consistent db) (new : NewRun)
    (runCreatedAt attemptCreatedAt : Timestamp) :
    db.book.act (.submit db.runs.next) =
      some (insertRun db new runCreatedAt attemptCreatedAt).1.book := by
  let run : Run :=
    { new.row db.runs.next runCreatedAt with currentAttemptId := some db.attempts.next }
  let attempt := newAttempt db.attempts.next run.id 1 attemptCreatedAt
  have runFresh : db.runs.get? run.id = none := db.runs.get?_next _ (Nat.le_refl _)
  have attemptFresh : db.attempts.get? attempt.id = none := db.attempts.get?_next _ (Nat.le_refl _)
  exact book_founded consistent rfl rfl runFresh (Nat.lt_succ_self _) attemptFresh
    (Nat.lt_succ_self _)

theorem createRun_acts (consistent : Consistent db) {env : ServiceEnv}
    (quiet : ∀ point, env.raises point = none) (payload : RunCreate) :
    match (createRun env db payload).outcome with
    | .ok runId => db.book.act (.submit runId) = some (createRun env db payload).db.book
    | .error _ => (createRun env db payload).db = db := by
  rw [createRun_quiet quiet]
  cases prepareRun env db payload with
  | error error => rfl
  | ok new => exact insertRun_book consistent new _ _

theorem retry_refused {run : Run} {past : List RunAttempt} {current : RunAttempt}
    (lineage : Lineage db run past current) (found : db.runs.get? run.id = some run)
    (alive : run.status ≠ .failed) : db.book.act (.retry run.id) = none := by
  rw [lineage.status] at alive
  rw [Book.act, Action.subject, book_of_lineage found lineage, Option.map_eq_none_iff]
  cases status : current.status with
  | failed => exact absurd status alive
  | queued | running | succeeded =>
      simp [Action.apply, Life.retry, RunAttempt.stage, status]

theorem retryRun_acts (consistent : Consistent db) {env : ServiceEnv}
    (quiet : ∀ point, env.raises point = none) (runId : Nat) :
    match db.book.act (.retry runId) with
    | some later => (retryRun env db db runId).outcome = .ok runId ∧
        (retryRun env db db runId).db.book = later
    | none => (∃ error, (retryRun env db db runId).outcome = .error error) ∧
        (retryRun env db db runId).db = db := by
  cases stored : db.runs.get? runId with
  | none =>
      have unknown : db.book.act (.retry runId) = none := by
        rw [Book.act, Action.subject, Database.book, stored]
        rfl
      obtain ⟨message, served⟩ := retryRun_missing quiet stored
      rw [unknown, served]
      exact ⟨⟨_, rfl⟩, rfl⟩
  | some run =>
      obtain rfl : run.id = runId := Table.get?_id stored
      obtain ⟨past, current, lineage⟩ := consistent.of_run stored
      by_cases failed : run.status = .failed
      · let fresh := newAttempt db.attempts.next run.id (past.length + 2) env.attemptCreatedAt
        have number : fresh.attemptNumber = (db.attemptRows run.id).length + 1 := by
          rw [lineage.length]
          rfl
        have newer : ∀ attempt ∈ db.attemptRows run.id, attempt.id < fresh.id :=
          fun attempt member => db.attempts.below attempt ((db.mem_attemptRows run.id attempt).mp member).1
        have unused : db.attempts.get? fresh.id = none := db.attempts.get?_next _ (Nat.le_refl _)
        have reserved : fresh.id < db.attempts.next + 1 := Nat.lt_succ_self _
        have acted := book_retried consistent (clearRunSnapshot run.toSnapshot run.toSnapshot)
          stored lineage.current_get? lineage.pointer (lineage.status.symm.trans failed) rfl rfl
          number newer unused reserved (clearRunSnapshot_status run.toSnapshot)
        rw [acted, retryRun_failed quiet lineage stored failed]
        exact ⟨rfl, rfl⟩
      · obtain ⟨message, served⟩ := retryRun_refused quiet stored failed
        rw [retry_refused lineage stored failed, served]
        exact ⟨⟨_, rfl⟩, rfl⟩

theorem Claimable.lineage (consistent : Consistent db) {attempt : RunAttempt} {run : Run}
    (claimable : Claimable db attempt run) : ∃ past, Lineage db run past attempt := by
  obtain ⟨past, current, lineage⟩ := consistent.of_run claimable.run_self
  obtain rfl := lineage.current_unique claimable.attemptFound claimable.pointer
  exact ⟨past, lineage⟩

theorem start_unclaimable (consistent : Consistent db) {run : Run} {attemptId : Nat}
    (found : db.runs.get? run.id = some run) (pointer : run.currentAttemptId = some attemptId)
    (unclaimable : ∀ attempt run, Claimable db attempt run → attempt.id ≠ attemptId) :
    db.book.act (.start run.id) = none := by
  obtain ⟨past, current, lineage⟩ := consistent.of_run found
  obtain rfl : current.id = attemptId := Option.some.inj (lineage.pointer.symm.trans pointer)
  rw [Book.act, Action.subject, book_of_lineage found lineage, Option.map_eq_none_iff]
  cases status : current.status with
  | queued =>
      have owner := lineage.current_mem.2
      exact absurd rfl (unclaimable current run ⟨lineage.current_get?, status, owner ▸ found,
        lineage.pointer, lineage.status.trans status⟩)
  | running | succeeded | failed => simp [Action.apply, Life.start, RunAttempt.stage, status]

theorem claimed_acts (consistent : Consistent db) {attempt : RunAttempt} {run : Run}
    (claimable : Claimable db attempt run) (env : WorkerEnv)
    (accepted : env.accepts (env.values attempt run) = true) :
    ∃ started success report, db.book.act (.start run.id) = some started ∧ report.id = attempt.id ∧
      started.act (.finish run.id success report) =
        some (processAttempt env db attempt.id).db.book := by
  let values := env.values attempt run
  have owner : attempt.runId = run.id := claimable.run_id.symm
  have rows := claimable.replaced (attempt.start env.startedAt) (run.start env.startedAt) rfl rfl
  have runFound : (db.replace (attempt.start env.startedAt) (run.start env.startedAt)).runs.get?
      run.id = some (run.start env.startedAt) := owner ▸ rows.2
  have started : db.book.act (.start run.id) =
      some (db.replace (attempt.start env.startedAt) (run.start env.startedAt)).book :=
    book_advanced consistent run attempt (attempt.toSnapshot.start env.startedAt)
      (run.toSnapshot.start env.startedAt) claimable.run_self claimable.attemptFound
      claimable.pointer owner rfl (.start run.id) rfl (stage_started claimable.attemptQueued rfl)
  have between : Consistent (db.replace (attempt.start env.startedAt) (run.start env.startedAt)) :=
    advanced_consistent consistent _ _ claimable.run_self claimable.attemptFound claimable.pointer
      owner rfl
  obtain ⟨success, ended⟩ := terminal_cases
    (terminalStatus_terminal (env.execution attempt run).1)
  have finished := book_advanced between (run.start env.startedAt) (attempt.start env.startedAt)
    ((attempt.start env.startedAt).toSnapshot.finish values)
    ((run.start env.startedAt).toSnapshot.finish values) runFound rows.1 claimable.pointer owner rfl
    (.finish run.id success ((attempt.start env.startedAt).finish values).read) rfl
    (stage_finished (attempt.start env.startedAt)
      ((attempt.start env.startedAt).toSnapshot.finish values) rfl ended)
  have overwritten := replace_replace db (attempt.start env.startedAt)
    ((attempt.start env.startedAt).finish values) (run.start env.startedAt)
    ((run.start env.startedAt).finish values) rfl rfl
  refine ⟨_, success, _, started, rfl, finished.trans ?_⟩
  rw [processAttempt_claimable claimable, if_pos accepted]
  exact congrArg (fun db : Database => some db.book) overwritten

/-- The job of the attempt a run points to starts and finishes the run if the book allows it, and
every other job leaves the tables alone. -/
theorem processAttempt_acts (consistent : Consistent db) (env : WorkerEnv)
    (accepted : RunnerRegistry.Accepted env.registry env.accepts) (attemptId : Nat) :
    (∀ run ∈ db.runs.rows, run.currentAttemptId = some attemptId →
        match db.book.act (.start run.id) with
        | some started => ∃ success report, report.id = attemptId ∧
            started.act (.finish run.id success report) =
              some (processAttempt env db attemptId).db.book
        | none => (processAttempt env db attemptId).db = db) ∧
      ((∀ run ∈ db.runs.rows, run.currentAttemptId ≠ some attemptId) →
        (processAttempt env db attemptId).db = db) := by
  constructor
  · intro run member pointer
    have found := Table.get?_of_mem member
    rcases claimable_cases db attemptId with ⟨attempt, holder, rfl, claimable⟩ | unclaimable
    · obtain ⟨past, lineage⟩ := claimable.lineage consistent
      have same : run.id = holder.id := consistent.pointer_unique member
        (Table.get?_mem claimable.attemptFound) pointer claimable.run_id.symm
      obtain ⟨started, success, report, acted, id, finished⟩ :=
        claimed_acts consistent claimable env (accepted _ _ _)
      rw [same, acted]
      exact ⟨success, report, id, finished⟩
    · rw [start_unclaimable consistent found pointer unclaimable,
        processAttempt_unclaimed env unclaimable]
  · intro unpointed
    rcases claimable_cases db attemptId with ⟨attempt, run, rfl, claimable⟩ | unclaimable
    · exact absurd claimable.pointer (unpointed run (Table.get?_mem claimable.runFound))
    · rw [processAttempt_unclaimed env unclaimable]

end Calls

/-- In every reached state the calls of the service and of the worker are the actions of the book:
each goes through where the book allows it, and leaves the tables alone where it does not. -/
theorem calls_act {accepts : TerminalValues → Bool} {db : Database}
    (reached : ReflTransGen (Call accepts) .empty db) (service : ServiceEnv)
    (quiet : ∀ point, service.raises point = none) (worker : WorkerEnv)
    (accepted : RunnerRegistry.Accepted worker.registry worker.accepts) :
    (∀ payload, match (createRun service db payload).outcome with
      | .ok runId => db.book.act (.submit runId) = some (createRun service db payload).db.book
      | .error _ => (createRun service db payload).db = db) ∧
    (∀ runId, match db.book.act (.retry runId) with
      | some later => (retryRun service db db runId).outcome = .ok runId ∧
          (retryRun service db db runId).db.book = later
      | none => (∃ error, (retryRun service db db runId).outcome = .error error) ∧
          (retryRun service db db runId).db = db) ∧
    (∀ attemptId, (∀ run ∈ db.runs.rows, run.currentAttemptId = some attemptId →
        match db.book.act (.start run.id) with
        | some started => ∃ success report, report.id = attemptId ∧
            started.act (.finish run.id success report) =
              some (processAttempt worker db attemptId).db.book
        | none => (processAttempt worker db attemptId).db = db) ∧
      ((∀ run ∈ db.runs.rows, run.currentAttemptId ≠ some attemptId) →
        (processAttempt worker db attemptId).db = db)) := by
  have consistent := consistent_reached reached
  exact ⟨fun payload => createRun_acts consistent quiet payload,
    fun runId => retryRun_acts consistent quiet runId,
    fun attemptId => processAttempt_acts consistent worker accepted attemptId⟩

def sampleService : ServiceEnv := ⟨[("stub", sampleRunner)], fun _ => "", 0, 0, fun _ => none⟩

def sampleWorker : WorkerEnv := ⟨[("stub", sampleRunner)], fun _ => true, 1, 2⟩

theorem sampleFailed_called : ReflTransGen (Call (fun _ => true)) .empty sampleFailed := by
  have project : Call (fun _ => true) .empty sampleProject := .createProject "evals" none 0
  have created : Call (fun _ => true) sampleProject sampleCreated :=
    .createRun sampleService ⟨1, "stub", []⟩
  have failed : Call (fun _ => true) sampleCreated sampleFailed :=
    .processAttempt sampleWorker 1 rfl
  exact ((ReflTransGen.single project).tail created).tail failed

theorem calls_act_failed :
    sampleFailed.book.act (.retry 1) =
        some (retryRun sampleService sampleFailed sampleFailed 1).db.book ∧
      (processAttempt sampleWorker sampleFailed 1).db = sampleFailed := by
  obtain ⟨_, retries, jobs⟩ := calls_act sampleFailed_called sampleService (fun _ => rfl)
    sampleWorker (fun _ _ _ => rfl)
  exact ⟨congrArg some (retries 1).2.symm, (jobs 1).1 sampleRun (List.mem_singleton.mpr rfl) rfl⟩

end Evalynx
