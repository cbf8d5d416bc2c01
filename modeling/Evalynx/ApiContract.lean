import Evalynx.Api
import Evalynx.Growth

/-! What the routes promise a client, while no statement and no queue fails. -/

namespace Evalynx

open Relational Relation

def ApiRequest.reads : ApiRequest → Bool
  | .createProject _ | .createRun _ | .retryRun _ => false
  | .healthCheck | .listProjects | .listRuns | .getRun _ | .listProjectRuns _ => true

def ApiRequest.expected (env : ApiEnv) (db : Database) : ApiRequest → Nat
  | .healthCheck | .listProjects | .listRuns => 200
  | .createProject _ => 201
  | .createRun payload =>
      match db.projects.get? payload.projectId, env.registry.lookup payload.runnerType with
      | none, _ => 404
      | some _, none => 422
      | some _, some runner =>
          match runner.normalizeConfig payload.config with
          | .ok _ => 201
          | .error (.validation _) => 422
          | .error (.crashed _) => 500
  | .retryRun runId =>
      match db.runs.get? runId with
      | none => 404
      | some run => if run.status = .failed then 200 else 409
  | .getRun runId => if (db.runs.get? runId).isSome then 200 else 404
  | .listProjectRuns projectId => if (db.projects.get? projectId).isSome then 200 else 404

def ApiRequest.due (env : ApiEnv) (db : Database) (request : ApiRequest) : Nat :=
  if request.refused env db then 500 else request.expected env db

section Routes

variable {accepts : TerminalValues → Bool} {db : Database} {env : ApiEnv}

theorem Moments.quiet (history : ReflTransGen (Txn accepts) .empty db) :
    Moments accepts db (fun _ => db) (fun _ => db) (orderedByIdDesc db.runs.rows) :=
  ⟨history, fun _ _ => .refl, fun _ _ _ _ => .refl,
    fun run member => (mem_orderedByIdDesc _ run).mp member⟩

theorem runResponse_found (history : ReflTransGen (Txn accepts) .empty db) (statusCode : Nat)
    {run : Run} (found : db.runs.get? run.id = some run) :
    ∃ loaded, loadRun db run.id = some loaded ∧ loaded.run = run ∧
      runResponse statusCode (loadRun db run.id) = ⟨statusCode, .run loaded.read⟩ := by
  have seen := loadRun_found found
  refine ⟨_, seen, rfl, ?_⟩
  rw [runResponse, seen, Option.map_some, loadRun_validates history seen]

theorem select_quiet (quiet : ∀ point, env.raises point = none) (response : Response) :
    env.select db response = ⟨db, [], response⟩ := by
  rw [ApiEnv.select, quiet]

theorem ApiRequest.serve_history (history : ReflTransGen (Txn accepts) .empty db) (env : ApiEnv)
    (request : ApiRequest) : ReflTransGen (Txn accepts) .empty (request.serve env db).db := by
  rcases request.serve_call accepts env db with same | call
  · rw [same]
    exact history
  · exact history.trans call.history

theorem ApiRequest.history (history : ReflTransGen (Txn accepts) .empty db) (env : ApiEnv)
    (request : ApiRequest) : ReflTransGen (Txn accepts) .empty (request.handle env db).db := by
  rcases request.call accepts env db with same | call
  · rw [same]
    exact history
  · exact history.trans call.history

/-- A POST that goes through: the run points to a new attempt, which is queued in both senses, and
the response is what the tables hold. -/
structure Answer.Accepted (answer : Answer) (statusCode : Nat) (loaded : LoadedRun)
    (attemptId : Nat) : Prop where
  seen : loadRun answer.db loaded.run.id = some loaded
  response : answer.response = ⟨statusCode, .run loaded.read⟩
  enqueued : answer.enqueued = [attemptId]
  pointer : loaded.run.currentAttemptId = some attemptId
  queued : loaded.run.status = .queued

theorem createRun_failed (quiet : ∀ point, env.raises point = none) {payload : RunCreate}
    {error : ServiceError} (refused : prepareRun env.toServiceEnv db payload = .error error) :
    (ApiRequest.createRun payload).serve env db = ⟨db, [], createRunFailed error⟩ := by
  rw [ApiRequest.serve, createRun_quiet quiet, refused]
  rfl

theorem createRunFailed_expected {payload : RunCreate} {error : ServiceError}
    (refused : prepareRun env.toServiceEnv db payload = .error error) :
    (createRunFailed error).statusCode = (ApiRequest.createRun payload).expected env db := by
  unfold prepareRun at refused
  cases found : db.projects.get? payload.projectId with
  | none =>
      rw [found] at refused
      obtain rfl := Except.error.inj refused
      simp [ApiRequest.expected, found, createRunFailed]
  | some project =>
      cases registered : env.registry.lookup payload.runnerType with
      | none =>
          simp only [found, registered] at refused
          obtain rfl := Except.error.inj refused
          simp [ApiRequest.expected, found, registered, createRunFailed]
      | some runner =>
          cases taken : runner.normalizeConfig payload.config with
          | ok normalized =>
              simp only [found, registered, taken] at refused
              cases refused
          | error raised =>
              simp only [found, registered, taken] at refused
              cases raised with
              | validation message =>
                  obtain rfl := Except.error.inj refused
                  simp [ApiRequest.expected, found, registered, taken, createRunFailed]
              | crashed message =>
                  obtain rfl := Except.error.inj refused
                  simp [ApiRequest.expected, found, registered, taken, createRunFailed, uncaught]

variable (env) in
theorem createRun_accepted (history : ReflTransGen (Txn accepts) .empty db)
    (quiet : ∀ point, env.raises point = none) {payload : RunCreate} {new : NewRun}
    (prepared : prepareRun env.toServiceEnv db payload = .ok new) :
    ∃ loaded, ((ApiRequest.createRun payload).serve env db).Accepted 201 loaded
      db.attempts.next := by
  have later := (ApiRequest.createRun payload).serve_history history env
  have rows := (insertRun_rows db new env.runCreatedAt env.attemptCreatedAt).1
  have served := createRun_quiet quiet db payload
  rw [prepared] at served
  have answer : (ApiRequest.createRun payload).serve env db =
      ⟨(insertRun db new env.runCreatedAt env.attemptCreatedAt).1, [db.attempts.next],
        runResponse 201 (loadRun (insertRun db new env.runCreatedAt env.attemptCreatedAt).1
          db.runs.next)⟩ := by
    rw [ApiRequest.serve, served]
    rfl
  rw [answer] at later ⊢
  have member : { new.row db.runs.next env.runCreatedAt with
      currentAttemptId := some db.attempts.next } ∈
        (insertRun db new env.runCreatedAt env.attemptCreatedAt).1.runs.rows := by
    rw [rows]
    exact List.mem_append_right _ (List.mem_singleton.mpr rfl)
  obtain ⟨loaded, seen, row, response⟩ :=
    runResponse_found later 201 (Table.get?_of_mem member)
  exact ⟨loaded, row ▸ seen, response, rfl, row ▸ rfl, row ▸ rfl⟩

variable (env) in
theorem retryRun_accepted (history : ReflTransGen (Txn accepts) .empty db)
    (quiet : ∀ point, env.raises point = none) {run : Run}
    (found : db.runs.get? run.id = some run) (failed : run.status = .failed) :
    ∃ loaded, ((ApiRequest.retryRun run.id).serve env db).Accepted 200 loaded
      db.attempts.next := by
  have later := (ApiRequest.retryRun run.id).serve_history history env
  obtain ⟨past, current, lineage⟩ := (history_consistent history).of_run found
  have served := retryRun_failed quiet lineage found failed
  rw [ApiRequest.serve, served] at later ⊢
  have present := Table.get?_put_self { run with
    toSnapshot := clearRunSnapshot run.toSnapshot run.toSnapshot
    currentAttemptId := some db.attempts.next } found
  obtain ⟨loaded, seen, row, response⟩ := runResponse_found later 200 present
  exact ⟨loaded, row ▸ seen, response, rfl, row ▸ rfl, row ▸ clearRunSnapshot_status run.toSnapshot⟩

variable (env) in
theorem retryRun_rejected (quiet : ∀ point, env.raises point = none) {run : Run}
    (found : db.runs.get? run.id = some run) (alive : run.status ≠ .failed) :
    ∃ message, (ApiRequest.retryRun run.id).serve env db = ⟨db, [], ⟨409, .detail message⟩⟩ := by
  obtain ⟨message, served⟩ := retryRun_refused quiet found alive
  refine ⟨message, ?_⟩
  rw [ApiRequest.serve, served]
  rfl

theorem getRun_answer (history : ReflTransGen (Txn accepts) .empty db)
    (quiet : ∀ point, env.raises point = none) {runId : Nat} {loaded : LoadedRun}
    (seen : loadRun db runId = some loaded) :
    (ApiRequest.getRun runId).serve env db = ⟨db, [], ⟨200, .run loaded.read⟩⟩ := by
  rw [ApiRequest.serve, select_quiet quiet, getRun_quiet history, seen]
  rfl

theorem listRuns_answer (history : ReflTransGen (Txn accepts) .empty db)
    (quiet : ∀ point, env.raises point = none) :
    ApiRequest.listRuns.serve env db = ⟨db, [], ⟨200, .runs ((orderedByIdDesc db.runs.rows).map
      fun run => (loadAlone env.order db db run).read.toSummaryRead)⟩⟩ := by
  rw [ApiRequest.serve, select_quiet quiet, listRuns, selectRuns,
    (Moments.quiet history).summaries env.order]
  rfl

theorem listProjectRuns_answer (history : ReflTransGen (Txn accepts) .empty db)
    (quiet : ∀ point, env.raises point = none) {projectId : Nat} {project : Project}
    (found : db.projects.get? projectId = some project) :
    (ApiRequest.listProjectRuns projectId).serve env db = ⟨db, [], ⟨200, .runs
      (((orderedByIdDesc db.runs.rows).filter fun run => run.projectId == projectId).map
        fun run => (loadAlone env.order db db run).read.toSummaryRead)⟩⟩ := by
  rw [ApiRequest.serve, select_quiet quiet, listProjectRuns, found]
  simp only []
  rw [selectRunsByProject, orderedByIdDesc_filter db.runs.nodup,
    ((Moments.quiet history).filter _).summaries env.order]
  rfl

theorem listProjects_answer (history : ReflTransGen (Txn accepts) .empty db)
    (quiet : ∀ point, env.raises point = none) :
    ApiRequest.listProjects.serve env db =
      ⟨db, [], ⟨200, .projects (db.projects.rows.map Project.read)⟩⟩ := by
  have ordered : (db.projects.rows).Pairwise (fun a b => a.id ≤ b.id) :=
    (List.pairwise_map.mp (history_ascending history).projects).imp Nat.le_of_lt
  rw [ApiRequest.serve, select_quiet quiet, listProjects, ordered.insertionSort_eq]

theorem getRun_shown (history : ReflTransGen (Txn accepts) .empty db)
    (quiet : ∀ point, env.raises point = none) {runId : Nat} {loaded : LoadedRun}
    (seen : loadRun db runId = some loaded) :
    (ApiRequest.getRun runId).handle env db = ⟨db, [], ⟨200, .run loaded.read⟩⟩ := by
  obtain ⟨run, found, -, -⟩ := loadRun_eq_some seen
  have taken : (ApiRequest.getRun runId).refused env db = false := by
    rw [ApiRequest.refused, ApiEnv.selects_found found]
    rfl
  exact (ApiRequest.handle_served taken).trans (getRun_answer history quiet seen)

theorem listProjectRuns_shown (history : ReflTransGen (Txn accepts) .empty db)
    (quiet : ∀ point, env.raises point = none) {projectId : Nat} {project : Project}
    (found : db.projects.get? projectId = some project) :
    (ApiRequest.listProjectRuns projectId).handle env db = ⟨db, [], ⟨200, .runs
      (((orderedByIdDesc db.runs.rows).filter fun run => run.projectId == projectId).map
        fun run => (loadAlone env.order db db run).read.toSummaryRead)⟩⟩ := by
  have taken : (ApiRequest.listProjectRuns projectId).refused env db = false := by
    rw [ApiRequest.refused, ApiEnv.selects_found found]
    rfl
  exact (ApiRequest.handle_served taken).trans (listProjectRuns_answer history quiet found)

theorem listRuns_shown (history : ReflTransGen (Txn accepts) .empty db)
    (quiet : ∀ point, env.raises point = none) :
    ApiRequest.listRuns.handle env db = ⟨db, [], ⟨200, .runs ((orderedByIdDesc db.runs.rows).map
      fun run => (loadAlone env.order db db run).read.toSummaryRead)⟩⟩ :=
  (ApiRequest.handle_served rfl).trans (listRuns_answer history quiet)

theorem listProjects_shown (history : ReflTransGen (Txn accepts) .empty db)
    (quiet : ∀ point, env.raises point = none) :
    ApiRequest.listProjects.handle env db =
      ⟨db, [], ⟨200, .projects (db.projects.rows.map Project.read)⟩⟩ :=
  (ApiRequest.handle_served rfl).trans (listProjects_answer history quiet)

inductive Answer.Settled (db : Database) (request : ApiRequest) (answer : Answer) (due : Nat) :
    Prop where
  | posted (loaded : LoadedRun) (attemptId : Nat) (posts : request.reads = false)
      (success : due < 400) (accepted : answer.Accepted due loaded attemptId)
  | project (read : ProjectRead) (posts : request.reads = false) (success : due < 400)
      (response : answer.response = ⟨due, .project read⟩)
  | kept (response : Response) (same : answer = ⟨db, [], response⟩)
      (status : response.statusCode = due)
      (shows : ∀ read, response.body = .run read → request.reads = true ∧
        ∃ loaded, loadRun db loaded.run.id = some loaded ∧ read = loaded.read)

theorem Answer.Settled.detail {request : ApiRequest} {answer : Answer} {due : Nat}
    (message : String) (same : answer = ⟨db, [], ⟨due, .detail message⟩⟩) :
    answer.Settled db request due :=
  .kept _ same rfl (fun _ other => Body.noConfusion other)

variable (env) in
theorem retryRun_settled (history : ReflTransGen (Txn accepts) .empty db)
    (quiet : ∀ point, env.raises point = none) (runId : Nat) :
    ((ApiRequest.retryRun runId).serve env db).Settled db (.retryRun runId)
      ((ApiRequest.retryRun runId).expected env db) := by
  cases found : db.runs.get? runId with
  | none =>
      obtain ⟨message, served⟩ := retryRun_missing quiet found
      have expected : (ApiRequest.retryRun runId).expected env db = 404 := by
        simp [ApiRequest.expected, found]
      rw [expected]
      refine .detail message ?_
      rw [ApiRequest.serve, served]
      rfl
  | some run =>
      obtain rfl : run.id = runId := Table.get?_id found
      by_cases failed : run.status = .failed
      · obtain ⟨loaded, accepted⟩ := retryRun_accepted env history quiet found failed
        have expected : (ApiRequest.retryRun run.id).expected env db = 200 := by
          simp [ApiRequest.expected, found, failed]
        rw [expected]
        exact .posted loaded _ rfl (by decide) accepted
      · obtain ⟨message, answer⟩ := retryRun_rejected env quiet found failed
        have expected : (ApiRequest.retryRun run.id).expected env db = 409 := by
          simp [ApiRequest.expected, found, failed]
        rw [expected]
        exact .detail message answer

variable (env) in
theorem createRun_settled (history : ReflTransGen (Txn accepts) .empty db)
    (quiet : ∀ point, env.raises point = none) (payload : RunCreate) :
    ((ApiRequest.createRun payload).serve env db).Settled db (.createRun payload)
      ((ApiRequest.createRun payload).expected env db) := by
  cases prepared : prepareRun env.toServiceEnv db payload with
  | error error =>
      refine .kept _ (createRun_failed quiet prepared) (createRunFailed_expected prepared) ?_
      intro read same
      cases error <;> cases same
  | ok new =>
      obtain ⟨loaded, accepted⟩ := createRun_accepted env history quiet prepared
      obtain ⟨project, runner, normalized, found, registered, taken, -⟩ :=
        (prepareRun_ok _ _ _ _).mp prepared
      have expected : (ApiRequest.createRun payload).expected env db = 201 := by
        simp [ApiRequest.expected, found, registered, taken]
      rw [expected]
      exact .posted loaded _ rfl (by decide) accepted

variable (env) in
theorem ApiRequest.serve_settled (history : ReflTransGen (Txn accepts) .empty db)
    (quiet : ∀ point, env.raises point = none) (request : ApiRequest) :
    (request.serve env db).Settled db request (request.expected env db) := by
  cases request with
  | healthCheck => exact .kept _ rfl rfl (fun _ same => Body.noConfusion same)
  | createProject payload =>
      let name := (env.columns.name payload.name).getD payload.name
      let project : Project := ⟨db.projects.next, name, payload.description, env.projectCreatedAt⟩
      refine .project project.read rfl (show 201 < 400 by decide) ?_
      rw [ApiRequest.serve, quiet, quiet]
      rfl
  | listProjects =>
      exact .kept _ (listProjects_answer history quiet) rfl (fun _ same => Body.noConfusion same)
  | listRuns =>
      exact .kept _ (listRuns_answer history quiet) rfl (fun _ same => Body.noConfusion same)
  | createRun payload => exact createRun_settled env history quiet payload
  | retryRun runId => exact retryRun_settled env history quiet runId
  | getRun runId =>
      cases found : db.runs.get? runId with
      | none =>
          have absent : loadRun db runId = none := by rw [loadRun, found, Option.map_none]
          refine .kept _ (select_quiet quiet _) ?_ ?_
          · simp [getRun_quiet history, absent, ApiRequest.expected, found, readResponse]
          · intro read same
            rw [getRun_quiet history, absent] at same
            cases same
      | some run =>
          obtain rfl : run.id = runId := Table.get?_id found
          refine .kept _ (getRun_answer history quiet (loadRun_found found)) ?_ ?_
          · simp [ApiRequest.expected, found]
          · intro read same
            obtain rfl := Body.run.inj same
            exact ⟨rfl, _, loadRun_found found, rfl⟩
  | listProjectRuns projectId =>
      cases found : db.projects.get? projectId with
      | none =>
          refine .kept _ (select_quiet quiet _) ?_ ?_
          · simp [Evalynx.listProjectRuns, ApiRequest.expected, found, readResponse]
          · intro read same
            rw [Evalynx.listProjectRuns, found] at same
            cases same
      | some project =>
          refine .kept _ (listProjectRuns_answer history quiet found) ?_
            (fun _ same => Body.noConfusion same)
          simp [ApiRequest.expected, found]

variable (env) in
theorem ApiRequest.handle_settled (history : ReflTransGen (Txn accepts) .empty db)
    (quiet : ∀ point, env.raises point = none) (request : ApiRequest) :
    (request.handle env db).Settled db request (request.due env db) := by
  cases refused : request.refused env db with
  | true =>
      rw [handle_refused refused, due, if_pos refused]
      exact .kept _ rfl rfl (fun _ same => Body.noConfusion same)
  | false =>
      rw [handle_served refused, due, refused]
      exact request.serve_settled env history quiet

end Routes

/-- In every reached state a request is answered with the status code it is due, and what is refused
or only reads changes nothing and queues nothing. -/
theorem api_contract {accepts : TerminalValues → Bool} {db : Database}
    (reached : ReflTransGen (Call accepts) .empty db) (env : ApiEnv)
    (quiet : ∀ point, env.raises point = none) (request : ApiRequest) :
    (request.handle env db).response.statusCode = request.due env db ∧
      (request.reads = true ∨ 400 ≤ (request.handle env db).response.statusCode →
        (request.handle env db).db = db ∧ (request.handle env db).enqueued = []) := by
  cases request.handle_settled env (calls_history reached) quiet with
  | posted loaded attemptId posts success accepted =>
      rw [accepted.response]
      refine ⟨rfl, ?_⟩
      rintro (reads | failed)
      · rw [posts] at reads
        cases reads
      · exact absurd success (Nat.not_lt.mpr failed)
  | project read posts success response =>
      rw [response]
      refine ⟨rfl, ?_⟩
      rintro (reads | failed)
      · rw [posts] at reads
        cases reads
      · exact absurd success (Nat.not_lt.mpr failed)
  | kept response answer status =>
      rw [answer]
      exact ⟨status, fun _ => ⟨rfl, rfl⟩⟩

def sampleApi : ApiEnv where
  toServiceEnv := sampleService
  driver := .plain
  projectCreatedAt := 0
  appName := "Evalynx API"
  environment := "test"
  order := .currentFirst

theorem api_contract_failed :
    ((ApiRequest.retryRun 1).handle sampleApi sampleFailed).response.statusCode = 200 ∧
      ((ApiRequest.retryRun 2).handle sampleApi sampleFailed).response.statusCode = 404 ∧
      ((ApiRequest.retryRun 2).handle sampleApi sampleFailed).db = sampleFailed := by
  obtain ⟨retried, -⟩ := api_contract sampleFailed_called sampleApi (fun _ => rfl) (.retryRun 1)
  obtain ⟨missing, unchanged⟩ :=
    api_contract sampleFailed_called sampleApi (fun _ => rfl) (.retryRun 2)
  refine ⟨retried, missing, (unchanged (Or.inr ?_)).1⟩
  rw [missing]
  decide

theorem loadAlone_quiet (order : SelectOrder) {db : Database} {run : Run}
    (found : db.runs.get? run.id = some run) :
    loadRun db run.id = some (loadAlone order db db run) := by
  rw [← selectRun_quiet order, selectRun_found order db db found]

theorem answered_loads {accepts : TerminalValues → Bool} {db : Database} {env : ApiEnv}
    (history : ReflTransGen (Txn accepts) .empty db) (quiet : ∀ point, env.raises point = none)
    {request : ApiRequest} {statusCode : Nat} {read : RunRead}
    (answered : (request.handle env db).response = ⟨statusCode, .run read⟩) :
    ∃ loaded, loadRun (request.handle env db).db loaded.run.id = some loaded ∧
      read = loaded.read ∧
      (request.reads = false → ∃ attemptId, (request.handle env db).enqueued = [attemptId] ∧
        loaded.run.currentAttemptId = some attemptId ∧ loaded.run.status = .queued) := by
  cases request.handle_settled env history quiet with
  | posted loaded attemptId posts success accepted =>
      obtain ⟨-, same⟩ := Response.mk.inj (answered.symm.trans accepted.response)
      exact ⟨loaded, accepted.seen, Body.run.inj same,
        fun _ => ⟨attemptId, accepted.enqueued, accepted.pointer, accepted.queued⟩⟩
  | project read posts success response =>
      rw [response] at answered
      cases answered
  | kept response answer status shows =>
      rw [answer] at answered ⊢
      obtain ⟨reads, loaded, seen, same⟩ := shows read (congrArg Response.body answered)
      refine ⟨loaded, seen, same, ?_⟩
      intro posted
      rw [reads] at posted
      cases posted

/-- Whatever run a response shows, the next `GET` of it shows the same, both listings hold its
summary, and behind a POST its last attempt is QUEUED and in the queue, and nothing else is. -/
theorem responses_are_read {accepts : TerminalValues → Bool} {db : Database}
    (reached : ReflTransGen (Call accepts) .empty db) (env : ApiEnv)
    (quiet : ∀ point, env.raises point = none) (request : ApiRequest) (statusCode : Nat)
    (read : RunRead)
    (answered : (request.handle env db).response = ⟨statusCode, .run read⟩) :
    ((ApiRequest.getRun read.id).handle env (request.handle env db).db).response =
        ⟨200, .run read⟩ ∧
      (∃ reads, (ApiRequest.listRuns.handle env (request.handle env db).db).response =
        ⟨200, .runs reads⟩ ∧ read.toSummaryRead ∈ reads) ∧
      (∃ reads, ((ApiRequest.listProjectRuns read.projectId).handle env
        (request.handle env db).db).response = ⟨200, .runs reads⟩ ∧ read.toSummaryRead ∈ reads) ∧
      (request.reads = false → ∃ attempt, read.attempts.getLast? = some attempt ∧
        read.status = .queued ∧ attempt.status = .queued ∧
        (request.handle env db).enqueued = [attempt.id]) := by
  have history := calls_history reached
  obtain ⟨loaded, seen, rfl, posted⟩ := answered_loads history quiet answered
  have later := request.history history env
  generalize request.handle env db = answer at seen posted later ⊢
  obtain ⟨run, found, -, rfl⟩ := loadRun_eq_some seen
  have alone : loadAlone env.order answer.db answer.db run =
      ⟨run, selectCurrentAttempt answer.db run, selectAttempts answer.db run.id⟩ :=
    Option.some.inj ((loadAlone_quiet env.order found).symm.trans seen)
  have listed := (mem_orderedByIdDesc answer.db.runs.rows run).mpr (Table.get?_mem found)
  have summary := congrArg (fun loaded : LoadedRun => loaded.read.toSummaryRead) alone
  refine ⟨?_, ⟨_, congrArg Answer.response (listRuns_shown later quiet),
    List.mem_map.mpr ⟨run, listed, summary⟩⟩, ?_, ?_⟩
  · exact congrArg Answer.response (getRun_shown later quiet seen)
  · obtain ⟨project, row, key⟩ := history_housed later run (Table.get?_mem found)
    have projectFound : answer.db.projects.get? run.projectId = some project :=
      key ▸ Table.get?_of_mem row
    refine ⟨_, congrArg Answer.response (listProjectRuns_shown later quiet projectFound), ?_⟩
    exact List.mem_map.mpr ⟨run, List.mem_filter.mpr ⟨listed, beq_self_eq_true _⟩, summary⟩
  · intro writes
    obtain ⟨attemptId, enqueued, pointer, queued⟩ := posted writes
    obtain ⟨past, current, lineage⟩ := (history_consistent later).of_run found
    have last : attemptId = current.id := Option.some.inj (pointer.symm.trans lineage.pointer)
    refine ⟨current.read, ?_, queued, lineage.status.symm.trans queued, by rw [enqueued, last]; rfl⟩
    change ((selectAttempts answer.db run.id).map RunAttempt.read).getLast? = some current.read
    rw [lineage.selectAttempts_eq, List.map_append, List.map_singleton, List.getLast?_concat]

theorem responses_are_read_retried :
    ∃ read, ((ApiRequest.retryRun 1).handle sampleApi sampleFailed).response = ⟨200, .run read⟩ ∧
      ((ApiRequest.getRun read.id).handle sampleApi
        ((ApiRequest.retryRun 1).handle sampleApi sampleFailed).db).response =
          ⟨200, .run read⟩ := by
  obtain ⟨read, answered⟩ : ∃ read,
      ((ApiRequest.retryRun 1).handle sampleApi sampleFailed).response = ⟨200, .run read⟩ :=
    ⟨_, rfl⟩
  exact ⟨read, answered, (responses_are_read sampleFailed_called sampleApi (fun _ => rfl)
    (.retryRun 1) 200 read answered).1⟩

theorem orderedByIdDesc_reverse {runs : List Run}
    (ascending : (runs.map Run.id).Pairwise (· < ·)) : orderedByIdDesc runs = runs.reverse := by
  have nodup : (runs.map Run.id).Nodup := ascending.imp Nat.ne_of_lt
  have descending : runs.reverse.Pairwise (fun a b => b.id ≤ a.id) :=
    List.pairwise_reverse.mpr ((List.pairwise_map.mp ascending).imp Nat.le_of_lt)
  refine ((List.perm_insertionSort _ runs).trans (List.reverse_perm runs).symm).eq_of_pairwise ?_
    (orderedByIdDesc_pairwise runs) descending
  intro a b inFirst inSecond below above
  exact List.inj_on_of_nodup_map nodup ((mem_orderedByIdDesc runs a).mp inFirst)
    (List.mem_reverse.mp inSecond) (Nat.le_antisymm above below)

theorem summary_ids (order : SelectOrder) {db : Database}
    (ascending : (db.runs.rows.map Run.id).Pairwise (· < ·)) :
    ((orderedByIdDesc db.runs.rows).map fun run =>
        (loadAlone order db db run).read.toSummaryRead).map RunSummaryRead.id =
      (db.runs.rows.map Run.id).reverse := by
  rw [List.map_map, orderedByIdDesc_reverse ascending, ← List.map_reverse]
  apply List.map_congr_left
  intro run _
  exact congrArg Run.id (loadAlone_run order db db run)

/-- Between two looks at a listing every call may come any number of times: `GET /runs` grows at
its head and `GET /projects` at its end, and neither loses or reorders what it showed. -/
theorem listings_grow {accepts : TerminalValues → Bool} {db later : Database}
    (reached : ReflTransGen (Call accepts) .empty db)
    (more : ReflTransGen (Call accepts) db later) (env : ApiEnv)
    (quiet : ∀ point, env.raises point = none) :
    (∃ before after, (ApiRequest.listRuns.handle env db).response = ⟨200, .runs before⟩ ∧
      (ApiRequest.listRuns.handle env later).response = ⟨200, .runs after⟩ ∧
      before.map RunSummaryRead.id <:+ after.map RunSummaryRead.id ∧
      (after.map RunSummaryRead.id).Pairwise (· > ·)) ∧
    (∃ before after, (ApiRequest.listProjects.handle env db).response = ⟨200, .projects before⟩ ∧
      (ApiRequest.listProjects.handle env later).response = ⟨200, .projects after⟩ ∧
      before <+: after ∧ (after.map ProjectRead.id).Pairwise (· < ·)) := by
  have history := calls_history reached
  have historyLater := history.trans (calls_history more)
  obtain ⟨newProjects, newRuns, grown⟩ :=
    history_grown (history_consistent history) (calls_history more)
  have ascending := history_ascending history
  have ascendingLater := history_ascending historyLater
  rw [listRuns_shown history quiet, listRuns_shown historyLater quiet,
    listProjects_shown history quiet, listProjects_shown historyLater quiet]
  refine ⟨⟨_, _, rfl, rfl, ?_, ?_⟩, ⟨_, _, rfl, rfl, ?_, ?_⟩⟩
  · rw [summary_ids env.order ascending.runs, summary_ids env.order ascendingLater.runs,
      ids_of_places grown.runs, List.map_append, List.reverse_append]
    exact List.suffix_append _ _
  · rw [summary_ids env.order ascendingLater.runs]
    exact List.pairwise_reverse.mpr ascendingLater.runs
  · rw [grown.projects, List.map_append]
    exact List.prefix_append _ _
  · rw [List.map_map]
    exact ascendingLater.projects

theorem listings_grow_created :
    ∃ before after, (ApiRequest.listRuns.handle sampleApi sampleFailed).response =
        ⟨200, .runs before⟩ ∧
      (ApiRequest.listRuns.handle sampleApi
        (createRun sampleService sampleFailed ⟨1, "stub", []⟩).db).response = ⟨200, .runs after⟩ ∧
      before.map RunSummaryRead.id <:+ after.map RunSummaryRead.id := by
  have more : Call (fun _ => true) sampleFailed
      (createRun sampleService sampleFailed ⟨1, "stub", []⟩).db := .createRun _ _
  obtain ⟨⟨before, after, shown, shownLater, grows, -⟩, -⟩ :=
    listings_grow sampleFailed_called (.single more) sampleApi (fun _ => rfl)
  exact ⟨before, after, shown, shownLater, grows⟩

/-- Every run listed is in the listing of one project of `GET /projects` and of no other. -/
theorem projects_partition_runs {accepts : TerminalValues → Bool} {db : Database}
    (reached : ReflTransGen (Call accepts) .empty db) (env : ApiEnv)
    (quiet : ∀ point, env.raises point = none) :
    ∃ projects reads, (ApiRequest.listProjects.handle env db).response = ⟨200, .projects projects⟩ ∧
      (ApiRequest.listRuns.handle env db).response = ⟨200, .runs reads⟩ ∧
      ∀ read ∈ reads, ∃! project, project ∈ projects ∧
        ∃ part, ((ApiRequest.listProjectRuns project.id).handle env db).response =
          ⟨200, .runs part⟩ ∧ read ∈ part := by
  have history := calls_history reached
  refine ⟨_, _, congrArg Answer.response (listProjects_shown history quiet),
    congrArg Answer.response (listRuns_shown history quiet), ?_⟩
  have place : ∀ run : Run,
      (loadAlone env.order db db run).read.toSummaryRead.projectId = run.projectId := fun run =>
    congrArg Run.projectId (loadAlone_run env.order db db run)
  intro read member
  obtain ⟨run, listed, rfl⟩ := List.mem_map.mp member
  have row := (mem_orderedByIdDesc db.runs.rows run).mp listed
  obtain ⟨project, projectRow, key⟩ := history_housed history run row
  have found : db.projects.get? project.id = some project := Table.get?_of_mem projectRow
  refine ⟨project.read, ⟨List.mem_map_of_mem projectRow, _,
    congrArg Answer.response (listProjectRuns_shown history quiet found), ?_⟩, ?_⟩
  · exact List.mem_map.mpr
      ⟨run, List.mem_filter.mpr ⟨listed, beq_iff_eq.mpr key.symm⟩, rfl⟩
  · rintro other ⟨otherMember, part, shown, inPart⟩
    obtain ⟨otherProject, otherRow, rfl⟩ := List.mem_map.mp otherMember
    have otherFound : db.projects.get? otherProject.id = some otherProject :=
      Table.get?_of_mem otherRow
    rw [show otherProject.read.id = otherProject.id from rfl,
      listProjectRuns_shown history quiet otherFound] at shown
    injection shown with _ body
    injection body with parts
    rw [← parts] at inPart
    obtain ⟨version, versionListed, same⟩ := List.mem_map.mp inPart
    have under := (List.mem_filter.mp versionListed).2
    have sameProject : otherProject.id = project.id :=
      calc
        otherProject.id = version.projectId := (beq_iff_eq.mp under).symm
        _ = run.projectId := by rw [← place version, same, place run]
        _ = project.id := key.symm
    rw [Table.eq_of_mem found otherRow sameProject]

theorem projects_partition_runs_failed :
    ∃ reads, (ApiRequest.listRuns.handle sampleApi sampleFailed).response = ⟨200, .runs reads⟩ ∧
      ∀ read ∈ reads, ∃ project : ProjectRead, ∃ part,
        ((ApiRequest.listProjectRuns project.id).handle sampleApi sampleFailed).response =
          ⟨200, .runs part⟩ ∧ read ∈ part := by
  obtain ⟨projects, reads, -, listed, placed⟩ :=
    projects_partition_runs sampleFailed_called sampleApi (fun _ => rfl)
  refine ⟨reads, listed, ?_⟩
  intro read member
  obtain ⟨project, ⟨-, part, shown, inPart⟩, -⟩ := placed read member
  exact ⟨project, part, shown, inPart⟩

end Evalynx
