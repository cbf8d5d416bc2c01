import Evalynx.Outcomes

namespace Evalynx

open Relational Relation

namespace StubRunner

variable {isPrintable : Char → Bool}

/-- `run.normalized_config.get("should_fail")`, as a condition. -/
def shouldFail (run : Run) : Bool := SoloWargame.truthy (run.normalizedConfig.get "should_fail")

theorem execute_requested {run other : Run} (same : run.requested = other.requested)
    (attempt otherAttempt : RunAttempt) :
    execute isPrintable run attempt = execute isPrintable other otherAttempt := by
  have project : run.projectId = other.projectId := congrArg NewRun.projectId same
  have config : run.normalizedConfig = other.normalizedConfig :=
    congrArg NewRun.normalizedConfig same
  rw [execute, execute, project, config]

theorem execute_status (run : Run) (attempt : RunAttempt) :
    terminalStatus (execute isPrintable run attempt).result =
      if shouldFail run then .failed else .succeeded := by
  rw [execute]
  change terminalStatus (Outcome.result (if shouldFail run then _ else _)) = _
  cases shouldFail run <;> rfl

theorem executeAttempt_stub (soloWargame : SoloWargameRunner) (fs : Posix.FileSystem) {run : Run}
    (stub : run.runnerType = runnerType) (attempt : RunAttempt) :
    (executeAttempt (buildRunnerRegistry soloWargame fs) run attempt).1 =
      (execute soloWargame.isPrintable run attempt).result := by
  rw [executeAttempt, stub]
  rfl

end StubRunner

open StubRunner

def RunAttempt.IsStubbed (isPrintable : Char → Bool) (run : Run) (attempt : RunAttempt) : Prop :=
  ∃ finishedAt, attempt.toSnapshot = attempt.toSnapshot.finish
    (terminalValues (execute isPrintable run attempt).result finishedAt)

theorem RunAttempt.IsStubbed.status {isPrintable : Char → Bool} {run : Run} {attempt : RunAttempt}
    (stubbed : attempt.IsStubbed isPrintable run) :
    attempt.status = if shouldFail run then .failed else .succeeded := by
  obtain ⟨finishedAt, same⟩ := stubbed
  rw [same]
  exact execute_status run attempt

namespace Journal

variable {accepts : TerminalValues → Bool} {journal : Journal}

theorem attempt_stubbed (reached : ReflTransGen (Step accepts) empty journal)
    (isPrintable : Char → Bool)
    (registered : ∀ execution ∈ journal.executions, ∃ soloWargame fs,
      soloWargame.isPrintable = isPrintable ∧
        execution.registry = buildRunnerRegistry soloWargame fs)
    {run : Run} (member : run ∈ journal.world.db.runs.rows) (stub : run.runnerType = runnerType)
    {attempt : RunAttempt} (row : attempt ∈ journal.world.db.attempts.rows)
    (owner : attempt.runId = run.id) (ended : attempt.status.terminal = true) :
    attempt.IsStubbed isPrintable run := by
  obtain ⟨execution, listed, keeps⟩ :
      ∃ execution ∈ journal.executions, execution.Keeps attempt := by
    have recorded := recorded_reached reached
    obtain ⟨execution, listed, same⟩ := recorded.ended attempt row ended
    obtain ⟨kept, present, keeps⟩ := recorded.kept execution listed
    obtain rfl := Table.eq_of_mem (Table.get?_of_mem row) present (keeps.id.trans same)
    exact ⟨execution, listed, keeps⟩
  have running := (recorded_reached reached).running execution listed
  obtain ⟨now, finished⟩ := keeps.finished running ended
  obtain ⟨given, other, otherMember, id, requested⟩ :=
    (recorded_reached reached).requested execution listed
  have sameRow : other = run := by
    refine Table.eq_of_mem (Table.get?_of_mem member) otherMember ?_
    have attemptOwner : attempt.runId = execution.attempt.runId := by rw [finished]; rfl
    exact id.trans (given.trans (attemptOwner.symm.trans owner))
  subst sameRow
  obtain ⟨soloWargame, fs, rfl, registry⟩ := registered execution listed
  have executed : execution.result = (execute soloWargame.isPrintable other attempt).result := by
    have runner : execution.run.runnerType = runnerType :=
      (congrArg NewRun.runnerType requested).symm.trans stub
    rw [Execution.result, registry, executeAttempt_stub soloWargame fs runner,
      execute_requested requested attempt execution.attempt]
  refine ⟨now, ?_⟩
  rw [← executed]
  conv_lhs => rw [finished]
  rw [finished]
  rfl

/-- Every finished attempt of a stub run stores the outcome its config leads to, so a finished run
has failed exactly when `should_fail` is set, and without it there is no second attempt. -/
theorem stub_reproduces (reached : ReflTransGen (Step accepts) empty journal)
    (isPrintable : Char → Bool)
    (registered : ∀ execution ∈ journal.executions, ∃ soloWargame fs,
      soloWargame.isPrintable = isPrintable ∧
        execution.registry = buildRunnerRegistry soloWargame fs)
    (run : Run) (member : run ∈ journal.world.db.runs.rows) (stub : run.runnerType = runnerType) :
    (∀ attempt ∈ journal.world.db.attemptRows run.id, attempt.status.terminal = true →
        attempt.IsStubbed isPrintable run) ∧
      (run.status.terminal = true → (run.status = .failed ↔ shouldFail run = true)) ∧
      (shouldFail run = false → (journal.world.db.attemptRows run.id).length = 1) := by
  have each : ∀ attempt ∈ journal.world.db.attemptRows run.id, attempt.status.terminal = true →
      attempt.IsStubbed isPrintable run := by
    intro attempt among ended
    obtain ⟨row, owner⟩ := (journal.world.db.mem_attemptRows run.id attempt).mp among
    exact attempt_stubbed reached isPrintable registered member stub row owner ended
  obtain ⟨past, current, lineage⟩ :=
    (World.valid_reached (world_reached reached)).consistent.lineage run member
  refine ⟨each, ?_, ?_⟩
  · intro ended
    have among : current ∈ journal.world.db.attemptRows run.id := by
      rw [lineage.rows]
      exact List.mem_append_right past List.mem_cons_self
    rw [lineage.status] at ended ⊢
    rw [(each current among ended).status]
    cases shouldFail run <;> simp
  · intro fine
    rw [lineage.length]
    cases past with
    | nil => rfl
    | cons attempt others =>
        have among : attempt ∈ journal.world.db.attemptRows run.id := by
          rw [lineage.rows]
          exact List.mem_append_left _ List.mem_cons_self
        have failed := lineage.superseded attempt List.mem_cons_self
        have status := (each attempt among (by rw [failed]; rfl)).status
        rw [fine, failed] at status
        cases status

def failingNew : NewRun :=
  ⟨1, "stub", [("should_fail", .bool true)], [("should_fail", .bool true)], ""⟩

theorem stub_reproduces_retried :
    ∃ journal, ReflTransGen (Step (fun _ => true)) empty journal ∧
      ∃ run ∈ journal.world.db.runs.rows, run.status = .failed ∧ shouldFail run = true ∧
        (journal.world.db.attemptRows run.id).length = 2 ∧
        ∀ attempt ∈ journal.world.db.attemptRows run.id,
          attempt.IsStubbed (fun _ => false) run := by
  obtain ⟨journal, reached, registered, run, member, stub, failed, two, ended⟩ : ∃ journal,
      ReflTransGen (Step (fun _ => true)) empty journal ∧
        (∀ execution ∈ journal.executions, ∃ soloWargame fs,
          soloWargame.isPrintable = (fun _ => false) ∧
            execution.registry = buildRunnerRegistry soloWargame fs) ∧
        ∃ run ∈ journal.world.db.runs.rows, run.runnerType = runnerType ∧ run.status = .failed ∧
          (journal.world.db.attemptRows run.id).length = 2 ∧
          ∀ attempt ∈ journal.world.db.attemptRows run.id, attempt.status.terminal = true := by
    refine Transition.reach _ (.other _ (.createProject "evals" none 0) nofun) ?_
    refine Transition.reach _
      (.other _ (.createRun ⟨1, "evals", none, 0⟩ failingNew 0 0 rfl) nofun) ?_
    refine Transition.reach _ (.other _ (.deliver 0 1 rfl) (quiet_update _ 0 nofun)) ?_
    refine Transition.reach _ (.other _ (.claim 0 1 (newAttempt 1 1 1 0) 1 _ rfl rfl rfl)
      (quiet_update _ 0 nofun)) ?_
    refine Transition.reach _ (.execute 0 1 1 _ ((newAttempt 1 1 1 0).start 1)
      (buildRunnerRegistry (wargameRunner .nan) (.plain (fun _ => none) [])) rfl rfl rfl) ?_
    refine Transition.reach _ (.other _ (.persist 0 1 1 _ 2 _ rfl rfl)
      (quiet_update _ 0 nofun)) ?_
    refine Transition.reach _ (.other _ (.retryRead 0 1 _ rfl rfl) fun _ _ _ _ same => same) ?_
    refine Transition.reach _ (.other _ (.retryWrite 0 _ 3 _ 2 rfl rfl) fun _ _ _ _ same => same) ?_
    refine Transition.reach _ (.other _ (.deliver 0 2 rfl) (quiet_update _ 0 nofun)) ?_
    refine Transition.reach _ (.other _ (.claim 0 2 (newAttempt 2 1 2 3) 4 _ rfl rfl rfl)
      (quiet_update _ 0 nofun)) ?_
    refine Transition.reach _ (.execute 0 1 2 _ ((newAttempt 2 1 2 3).start 4)
      (buildRunnerRegistry (wargameRunner .nan) (.plain (fun _ => none) [])) rfl rfl rfl) ?_
    refine Transition.reach _ (.other _ (.persist 0 1 2 _ 5 _ rfl rfl)
      (quiet_update _ 0 nofun)) ?_
    refine Transition.reached ⟨?_, _, List.mem_singleton.mpr rfl, rfl, rfl, rfl, ?_⟩
    · exact List.forall_mem_cons.mpr ⟨⟨_, _, rfl, rfl⟩,
        List.forall_mem_cons.mpr ⟨⟨_, _, rfl, rfl⟩, List.forall_mem_nil _⟩⟩
    · exact List.forall_mem_cons.mpr ⟨rfl, List.forall_mem_cons.mpr ⟨rfl, List.forall_mem_nil _⟩⟩
  obtain ⟨stubbed, outcome, -⟩ := stub_reproduces reached _ registered run member stub
  exact ⟨journal, reached, run, member, failed, (outcome (by rw [failed]; rfl)).mp failed, two,
    fun attempt among => stubbed attempt among (ended attempt among)⟩

end Journal

end Evalynx
