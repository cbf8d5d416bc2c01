import Evalynx.Interleaving

/-! What holds under which order of the statements. -/

namespace Evalynx

open Relational Relation

namespace Sessions

/-- Whenever a retry that has read its run as failed SELECTs the attempts, the committed current
attempt of the run is failed. -/
def attemptsSettled : Schedule := fun sessions caller statement =>
  statement = .selectAttempts → ∀ run current attempts,
    sessions.requests caller = .reading run current attempts → run.status = .failed →
      CurrentFailed sessions.db run.id

/-- Every retry reads its run, its current attempt and its attempts from one snapshot. -/
def snapshotReads : Schedule := fun _ _ statement =>
  statement ≠ .selectRun ∧ statement ≠ .selectCurrent ∧ statement ≠ .selectAttempts

def wholeRetries : Schedule := fun sessions caller statement =>
  snapshotReads sessions caller statement ∧ statement ≠ .selectSnapshot

def unrestricted : Schedule := fun _ _ _ => True

def Settles (allowed : Schedule) : Prop :=
  ∀ sessions caller statement, allowed sessions caller statement →
    attemptsSettled sessions caller statement

theorem settles_attemptsSettled : Settles attemptsSettled := fun _ _ _ settled => settled

theorem settles_snapshotReads : Settles snapshotReads := by
  intro sessions caller statement reads isAttempts
  exact absurd isAttempts reads.2.2

theorem settles_wholeRetries : Settles wholeRetries := by
  intro sessions caller statement whole
  exact settles_snapshotReads sessions caller statement whole.1

variable {accepts : TerminalValues → Bool} {allowed : Schedule} {sessions sessions' : Sessions}

theorem valid_step (settles : Settles allowed) (valid : Valid sessions)
    (step : Step accepts allowed sessions sessions') : Valid sessions' := by
  have tracked := tracked_step valid.toTracked step
  cases step with
  | createProject name description createdAt =>
      have effect := effect_insertProject sessions.db name description createdAt
      exact ⟨tracked, effect.consistent valid.consistent, valid.allCalls effect,
        valid.allRequests effect, valid.runKeys, valid.numbers⟩
  | call call phase moved => exact valid_callStep valid call moved
  | enter call runId attemptId run attempt runner registry claimed =>
      exact valid_enter valid call runId attemptId claimed
  | callCommit call phase db committed => exact valid_callCommit valid call committed
  | request caller statement phase db permitted moved =>
      exact valid_requestStep valid caller (settles sessions caller statement permitted) moved
  | requestCommit caller statement db permitted committed =>
      exact valid_requestCommit valid caller committed

theorem valid_reached (settles : Settles allowed)
    (reached : ReflTransGen (Step accepts allowed) empty sessions) : Valid sessions :=
  Transition.invariant valid_empty (fun _ _ valid step => valid_step settles valid step) reached

/-! ### One run that fails, statement by statement -/

def failedSessions : Sessions where
  db := sampleFailed
  calls := fun call => if call = 0 then .done else .idle
  requests := fun caller => if caller = 0 then .done else .idle
  entered := [1]

theorem attempt_unlocked {id : Nat} (first : (sessions.calls 0).attemptLock ≠ some id)
    (rest : ∀ call, (sessions.calls (call + 1)).attemptLock ≠ some id) :
    ¬ sessions.locks.attempt id := by
  intro ⟨call, held⟩
  cases call with
  | zero => exact first held
  | succ call => exact rest call held

theorem run_unlocked {id : Nat} (firstCall : (sessions.calls 0).runLock ≠ some id)
    (calls : ∀ call, (sessions.calls (call + 1)).runLock ≠ some id)
    (first : (sessions.requests 0).runLock ≠ some id)
    (second : (sessions.requests 1).runLock ≠ some id)
    (third : (sessions.requests 2).runLock ≠ some id)
    (rest : ∀ caller, (sessions.requests (caller + 3)).runLock ≠ some id) :
    ¬ sessions.locks.run id := by
  intro held
  rcases held with ⟨call, held⟩ | ⟨caller, held⟩
  · cases call with
    | zero => exact firstCall held
    | succ call => exact calls call held
  · match caller with
    | 0 => exact first held
    | 1 => exact second held
    | 2 => exact third held
    | caller + 3 => exact rest caller held

theorem number_unlocked {runId attemptNumber : Nat}
    (first : (sessions.requests 0).numberLock ≠ some (runId, attemptNumber))
    (second : (sessions.requests 1).numberLock ≠ some (runId, attemptNumber))
    (third : (sessions.requests 2).numberLock ≠ some (runId, attemptNumber))
    (rest : ∀ caller, (sessions.requests (caller + 3)).numberLock ≠ some (runId, attemptNumber)) :
    ¬ sessions.locks.number runId attemptNumber := by
  intro ⟨caller, held⟩
  match caller with
  | 0 => exact first held
  | 1 => exact second held
  | 2 => exact third held
  | caller + 3 => exact rest caller held

theorem failedSessions_reached (others : ∀ sessions caller, allowed sessions caller .other) :
    ReflTransGen (Step (fun _ => true) allowed) empty failedSessions := by
  obtain ⟨state, run, rfl⟩ : ∃ state, ReflTransGen (Step (fun _ => true) allowed) empty state ∧
      state = failedSessions := by
    refine Transition.reach _ (.createProject "evals" none 0) ?_
    refine Transition.reach _ (.request 0 .other _ _ (others _ _)
      (.insertRun sampleNew 0 ⟨1, "evals", none, 0⟩ rfl)) ?_
    refine Transition.reach _ (.request 0 .other _ _ (others _ _) (.insertFirst _ 0)) ?_
    refine Transition.reach _ (.requestCommit 0 .other _ (others _ _) (.createRun _ _)) ?_
    refine Transition.reach _ (.call 0 _ (.select (newAttempt 1 1 1 0) rfl)) ?_
    refine Transition.reach _ (.call 0 _ (.claimAttempt 1 1 1 _
      (attempt_unlocked nofun nofun) rfl rfl)) ?_
    refine Transition.reach _ (.call 0 _ (.claimRun 1 1 1 _ _
      (run_unlocked nofun nofun nofun nofun nofun nofun) rfl rfl)) ?_
    refine Transition.reach _ (.callCommit 0 _ _ (.claim 1 1 _ _)) ?_
    refine Transition.reach _ (.enter 0 1 1 _ _ sampleRunner [("stub", sampleRunner)] rfl rfl rfl
      rfl) ?_
    refine Transition.reach _ (.call 0 _ (.leave 1 1 (.returned { status := .failed }))) ?_
    refine Transition.reach _ (.call 0 _ (.persistAttempt 1 1 true _ 2 _
      (attempt_unlocked nofun nofun) rfl rfl rfl)) ?_
    refine Transition.reach _ (.call 0 _ (.persistRun 1 1 true _ _ _
      (run_unlocked nofun nofun nofun nofun nofun nofun) rfl rfl)) ?_
    refine Transition.reach _ (.callCommit 0 _ _ (.persist 1 1 true _ _)) ?_
    refine Transition.reached ?_
    rw [failedSessions, Sessions.mk.injEq]
    refine ⟨rfl, ?_, ?_, rfl⟩
    · funext call
      cases call <;> rfl
    · funext caller
      cases caller <;> rfl
  exact run

theorem Valid.owes_unique (valid : Valid sessions) {call other runId attemptId otherAttempt : Nat}
    {entered otherEntered : Bool}
    (first : (sessions.calls call).owes = some (runId, attemptId, entered))
    (second : (sessions.calls other).owes = some (runId, otherAttempt, otherEntered)) :
    call = other := by
  have firstOwns := CallPhase.owns_of_owes first
  have secondOwns := CallPhase.owns_of_owes second
  obtain ⟨attempt, run, holds, _⟩ := (valid.calls call).owned runId attemptId firstOwns
  obtain ⟨otherRow, otherRun, otherHolds, _⟩ :=
    (valid.calls other).owned runId otherAttempt secondOwns
  have sameRun : run = otherRun :=
    Option.some.inj (holds.runFound.symm.trans otherHolds.runFound)
  have same : attemptId = otherAttempt := by
    apply Option.some.inj
    calc
      some attemptId = run.currentAttemptId := holds.pointer.symm
      _ = otherRun.currentAttemptId := congrArg Run.currentAttemptId sameRun
      _ = some otherAttempt := otherHolds.pointer
  exact valid.attempts call other attemptId ((CallPhase.ownedAttempt_iff _ _).mpr ⟨runId, firstOwns⟩)
    ((CallPhase.ownedAttempt_iff _ _).mpr ⟨runId, same ▸ secondOwns⟩)

/-- `runner.execute` is entered at most once for an attempt, and no two executions of one run are
in progress together. -/
theorem execution_at_most_once (reached : ReflTransGen (Step accepts wholeRetries) empty sessions) :
    sessions.entered.Nodup ∧
      ∀ call other runId attemptId otherAttempt,
        (sessions.calls call).owes = some (runId, attemptId, true) →
        (sessions.calls other).owes = some (runId, otherAttempt, true) → call = other := by
  have valid := valid_reached settles_wholeRetries reached
  refine ⟨valid.entered, ?_⟩
  intro call other runId attemptId otherAttempt first second
  exact valid.owes_unique first second

/-- The failed attempt is delivered again, the run is retried, and a third call executes the new
attempt. -/
theorem execution_at_most_once_retried :
    ∃ sessions, ReflTransGen (Step (fun _ => true) wholeRetries) empty sessions ∧
      sessions.entered = [2, 1] ∧ sessions.entered.Nodup ∧
      ∀ call attemptId, (sessions.calls call).owes = some (1, attemptId, true) → call = 2 := by
  obtain ⟨sessions, run, entered, executing⟩ : ∃ sessions,
      ReflTransGen (Step (fun _ => true) wholeRetries) failedSessions sessions ∧
        sessions.entered = [2, 1] ∧ (sessions.calls 2).owes = some (1, 2, true) := by
    refine Transition.reach _ (.call 1 _ (.select (((newAttempt 1 1 1 0).start 1).finish
      (terminalValues { status := .failed } 2)) rfl)) ?_
    refine Transition.reach _ (.call 1 _ (.claimAttemptMissed 1 1 ?_)) ?_
    · intro attempt found
      obtain rfl := Option.some.inj found
      rfl
    refine Transition.reach _ (.requestCommit 1 .wholeRetry _ ⟨⟨nofun, nofun, nofun⟩, nofun⟩
      (.wholeRetry 1 _ 3 sampleRetried 2 (run_unlocked nofun ?_ nofun nofun nofun nofun) rfl
        (number_unlocked nofun nofun nofun nofun) rfl)) ?_
    · intro call
      cases call <;> nofun
    refine Transition.reach _ (.call 2 _ (.select (newAttempt 2 1 2 3) rfl)) ?_
    refine Transition.reach _ (.call 2 _ (.claimAttempt 1 2 4 _ (attempt_unlocked nofun ?_) rfl
      rfl)) ?_
    · rintro (_ | _ | call) <;> nofun
    refine Transition.reach _ (.call 2 _ (.claimRun 1 2 4 _ _
      (run_unlocked nofun ?_ nofun nofun nofun nofun) rfl rfl)) ?_
    · rintro (_ | _ | call) <;> nofun
    refine Transition.reach _ (.callCommit 2 _ _ (.claim 1 2 _ _)) ?_
    refine Transition.reach _ (.enter 2 1 2 _ _ sampleRunner [("stub", sampleRunner)] rfl rfl rfl
      rfl) ?_
    exact Transition.reached ⟨rfl, rfl⟩
  have reached := (failedSessions_reached (fun _ _ => ⟨⟨nofun, nofun, nofun⟩, nofun⟩)).trans run
  obtain ⟨once, apart⟩ := execution_at_most_once reached
  refine ⟨sessions, reached, entered, once, ?_⟩
  intro call attemptId owes
  exact apart call 2 1 attemptId 2 owes executing

/-- The attempts of a run are numbered from one without a gap, in the order of their keys, and the
run points to the last of them. -/
theorem attempts_numbered (reached : ReflTransGen (Step accepts snapshotReads) empty sessions)
    (run : Run) (row : run ∈ sessions.db.runs.rows) :
    ∃ current loaded, 1 ≤ (selectAttempts sessions.db run.id).length ∧
      (selectAttempts sessions.db run.id).map RunAttempt.attemptNumber =
        List.range' 1 (selectAttempts sessions.db run.id).length ∧
      (selectAttempts sessions.db run.id).Pairwise (fun a b => a.id < b.id) ∧
      run.currentAttemptId = some current.id ∧
      sessions.db.attempts.get? current.id = some current ∧ current.runId = run.id ∧
      current.attemptNumber = (selectAttempts sessions.db run.id).length ∧
      loadRun sessions.db run.id = some loaded ∧
      loaded.currentAttemptNumber = some loaded.attemptCount := by
  obtain ⟨past, current, lineage⟩ :=
    (valid_reached settles_snapshotReads reached).consistent.lineage run row
  have length : (past ++ [current]).length = past.length + 1 := by simp
  rw [lineage.selectAttempts_eq, length]
  refine ⟨current, ⟨run, some current, past ++ [current]⟩, by omega, lineage.numbers,
    lineage.ordered, lineage.pointer, lineage.current_get?, lineage.current_mem.2,
    lineage.current_number, ?_, ?_⟩
  · have found : sessions.db.runs.get? run.id = some run := Table.get?_of_mem row
    rw [loadRun_found found, lineage.selectCurrentAttempt, lineage.selectAttempts_eq]
  · simp only [LoadedRun.currentAttemptNumber, LoadedRun.attemptCount, Option.map_some,
      lineage.current_number, length]

theorem attempts_numbered_retried :
    ∃ sessions, ReflTransGen (Step (fun _ => true) snapshotReads) empty sessions ∧
      ∃ run ∈ sessions.db.runs.rows, ∃ current : RunAttempt,
        run.currentAttemptId = some current.id ∧ current.attemptNumber = 2 := by
  have retried : Step (fun _ => true) snapshotReads failedSessions _ :=
    .requestCommit 1 .wholeRetry _ ⟨nofun, nofun, nofun⟩
      (.wholeRetry 1 _ 3 sampleRetried 2 (run_unlocked nofun nofun nofun nofun nofun nofun) rfl
        (number_unlocked nofun nofun nofun nofun) rfl)
  have reached := (failedSessions_reached (fun _ _ => ⟨nofun, nofun, nofun⟩)).tail retried
  have present : supersede sampleRun 2 sampleRun ∈ sampleRetried.runs.rows :=
    List.mem_singleton.mpr rfl
  obtain ⟨current, _, _, _, _, pointer, _, _, number, _⟩ := attempts_numbered reached _ present
  exact ⟨_, reached, _, present, current, pointer, number⟩

/-! ### Concurrent retries -/

theorem step_commit (valid : Valid sessions) (step : Step accepts allowed sessions sessions') :
    sessions'.db = sessions.db ∨ Commit sessions.db sessions'.db := by
  cases step with
  | createProject name description createdAt =>
      exact (effect_insertProject _ name description createdAt).commit
  | call call phase moved => exact Or.inl rfl
  | enter call runId attemptId run attempt runner registry claimed => exact Or.inl rfl
  | callCommit call phase db committed =>
      obtain ⟨runId, attemptId, attempt, run, attemptSnapshot, runSnapshot, owns, holds, progress,
        together, rfl, _⟩ := (valid.calls call).committed committed
      exact (effect_advance holds progress together).commit
  | request caller statement phase db permitted moved => exact (request_step_effect moved).commit
  | requestCommit caller statement db permitted committed =>
      obtain ⟨freshRun, fresh, effect⟩ :=
        requestCommit_effect valid.consistent (valid.requests caller) committed
      exact effect.commit

theorem step_historyLaw (valid : Valid sessions) (step : Step accepts allowed sessions sessions') :
    HistoryLaw sessions.db sessions'.db := by
  rcases step_commit valid step with same | commit
  · rw [same]
    exact .refl _
  · exact commit.historyLaw valid.consistent

theorem Valid.commitRetry (valid : Valid sessions) {caller : Nat} {db : Database}
    (committed : RequestCommit sessions.db sessions.locks .commitRetry (sessions.requests caller) db) :
    ∃ run later current, run ∈ sessions.db.runs.rows ∧ later ∈ db.runs.rows ∧ later.id = run.id ∧
      later.currentAttemptId ≠ run.currentAttemptId ∧
      selectCurrentAttempt sessions.db run = some current ∧ current.status = .failed := by
  have fact := valid.requests caller
  generalize sessions.requests caller = phase at committed fact
  cases committed with
  | retryRun seen row runRow =>
      obtain ⟨inserted, run, found, rfl⟩ := fact
      obtain ⟨holder, past, current, holderFound, lineage, failed, _⟩ := inserted.ready
      rw [found] at holderFound
      obtain rfl := Option.some.inj holderFound
      have stored : sessions.db.runs.get? run.id = some run :=
        Table.get?_of_mem (Table.get?_mem found)
      refine ⟨run, supersede seen.run row.id run, current, Table.get?_mem found, ?_, rfl, ?_,
        lineage.selectCurrentAttempt, failed⟩
      · exact (mem_putRun (supersede seen.run row.id run) stored _).mpr (Or.inl rfl)
      · have fresh : (supersede seen.run row.id run).currentAttemptId = some row.id := by
          simp [supersede, inserted.retry.pointer]
        rw [fresh, lineage.pointer]
        intro same
        have stored := lineage.current_get?
        rw [← Option.some.inj same, inserted.retry.attempt.unused] at stored
        cases stored

/-- While the condition is met, a retry replaces only a failed attempt, at most the current attempt
of a run is queued or running, and a succeeded run stays as it is. -/
theorem retry_replaces_failed (reached : ReflTransGen (Step accepts attemptsSettled) empty sessions) :
    (∀ caller db,
        RequestCommit sessions.db sessions.locks .commitRetry (sessions.requests caller) db →
        ∃ run later current, run ∈ sessions.db.runs.rows ∧ later ∈ db.runs.rows ∧
          later.id = run.id ∧ later.currentAttemptId ≠ run.currentAttemptId ∧
          selectCurrentAttempt sessions.db run = some current ∧ current.status = .failed) ∧
      (∀ run ∈ sessions.db.runs.rows, ∀ first ∈ sessions.db.attemptRows run.id,
        ∀ second ∈ sessions.db.attemptRows run.id, first.status.terminal = false →
          second.status.terminal = false →
          first = second ∧ run.currentAttemptId = some first.id) ∧
      (∀ later, ReflTransGen (Step accepts attemptsSettled) sessions later →
        ∀ run ∈ sessions.db.runs.rows, run.status = .succeeded → run ∈ later.db.runs.rows) := by
  have valid := valid_reached settles_attemptsSettled reached
  refine ⟨fun caller db committed => valid.commitRetry committed, ?_, ?_⟩
  · intro run row first firstRow second secondRow firstLive secondLive
    obtain ⟨past, current, lineage⟩ := valid.consistent.lineage run row
    have isCurrent (attempt : RunAttempt) (attemptRow : attempt ∈ sessions.db.attemptRows run.id)
        (live : attempt.status.terminal = false) : attempt = current := by
      obtain ⟨present, owner⟩ := (sessions.db.mem_attemptRows run.id attempt).mp attemptRow
      apply lineage.eq_current_of_not_failed present owner
      intro failed
      rw [failed] at live
      cases live
    have firstCurrent := isCurrent first firstRow firstLive
    have secondCurrent := isCurrent second secondRow secondLive
    exact ⟨firstCurrent.trans secondCurrent.symm, firstCurrent ▸ lineage.pointer⟩
  · intro later continued run row succeeded
    have law : HistoryLaw sessions.db later.db :=
      Transition.along (fun before after : Sessions => HistoryLaw before.db after.db) valid
        (fun _ _ valid step => valid_step settles_attemptsSettled valid step)
        (fun _ => .refl _) (fun _ _ _ before after => before.trans after)
        (fun _ _ valid step => step_historyLaw valid step) continued
    exact (law.succeeded run row succeeded).1

theorem retry_replaces_failed_sample :
    ∃ (sessions : Sessions) (caller : Nat) (db : Database),
      RequestCommit sessions.db sessions.locks .commitRetry (sessions.requests caller) db ∧
        ∃ run later current, run ∈ sessions.db.runs.rows ∧ later ∈ db.runs.rows ∧
          later.id = run.id ∧ later.currentAttemptId ≠ run.currentAttemptId ∧
          selectCurrentAttempt sessions.db run = some current ∧ current.status = .failed := by
  obtain ⟨sessions, run, db, committed⟩ : ∃ sessions,
      ReflTransGen (Step (fun _ => true) attemptsSettled) failedSessions sessions ∧
        ∃ db, RequestCommit sessions.db sessions.locks .commitRetry (sessions.requests 1) db := by
    refine Transition.reach _ (.request 1 .selectSnapshot _ _ nofun (.selectSnapshot 1 _ rfl)) ?_
    refine Transition.reach _ (.request 1 .other _ _ nofun (.takeKey _ 3)) ?_
    refine Transition.reach _ (.request 1 .other _ _ nofun (.insertAttempt _ _
      (number_unlocked nofun nofun nofun nofun) rfl)) ?_
    refine Transition.reach _ (.request 1 .other _ _ nofun (.updateRun _ _ sampleRun
      (run_unlocked nofun nofun nofun nofun nofun nofun) rfl)) ?_
    exact Transition.reached ⟨_, .retryRun _ _ _⟩
  have reached := (failedSessions_reached (fun _ _ => nofun)).trans run
  exact ⟨sessions, 1, db, committed, (retry_replaces_failed reached).1 1 db committed⟩

def ReplacesQueued (sessions : Sessions) : Prop :=
  ∃ caller db, RequestCommit sessions.db sessions.locks .commitRetry (sessions.requests caller) db ∧
    ∃ run later current, run ∈ sessions.db.runs.rows ∧ later ∈ db.runs.rows ∧ later.id = run.id ∧
      later.currentAttemptId ≠ run.currentAttemptId ∧
      selectCurrentAttempt sessions.db run = some current ∧ current.status = .queued ∧
      ∃ first ∈ db.attemptRows run.id, ∃ second ∈ db.attemptRows run.id,
        first.id ≠ second.id ∧ first.status = .queued ∧ second.status = .queued

/-- Between the SELECT of the run and the SELECT of its attempts another retry commits: the first
retry then inserts the third attempt and replaces the second one, which is queued. -/
theorem retry_replaces_queued :
    ∃ sessions, ReflTransGen (Step (fun _ => true) unrestricted) empty sessions ∧
      ReplacesQueued sessions := by
  obtain ⟨sessions, run, bad⟩ : ∃ sessions,
      ReflTransGen (Step (fun _ => true) unrestricted) failedSessions sessions ∧
        ReplacesQueued sessions := by
    refine Transition.reach _ (.request 1 .selectRun _ _ trivial (.selectRun sampleRun rfl)) ?_
    -- the second retry runs from its first SELECT to its COMMIT
    refine Transition.reach _ (.request 2 .selectSnapshot _ _ trivial
      (.selectSnapshot 1 _ rfl)) ?_
    refine Transition.reach _ (.request 2 .other _ _ trivial (.takeKey _ 3)) ?_
    refine Transition.reach _ (.request 2 .other _ _ trivial (.insertAttempt _ _
      (number_unlocked nofun nofun nofun nofun) rfl)) ?_
    refine Transition.reach _ (.request 2 .other _ _ trivial (.updateRun _ _ sampleRun
      (run_unlocked nofun nofun nofun nofun nofun nofun) rfl)) ?_
    refine Transition.reach _ (.requestCommit 2 .commitRetry _ trivial (.retryRun _ _ _)) ?_
    -- the first retry goes on with the attempts as they are now
    refine Transition.reach _ (.request 1 .selectCurrent _ _ trivial (.selectCurrent _ _)) ?_
    refine Transition.reach _ (.request 1 .selectAttempts _ _ trivial (.selectAttempts _ _)) ?_
    refine Transition.reach _ (.request 1 .other _ _ trivial (.guards _ _ _ rfl)) ?_
    refine Transition.reach _ (.request 1 .other _ _ trivial (.takeKey _ 4)) ?_
    refine Transition.reach _ (.request 1 .other _ _ trivial (.insertAttempt _ _
      (number_unlocked nofun nofun nofun nofun) rfl)) ?_
    refine Transition.reach _ (.request 1 .other _ _ trivial (.updateRun _ _
      (supersede sampleRun 2 sampleRun)
      (run_unlocked nofun nofun nofun nofun nofun nofun) rfl)) ?_
    refine Transition.reached ⟨1, _, .retryRun _ _ _, supersede sampleRun 2 sampleRun,
      supersede sampleRun 3 (supersede sampleRun 2 sampleRun), newAttempt 2 1 2 3,
      List.mem_singleton.mpr rfl, List.mem_singleton.mpr rfl, rfl, nofun, rfl, rfl,
      newAttempt 2 1 2 3, ?_, newAttempt 3 1 3 4, ?_, nofun, rfl, rfl⟩
    · exact List.mem_cons_of_mem _ List.mem_cons_self
    · exact List.mem_cons_of_mem _ (List.mem_cons_of_mem _ List.mem_cons_self)
  exact ⟨sessions, (failedSessions_reached (fun _ _ => trivial)).trans run, bad⟩

end Sessions

end Evalynx
