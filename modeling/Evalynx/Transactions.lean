import Evalynx.Lineage

/-! The transactions the code commits, and what each does to the tables. -/

namespace Evalynx

open Relational

theorem claimAttempt_eq_some (db db' : Database) (runId attemptId : Nat) (now : Timestamp) :
    claimAttempt db runId attemptId now = some db' ↔
      ∃ attempt run, db.attempts.get? attemptId = some attempt ∧ attempt.status = .queued ∧
        db.runs.get? runId = some run ∧ run.currentAttemptId = some attemptId ∧
        run.status = .queued ∧
        db' = { db with
          attempts := db.attempts.put (attempt.start now)
          runs := db.runs.put (run.start now) } := by
  have attemptCount := db.attempts.update_count attemptId (·.isQueued) (·.start now)
  have runCount := db.runs.update_count runId (·.isQueuedFor attemptId) (·.start now)
  constructor
  · intro claimed
    simp only [claimAttempt] at claimed
    split at claimed
    · cases claimed
    · rename_i attemptOne
      split at claimed
      · cases claimed
      · rename_i runOne
        obtain ⟨attempt, attemptFound, attemptQueued⟩ := attemptCount.mp (not_not.mp attemptOne)
        obtain ⟨run, runFound, runQueued⟩ := runCount.mp (not_not.mp runOne)
        rw [Table.update_of_match _ _ _ _ _ attemptFound attemptQueued,
          Table.update_of_match _ _ _ _ _ runFound runQueued] at claimed
        simp only [RunAttempt.isQueued, Run.isQueuedFor, Bool.and_eq_true, beq_iff_eq]
          at attemptQueued runQueued
        exact ⟨attempt, run, attemptFound, attemptQueued, runFound, runQueued.1, runQueued.2,
          (Option.some.inj claimed).symm⟩
  · intro given
    rcases given with ⟨attempt, run, attemptFound, attemptQueued, runFound, pointer, runQueued, rfl⟩
    have attemptMatch : attempt.isQueued = true := by simp [RunAttempt.isQueued, attemptQueued]
    have runMatch : run.isQueuedFor attemptId = true := by
      simp [Run.isQueuedFor, pointer, runQueued]
    have attemptUpdate := db.attempts.update_of_match attemptId (·.isQueued) (·.start now) attempt
      attemptFound attemptMatch
    have runUpdate := db.runs.update_of_match runId (·.isQueuedFor attemptId) (·.start now) run
      runFound runMatch
    simp [claimAttempt, attemptUpdate, runUpdate]

theorem persist_miss {accepts : TerminalValues → Bool} {db db' : Database} {runId attemptId : Nat}
    {result : RunnerResult} {now : Timestamp}
    (persisted : persistTerminalResult accepts db runId attemptId result now = some db')
    (missed : ∀ attempt, db.attempts.get? attemptId = some attempt → attempt.status ≠ .running) :
    db' = db := by
  have count := db.attempts.update_count attemptId (·.isRunning)
    (·.finish (terminalValues result now))
  have other : (db.attempts.update attemptId (·.isRunning)
      (·.finish (terminalValues result now))).2 ≠ 1 := by
    intro one
    obtain ⟨attempt, found, running⟩ := count.mp one
    exact missed attempt found (by simpa [RunAttempt.isRunning] using running)
  simp only [persistTerminalResult, if_pos other] at persisted
  split at persisted
  · exact (Option.some.inj persisted).symm
  · cases persisted

theorem persist_hit (accepts : TerminalValues → Bool) {db : Database} {run : Run}
    {attempt : RunAttempt} {runId attemptId : Nat} (result : RunnerResult) (now : Timestamp)
    (attemptFound : db.attempts.get? attemptId = some attempt) (running : attempt.status = .running)
    (runFound : db.runs.get? runId = some run) (pointer : run.currentAttemptId = some attemptId) :
    persistTerminalResult accepts db runId attemptId result now =
      if accepts (terminalValues result now) then
        some { db with
          attempts := db.attempts.put (attempt.finish (terminalValues result now))
          runs := db.runs.put (run.finish (terminalValues result now)) }
      else none := by
  have attemptUpdate := db.attempts.update_of_match attemptId (·.isRunning)
    (·.finish (terminalValues result now)) attempt attemptFound (by simp [RunAttempt.isRunning, running])
  have runUpdate := db.runs.update_of_match runId (·.isCurrent attemptId)
    (·.finish (terminalValues result now)) run runFound (by simp [Run.isCurrent, pointer])
  simp [persistTerminalResult, attemptUpdate, runUpdate]

theorem terminalStatus_terminal (result : RunnerResult) :
    (terminalStatus result).terminal = true := by
  unfold terminalStatus
  split <;> rfl

theorem violatesUniqueNumber_iff (rows : List RunAttempt) (runId attemptNumber : Nat) :
    violatesUniqueNumber rows runId attemptNumber = true ↔
      ∃ row ∈ rows, row.runId = runId ∧ row.attemptNumber = attemptNumber := by
  simp [violatesUniqueNumber]

theorem nextAttemptNumber_eq (attempts : List RunAttempt) (highest : Nat)
    (bound : ∀ attempt ∈ attempts, attempt.attemptNumber ≤ highest)
    (attained : ∃ attempt ∈ attempts, attempt.attemptNumber = highest) :
    nextAttemptNumber attempts = highest + 1 := by
  have greatest : (attempts.map RunAttempt.attemptNumber).max? = some highest := by
    rw [List.max?_eq_some_iff]
    constructor
    · obtain ⟨attempt, member, same⟩ := attained
      exact List.mem_map.mpr ⟨attempt, member, same⟩
    · intro number member
      obtain ⟨attempt, present, rfl⟩ := List.mem_map.mp member
      exact bound attempt present
  rw [nextAttemptNumber, greatest]

theorem insertRun_rows (db : Database) (new : NewRun) (runCreatedAt attemptCreatedAt : Timestamp) :
    (insertRun db new runCreatedAt attemptCreatedAt).1.runs.rows =
        db.runs.rows ++ [{ new.row db.runs.next runCreatedAt with
          currentAttemptId := some db.attempts.next }] ∧
      (insertRun db new runCreatedAt attemptCreatedAt).1.attempts.rows =
        db.attempts.rows ++ [newAttempt db.attempts.next db.runs.next 1 attemptCreatedAt] := by
  constructor
  · exact Table.rows_adopt (db.runs.reserve 1) _ (db.runs.get?_next _ (Nat.le_refl _))
      (Nat.lt_succ_self _)
  · exact Table.rows_adopt (db.attempts.reserve 1) _ (db.attempts.get?_next _ (Nat.le_refl _))
      (Nat.lt_succ_self _)

theorem insertRetry_attempts {db written : Database} {loaded : LoadedRun} {now : Timestamp}
    {attemptId : Nat} (inserted : insertRetry db loaded now = some (written, attemptId)) :
    violatesUniqueNumber db.attempts.rows loaded.run.id (nextAttemptNumber loaded.attempts) =
        false ∧
      attemptId = db.attempts.next ∧
      written.attempts = (db.attempts.reserve 1).adopt
        (newAttempt db.attempts.next loaded.run.id (nextAttemptNumber loaded.attempts) now) := by
  simp only [insertRetry] at inserted
  split at inserted
  · cases inserted
  · rename_i free
    obtain ⟨rfl, rfl⟩ := Prod.mk.inj (Option.some.inj inserted)
    exact ⟨Bool.eq_false_iff.mpr free, rfl, rfl⟩

theorem insertRetry_rows {db written : Database} {loaded : LoadedRun} {now : Timestamp}
    {attemptId : Nat} (inserted : insertRetry db loaded now = some (written, attemptId)) :
    violatesUniqueNumber db.attempts.rows loaded.run.id (nextAttemptNumber loaded.attempts) =
        false ∧
      attemptId = db.attempts.next ∧
      written.attempts.rows = db.attempts.rows ++
        [newAttempt attemptId loaded.run.id (nextAttemptNumber loaded.attempts) now] := by
  obtain ⟨free, rfl, attempts⟩ := insertRetry_attempts inserted
  refine ⟨free, rfl, ?_⟩
  rw [attempts]
  exact Table.rows_adopt (db.attempts.reserve 1) _ (db.attempts.get?_next _ (Nat.le_refl _))
    (Nat.lt_succ_self _)

theorem mem_selectAttempts (db : Database) (runId : Nat) (attempt : RunAttempt) :
    attempt ∈ selectAttempts db runId ↔ attempt ∈ db.attemptRows runId :=
  List.mem_insertionSort _

namespace Lineage

variable {db : Database} {run : Run} {past : List RunAttempt} {current : RunAttempt}

theorem selectAttempts_eq (lineage : Lineage db run past current) :
    selectAttempts db run.id = past ++ [current] := by
  rw [selectAttempts, lineage.rows, orderedByNumber]
  apply List.Pairwise.insertionSort_eq
  have sorted : ((past ++ [current]).map RunAttempt.attemptNumber).Pairwise (· ≤ ·) := by
    rw [lineage.numbers]
    exact List.pairwise_le_range'
  exact List.pairwise_map.mp sorted

theorem number_le (lineage : Lineage db run past current) {attempt : RunAttempt}
    (member : attempt ∈ db.attemptRows run.id) :
    1 ≤ attempt.attemptNumber ∧ attempt.attemptNumber ≤ past.length + 1 := by
  rw [lineage.rows] at member
  have number : attempt.attemptNumber ∈ List.range' 1 (past.length + 1) := by
    rw [← lineage.numbers]
    exact List.mem_map_of_mem member
  rw [List.mem_range'_1] at number
  omega

theorem nextAttemptNumber (lineage : Lineage db run past current) :
    nextAttemptNumber (selectAttempts db run.id) = past.length + 2 := by
  apply nextAttemptNumber_eq _ (past.length + 1)
  · intro attempt member
    exact (lineage.number_le ((mem_selectAttempts _ _ _).mp member)).2
  · refine ⟨current, (mem_selectAttempts _ _ _).mpr ?_, lineage.current_number⟩
    rw [lineage.rows]
    exact List.mem_append_right _ (List.mem_singleton.mpr rfl)

theorem not_violates (lineage : Lineage db run past current) :
    violatesUniqueNumber db.attempts.rows run.id (past.length + 2) = false := by
  rw [← Bool.not_eq_true, violatesUniqueNumber_iff]
  intro given
  rcases given with ⟨row, member, owner, number⟩
  have bound := lineage.number_le ((db.mem_attemptRows run.id row).mpr ⟨member, owner⟩)
  omega

theorem selectCurrentAttempt (lineage : Lineage db run past current) :
    selectCurrentAttempt db run = some current := by
  rw [Evalynx.selectCurrentAttempt, lineage.pointer]
  exact lineage.current_get?

end Lineage

theorem supersede_self (run : Run) (attemptId : Nat) (different : run.currentAttemptId ≠ some attemptId) :
    supersede run attemptId run =
      { run with
        toSnapshot := clearRunSnapshot run.toSnapshot run.toSnapshot
        currentAttemptId := some attemptId } := by
  simp [supersede, different]

theorem clearRunSnapshot_status (snapshot : Snapshot) :
    (clearRunSnapshot snapshot snapshot).status = .queued := by
  simp only [clearRunSnapshot]
  split
  · assumption
  · rfl

theorem clearJson_load (column : JsonColumn) : (clearJson column column).load = .null := by
  unfold clearJson
  split
  · rename_i null
    exact (Json.isNull_iff _).mp null
  · rfl

theorem clearValue_self {α : Type} (value : Option α) : clearValue value value = none := by
  cases value <;> rfl

theorem clearRunSnapshot_load (snapshot : Snapshot) :
    (clearRunSnapshot snapshot snapshot).load = Snapshot.initial.load := by
  have status := clearRunSnapshot_status snapshot
  simp only [clearRunSnapshot] at status
  simp only [Snapshot.load, clearRunSnapshot, status, clearJson_load, clearValue_self]
  rfl

theorem insertRetry_current {db : Database} {run : Run} {past : List RunAttempt}
    {current : RunAttempt} (lineage : Lineage db run past current)
    (runFound : db.runs.get? run.id = some run) (currentAttempt : Option RunAttempt)
    (now : Timestamp) :
    insertRetry db ⟨run, currentAttempt, selectAttempts db run.id⟩ now =
      some
        ({ db with
            attempts := (db.attempts.reserve 1).adopt
              (newAttempt db.attempts.next run.id (past.length + 2) now)
            runs := db.runs.put { run with
              toSnapshot := clearRunSnapshot run.toSnapshot run.toSnapshot
              currentAttemptId := some db.attempts.next } },
          db.attempts.next) := by
  have different : run.currentAttemptId ≠ some db.attempts.next := by
    rw [lineage.pointer]
    intro same
    have bound := Table.get?_lt_next lineage.current_get?
    have equal := Option.some.inj same
    omega
  have update := db.runs.update_of_match run.id (fun _ => true) (supersede run db.attempts.next) run
    runFound rfl
  simp only [insertRetry, lineage.nextAttemptNumber, lineage.not_violates, newAttempt, update,
    supersede_self run db.attempts.next different, Bool.false_eq_true, if_false]

/-- A transaction the code commits from the tables as they are. All SELECTs of a retry see the state
its writes meet. -/
inductive Txn (accepts : TerminalValues → Bool) (db : Database) : Database → Prop where
  | createProject (name : String) (description : Option String) (createdAt : Timestamp) :
      Txn accepts db (insertProject db name description createdAt)
  | createRun (project : Project) (new : NewRun) (runCreatedAt attemptCreatedAt : Timestamp)
      (found : db.projects.get? new.projectId = some project) :
      Txn accepts db (insertRun db new runCreatedAt attemptCreatedAt).1
  | retryRun (runId : Nat) (loaded : LoadedRun) (now : Timestamp) (written : Database)
      (attemptId : Nat) (seen : loadRun db runId = some loaded) (allowed : retryAllowed loaded = true)
      (inserted : insertRetry db loaded now = some (written, attemptId)) :
      Txn accepts db written
  | claim (attempt : RunAttempt) (now : Timestamp) (claimed : Database)
      (found : db.attempts.get? attempt.id = some attempt)
      (success : claimAttempt db attempt.runId attempt.id now = some claimed) :
      Txn accepts db claimed
  | persist (attempt : RunAttempt) (result : RunnerResult) (now : Timestamp) (persisted : Database)
      (found : db.attempts.get? attempt.id = some attempt)
      (success :
        persistTerminalResult accepts db attempt.runId attempt.id result now = some persisted) :
      Txn accepts db persisted
  | rollback (runs attempts : Nat) : Txn accepts db (loseKeys db runs attempts)

theorem loadRun_found {db : Database} {run : Run} (found : db.runs.get? run.id = some run) :
    loadRun db run.id = some ⟨run, selectCurrentAttempt db run, selectAttempts db run.id⟩ := by
  rw [loadRun, found, Option.map_some]

theorem loadRun_eq_some {db : Database} {runId : Nat} {loaded : LoadedRun}
    (seen : loadRun db runId = some loaded) :
    ∃ run, db.runs.get? runId = some run ∧ run.id = runId ∧
      loaded = ⟨run, selectCurrentAttempt db run, selectAttempts db run.id⟩ := by
  obtain ⟨run, found, same⟩ := Option.map_eq_some_iff.mp seen
  exact ⟨run, found, Table.get?_id found, same.symm⟩

theorem retryAllowed_iff (loaded : LoadedRun) :
    retryAllowed loaded = true ↔
      loaded.run.status = .failed ∧
        ∃ current, loaded.currentAttempt = some current ∧ current.status = .failed := by
  unfold retryAllowed
  cases loaded.currentAttempt <;> simp

theorem commit_insertRun (db : Database) (new : NewRun) (runCreatedAt attemptCreatedAt : Timestamp) :
    Commit db (insertRun db new runCreatedAt attemptCreatedAt).1 := by
  apply Commit.founded
  · rfl
  · rfl
  · rfl
  · rfl
  · rfl
  · exact db.runs.get?_next _ (Nat.le_refl _)
  · exact Nat.lt_succ_self _
  · exact db.attempts.get?_next _ (Nat.le_refl _)
  · exact Nat.lt_succ_self _

theorem retry_writes {db written : Database} (consistent : Consistent db) {runId attemptId : Nat}
    {loaded : LoadedRun} {now : Timestamp} (seen : loadRun db runId = some loaded)
    (allowed : retryAllowed loaded = true)
    (inserted : insertRetry db loaded now = some (written, attemptId)) :
    ∃ run past current, run.id = runId ∧ db.runs.get? run.id = some run ∧
      Lineage db run past current ∧ current.status = .failed ∧
      written = { db with
        attempts := (db.attempts.reserve 1).adopt
          (newAttempt db.attempts.next run.id (past.length + 2) now)
        runs := db.runs.put { run with
          toSnapshot := clearRunSnapshot run.toSnapshot run.toSnapshot
          currentAttemptId := some db.attempts.next } } := by
  obtain ⟨run, found, rfl, rfl⟩ := loadRun_eq_some seen
  obtain ⟨past, current, lineage⟩ := consistent.of_run found
  rw [insertRetry_current lineage found] at inserted
  obtain ⟨rfl, rfl⟩ := Prod.mk.inj (Option.some.inj inserted)
  obtain ⟨-, last, same, failed⟩ := (retryAllowed_iff _).mp allowed
  rw [lineage.selectCurrentAttempt] at same
  obtain rfl := Option.some.inj same
  exact ⟨run, past, current, rfl, found, lineage, failed, rfl⟩

theorem commit_retry {db written : Database} (consistent : Consistent db) {runId attemptId : Nat}
    {loaded : LoadedRun} {now : Timestamp} (seen : loadRun db runId = some loaded)
    (allowed : retryAllowed loaded = true)
    (inserted : insertRetry db loaded now = some (written, attemptId)) : Commit db written := by
  obtain ⟨run, past, current, -, found, lineage, failed, rfl⟩ :=
    retry_writes consistent seen allowed inserted
  apply Commit.retried run current (newAttempt db.attempts.next run.id (past.length + 2) now)
    (clearRunSnapshot run.toSnapshot run.toSnapshot) 1 found lineage.current_get? lineage.pointer
    failed
  · rfl
  · rfl
  · rw [lineage.length]
    rfl
  · intro attempt member
    exact db.attempts.below attempt ((db.mem_attemptRows run.id attempt).mp member).1
  · exact db.attempts.get?_next _ (Nat.le_refl _)
  · exact Nat.lt_succ_self _
  · exact clearRunSnapshot_status run.toSnapshot

theorem claim_writes {db claimed : Database} {attempt : RunAttempt} {now : Timestamp}
    (found : db.attempts.get? attempt.id = some attempt)
    (success : claimAttempt db attempt.runId attempt.id now = some claimed) :
    attempt.status = .queued ∧ ∃ run, run.id = attempt.runId ∧ db.runs.get? run.id = some run ∧
      run.currentAttemptId = some attempt.id ∧
      claimed = { db with
        attempts := db.attempts.put (attempt.start now)
        runs := db.runs.put (run.start now) } := by
  obtain ⟨row, run, rowFound, queued, runFound, pointer, -, rfl⟩ :=
    (claimAttempt_eq_some _ _ _ _ _).mp success
  rw [found] at rowFound
  obtain rfl := Option.some.inj rowFound
  have key : run.id = attempt.runId := Table.get?_id runFound
  exact ⟨queued, run, key, key ▸ runFound, pointer, rfl⟩

theorem commit_claim {db claimed : Database} {attempt : RunAttempt} {now : Timestamp}
    (found : db.attempts.get? attempt.id = some attempt)
    (success : claimAttempt db attempt.runId attempt.id now = some claimed) : Commit db claimed := by
  obtain ⟨queued, run, key, runFound, pointer, rfl⟩ := claim_writes found success
  exact Commit.advanced run attempt _ _ runFound found pointer key.symm (Or.inl ⟨queued, rfl⟩) rfl

section Persist

variable {accepts : TerminalValues → Bool} {db persisted : Database} {attempt : RunAttempt}
  {result : RunnerResult} {now : Timestamp}

theorem persist_writes (consistent : Consistent db)
    (found : db.attempts.get? attempt.id = some attempt) (running : attempt.status = .running)
    (success : persistTerminalResult accepts db attempt.runId attempt.id result now =
      some persisted) :
    ∃ run past, run.id = attempt.runId ∧ db.runs.get? run.id = some run ∧
      Lineage db run past attempt ∧
      persisted = { db with
        attempts := db.attempts.put (attempt.finish (terminalValues result now))
        runs := db.runs.put (run.finish (terminalValues result now)) } := by
  obtain ⟨run, past, current, runFound, lineage⟩ := consistent.of_attempt (Table.get?_mem found)
  have key : run.id = attempt.runId := Table.get?_id runFound
  obtain rfl : attempt = current :=
    lineage.eq_current_of_not_failed (Table.get?_mem found) key.symm (by simp [running])
  rw [persist_hit accepts result now found running runFound lineage.pointer] at success
  split at success
  · exact ⟨run, past, key, key ▸ runFound, lineage, (Option.some.inj success).symm⟩
  · cases success

theorem persist_skips (found : db.attempts.get? attempt.id = some attempt)
    (stopped : attempt.status ≠ .running)
    (success : persistTerminalResult accepts db attempt.runId attempt.id result now =
      some persisted) : persisted = db := by
  apply persist_miss success
  intro row rowFound
  rw [found] at rowFound
  obtain rfl := Option.some.inj rowFound
  exact stopped

theorem commit_persist (consistent : Consistent db)
    (found : db.attempts.get? attempt.id = some attempt)
    (success : persistTerminalResult accepts db attempt.runId attempt.id result now =
      some persisted) : persisted = db ∨ Commit db persisted := by
  by_cases running : attempt.status = .running
  · obtain ⟨run, past, key, runFound, lineage, rfl⟩ :=
      persist_writes consistent found running success
    exact Or.inr (Commit.advanced run attempt _ _ runFound found lineage.pointer key.symm
      (Or.inr ⟨running, terminalStatus_terminal result⟩) rfl)
  · exact Or.inl (persist_skips found running success)

end Persist

theorem Txn.commit {accepts : TerminalValues → Bool} {db db' : Database}
    (consistent : Consistent db) (txn : Txn accepts db db') : db' = db ∨ Commit db db' := by
  cases txn with
  | createProject name description createdAt => exact Or.inr (.project _)
  | createRun project new runCreatedAt attemptCreatedAt =>
      exact Or.inr (commit_insertRun db new runCreatedAt attemptCreatedAt)
  | retryRun runId loaded now attemptId written seen allowed inserted =>
      exact Or.inr (commit_retry consistent seen allowed inserted)
  | claim attempt now claimed found success => exact Or.inr (commit_claim found success)
  | persist attempt result now persisted found success =>
      exact commit_persist consistent found success
  | rollback runs attempts => exact Or.inr (.keysLost runs attempts)

theorem Txn.consistent {accepts : TerminalValues → Bool} {db db' : Database}
    (consistent : Consistent db) (txn : Txn accepts db db') : Consistent db' := by
  rcases txn.commit consistent with rfl | commit
  · exact consistent
  · exact commit_consistent consistent commit

def sampleProject : Database := insertProject .empty "evals" none 0

def sampleNew : NewRun := ⟨1, "stub", [], [], ""⟩

def sampleRunner : Runner where
  normalizeConfig := .ok
  execute := fun _ _ => .returned { status := .failed }

def sampleCreated : Database := (insertRun sampleProject sampleNew 0 0).1

def sampleClaimed : Database := (claimAttempt sampleCreated 1 1 1).getD sampleCreated

def sampleFailed : Database :=
  (persistTerminalResult (fun _ => true) sampleClaimed 1 1 { status := .failed } 2).getD sampleClaimed

def sampleRun : Run :=
  (({ sampleNew.row 1 0 with currentAttemptId := some 1 } : Run).start 1).finish
    (terminalValues { status := .failed } 2)

def sampleRetried : Database :=
  match loadRun sampleFailed 1 with
  | none => sampleFailed
  | some loaded => ((insertRetry sampleFailed loaded 3).map Prod.fst).getD sampleFailed

theorem sample_history :
    Relation.ReflTransGen (Txn (fun _ => true)) .empty sampleRetried := by
  have project : Txn (fun _ => true) .empty sampleProject := .createProject "evals" none 0
  have created : Txn (fun _ => true) sampleProject sampleCreated :=
    .createRun ⟨1, "evals", none, 0⟩ sampleNew 0 0 rfl
  have claimed : Txn (fun _ => true) sampleCreated sampleClaimed :=
    .claim (newAttempt 1 1 1 0) 1 _ rfl rfl
  have failed : Txn (fun _ => true) sampleClaimed sampleFailed :=
    .persist ((newAttempt 1 1 1 0).start 1) { status := .failed } 2 _ rfl rfl
  have retried : Txn (fun _ => true) sampleFailed sampleRetried :=
    .retryRun 1 _ 3 _ 2 rfl rfl rfl
  exact ((((Relation.ReflTransGen.single project).tail created).tail claimed).tail failed).tail
    retried

end Evalynx
