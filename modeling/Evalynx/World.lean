import Evalynx.Mirror
import Mathlib.Logic.Function.Basic

/-! All callers, all workers and the queue at once, one committed transaction a step. -/

namespace Evalynx

open Relational Relation

inductive WorkerPhase where
  | idle
  | delivered (attemptId : Nat)
  | claimed (runId attemptId : Nat)
  | executed (runId attemptId : Nat) (result : RunnerResult)

/-- `retries` holds what a `retry_run` call that passed both guards has read, until it writes.
`enqueuing` holds the attempts whose creating call has committed and not yet enqueued. -/
structure World where
  db : Database
  queue : List Nat
  enqueuing : List Nat
  workers : Nat → WorkerPhase
  retries : Nat → Option LoadedRun

namespace World

def empty : World where
  db := .empty
  queue := []
  enqueuing := []
  workers := fun _ => .idle
  retries := fun _ => none

def setWorker (world : World) (worker : Nat) (phase : WorkerPhase) : World :=
  { world with workers := Function.update world.workers worker phase }

def setRetry (world : World) (caller : Nat) (pending : Option LoadedRun) : World :=
  { world with retries := Function.update world.retries caller pending }

def written (world : World) (db : Database) (attemptId : Nat) : World :=
  { world with db := db, enqueuing := attemptId :: world.enqueuing }

inductive Step (accepts : TerminalValues → Bool) (world : World) : World → Prop where
  | createProject (name : String) (description : Option String) (createdAt : Timestamp) :
      Step accepts world { world with db := insertProject world.db name description createdAt }
  | createRun (project : Project) (new : NewRun) (runCreatedAt attemptCreatedAt : Timestamp)
      (found : world.db.projects.get? new.projectId = some project) :
      Step accepts world (world.written (insertRun world.db new runCreatedAt attemptCreatedAt).1
        (insertRun world.db new runCreatedAt attemptCreatedAt).2)
  /-- All three SELECTs of the retry read this one state. -/
  | retryRead (caller runId : Nat) (loaded : LoadedRun) (free : world.retries caller = none)
      (prepared : prepareRetry world.db runId = .ok loaded) :
      Step accepts world (world.setRetry caller (some loaded))
  | retryWrite (caller : Nat) (loaded : LoadedRun) (now : Timestamp) (db : Database)
      (attemptId : Nat) (pending : world.retries caller = some loaded)
      (inserted : insertRetry world.db loaded now = some (db, attemptId)) :
      Step accepts world ((world.setRetry caller none).written db attemptId)
  | retryConflict (caller : Nat) (loaded : LoadedRun) (now : Timestamp)
      (pending : world.retries caller = some loaded)
      (conflict : insertRetry world.db loaded now = none) :
      Step accepts world { world.setRetry caller none with db := loseKeys world.db 0 1 }
  /-- Any other exception in a `retry_run` before its COMMIT. -/
  | retryFailed (caller attempts : Nat) :
      Step accepts world { world.setRetry caller none with db := loseKeys world.db 0 attempts }
  /-- Any exception in a `create_run` before its COMMIT. -/
  | createFailed (runs attempts : Nat) :
      Step accepts world { world with db := loseKeys world.db runs attempts }
  | enqueue (attemptId : Nat) (committed : attemptId ∈ world.enqueuing) :
      Step accepts world { world with
        queue := world.queue ++ [attemptId]
        enqueuing := world.enqueuing.erase attemptId }
  | dequeue (worker attemptId : Nat) (idle : world.workers worker = .idle)
      (queued : attemptId ∈ world.queue) :
      Step accepts world
        { world.setWorker worker (.delivered attemptId) with queue := world.queue.erase attemptId }
  /-- A delivery the queue does not account for: a duplicate, a replay, an unknown id. -/
  | deliver (worker attemptId : Nat) (idle : world.workers worker = .idle) :
      Step accepts world (world.setWorker worker (.delivered attemptId))
  | unknown (worker attemptId : Nat) (delivered : world.workers worker = .delivered attemptId)
      (missing : world.db.attempts.get? attemptId = none) :
      Step accepts world (world.setWorker worker .idle)
  | claim (worker attemptId : Nat) (attempt : RunAttempt) (now : Timestamp) (db : Database)
      (delivered : world.workers worker = .delivered attemptId)
      (found : world.db.attempts.get? attemptId = some attempt)
      (success : claimAttempt world.db attempt.runId attemptId now = some db) :
      Step accepts world
        { world.setWorker worker (.claimed attempt.runId attemptId) with db := db }
  | claimMissed (worker attemptId : Nat) (attempt : RunAttempt) (now : Timestamp)
      (delivered : world.workers worker = .delivered attemptId)
      (found : world.db.attempts.get? attemptId = some attempt)
      (missed : claimAttempt world.db attempt.runId attemptId now = none) :
      Step accepts world (world.setWorker worker .idle)
  | execute (worker runId attemptId : Nat) (run : Run) (attempt : RunAttempt)
      (registry : RunnerRegistry) (claimed : world.workers worker = .claimed runId attemptId)
      (runFound : world.db.runs.get? runId = some run)
      (attemptFound : world.db.attempts.get? attemptId = some attempt) :
      Step accepts world (world.setWorker worker
        (.executed runId attemptId (executeAttempt registry run attempt).1))
  /-- `run is None or attempt is None` after the claim. -/
  | vanished (worker runId attemptId : Nat)
      (claimed : world.workers worker = .claimed runId attemptId)
      (missing : world.db.runs.get? runId = none ∨ world.db.attempts.get? attemptId = none) :
      Step accepts world (world.setWorker worker .idle)
  | persist (worker runId attemptId : Nat) (result : RunnerResult) (now : Timestamp)
      (db : Database) (executed : world.workers worker = .executed runId attemptId result)
      (success : persistTerminalResult accepts world.db runId attemptId result now = some db) :
      Step accepts world { world.setWorker worker .idle with db := db }
  | persistRaised (worker runId attemptId : Nat) (result : RunnerResult) (now : Timestamp)
      (executed : world.workers worker = .executed runId attemptId result)
      (refused : persistTerminalResult accepts world.db runId attemptId result now = none) :
      Step accepts world (world.setWorker worker .idle)

end World

/-- Either what was read still stands, or the number it leads to is taken. -/
def Pending (db : Database) (loaded : LoadedRun) : Prop :=
  (retryAllowed loaded = true ∧ loadRun db loaded.run.id = some loaded) ∨
    violatesUniqueNumber db.attempts.rows loaded.run.id (nextAttemptNumber loaded.attempts) = true

theorem prepareRetry_eq_ok {db : Database} {runId : Nat} {loaded : LoadedRun}
    (prepared : prepareRetry db runId = .ok loaded) :
    loaded.run.id = runId ∧ retryAllowed loaded = true ∧
      loadRun db loaded.run.id = some loaded := by
  unfold prepareRetry at prepared
  split at prepared
  · cases prepared
  · rename_i seen found
    split at prepared
    · rename_i allowed
      obtain rfl : seen = loaded := by simpa using prepared
      obtain ⟨run, _, rfl, same⟩ := loadRun_eq_some found
      have key : seen.run.id = run.id := by rw [same]
      exact ⟨key, allowed, key ▸ found⟩
    · cases prepared

theorem Commit.violates {db db' : Database} (commit : Commit db db') {runId attemptNumber : Nat}
    (taken : violatesUniqueNumber db.attempts.rows runId attemptNumber = true) :
    violatesUniqueNumber db'.attempts.rows runId attemptNumber = true := by
  obtain ⟨row, member, owner, number⟩ := (violatesUniqueNumber_iff _ _ _).mp taken
  obtain ⟨later, present, version⟩ := commit.attempt_row member
  exact (violatesUniqueNumber_iff _ _ _).mpr
    ⟨later, present, version.runId.trans owner, version.attemptNumber.trans number⟩

theorem loadRun_untouched {db db' : Database} (consistent : Consistent db) {run : Run}
    (found : db.runs.get? run.id = some run) (row : run ∈ db'.runs.rows)
    (attempts : db'.attemptRows run.id = db.attemptRows run.id) :
    loadRun db' run.id = loadRun db run.id := by
  obtain ⟨past, current, lineage⟩ := consistent.of_run found
  have foundLater : db'.runs.get? run.id = some run := Table.get?_of_mem row
  have selected := lineage.selectCurrentAttempt
  have selectedLater := (lineage.frame attempts).selectCurrentAttempt
  rw [loadRun_found found, loadRun_found foundLater, selected, selectedLater, selectAttempts,
    selectAttempts, attempts]

theorem Pending.commit {db db' : Database} (consistent : Consistent db) (commit : Commit db db')
    {loaded : LoadedRun} (pending : Pending db loaded) : Pending db' loaded := by
  rcases pending with ⟨allowed, seen⟩ | taken
  · obtain ⟨run, found, key, same⟩ := loadRun_eq_some seen
    obtain ⟨failed, -⟩ := (retryAllowed_iff loaded).mp allowed
    subst same
    cases commit.run_change consistent (Table.get?_mem found) with
    | untouched row attempts =>
        left
        refine ⟨allowed, ?_⟩
        rw [loadRun_untouched consistent found row attempts]
        exact seen
    | advanced later row id pointer progress =>
        have running := progress.not_terminal
        rw [failed] at running
        cases running
    | retried later current fresh row id queued currentRow pointer currentFailed freshRow owner
        number =>
        right
        obtain ⟨past, last, lineage⟩ := consistent.of_run found
        refine (violatesUniqueNumber_iff _ _ _).mpr ⟨fresh, freshRow, owner, ?_⟩
        rw [number, lineage.nextAttemptNumber, lineage.length]
  · exact Or.inr (commit.violates taken)

theorem Pending.unchanged_or_commit {db db' : Database} (consistent : Consistent db)
    (change : db' = db ∨ Commit db db') {loaded : LoadedRun} (pending : Pending db loaded) :
    Pending db' loaded := by
  rcases change with rfl | commit
  · exact pending
  · exact pending.commit consistent commit

theorem Pending.txn {accepts : TerminalValues → Bool} {db written : Database} {loaded : LoadedRun}
    {now : Timestamp} {attemptId : Nat} (pending : Pending db loaded)
    (inserted : insertRetry db loaded now = some (written, attemptId)) : Txn accepts db written := by
  rcases pending with ⟨allowed, seen⟩ | taken
  · exact .retryRun loaded.run.id loaded now written attemptId seen allowed inserted
  · obtain ⟨free, -⟩ := insertRetry_rows inserted
    rw [taken] at free
    cases free

namespace World

def held : WorkerPhase → Option (Nat × Nat)
  | .idle | .delivered _ => none
  | .claimed runId attemptId | .executed runId attemptId _ => some (runId, attemptId)

def Owns (db : Database) (runId attemptId : Nat) : Prop :=
  ∃ attempt, db.attempts.get? attemptId = some attempt ∧ attempt.runId = runId

structure Valid (world : World) : Prop where
  consistent : Consistent world.db
  retries : ∀ caller loaded, world.retries caller = some loaded → Pending world.db loaded
  workers : ∀ worker runId attemptId, held (world.workers worker) = some (runId, attemptId) →
    Owns world.db runId attemptId

theorem valid_empty : Valid empty where
  consistent := consistent_empty
  retries := by
    intro caller loaded pending
    cases pending
  workers := by
    intro worker runId attemptId holding
    cases holding

theorem Owns.commit {db db' : Database} (change : db' = db ∨ Commit db db') {runId attemptId : Nat}
    (owns : Owns db runId attemptId) : Owns db' runId attemptId := by
  rcases change with rfl | commit
  · exact owns
  · obtain ⟨attempt, found, owner⟩ := owns
    obtain ⟨later, row, version⟩ := commit.attempt_row (Table.get?_mem found)
    have key : later.id = attemptId := version.id.trans (Table.get?_id found)
    exact ⟨later, key ▸ Table.get?_of_mem row, version.runId.trans owner⟩

variable {accepts : TerminalValues → Bool} {world world' : World}

theorem simulates : Transition.Simulates (Step accepts) (Txn accepts) Valid World.db := by
  intro world world' valid step
  cases step with
  | createProject name description createdAt =>
      exact Or.inr (.createProject name description createdAt)
  | createRun project new runCreatedAt attemptCreatedAt found =>
      exact Or.inr (.createRun project new runCreatedAt attemptCreatedAt found)
  | retryRead caller runId loaded free prepared => exact Or.inl rfl
  | retryWrite caller loaded now db attemptId pending inserted =>
      exact Or.inr ((valid.retries caller loaded pending).txn inserted)
  | retryConflict caller loaded now pending conflict => exact Or.inr (.rollback 0 1)
  | retryFailed caller attempts => exact Or.inr (.rollback 0 attempts)
  | createFailed runs attempts => exact Or.inr (.rollback runs attempts)
  | enqueue attemptId committed => exact Or.inl rfl
  | dequeue worker attemptId idle queued => exact Or.inl rfl
  | deliver worker attemptId idle => exact Or.inl rfl
  | unknown worker attemptId delivered missing => exact Or.inl rfl
  | claim worker attemptId attempt now db delivered found success =>
      obtain rfl : attempt.id = attemptId := Table.get?_id found
      exact Or.inr (.claim attempt now db found success)
  | claimMissed worker attemptId attempt now delivered found missed => exact Or.inl rfl
  | execute worker runId attemptId run attempt registry claimed runFound attemptFound =>
      exact Or.inl rfl
  | vanished worker runId attemptId claimed missing => exact Or.inl rfl
  | persist worker runId attemptId result now db executed success =>
      obtain ⟨attempt, found, rfl⟩ := valid.workers worker runId attemptId (by rw [executed]; rfl)
      obtain rfl : attempt.id = attemptId := Table.get?_id found
      exact Or.inr (.persist attempt result now db found success)
  | persistRaised worker runId attemptId result now executed refused => exact Or.inl rfl

theorem setWorker_held {worker other : Nat} {phase : WorkerPhase} {claim : Nat × Nat}
    (holding : held ((world.setWorker worker phase).workers other) = some claim) :
    held phase = some claim ∨ held (world.workers other) = some claim := by
  by_cases same : other = worker
  · subst same
    left
    simpa [setWorker] using holding
  · right
    simpa [setWorker, same] using holding

theorem setRetry_pending {caller other : Nat} {pending : Option LoadedRun} {loaded : LoadedRun}
    (waiting : (world.setRetry caller pending).retries other = some loaded) :
    pending = some loaded ∨ world.retries other = some loaded := by
  by_cases same : other = caller
  · subst same
    left
    simpa [setRetry] using waiting
  · right
    simpa [setRetry, same] using waiting

theorem step_held (step : Step accepts world world') {worker runId attemptId : Nat}
    (holding : held (world'.workers worker) = some (runId, attemptId)) :
    held (world.workers worker) = some (runId, attemptId) ∨ Owns world.db runId attemptId := by
  cases step with
  | createProject | createRun | createFailed | enqueue => exact Or.inl holding
  | retryRead | retryWrite | retryConflict | retryFailed => exact Or.inl holding
  | dequeue | deliver | unknown | claimMissed | vanished | persist | persistRaised =>
      rcases setWorker_held holding with new | old
      · cases new
      · exact Or.inl old
  | claim caller id attempt now db delivered found success =>
      rcases setWorker_held holding with new | old
      · obtain ⟨rfl, rfl⟩ := Prod.mk.inj (Option.some.inj new)
        exact Or.inr ⟨attempt, found, rfl⟩
      · exact Or.inl old
  | execute other run id _ _ registry claimed =>
      by_cases same : worker = other
      · subst same
        left
        rw [claimed]
        simpa [setWorker, held] using holding
      · left
        simpa [setWorker, same] using holding

theorem step_retries (step : Step accepts world world') {caller : Nat} {loaded : LoadedRun}
    (waiting : world'.retries caller = some loaded) :
    world.retries caller = some loaded ∨
      (world'.db = world.db ∧ ∃ runId, prepareRetry world.db runId = .ok loaded) := by
  cases step with
  | createProject | createRun | createFailed | enqueue => exact Or.inl waiting
  | dequeue | deliver | unknown | claim | claimMissed => exact Or.inl waiting
  | execute | vanished | persist | persistRaised => exact Or.inl waiting
  | retryRead other runId read free prepared =>
      rcases setRetry_pending waiting with new | old
      · obtain rfl := Option.some.inj new
        exact Or.inr ⟨rfl, runId, prepared⟩
      · exact Or.inl old
  | retryWrite | retryConflict | retryFailed =>
      rcases setRetry_pending waiting with new | old
      · cases new
      · exact Or.inl old

theorem step_commit (valid : Valid world) (step : Step accepts world world') :
    world'.db = world.db ∨ Commit world.db world'.db := by
  rcases simulates world world' valid step with same | txn
  · exact Or.inl same
  · exact txn.commit valid.consistent

theorem valid_step (valid : Valid world) (step : Step accepts world world') : Valid world' := by
  have change := step_commit valid step
  constructor
  · rcases change with same | commit
    · rw [same]
      exact valid.consistent
    · exact commit_consistent valid.consistent commit
  · intro caller loaded waiting
    rcases step_retries step waiting with old | ⟨same, runId, prepared⟩
    · exact (valid.retries caller loaded old).unchanged_or_commit valid.consistent change
    · rw [same]
      exact Or.inl (prepareRetry_eq_ok prepared).2
  · intro worker runId attemptId holding
    rcases step_held step holding with old | owns
    · exact (valid.workers worker runId attemptId old).commit change
    · exact owns.commit change

theorem valid_reached (reached : ReflTransGen (Step accepts) empty world) : Valid world :=
  Transition.invariant valid_empty (fun _ _ valid step => valid_step valid step) reached

theorem history_reached (reached : ReflTransGen (Step accepts) empty world) :
    ReflTransGen (Txn accepts) .empty world.db :=
  simulates.run (fun _ _ valid step => valid_step valid step) valid_empty reached

/-- In every committed state each run has the values of the attempt it points to. -/
theorem run_mirrors_current_attempt (reached : ReflTransGen (Step accepts) empty world)
    (run : Run) (row : run ∈ world.db.runs.rows) :
    ∃ attempt, selectCurrentAttempt world.db run = some attempt ∧
      run.toSnapshot.load = attempt.toSnapshot.load := by
  have history := history_reached reached
  obtain ⟨past, current, lineage⟩ := (history_consistent history).lineage run row
  exact ⟨current, lineage.selectCurrentAttempt,
    history_mirrored history run row current lineage.current_mem.1 lineage.pointer⟩

theorem run_mirrors_claimed_attempt :
    ∃ world, ReflTransGen (Step (fun _ => true)) empty world ∧ ∃ run ∈ world.db.runs.rows,
      run.status = .running ∧ ∃ attempt, selectCurrentAttempt world.db run = some attempt ∧
        run.toSnapshot.load = attempt.toSnapshot.load := by
  obtain ⟨world, run, runRow, present, running⟩ : ∃ world,
      ReflTransGen (Step (fun _ => true)) empty world ∧
        ∃ run ∈ world.db.runs.rows, run.status = .running := by
    refine Transition.reach _ (.createProject "evals" none 0) ?_
    refine Transition.reach _ (.createRun ⟨1, "evals", none, 0⟩ sampleNew 0 0 rfl) ?_
    refine Transition.reach _ (.deliver 0 1 rfl) ?_
    refine Transition.reach _ (.claim 0 1 (newAttempt 1 1 1 0) 1 sampleClaimed rfl rfl rfl) ?_
    exact Transition.reached
      ⟨({ sampleNew.row 1 0 with currentAttemptId := some 1 } : Run).start 1,
        List.mem_singleton.mpr rfl, rfl⟩
  exact ⟨world, run, runRow, present, running, run_mirrors_current_attempt run runRow present⟩

end World

end Evalynx
