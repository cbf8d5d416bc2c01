import Evalynx.Mirror

/-! `GET /runs/{id}` while transactions commit between its SELECTs. -/

namespace Evalynx

open Relational Relation Transition

inductive Write where
  | retry (runId : Nat)
  | claim (attemptId : Nat)
  | persist (attemptId : Nat)
  | elsewhere
  deriving DecidableEq

/-- The transactions of `Txn` with what they write. A persist that finds its attempt not running
writes nothing. -/
inductive Wrote (accepts : TerminalValues → Bool) : Write → Database → Database → Prop where
  | createProject {db : Database} (name : String) (description : Option String)
      (createdAt : Timestamp) :
      Wrote accepts .elsewhere db (insertProject db name description createdAt)
  | createRun {db : Database} (project : Project) (new : NewRun)
      (runCreatedAt attemptCreatedAt : Timestamp)
      (found : db.projects.get? new.projectId = some project) :
      Wrote accepts .elsewhere db (insertRun db new runCreatedAt attemptCreatedAt).1
  | retryRun {db : Database} (runId : Nat) (loaded : LoadedRun) (now : Timestamp)
      (written : Database) (attemptId : Nat) (seen : loadRun db runId = some loaded)
      (allowed : retryAllowed loaded = true)
      (inserted : insertRetry db loaded now = some (written, attemptId)) :
      Wrote accepts (.retry runId) db written
  | claim {db : Database} (attempt : RunAttempt) (now : Timestamp) (claimed : Database)
      (found : db.attempts.get? attempt.id = some attempt)
      (success : claimAttempt db attempt.runId attempt.id now = some claimed) :
      Wrote accepts (.claim attempt.id) db claimed
  | persist {db : Database} (attempt : RunAttempt) (result : RunnerResult) (now : Timestamp)
      (persisted : Database) (found : db.attempts.get? attempt.id = some attempt)
      (running : attempt.status = .running)
      (success :
        persistTerminalResult accepts db attempt.runId attempt.id result now = some persisted) :
      Wrote accepts (.persist attempt.id) db persisted
  | missed {db : Database} : Wrote accepts .elsewhere db db
  | rollback {db : Database} (runs attempts : Nat) :
      Wrote accepts .elsewhere db (loseKeys db runs attempts)

section Writes

variable {accepts : TerminalValues → Bool} {db db' : Database} {write : Write}

theorem Txn.wrote (txn : Txn accepts db db') : ∃ write, Wrote accepts write db db' := by
  cases txn with
  | createProject name description createdAt =>
      exact ⟨_, .createProject name description createdAt⟩
  | createRun project new runCreatedAt attemptCreatedAt found =>
      exact ⟨_, .createRun project new runCreatedAt attemptCreatedAt found⟩
  | retryRun runId loaded now written attemptId seen allowed inserted =>
      exact ⟨_, .retryRun runId loaded now _ attemptId seen allowed inserted⟩
  | claim attempt now claimed found success => exact ⟨_, .claim attempt now _ found success⟩
  | persist attempt result now persisted found success =>
      by_cases running : attempt.status = .running
      · exact ⟨_, .persist attempt result now _ found running success⟩
      · rw [persist_skips found running success]
        exact ⟨_, .missed⟩
  | rollback runs attempts => exact ⟨_, .rollback runs attempts⟩

theorem Wrote.txn (wrote : Wrote accepts write db db') : db' = db ∨ Txn accepts db db' := by
  cases wrote with
  | createProject name description createdAt =>
      exact Or.inr (.createProject name description createdAt)
  | createRun project new runCreatedAt attemptCreatedAt found =>
      exact Or.inr (.createRun project new runCreatedAt attemptCreatedAt found)
  | retryRun runId loaded now written attemptId seen allowed inserted =>
      exact Or.inr (.retryRun runId loaded now _ attemptId seen allowed inserted)
  | claim attempt now claimed found success => exact Or.inr (.claim attempt now _ found success)
  | persist attempt result now persisted found running success =>
      exact Or.inr (.persist attempt result now _ found success)
  | missed => exact Or.inl rfl
  | rollback runs attempts => exact Or.inr (.rollback runs attempts)

theorem Wrote.consistent (wrote : Wrote accepts write db db') (consistent : Consistent db) :
    Consistent db' := by
  rcases wrote.txn with rfl | txn
  · exact consistent
  · exact txn.consistent consistent

theorem Txn.path (history : ReflTransGen (Txn accepts) db db') :
    ∃ log, Path (Wrote accepts) db log db' := by
  induction history with
  | refl => exact ⟨[], .refl⟩
  | tail _ last ih =>
      obtain ⟨log, path⟩ := ih
      obtain ⟨write, wrote⟩ := last.wrote
      exact ⟨_, path.tail wrote⟩

theorem Wrote.history {log : List Write} (path : Path (Wrote accepts) db log db') :
    ReflTransGen (Txn accepts) db db' := by
  induction path with
  | refl => exact .refl
  | tail _ last ih =>
      rcases last.txn with rfl | txn
      · exact ih
      · exact ih.tail txn

end Writes

inductive AttemptsChange (db db' : Database) : Write → Prop where
  | kept (rows : ∀ run ∈ db.runs.rows, db'.attemptRows run.id = db.attemptRows run.id)
      (same : ∀ id attempt, db.attempts.get? id = some attempt →
        db'.attempts.get? id = some attempt) :
      AttemptsChange db db' .elsewhere
  | added (fresh : RunAttempt) (unused : db.attempts.get? fresh.id = none)
      (reserved : fresh.id < db.attempts.next + 1)
      (attempts : db'.attempts = (db.attempts.reserve 1).adopt fresh) :
      AttemptsChange db db' (.retry fresh.runId)
  | advanced {write : Write} (attempt : RunAttempt) (snapshot : Snapshot)
      (named : write = .claim attempt.id ∨ write = .persist attempt.id)
      (found : db.attempts.get? attempt.id = some attempt)
      (progress : Progress attempt.status snapshot.status)
      (attempts : db'.attempts = db.attempts.put { attempt with toSnapshot := snapshot }) :
      AttemptsChange db db' write

def RunStatus.rank : RunStatus → Nat
  | .queued => 0
  | .running => 1
  | .succeeded | .failed => 2

theorem Progress.rank {before after : RunStatus} (progress : Progress before after) :
    after.rank = before.rank + 1 := by
  rcases progress with ⟨rfl, rfl⟩ | ⟨rfl, terminal⟩
  · rfl
  · cases after with
    | queued => cases terminal
    | running => cases terminal
    | succeeded => rfl
    | failed => rfl

section Changes

variable {accepts : TerminalValues → Bool} {db db' : Database} {write : Write}

theorem adopt_keeps {attempts : Table RunAttempt} {fresh : RunAttempt} {keys : Nat}
    (unused : attempts.get? fresh.id = none) (reserved : fresh.id < attempts.next + keys)
    {id : Nat} {attempt : RunAttempt} (found : attempts.get? id = some attempt) :
    ((attempts.reserve keys).adopt fresh).get? id = some attempt := by
  have rows := Table.mem_adopt (attempts.reserve keys) fresh unused reserved attempt
  rw [← Table.get?_id found]
  exact Table.get?_of_mem (rows.mpr (Or.inl (Table.get?_mem found)))

theorem Wrote.change (wrote : Wrote accepts write db db') (consistent : Consistent db) :
    AttemptsChange db db' write := by
  cases wrote with
  | createProject name description createdAt =>
      exact .kept (fun _ _ => rfl) (fun _ _ found => found)
  | missed => exact .kept (fun _ _ => rfl) (fun _ _ found => found)
  | rollback runs attempts => exact .kept (fun _ _ => rfl) (fun _ _ found => found)
  | createRun project new runCreatedAt attemptCreatedAt found =>
      have unused : db.attempts.get? db.attempts.next = none :=
        db.attempts.get?_next _ (Nat.le_refl _)
      apply AttemptsChange.kept
      · intro run member
        have foreign : db.runs.next ≠ run.id := Nat.ne_of_gt (db.runs.below run member)
        exact @attemptRows_adopt_other db _ (newAttempt db.attempts.next db.runs.next 1 _) 1 run.id unused
          (Nat.lt_succ_self _) foreign
      · intro id attempt present
        exact adopt_keeps unused (Nat.lt_succ_self _) present
  | retryRun runId loaded now written attemptId seen allowed inserted =>
      obtain ⟨run, past, current, rfl, -, -, -, rfl⟩ := retry_writes consistent seen allowed inserted
      exact .added (newAttempt db.attempts.next run.id (past.length + 2) now)
        (db.attempts.get?_next _ (Nat.le_refl _)) (Nat.lt_succ_self _) rfl
  | claim attempt now claimed found success =>
      obtain ⟨queued, run, -, -, -, rfl⟩ := claim_writes found success
      exact .advanced attempt (attempt.toSnapshot.start now) (Or.inl rfl) found
        (Or.inl ⟨queued, rfl⟩) rfl
  | persist attempt result now persisted found running success =>
      obtain ⟨run, past, -, -, -, rfl⟩ := persist_writes consistent found running success
      exact .advanced attempt (attempt.toSnapshot.finish (terminalValues result now)) (Or.inr rfl)
        found (Or.inr ⟨running, terminalStatus_terminal result⟩) rfl

theorem AttemptsChange.length (change : AttemptsChange db db' write) {run : Run}
    (member : run ∈ db.runs.rows) :
    (db'.attemptRows run.id).length =
      (db.attemptRows run.id).length + [write].count (.retry run.id) := by
  cases change with
  | kept rows same =>
      rw [rows run member]
      rfl
  | added fresh unused reserved attempts =>
      have rows := @attemptRows_adopt db db'.runs fresh 1 run.id unused reserved
      simp only [Database.attemptRows] at rows
      simp only [Database.attemptRows, attempts, rows, List.length_append]
      by_cases owner : fresh.runId = run.id
      · simp [owner]
      · simp [owner]
  | advanced attempt snapshot named found progress attempts =>
      have rows := @attemptRows_put db db'.runs { attempt with toSnapshot := snapshot } attempt run.id
        found rfl
      simp only [Database.attemptRows] at rows
      simp only [Database.attemptRows, attempts, rows, List.length_map]
      rcases named with rfl | rfl <;> rfl

structure Moved (attempt later : RunAttempt) (moves : Nat) : Prop where
  id : later.id = attempt.id
  runId : later.runId = attempt.runId
  attemptNumber : later.attemptNumber = attempt.attemptNumber
  rank : later.status.rank = attempt.status.rank + moves
  still : moves = 0 → later = attempt

theorem Moved.trans {attempt later last : RunAttempt} {moves more : Nat}
    (first : Moved attempt later moves) (second : Moved later last more) :
    Moved attempt last (moves + more) where
  id := second.id.trans first.id
  runId := second.runId.trans first.runId
  attemptNumber := second.attemptNumber.trans first.attemptNumber
  rank := by
    rw [second.rank, first.rank, Nat.add_assoc]
  still := by
    intro none
    have quiet : moves = 0 ∧ more = 0 := Nat.add_eq_zero_iff.mp none
    exact (second.still quiet.2).trans (first.still quiet.1)

def movesOf (log : List Write) (attemptId : Nat) : Nat :=
  log.count (.claim attemptId) + log.count (.persist attemptId)

theorem movesOf_append (log rest : List Write) (attemptId : Nat) :
    movesOf (log ++ rest) attemptId = movesOf log attemptId + movesOf rest attemptId := by
  simp only [movesOf, List.count_append]
  omega

theorem AttemptsChange.moved (change : AttemptsChange db db' write) {id : Nat} {attempt : RunAttempt}
    (present : db.attempts.get? id = some attempt) :
    ∃ later, db'.attempts.get? id = some later ∧ Moved attempt later (movesOf [write] id) := by
  cases change with
  | kept rows same => exact ⟨attempt, same id attempt present, rfl, rfl, rfl, rfl, fun _ => rfl⟩
  | added fresh unused reserved attempts =>
      have kept := adopt_keeps unused reserved present
      exact ⟨attempt, attempts ▸ kept, rfl, rfl, rfl, rfl, fun _ => rfl⟩
  | advanced changed snapshot named found progress attempts =>
      have versions := db.attempts.get?_put { changed with toSnapshot := snapshot } id
      by_cases same : id = changed.id
      · subst same
        obtain rfl : changed = attempt := Option.some.inj (found.symm.trans present)
        have once : movesOf [write] changed.id = 1 := by
          rcases named with rfl | rfl <;> simp [movesOf]
        rw [rowId_attempt, if_pos rfl, present, Option.map_some, ← attempts] at versions
        refine ⟨_, versions, rfl, rfl, rfl, ?_, ?_⟩
        · rw [once]
          exact progress.rank
        · rw [once]
          intro never
          cases never
      · have never : movesOf [write] id = 0 := by
          rcases named with rfl | rfl <;> simp [movesOf, Ne.symm same]
        rw [rowId_attempt, if_neg same, present] at versions
        exact ⟨attempt, attempts ▸ versions, rfl, rfl, rfl, never ▸ rfl, fun _ => rfl⟩

end Changes

section Histories

variable {accepts : TerminalValues → Bool} {db db' : Database} {log : List Write}

theorem path_moved (consistent : Consistent db) (path : Path (Wrote accepts) db log db') {id : Nat}
    {attempt : RunAttempt} (found : db.attempts.get? id = some attempt) :
    ∃ later, db'.attempts.get? id = some later ∧ Moved attempt later (movesOf log id) := by
  apply path.along
    (fun log state => ∃ later, state.attempts.get? id = some later ∧
      Moved attempt later (movesOf log id))
    consistent (fun _ _ _ here wrote => wrote.consistent here)
    ⟨attempt, found, rfl, rfl, rfl, rfl, fun _ => rfl⟩
  intro labels label state next here before wrote
  obtain ⟨version, present, moved⟩ := before
  obtain ⟨later, laterFound, again⟩ := (wrote.change here).moved present
  refine ⟨later, laterFound, ?_⟩
  rw [movesOf_append]
  exact moved.trans again

end Histories

/-! ### The response -/

def isOptionalDict : Json → Bool
  | .null | .obj _ => true
  | _ => false

def isOptionalDicts : Json → Bool
  | .null => true
  | .arr items => items.all fun | .obj _ => true | _ => false
  | _ => false

def isOptionalStrings : Json → Bool
  | .null => true
  | .arr items => items.all fun | .str _ => true | _ => false
  | _ => false

def LoadedSnapshot.wellTyped (loaded : LoadedSnapshot) : Bool :=
  isOptionalDict loaded.summary && isOptionalDict loaded.resultMetrics &&
    isOptionalDict loaded.resultExecution && isOptionalDicts loaded.resultArtifacts &&
    isOptionalStrings loaded.resultWarnings && isOptionalDict loaded.resultError

structure RunAttemptRead extends LoadedSnapshot where
  id : Nat
  attemptNumber : Nat
  createdAt : Timestamp

structure RunRead extends LoadedSnapshot where
  id : Nat
  projectId : Nat
  runnerType : String
  currentAttemptNumber : Option Nat
  attemptCount : Nat
  submittedConfig : JsonObject
  normalizedConfig : JsonObject
  configHash : String
  createdAt : Timestamp
  attempts : List RunAttemptRead

def RunAttempt.read (attempt : RunAttempt) : RunAttemptRead where
  toLoadedSnapshot := attempt.toSnapshot.load
  id := attempt.id
  attemptNumber := attempt.attemptNumber
  createdAt := attempt.createdAt

def LoadedRun.read (loaded : LoadedRun) : RunRead where
  toLoadedSnapshot := loaded.run.toSnapshot.load
  id := loaded.run.id
  projectId := loaded.run.projectId
  runnerType := loaded.run.runnerType
  currentAttemptNumber := loaded.currentAttemptNumber
  attemptCount := loaded.attemptCount
  submittedConfig := loaded.run.submittedConfig
  normalizedConfig := loaded.run.normalizedConfig
  configHash := loaded.run.configHash
  createdAt := loaded.run.createdAt
  attempts := loaded.attempts.map RunAttempt.read

def RunRead.wellTyped (read : RunRead) : Bool :=
  read.toLoadedSnapshot.wellTyped &&
    read.attempts.all fun attempt => attempt.toLoadedSnapshot.wellTyped

inductive ReadError where
  | notFound (detail : String)
  | validation

def RunRead.modelValidate (loaded : LoadedRun) : Except ReadError RunRead :=
  if loaded.read.wellTyped then .ok loaded.read else .error .validation

/-- The order of the two SELECTs that follow the one of the run is the ORM's choice. -/
inductive SelectOrder where
  | currentFirst
  | attemptsFirst

/-- A session keeps the instances it has loaded: a later SELECT of the same row does not change
them. -/
def identityMap (loaded : List RunAttempt) (row : RunAttempt) : RunAttempt :=
  (loaded.find? fun instance_ => instance_.id == row.id).getD row

def selectRun (order : SelectOrder) (first second third : Database) (runId : Nat) :
    Option LoadedRun :=
  (first.runs.get? runId).map fun run =>
    match order with
    | .currentFirst =>
        let currentAttempt := selectCurrentAttempt second run
        ⟨run, currentAttempt,
          (selectAttempts third run.id).map (identityMap currentAttempt.toList)⟩
    | .attemptsFirst =>
        let attempts := selectAttempts second run.id
        ⟨run, (selectCurrentAttempt third run).map (identityMap attempts), attempts⟩

theorem selectRun_quiet (order : SelectOrder) (db : Database) (runId : Nat) :
    selectRun order db db db runId = loadRun db runId := by
  have settled (loaded : List RunAttempt) (rows : ∀ held ∈ loaded, held ∈ db.attempts.rows)
      (row : RunAttempt) (member : row ∈ db.attempts.rows) : identityMap loaded row = row := by
    unfold identityMap
    cases held : loaded.find? (fun held => held.id == row.id) with
    | none => rfl
    | some other =>
        have key : other.id = row.id := by simpa using List.find?_some held
        exact Table.eq_of_mem (Table.get?_of_mem member)
          (rows other (List.mem_of_find?_eq_some held)) key
  have current (run : Run) (attempt : RunAttempt)
      (selected : selectCurrentAttempt db run = some attempt) : attempt ∈ db.attempts.rows := by
    obtain ⟨id, -, found⟩ := Option.bind_eq_some_iff.mp selected
    exact Table.get?_mem found
  have listed (id : Nat) (attempt : RunAttempt) (member : attempt ∈ selectAttempts db id) :
      attempt ∈ db.attempts.rows :=
    ((db.mem_attemptRows id attempt).mp ((mem_selectAttempts db id attempt).mp member)).1
  unfold selectRun loadRun
  congr 1
  funext run
  cases order with
  | currentFirst =>
      have same := List.map_congr_left (f := identityMap (selectCurrentAttempt db run).toList) (g := id)
        (fun row member => settled _ (fun held one => current run held (by simpa using one)) row
          (listed run.id row member))
      simp only [same, List.map_id]
  | attemptsFirst =>
      have same : (selectCurrentAttempt db run).map (identityMap (selectAttempts db run.id)) =
          selectCurrentAttempt db run := by
        cases selected : selectCurrentAttempt db run with
        | none => rfl
        | some attempt =>
            exact congrArg some (settled _ (listed run.id) attempt (current run attempt selected))
      simp only [same]

def getRun (order : SelectOrder) (first second third : Database) (runId : Nat) :
    Except ReadError RunRead :=
  match selectRun order first second third runId with
  | none => .error (.notFound s!"Run {runId} was not found.")
  | some loaded => RunRead.modelValidate loaded

section Reads

variable {accepts : TerminalValues → Bool} {first second third : Database}
  {between later : List Write}

theorem Moved.columns {attempt later : RunAttempt} {moves : Nat} (moved : Moved attempt later moves) :
    later.toSnapshot.load = attempt.toSnapshot.load ↔ moves = 0 := by
  constructor
  · intro same
    have status : later.status = attempt.status := congrArg LoadedSnapshot.status same
    have rank := moved.rank
    rw [status] at rank
    omega
  · intro none
    rw [moved.still none]

end Reads

end Evalynx
