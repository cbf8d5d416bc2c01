import Evalynx.Retrying
import Evalynx.RunDetail
import Evalynx.Schedules

/-! The tables as a book of runs, each tried until one attempt succeeds. -/

namespace Evalynx

open Relational Relation Retrying

def RunAttempt.stage (attempt : RunAttempt) : Stage RunAttemptRead :=
  match attempt.status with
  | .queued => .waiting
  | .running => .working
  | .succeeded => .done attempt.read
  | .failed => .failed attempt.read

def lifeOf (attempts : List RunAttempt) : Life RunAttemptRead where
  failures := attempts.dropLast.map RunAttempt.read
  stage := (attempts.getLast?.map RunAttempt.stage).getD .waiting

def Database.book (db : Database) : Book Nat RunAttemptRead := fun runId =>
  (db.runs.get? runId).map fun _ => lifeOf (selectAttempts db runId)

theorem lifeOf_concat (past : List RunAttempt) (current : RunAttempt) :
    lifeOf (past ++ [current]) = ⟨past.map RunAttempt.read, current.stage⟩ := by
  simp [lifeOf]

section Books

variable {db db' : Database}

theorem book_of_lineage {run : Run} {past : List RunAttempt} {current : RunAttempt}
    (found : db.runs.get? run.id = some run) (lineage : Lineage db run past current) :
    db.book run.id = some ⟨past.map RunAttempt.read, current.stage⟩ := by
  rw [Database.book, found, Option.map_some, lineage.selectAttempts_eq, lifeOf_concat]

theorem book_frame {runId : Nat}
    (present : (db'.runs.get? runId).isSome = (db.runs.get? runId).isSome)
    (same : db'.attemptRows runId = db.attemptRows runId) : db'.book runId = db.book runId := by
  have attempts : selectAttempts db' runId = selectAttempts db runId := by
    rw [selectAttempts, selectAttempts, same]
  cases found : db.runs.get? runId with
  | none =>
      rw [found] at present
      simp [Database.book, found, Option.not_isSome_iff_eq_none.mp (by simpa using present)]
  | some run =>
      rw [found] at present
      obtain ⟨later, foundLater⟩ := Option.isSome_iff_exists.mp present
      simp [Database.book, found, foundLater, attempts]

theorem book_update {runId : Nat} {life : Life RunAttemptRead} (mine : db'.book runId = some life)
    (others : ∀ other, other ≠ runId → db'.book other = db.book other) :
    db'.book = Function.update db.book runId (some life) := by
  funext other
  by_cases same : other = runId
  · subst same
    rw [Function.update_self, mine]
  · rw [Function.update_of_ne same, others other same]

theorem act_of_apply (action : Action Nat RunAttemptRead) {life : Life RunAttemptRead}
    (applied : action.apply (db.book action.subject) = some life)
    (mine : db'.book action.subject = some life)
    (others : ∀ other, other ≠ action.subject → db'.book other = db.book other) :
    db.book.act action = some db'.book :=
  Book.act_eq_some.mpr ⟨life, applied, book_update mine others⟩

theorem Consistent.unowned (consistent : Consistent db) {runId : Nat}
    (absent : db.runs.get? runId = none) : db.attemptRows runId = [] := by
  apply List.filter_eq_nil_iff.mpr
  intro attempt member owner
  obtain ⟨run, present, same⟩ := consistent.owned attempt member
  exact (db.runs.get?_eq_none runId).mp absent run present (same.trans (eq_of_beq owner))

theorem stage_initial {attempt : RunAttempt} (initial : attempt.toSnapshot = .initial) :
    attempt.stage = .waiting := by
  simp [RunAttempt.stage, initial, Snapshot.initial]

theorem book_founded (consistent : Consistent db) {run : Run} {attempt : RunAttempt}
    {runKeys attemptKeys : Nat} (initial : attempt.toSnapshot = .initial)
    (owner : attempt.runId = run.id) (runFresh : db.runs.get? run.id = none)
    (runReserved : run.id < db.runs.next + runKeys)
    (attemptFresh : db.attempts.get? attempt.id = none)
    (attemptReserved : attempt.id < db.attempts.next + attemptKeys) :
    db.book.act (.submit run.id) = some
      ({ db with
        runs := (db.runs.reserve runKeys).adopt run
        attempts := (db.attempts.reserve attemptKeys).adopt attempt } : Database).book := by
  have rows := Table.mem_adopt (db.runs.reserve runKeys) run runFresh runReserved
  apply act_of_apply (.submit run.id)
  · rw [Action.subject, Database.book, runFresh]
    rfl
  · have found : ((db.runs.reserve runKeys).adopt run).get? run.id = some run :=
      Table.get?_of_mem ((rows run).mpr (Or.inr rfl))
    rw [Action.subject, Database.book, found, Option.map_some, selectAttempts,
      attemptRows_adopt run.id attemptFresh attemptReserved, if_pos owner,
      consistent.unowned runFresh, List.nil_append]
    exact congrArg some (congrArg (Life.mk []) (stage_initial initial))
  · intro other different
    apply book_frame
    · have absent : (db.runs.reserve runKeys).get? run.id = none := runFresh
      exact congrArg Option.isSome (Table.get?_adopt_other absent runReserved different)
    · exact attemptRows_adopt_other attemptFresh attemptReserved (owner ▸ Ne.symm different)

theorem isSome_put (runs : Table Run) (run : Run) (id : Nat) :
    ((runs.put run).get? id).isSome = (runs.get? id).isSome := by
  rw [Table.get?_put]
  split <;> simp

theorem stage_started {attempt : RunAttempt} {snapshot : Snapshot}
    (queued : attempt.status = .queued) (running : snapshot.status = .running) (past : List RunAttemptRead) :
    Life.start ⟨past, attempt.stage⟩ =
      some ⟨past, ({ attempt with toSnapshot := snapshot } : RunAttempt).stage⟩ := by
  simp [RunAttempt.stage, queued, running, Life.start]

theorem stage_finished (attempt : RunAttempt) (snapshot : Snapshot) {success : Bool}
    (running : attempt.status = .running)
    (ended : snapshot.status = if success then .succeeded else .failed)
    (past : List RunAttemptRead) :
    Life.finish success ({ attempt with toSnapshot := snapshot } : RunAttempt).read
        ⟨past, attempt.stage⟩ =
      some ⟨past, ({ attempt with toSnapshot := snapshot } : RunAttempt).stage⟩ := by
  cases success <;> simp [RunAttempt.stage, running, ended, Life.finish]

theorem book_advanced (consistent : Consistent db) (run : Run) (attempt : RunAttempt)
    (attemptSnapshot runSnapshot : Snapshot) (runFound : db.runs.get? run.id = some run)
    (attemptFound : db.attempts.get? attempt.id = some attempt)
    (pointer : run.currentAttemptId = some attempt.id) (owner : attempt.runId = run.id)
    (together : runSnapshot.status = attemptSnapshot.status)
    (action : Action Nat RunAttemptRead) (subject : action.subject = run.id)
    (moves : ∀ past, action.apply (some ⟨past, attempt.stage⟩) =
      some ⟨past, ({ attempt with toSnapshot := attemptSnapshot } : RunAttempt).stage⟩) :
    db.book.act action = some
      ({ db with
        attempts := db.attempts.put { attempt with toSnapshot := attemptSnapshot }
        runs := db.runs.put { run with toSnapshot := runSnapshot } } : Database).book := by
  obtain ⟨past, current, lineage⟩ := consistent.of_run runFound
  obtain rfl := lineage.current_unique attemptFound pointer
  have foundLater := Table.get?_put_self ({ run with toSnapshot := runSnapshot } : Run) runFound
  have after := book_of_lineage foundLater (lineage.advance attemptSnapshot runSnapshot together)
  apply act_of_apply action
  · rw [subject, book_of_lineage runFound lineage]
    exact moves _
  · rw [subject]
    exact after
  · intro other different
    rw [subject] at different
    apply book_frame
    · exact isSome_put _ _ _
    · exact attemptRows_put_other { attempt with toSnapshot := attemptSnapshot } attemptFound rfl
        (owner ▸ Ne.symm different)

theorem book_retried (consistent : Consistent db) {run : Run} {current fresh : RunAttempt}
    (runSnapshot : Snapshot) {keys : Nat} (runFound : db.runs.get? run.id = some run)
    (currentFound : db.attempts.get? current.id = some current)
    (pointer : run.currentAttemptId = some current.id) (failed : current.status = .failed)
    (owner : fresh.runId = run.id) (initial : fresh.toSnapshot = .initial)
    (next : fresh.attemptNumber = (db.attemptRows run.id).length + 1)
    (newer : ∀ attempt ∈ db.attemptRows run.id, attempt.id < fresh.id)
    (unused : db.attempts.get? fresh.id = none) (reserved : fresh.id < db.attempts.next + keys)
    (queued : runSnapshot.status = .queued) :
    db.book.act (.retry run.id) = some
      ({ db with
        attempts := (db.attempts.reserve keys).adopt fresh
        runs := db.runs.put
          { run with toSnapshot := runSnapshot, currentAttemptId := some fresh.id } } :
        Database).book := by
  obtain ⟨past, last, lineage⟩ := consistent.of_run runFound
  obtain rfl := lineage.current_unique currentFound pointer
  have foundLater := Table.get?_put_self
    ({ run with toSnapshot := runSnapshot, currentAttemptId := some fresh.id } : Run) runFound
  have after := book_of_lineage foundLater
    (lineage.retry fresh runSnapshot keys failed owner initial next newer unused reserved queued)
  apply act_of_apply (.retry run.id) _ after
  · intro other different
    apply book_frame
    · exact isSome_put _ _ _
    · exact attemptRows_adopt_other unused reserved (owner ▸ Ne.symm different)
  · rw [Action.subject, book_of_lineage runFound lineage]
    simp [Action.apply, Life.retry, RunAttempt.stage, failed, initial, Snapshot.initial]

theorem terminal_cases {status : RunStatus} (terminal : status.terminal = true) :
    ∃ success : Bool, status = if success then .succeeded else .failed := by
  cases status with
  | queued | running => cases terminal
  | succeeded => exact ⟨true, rfl⟩
  | failed => exact ⟨false, rfl⟩

theorem Commit.book (consistent : Consistent db) (commit : Commit db db') :
    db'.book = db.book ∨ Advances db.book db'.book := by
  cases commit with
  | project projects => exact Or.inl rfl
  | keysLost runs attempts => exact Or.inl rfl
  | founded run attempt runKeys attemptKeys runInitial attemptInitial owner first pointer runFresh
      runReserved attemptFresh attemptReserved =>
      exact Or.inr ⟨.submit run.id, book_founded consistent attemptInitial owner runFresh
        runReserved attemptFresh attemptReserved⟩
  | advanced run attempt attemptSnapshot runSnapshot runFound attemptFound pointer owner progress
      together =>
      right
      rcases progress with ⟨queued, running⟩ | ⟨running, terminal⟩
      · exact ⟨.start run.id, book_advanced consistent run attempt attemptSnapshot runSnapshot
          runFound attemptFound pointer owner together (.start run.id) rfl
          (stage_started queued running)⟩
      · obtain ⟨success, ended⟩ : ∃ success : Bool,
            attemptSnapshot.status = if success then .succeeded else .failed :=
          terminal_cases terminal
        exact ⟨.finish run.id success _, book_advanced consistent run attempt attemptSnapshot
          runSnapshot runFound attemptFound pointer owner together (.finish run.id success _) rfl
          (stage_finished attempt attemptSnapshot running ended)⟩
  | retried run current fresh runSnapshot keys runFound currentFound pointer failed owner initial
      next newer unused reserved queued =>
      exact Or.inr ⟨.retry run.id, book_retried consistent runSnapshot runFound currentFound pointer
        failed owner initial next newer unused reserved queued⟩

end Books

section Histories

variable {accepts : TerminalValues → Bool}

theorem Txn.book {db db' : Database} (consistent : Consistent db) (txn : Txn accepts db db') :
    db'.book = db.book ∨ Advances db.book db'.book := by
  rcases txn.commit consistent with rfl | commit
  · exact Or.inl rfl
  · exact commit.book consistent

theorem book_history {db later : Database} (consistent : Consistent db)
    (more : ReflTransGen (Txn accepts) db later) : ReflTransGen Advances db.book later.book :=
  Transition.Simulates.run (fun _ _ here txn => txn.book here)
    (fun _ _ here txn => txn.consistent here) consistent more

/-- Whatever the statements of all sessions are interleaved to, what they commit is a history of
the book. -/
theorem Sessions.refines_book {allowed : Schedule} (settles : Settles allowed)
    {sessions later : Sessions} (reached : ReflTransGen (Step accepts allowed) empty sessions)
    (more : ReflTransGen (Step accepts allowed) sessions later) :
    ReflTransGen Advances sessions.db.book later.db.book := by
  have simulates : Transition.Simulates (Step accepts allowed) Advances Valid
      (fun sessions => sessions.db.book) := by
    intro before after valid step
    rcases step_commit valid step with same | commit
    · exact Or.inl (congrArg Database.book same)
    · exact commit.book valid.consistent
  exact simulates.run (fun _ _ valid step => valid_step settles valid step)
    (valid_reached settles reached) more

theorem Sessions.refines_book_failed :
    ReflTransGen Advances Book.empty failedSessions.db.book ∧
      ∃ report, failedSessions.db.book 1 = some ⟨[], .failed report⟩ := by
  have run := Sessions.refines_book settles_snapshotReads .refl
    (failedSessions_reached (fun _ _ => by simp [snapshotReads]))
  exact ⟨run, _, rfl⟩

end Histories

end Evalynx
