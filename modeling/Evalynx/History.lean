import Evalynx.Transactions
import Evalynx.Transition

namespace Evalynx

open Relational Relation

structure StepLaw (db db' : Database) : Prop where
  moves : ∀ attempt ∈ db.attempts.rows, ∃ later ∈ db'.attempts.rows, later.id = attempt.id ∧
    (later.status = attempt.status ∨ Progress attempt.status later.status)
  pointer : ∀ run ∈ db.runs.rows, ∃ later ∈ db'.runs.rows, later.id = run.id ∧
    (later.currentAttemptId = run.currentAttemptId ∨
      ∃ attempt ∈ db.attempts.rows, run.currentAttemptId = some attempt.id ∧
        attempt.status = .failed)

structure HistoryLaw (db db' : Database) : Prop where
  kept : ∀ attempt ∈ db.attempts.rows, ∃ later ∈ db'.attempts.rows, later.id = attempt.id ∧
    ReflTransGen Progress attempt.status later.status
  terminal : ∀ attempt ∈ db.attempts.rows, attempt.status.terminal = true →
    attempt ∈ db'.attempts.rows
  succeeded : ∀ run ∈ db.runs.rows, run.status = .succeeded →
    run ∈ db'.runs.rows ∧ db'.attemptRows run.id = db.attemptRows run.id

theorem Progress.not_terminal {before after : RunStatus} (progress : Progress before after) :
    before.terminal = false := by
  rcases progress with ⟨rfl, _⟩ | ⟨rfl, _⟩ <;> rfl

/-- The same row later: its keys stay, its status may have moved. -/
structure LaterVersion (attempt later : RunAttempt) : Prop where
  id : later.id = attempt.id
  runId : later.runId = attempt.runId
  attemptNumber : later.attemptNumber = attempt.attemptNumber
  moved : later = attempt ∨ Progress attempt.status later.status

theorem LaterVersion.refl (attempt : RunAttempt) : LaterVersion attempt attempt :=
  ⟨rfl, rfl, rfl, Or.inl rfl⟩

theorem Commit.attempt_row {db db' : Database} (commit : Commit db db') {attempt : RunAttempt}
    (member : attempt ∈ db.attempts.rows) :
    ∃ later ∈ db'.attempts.rows, LaterVersion attempt later := by
  cases commit with
  | project projects => exact ⟨attempt, member, .refl attempt⟩
  | keysLost runs attempts => exact ⟨attempt, member, .refl attempt⟩
  | founded run fresh runKeys attemptKeys _ _ _ _ _ _ _ unused reserved =>
      have rows := Table.mem_adopt (db.attempts.reserve attemptKeys) fresh unused reserved
      exact ⟨attempt, (rows attempt).mpr (Or.inl member), .refl attempt⟩
  | advanced run moved attemptSnapshot runSnapshot _ found _ _ progress _ =>
      have rows := mem_putAttempt { moved with toSnapshot := attemptSnapshot } found
      by_cases same : attempt.id = moved.id
      · obtain rfl := Table.eq_of_mem found member same
        exact ⟨_, (rows _).mpr (Or.inl rfl), rfl, rfl, rfl, Or.inr progress⟩
      · exact ⟨attempt, (rows attempt).mpr (Or.inr ⟨member, same⟩), .refl attempt⟩
  | retried run current fresh runSnapshot attemptKeys _ _ _ _ _ _ _ _ unused reserved _ =>
      have rows := Table.mem_adopt (db.attempts.reserve attemptKeys) fresh unused reserved
      exact ⟨attempt, (rows attempt).mpr (Or.inl member), .refl attempt⟩

inductive RunChange (db db' : Database) (run : Run) : Prop where
  | untouched (row : run ∈ db'.runs.rows) (attempts : db'.attemptRows run.id = db.attemptRows run.id)
  | advanced (later : Run) (row : later ∈ db'.runs.rows) (id : later.id = run.id)
      (pointer : later.currentAttemptId = run.currentAttemptId)
      (progress : Progress run.status later.status)
  | retried (later : Run) (current fresh : RunAttempt) (row : later ∈ db'.runs.rows)
      (id : later.id = run.id) (queued : later.status = .queued)
      (currentRow : current ∈ db.attempts.rows) (pointer : run.currentAttemptId = some current.id)
      (failed : current.status = .failed) (freshRow : fresh ∈ db'.attempts.rows)
      (owner : fresh.runId = run.id)
      (number : fresh.attemptNumber = (db.attemptRows run.id).length + 1)

theorem Commit.run_change {db db' : Database} (consistent : Consistent db) (commit : Commit db db')
    {run : Run} (member : run ∈ db.runs.rows) : RunChange db db' run := by
  cases commit with
  | project projects => exact .untouched member rfl
  | keysLost runs attempts => exact .untouched member rfl
  | founded founded fresh runKeys attemptKeys _ _ owner _ _ runFresh runReserved unused reserved =>
      have runs := Table.mem_adopt (db.runs.reserve runKeys) founded runFresh runReserved
      have foreign : fresh.runId ≠ run.id := by
        intro same
        exact (db.runs.get?_eq_none founded.id).mp runFresh run member (same.symm.trans owner)
      exact .untouched ((runs run).mpr (Or.inl member))
        (attemptRows_adopt_other unused reserved foreign)
  | advanced changed moved attemptSnapshot runSnapshot runFound found pointer owner progress together =>
      have rows := mem_putRun { changed with toSnapshot := runSnapshot } runFound
      by_cases same : run.id = changed.id
      · obtain rfl := Table.eq_of_mem runFound member same
        obtain ⟨past, current, lineage⟩ := consistent.of_run runFound
        obtain rfl := lineage.current_unique found pointer
        refine .advanced _ ((rows _).mpr (Or.inl rfl)) rfl rfl ?_
        rw [lineage.status]
        exact together ▸ progress
      · have foreign : moved.runId ≠ run.id := fun equal => same (equal.symm.trans owner)
        exact .untouched ((rows run).mpr (Or.inr ⟨member, same⟩)) (attemptRows_put_other
          { moved with toSnapshot := attemptSnapshot } found rfl foreign)
  | retried changed current fresh runSnapshot attemptKeys runFound currentFound pointer failed owner _
      number newer unused reserved queued =>
      have rows := mem_putRun
        { changed with toSnapshot := runSnapshot, currentAttemptId := some fresh.id } runFound
      by_cases same : run.id = changed.id
      · obtain rfl := Table.eq_of_mem runFound member same
        have added := Table.mem_adopt (db.attempts.reserve attemptKeys) fresh unused reserved
        exact .retried _ current fresh ((rows _).mpr (Or.inl rfl)) rfl queued
          (Table.get?_mem currentFound) pointer failed ((added fresh).mpr (Or.inr rfl)) owner number
      · have foreign : fresh.runId ≠ run.id := fun equal => same (equal.symm.trans owner)
        exact .untouched ((rows run).mpr (Or.inr ⟨member, same⟩))
          (attemptRows_adopt_other unused reserved foreign)

theorem Lineage.failed_current {db : Database} {run : Run} {past : List RunAttempt}
    {current attempt : RunAttempt} (lineage : Lineage db run past current)
    (row : attempt ∈ db.attempts.rows) (pointer : run.currentAttemptId = some attempt.id)
    (failed : attempt.status = .failed) : run.status = .failed := by
  rw [lineage.status, ← lineage.current_unique (Table.get?_of_mem row) pointer]
  exact failed

theorem Commit.stepLaw {db db' : Database} (consistent : Consistent db) (commit : Commit db db') :
    StepLaw db db' where
  moves := by
    intro attempt member
    obtain ⟨later, row, version⟩ := commit.attempt_row member
    refine ⟨later, row, version.id, ?_⟩
    rcases version.moved with rfl | progress
    · exact Or.inl rfl
    · exact Or.inr progress
  pointer := by
    intro run member
    cases commit.run_change consistent member with
    | untouched row => exact ⟨run, row, rfl, Or.inl rfl⟩
    | advanced later row id pointer => exact ⟨later, row, id, Or.inl pointer⟩
    | retried later current fresh row id queued currentRow pointer failed =>
        exact ⟨later, row, id, Or.inr ⟨current, currentRow, pointer, failed⟩⟩

theorem StepLaw.refl (db : Database) : StepLaw db db where
  moves := fun attempt member => ⟨attempt, member, rfl, Or.inl rfl⟩
  pointer := fun run member => ⟨run, member, rfl, Or.inl rfl⟩

theorem Commit.historyLaw {db db' : Database} (consistent : Consistent db) (commit : Commit db db') :
    HistoryLaw db db' where
  kept := by
    intro attempt member
    obtain ⟨later, row, version⟩ := commit.attempt_row member
    refine ⟨later, row, version.id, ?_⟩
    rcases version.moved with rfl | progress
    · exact .refl
    · exact .single progress
  terminal := by
    intro attempt member terminal
    obtain ⟨later, row, version⟩ := commit.attempt_row member
    rcases version.moved with rfl | progress
    · exact row
    · rw [progress.not_terminal] at terminal
      cases terminal
  succeeded := by
    intro run member succeeded
    cases commit.run_change consistent member with
    | untouched row attempts => exact ⟨row, attempts⟩
    | advanced later row id pointer progress =>
        have running := progress.not_terminal
        rw [succeeded] at running
        cases running
    | retried later current fresh row id queued currentRow pointer failed =>
        obtain ⟨past, last, lineage⟩ := consistent.lineage run member
        have status := lineage.failed_current currentRow pointer failed
        rw [succeeded] at status
        cases status

theorem HistoryLaw.refl (db : Database) : HistoryLaw db db where
  kept := fun attempt member => ⟨attempt, member, rfl, .refl⟩
  terminal := fun _ member _ => member
  succeeded := fun _ member _ => ⟨member, rfl⟩

theorem HistoryLaw.trans {first second third : Database} (before : HistoryLaw first second)
    (after : HistoryLaw second third) : HistoryLaw first third where
  kept := by
    intro attempt member
    obtain ⟨middle, row, id, moved⟩ := before.kept attempt member
    obtain ⟨later, laterRow, laterId, laterMoved⟩ := after.kept middle row
    exact ⟨later, laterRow, laterId.trans id, moved.trans laterMoved⟩
  terminal := by
    intro attempt member terminal
    exact after.terminal attempt (before.terminal attempt member terminal) terminal
  succeeded := by
    intro run member succeeded
    obtain ⟨row, attempts⟩ := before.succeeded run member succeeded
    obtain ⟨laterRow, laterAttempts⟩ := after.succeeded run row succeeded
    exact ⟨laterRow, laterAttempts.trans attempts⟩

section Txn

variable {accepts : TerminalValues → Bool} {db db' : Database}

theorem Txn.stepLaw (consistent : Consistent db) (txn : Txn accepts db db') : StepLaw db db' := by
  rcases txn.commit consistent with rfl | commit
  · exact .refl db'
  · exact commit.stepLaw consistent

theorem Txn.historyLaw (consistent : Consistent db) (txn : Txn accepts db db') :
    HistoryLaw db db' := by
  rcases txn.commit consistent with rfl | commit
  · exact .refl db'
  · exact commit.historyLaw consistent

theorem history_consistent (history : ReflTransGen (Txn accepts) .empty db) : Consistent db :=
  Transition.invariant consistent_empty (fun _ _ consistent txn => txn.consistent consistent) history

/-- Every history of committed transactions only appends. -/
theorem history_appends (history : ReflTransGen (Txn accepts) .empty db) :
    (∀ run ∈ db.runs.rows, ∀ attempt ∈ db.attemptRows run.id,
        run.currentAttemptId ≠ some attempt.id → attempt.status = .failed) ∧
      (∀ next, Txn accepts db next → StepLaw db next) ∧
      (∀ later, ReflTransGen (Txn accepts) db later → HistoryLaw db later) := by
  have consistent := history_consistent history
  refine ⟨?_, ?_, ?_⟩
  · intro run member attempt row other
    obtain ⟨past, current, lineage⟩ := consistent.lineage run member
    by_contra alive
    obtain ⟨present, owner⟩ := (db.mem_attemptRows run.id attempt).mp row
    obtain rfl := lineage.eq_current_of_not_failed present owner alive
    exact other lineage.pointer
  · intro next txn
    exact txn.stepLaw consistent
  · intro later continued
    exact Transition.along HistoryLaw consistent (fun _ _ consistent txn => txn.consistent consistent)
      HistoryLaw.refl (fun _ _ _ => HistoryLaw.trans)
      (fun _ _ consistent txn => txn.historyLaw consistent) continued

end Txn

theorem history_appends_retried :
    (∀ run ∈ sampleRetried.runs.rows, ∀ attempt ∈ sampleRetried.attemptRows run.id,
        run.currentAttemptId ≠ some attempt.id → attempt.status = .failed) ∧
      (∀ next, Txn (fun _ => true) sampleRetried next → StepLaw sampleRetried next) ∧
      (∀ later, ReflTransGen (Txn (fun _ => true)) sampleRetried later →
        HistoryLaw sampleRetried later) :=
  history_appends sample_history

end Evalynx
