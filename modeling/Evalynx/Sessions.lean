import Evalynx.Statements

/-! What every call knows about the committed tables while it is between two statements. -/

namespace Evalynx

open Relational Relation

/-- `moved` is the attempt whose row the step replaces, `freshRun` and `fresh` are what it adds. -/
structure Effect (db db' : Database) (moved freshRun : Option Nat) (fresh : Option RunAttempt) :
    Prop where
  commit : db' = db ∨ Commit db db'
  kept : ∀ attempt ∈ db.attempts.rows, some attempt.id ≠ moved → attempt ∈ db'.attempts.rows
  origin : ∀ row ∈ db'.attempts.rows,
    (∃ old ∈ db.attempts.rows, LaterVersion old row) ∨ some row = fresh
  runOrigin : ∀ run ∈ db'.runs.rows,
    (∃ old ∈ db.runs.rows, old.id = run.id) ∨ some run.id = freshRun
  attemptKeys : db.attempts.next ≤ db'.attempts.next
  runKeys : db.runs.next ≤ db'.runs.next

theorem Effect.refl (db : Database) : Effect db db none none none where
  commit := Or.inl rfl
  kept := fun _ member _ => member
  origin := fun row member => Or.inl ⟨row, member, .refl row⟩
  runOrigin := fun run member => Or.inl ⟨run, member, rfl⟩
  attemptKeys := Nat.le_refl _
  runKeys := Nat.le_refl _

theorem effect_loseKeys (db : Database) (runs attempts : Nat) :
    Effect db (loseKeys db runs attempts) none none none where
  commit := Or.inr (.keysLost runs attempts)
  kept := fun _ member _ => member
  origin := fun row member => Or.inl ⟨row, member, .refl row⟩
  runOrigin := fun run member => Or.inl ⟨run, member, rfl⟩
  attemptKeys := Nat.le_add_right _ _
  runKeys := Nat.le_add_right _ _

theorem effect_insertProject (db : Database) (name : String) (description : Option String)
    (createdAt : Timestamp) :
    Effect db (insertProject db name description createdAt) none none none where
  commit := Or.inr (.project _)
  kept := fun _ member _ => member
  origin := fun row member => Or.inl ⟨row, member, .refl row⟩
  runOrigin := fun run member => Or.inl ⟨run, member, rfl⟩
  attemptKeys := Nat.le_refl _
  runKeys := Nat.le_refl _

section Effect

variable {db db' : Database} {moved freshRun : Option Nat} {fresh : Option RunAttempt}

theorem Effect.consistent (effect : Effect db db' moved freshRun fresh)
    (consistent : Consistent db) : Consistent db' := by
  rcases effect.commit with rfl | commit
  · exact consistent
  · exact commit_consistent consistent commit

theorem Effect.attempt_row (effect : Effect db db' moved freshRun fresh) {attempt : RunAttempt}
    (member : attempt ∈ db.attempts.rows) :
    ∃ later ∈ db'.attempts.rows, LaterVersion attempt later := by
  rcases effect.commit with rfl | commit
  · exact ⟨attempt, member, .refl attempt⟩
  · exact commit.attempt_row member

theorem Effect.run_change (effect : Effect db db' moved freshRun fresh)
    (consistent : Consistent db) {run : Run} (member : run ∈ db.runs.rows) :
    RunChange db db' run := by
  rcases effect.commit with rfl | commit
  · exact .untouched member rfl
  · exact commit.run_change consistent member

theorem Effect.violates (effect : Effect db db' moved freshRun fresh) {runId attemptNumber : Nat}
    (taken : violatesUniqueNumber db.attempts.rows runId attemptNumber = true) :
    violatesUniqueNumber db'.attempts.rows runId attemptNumber = true := by
  rcases effect.commit with rfl | commit
  · exact taken
  · exact commit.violates taken

theorem Effect.unused (effect : Effect db db' moved freshRun fresh) {id : Nat}
    (unused : db.attempts.get? id = none) (other : ∀ row, fresh = some row → row.id ≠ id) :
    db'.attempts.get? id = none := by
  rw [Table.get?_eq_none] at unused ⊢
  intro row member
  rcases effect.origin row member with ⟨old, present, version⟩ | added
  · rw [rowId_attempt, version.id]
    exact unused old present
  · exact other row added.symm

theorem Effect.runUnused (effect : Effect db db' moved freshRun fresh) {id : Nat}
    (unused : db.runs.get? id = none) (other : freshRun ≠ some id) : db'.runs.get? id = none := by
  rw [Table.get?_eq_none] at unused ⊢
  intro run member same
  rcases effect.runOrigin run member with ⟨old, present, key⟩ | added
  · exact unused old present (key.trans same)
  · exact other (added.symm.trans (congrArg some same))

theorem Effect.free (effect : Effect db db' moved freshRun fresh) {runId attemptNumber : Nat}
    (free : violatesUniqueNumber db.attempts.rows runId attemptNumber = false)
    (other : ∀ row, fresh = some row → (row.runId, row.attemptNumber) ≠ (runId, attemptNumber)) :
    violatesUniqueNumber db'.attempts.rows runId attemptNumber = false := by
  rw [← Bool.not_eq_true, violatesUniqueNumber_iff] at free ⊢
  intro taken
  obtain ⟨row, member, owner, number⟩ := taken
  rcases effect.origin row member with ⟨old, present, version⟩ | added
  · exact free ⟨old, present, version.runId.symm.trans owner,
      version.attemptNumber.symm.trans number⟩
  · exact other row added.symm (Prod.ext owner number)

end Effect

def CallPhase.owns : CallPhase → Option (Nat × Nat)
  | .idle | .selected _ _ | .done => none
  | .attemptClaimed runId attemptId _ _ | .runMissed runId attemptId
  | .runClaimed runId attemptId _ _ | .claimed runId attemptId | .executing runId attemptId
  | .finished runId attemptId _ _ | .attemptPersisted runId attemptId _ _ _
  | .runPersisted runId attemptId _ _ _ | .abandoned runId attemptId _ => some (runId, attemptId)

theorem CallPhase.owns_of_owes {phase : CallPhase} {runId attemptId : Nat} {entered : Bool}
    (owes : phase.owes = some (runId, attemptId, entered)) : phase.owns = some (runId, attemptId) := by
  cases phase <;> simp_all [CallPhase.owes, CallPhase.owns]

structure Holds (db : Database) (runId attemptId : Nat) (attempt : RunAttempt) (run : Run) : Prop where
  attemptFound : db.attempts.get? attemptId = some attempt
  runFound : db.runs.get? runId = some run
  owner : attempt.runId = runId
  pointer : run.currentAttemptId = some attemptId
  status : run.status = attempt.status

theorem Consistent.holds {db : Database} (consistent : Consistent db) {runId attemptId : Nat}
    {attempt : RunAttempt} (found : db.attempts.get? attemptId = some attempt)
    (owner : attempt.runId = runId) (alive : attempt.status ≠ .failed) :
    ∃ run, Holds db runId attemptId attempt run := by
  obtain ⟨run, past, current, runFound, lineage⟩ := consistent.of_attempt (Table.get?_mem found)
  have key : run.id = attempt.runId := Table.get?_id runFound
  have last : attempt = current :=
    lineage.eq_current_of_not_failed (Table.get?_mem found) key.symm alive
  subst last
  obtain rfl : attempt.id = attemptId := Table.get?_id found
  exact ⟨run, found, owner ▸ runFound, owner, lineage.pointer, lineage.status⟩

theorem Holds.lineage {db : Database} (consistent : Consistent db) {runId attemptId : Nat}
    {attempt : RunAttempt} {run : Run} (holds : Holds db runId attemptId attempt run) :
    ∃ past, Lineage db run past attempt := by
  obtain ⟨past, current, lineage⟩ := consistent.of_run holds.runFound
  have key : attempt.id = attemptId := Table.get?_id holds.attemptFound
  have last : attempt = current :=
    lineage.current_unique (key ▸ holds.attemptFound) (key ▸ holds.pointer)
  subst last
  exact ⟨past, lineage⟩

theorem Holds.effect {db db' : Database} {moved freshRun : Option Nat} {fresh : Option RunAttempt}
    (effect : Effect db db' moved freshRun fresh) (consistent : Consistent db)
    {runId attemptId : Nat} {attempt : RunAttempt} {run : Run}
    (holds : Holds db runId attemptId attempt run) (alive : attempt.status ≠ .failed)
    (other : moved ≠ some attemptId) : Holds db' runId attemptId attempt run := by
  obtain ⟨past, lineage⟩ := holds.lineage consistent
  have key : attempt.id = attemptId := Table.get?_id holds.attemptFound
  have runKey : run.id = runId := Table.get?_id holds.runFound
  have row : attempt ∈ db'.attempts.rows := by
    apply effect.kept attempt (Table.get?_mem holds.attemptFound)
    rw [key]
    exact other.symm
  have attemptFound : db'.attempts.get? attemptId = some attempt := key ▸ Table.get?_of_mem row
  cases effect.run_change consistent (Table.get?_mem holds.runFound) with
  | untouched runRow attempts =>
      exact ⟨attemptFound, runKey ▸ Table.get?_of_mem runRow, holds.owner, holds.pointer,
        holds.status⟩
  | advanced later laterRow id pointer progress =>
      obtain ⟨laterPast, laterCurrent, laterLineage⟩ :=
        (effect.consistent consistent).lineage later laterRow
      obtain rfl := laterLineage.current_unique (key ▸ attemptFound)
        (pointer.trans (key ▸ holds.pointer))
      rw [holds.status, laterLineage.status] at progress
      rcases progress with ⟨before, after⟩ | ⟨before, after⟩
      · rw [before] at after
        cases after
      · rw [before] at after
        cases after
  | retried later current fresh _ _ _ currentRow pointer failed =>
      obtain rfl := lineage.current_unique (Table.get?_of_mem currentRow) pointer
      exact absurd failed alive

/-- What a call knows of the committed rows it owns, and of the versions it has yet to commit. -/
def PhaseFact : CallPhase → RunAttempt → Run → Prop
  | .idle, _, _ | .selected _ _, _, _ | .done, _, _ => True
  | .attemptClaimed _ _ now row, attempt, _ => attempt.status = .queued ∧ row = attempt.start now
  | .runMissed _ _, _, _ => False
  | .runClaimed _ _ row runRow, attempt, run =>
      attempt.status = .queued ∧ ∃ now, row = attempt.start now ∧ runRow = run.start now
  | .claimed _ _, attempt, _ | .executing _ _, attempt, _ | .finished _ _ _ _, attempt, _
  | .abandoned _ _ _, attempt, _ => attempt.status = .running
  | .attemptPersisted _ _ _ values row, attempt, _ =>
      attempt.status = .running ∧ values.status.terminal = true ∧ row = attempt.finish values
  | .runPersisted _ _ _ row runRow, attempt, run =>
      attempt.status = .running ∧ ∃ values, values.status.terminal = true ∧
        row = attempt.finish values ∧ runRow = some (run.finish values)

structure CallFact (db : Database) (phase : CallPhase) : Prop where
  selected : ∀ runId attemptId, phase = .selected runId attemptId → World.Owns db runId attemptId
  owned : ∀ runId attemptId, phase.owns = some (runId, attemptId) →
    ∃ attempt run, Holds db runId attemptId attempt run ∧ PhaseFact phase attempt run

theorem PhaseFact.alive {phase : CallPhase} {attempt : RunAttempt} {run : Run}
    {claim : Nat × Nat} (fact : PhaseFact phase attempt run) (owns : phase.owns = some claim) :
    attempt.status = .queued ∨ attempt.status = .running := by
  cases phase <;> simp_all [PhaseFact, CallPhase.owns]

theorem PhaseFact.running {phase : CallPhase} {attempt : RunAttempt} {run : Run}
    {claim : Nat × Nat × Bool} (fact : PhaseFact phase attempt run)
    (owes : phase.owes = some claim) : attempt.status = .running := by
  cases phase <;> simp_all [PhaseFact, CallPhase.owes]

theorem callFact_of_owns {db : Database} {phase : CallPhase} {runId attemptId : Nat}
    {attempt : RunAttempt} {run : Run} (owns : phase.owns = some (runId, attemptId))
    (holds : Holds db runId attemptId attempt run) (fact : PhaseFact phase attempt run) :
    CallFact db phase where
  selected := by
    intro runId attemptId same
    rw [same] at owns
    cases owns
  owned := by
    intro otherRun otherAttempt same
    rw [owns] at same
    obtain ⟨rfl, rfl⟩ := Prod.mk.inj (Option.some.inj same)
    exact ⟨attempt, run, holds, fact⟩

theorem callFact_done (db : Database) : CallFact db .done where
  selected := by
    intro runId attemptId same
    cases same
  owned := by
    intro runId attemptId same
    cases same

theorem CallFact.effect {db db' : Database} {moved freshRun : Option Nat}
    {fresh : Option RunAttempt} (effect : Effect db db' moved freshRun fresh)
    (consistent : Consistent db) {phase : CallPhase} (fact : CallFact db phase)
    (other : ∀ runId attemptId, phase.owns = some (runId, attemptId) → moved ≠ some attemptId) :
    CallFact db' phase where
  selected := by
    intro runId attemptId same
    exact (fact.selected runId attemptId same).commit effect.commit
  owned := by
    intro runId attemptId owns
    obtain ⟨attempt, run, holds, phaseFact⟩ := fact.owned runId attemptId owns
    have alive : attempt.status ≠ .failed := by
      rcases phaseFact.alive owns with status | status <;> simp [status]
    exact ⟨attempt, run, holds.effect effect consistent alive (other runId attemptId owns),
      phaseFact⟩

theorem CallFact.step {accepts : TerminalValues → Bool} {db : Database} {locks : Locks}
    {phase phase' : CallPhase} (consistent : Consistent db) (fact : CallFact db phase)
    (step : CallStep accepts db locks phase phase') : CallFact db phase' := by
  cases step with
  | unknown attemptId missing => exact callFact_done db
  | select attempt found =>
      constructor
      · intro runId attemptId same
        obtain ⟨rfl, rfl⟩ := CallPhase.selected.inj same
        exact ⟨attempt, found, rfl⟩
      · intro runId attemptId owns
        cases owns
  | claimAttempt runId attemptId now attempt free found matched =>
      obtain ⟨row, rowFound, owner⟩ := fact.selected runId attemptId rfl
      rw [found] at rowFound
      obtain rfl := Option.some.inj rowFound
      have queued : attempt.status = .queued := by simpa [RunAttempt.isQueued] using matched
      obtain ⟨run, holds⟩ := consistent.holds found owner (by simp [queued])
      exact callFact_of_owns rfl holds ⟨queued, rfl⟩
  | claimAttemptMissed runId attemptId missed => exact callFact_done db
  | claimRun runId attemptId now row run free found matched =>
      obtain ⟨attempt, holder, holds, queued, rowEq⟩ := fact.owned runId attemptId rfl
      have runFound := holds.runFound
      rw [found] at runFound
      obtain rfl := Option.some.inj runFound
      exact callFact_of_owns rfl holds ⟨queued, now, rowEq, rfl⟩
  | claimRunMissed runId attemptId now row missed =>
      obtain ⟨attempt, run, holds, queued, _⟩ := fact.owned runId attemptId rfl
      have other := missed run holds.runFound
      simp [Run.isQueuedFor, holds.pointer, holds.status, queued] at other
  | claimRolledBack phase claiming => exact callFact_done db
  | vanished | runnerMissing | leave | persistAttemptMissed =>
      obtain ⟨attempt, holder, holds, running⟩ := fact.owned _ _ rfl
      exact callFact_of_owns rfl holds running
  | persistAttempt runId attemptId entered result now row free taken found matched =>
      obtain ⟨attempt, holder, holds, running⟩ := fact.owned runId attemptId rfl
      have attemptFound := holds.attemptFound
      rw [found] at attemptFound
      obtain rfl := Option.some.inj attemptFound
      exact callFact_of_owns rfl holds ⟨running, terminalStatus_terminal result, rfl⟩
  | persistRun runId attemptId entered values row run free found matched =>
      obtain ⟨attempt, holder, holds, running, terminal, rowEq⟩ := fact.owned runId attemptId rfl
      have runFound := holds.runFound
      rw [found] at runFound
      obtain rfl := Option.some.inj runFound
      exact callFact_of_owns rfl holds ⟨running, values, terminal, rowEq, rfl⟩
  | persistRunMissed runId attemptId entered values row missed =>
      obtain ⟨attempt, run, holds, _⟩ := fact.owned runId attemptId rfl
      have other := missed run holds.runFound
      simp [Run.isCurrent, holds.pointer] at other
  | abandoned phase runId attemptId entered owes =>
      obtain ⟨attempt, run, holds, phaseFact⟩ :=
        fact.owned runId attemptId (CallPhase.owns_of_owes owes)
      exact callFact_of_owns rfl holds (phaseFact.running owes)

theorem CallStep.won {accepts : TerminalValues → Bool} {db : Database} {locks : Locks}
    {phase phase' : CallPhase} (step : CallStep accepts db locks phase phase')
    {runId attemptId : Nat} (owns : phase'.owns = some (runId, attemptId)) :
    phase.owns = some (runId, attemptId) ∨
      (¬ locks.attempt attemptId ∧ ∃ attempt, db.attempts.get? attemptId = some attempt ∧
        attempt.status = .queued) := by
  cases step with
  | claimAttempt _ _ now attempt free found matched =>
      obtain ⟨rfl, rfl⟩ := Prod.mk.inj (Option.some.inj owns)
      exact Or.inr ⟨free, attempt, found, by simpa [RunAttempt.isQueued] using matched⟩
  | abandoned _ _ _ entered owes =>
      left
      rw [← owns]
      exact CallPhase.owns_of_owes owes
  | unknown | select | claimAttemptMissed | claimRolledBack => cases owns
  | claimRun | claimRunMissed | vanished | runnerMissing | leave => exact Or.inl owns
  | persistAttempt | persistAttemptMissed | persistRun | persistRunMissed => exact Or.inl owns

theorem CallStep.not_claimed {accepts : TerminalValues → Bool} {db : Database} {locks : Locks}
    {phase phase' : CallPhase} (step : CallStep accepts db locks phase phase') {runId attemptId : Nat} :
    phase' ≠ .claimed runId attemptId := by
  cases step <;> simp

theorem CallFact.committed {db db' : Database} {phase phase' : CallPhase}
    (fact : CallFact db phase) (commit : CallCommit db phase phase' db') :
    ∃ runId attemptId attempt run attemptSnapshot runSnapshot,
      phase.owns = some (runId, attemptId) ∧ Holds db runId attemptId attempt run ∧
        Progress attempt.status attemptSnapshot.status ∧
        runSnapshot.status = attemptSnapshot.status ∧
        db' = { db with
          attempts := db.attempts.put { attempt with toSnapshot := attemptSnapshot }
          runs := db.runs.put { run with toSnapshot := runSnapshot } } ∧
        (phase' = .done ∨ (phase' = .claimed runId attemptId ∧ attempt.status = .queued ∧
          attemptSnapshot.status = .running)) := by
  cases commit with
  | claim runId attemptId row runRow =>
      obtain ⟨attempt, run, holds, queued, now, rfl, rfl⟩ := fact.owned runId attemptId rfl
      exact ⟨runId, attemptId, attempt, run, attempt.toSnapshot.start now, run.toSnapshot.start now,
        rfl, holds, Or.inl ⟨queued, rfl⟩, rfl, rfl, Or.inr ⟨rfl, queued, rfl⟩⟩
  | persist runId attemptId entered row runRow =>
      obtain ⟨attempt, run, holds, running, values, terminal, rfl, same⟩ :=
        fact.owned runId attemptId rfl
      obtain rfl := Option.some.inj same
      exact ⟨runId, attemptId, attempt, run, attempt.toSnapshot.finish values,
        run.toSnapshot.finish values, rfl, holds, Or.inr ⟨running, terminal⟩, rfl, rfl, Or.inl rfl⟩
  | persistWithoutRun runId attemptId entered row =>
      obtain ⟨attempt, run, _, _, values, _, _, same⟩ := fact.owned runId attemptId rfl
      cases same

theorem effect_advance {db : Database} {runId attemptId : Nat} {attempt : RunAttempt} {run : Run}
    (holds : Holds db runId attemptId attempt run) {attemptSnapshot runSnapshot : Snapshot}
    (progress : Progress attempt.status attemptSnapshot.status)
    (together : runSnapshot.status = attemptSnapshot.status) :
    Effect db { db with
      attempts := db.attempts.put { attempt with toSnapshot := attemptSnapshot }
      runs := db.runs.put { run with toSnapshot := runSnapshot } } (some attemptId) none none := by
  obtain ⟨attemptFound, runFound, owner, pointer, _⟩ := holds
  obtain rfl : attempt.id = attemptId := Table.get?_id attemptFound
  obtain rfl : run.id = runId := Table.get?_id runFound
  have rows := mem_putAttempt { attempt with toSnapshot := attemptSnapshot } attemptFound
  have runRows := mem_putRun { run with toSnapshot := runSnapshot } runFound
  constructor
  · exact Or.inr (.advanced run attempt _ _ runFound attemptFound pointer owner progress together)
  · intro other member different
    exact (rows other).mpr (Or.inr ⟨member, fun same => different (congrArg some same)⟩)
  · intro row member
    rcases (rows row).mp member with rfl | ⟨old, _⟩
    · exact Or.inl ⟨attempt, Table.get?_mem attemptFound, rfl, rfl, rfl, Or.inr progress⟩
    · exact Or.inl ⟨row, old, .refl row⟩
  · intro other member
    rcases (runRows other).mp member with rfl | ⟨old, _⟩
    · exact Or.inl ⟨run, Table.get?_mem runFound, rfl⟩
    · exact Or.inl ⟨other, old, rfl⟩
  · exact Nat.le_refl _
  · exact Nat.le_refl _

theorem holds_advance {db : Database} {runId attemptId : Nat} {attempt : RunAttempt} {run : Run}
    (holds : Holds db runId attemptId attempt run) {attemptSnapshot runSnapshot : Snapshot}
    (together : runSnapshot.status = attemptSnapshot.status) :
    Holds { db with
        attempts := db.attempts.put { attempt with toSnapshot := attemptSnapshot }
        runs := db.runs.put { run with toSnapshot := runSnapshot } }
      runId attemptId { attempt with toSnapshot := attemptSnapshot }
      { run with toSnapshot := runSnapshot } := by
  obtain ⟨attemptFound, runFound, owner, pointer, _⟩ := holds
  obtain rfl : attempt.id = attemptId := Table.get?_id attemptFound
  obtain rfl : run.id = runId := Table.get?_id runFound
  refine ⟨?_, ?_, owner, pointer, together⟩
  · exact Table.get?_put_self { attempt with toSnapshot := attemptSnapshot } attemptFound
  · exact Table.get?_put_self { run with toSnapshot := runSnapshot } runFound

end Evalynx
