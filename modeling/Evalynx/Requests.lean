import Evalynx.Sessions

/-! What every request knows about the committed tables while it is between two statements. -/

namespace Evalynx

open Relational Relation

/-- The number is the next one of a run whose current attempt failed, and every attempt of the run
has a key below `bound`. -/
def Ready (db : Database) (runId attemptNumber bound : Nat) : Prop :=
  ∃ run past current, db.runs.get? runId = some run ∧ Lineage db run past current ∧
    current.status = .failed ∧ attemptNumber = past.length + 2 ∧
    ∀ attempt ∈ db.attemptRows runId, attempt.id < bound

def Sound (db : Database) (runId attemptNumber bound : Nat) : Prop :=
  violatesUniqueNumber db.attempts.rows runId attemptNumber = true ∨
    Ready db runId attemptNumber bound

section Effect

variable {db db' : Database} {moved freshRun : Option Nat} {fresh : Option RunAttempt}

theorem Ready.effect (effect : Effect db db' moved freshRun fresh) (consistent : Consistent db)
    {runId attemptNumber bound : Nat} (ready : Ready db runId attemptNumber bound) :
    violatesUniqueNumber db'.attempts.rows runId attemptNumber = true ∨
      (∀ run, db.runs.get? runId = some run → db'.runs.get? runId = some run) ∧
        Ready db' runId attemptNumber bound := by
  obtain ⟨run, past, current, found, lineage, failed, rfl, newer⟩ := ready
  obtain rfl : run.id = runId := Table.get?_id found
  cases effect.run_change consistent (Table.get?_mem found) with
  | untouched row attempts =>
      right
      have foundLater : db'.runs.get? run.id = some run := Table.get?_of_mem row
      constructor
      · intro other otherFound
        rw [found] at otherFound
        obtain rfl := Option.some.inj otherFound
        exact foundLater
      · refine ⟨run, past, current, foundLater, lineage.frame attempts, failed, rfl, ?_⟩
        rw [attempts]
        exact newer
  | advanced later row id pointer progress =>
      have running := progress.not_terminal
      rw [lineage.status, failed] at running
      cases running
  | retried later last fresh row id queued currentRow pointer currentFailed freshRow owner number =>
      left
      refine (violatesUniqueNumber_iff _ _ _).mpr ⟨fresh, freshRow, owner, ?_⟩
      rw [number, lineage.length]

theorem Sound.effect (effect : Effect db db' moved freshRun fresh) (consistent : Consistent db)
    {runId attemptNumber bound : Nat} (sound : Sound db runId attemptNumber bound) :
    Sound db' runId attemptNumber bound := by
  rcases sound with taken | ready
  · exact Or.inl (effect.violates taken)
  · rcases ready.effect effect consistent with taken | ⟨_, still⟩
    · exact Or.inl taken
    · exact Or.inr still

end Effect

theorem Sound.mono {db : Database} {runId attemptNumber bound bound' : Nat}
    (sound : Sound db runId attemptNumber bound) (larger : bound ≤ bound') :
    Sound db runId attemptNumber bound' := by
  rcases sound with taken | ⟨run, past, current, found, lineage, failed, number, newer⟩
  · exact Or.inl taken
  · refine Or.inr ⟨run, past, current, found, lineage, failed, number, ?_⟩
    intro attempt member
    exact Nat.lt_of_lt_of_le (newer attempt member) larger

def CurrentFailed (db : Database) (runId : Nat) : Prop :=
  ∀ run current, db.runs.get? runId = some run → selectCurrentAttempt db run = some current →
    current.status = .failed

theorem CurrentFailed.ready {db : Database} (consistent : Consistent db) {run : Run}
    (found : db.runs.get? run.id = some run) (settled : CurrentFailed db run.id) :
    Ready db run.id (nextAttemptNumber (selectAttempts db run.id)) db.attempts.next := by
  obtain ⟨past, current, lineage⟩ := consistent.of_run found
  refine ⟨run, past, current, found, lineage,
    settled run current found lineage.selectCurrentAttempt, lineage.nextAttemptNumber, ?_⟩
  intro attempt member
  exact db.attempts.below attempt ((db.mem_attemptRows run.id attempt).mp member).1

theorem prepareRetry_ready {db : Database} (consistent : Consistent db) {runId : Nat}
    {seen : LoadedRun} (prepared : prepareRetry db runId = .ok seen) :
    seen.run.status = .failed ∧ db.runs.get? seen.run.id = some seen.run ∧
      Ready db seen.run.id (nextAttemptNumber seen.attempts) db.attempts.next := by
  obtain ⟨-, allowed, loaded⟩ := prepareRetry_eq_ok prepared
  obtain ⟨run, found, key, same⟩ := loadRun_eq_some loaded
  obtain ⟨status, current, currentEq, failed⟩ := (retryAllowed_iff seen).mp allowed
  subst same
  refine ⟨status, found, CurrentFailed.ready consistent found ?_⟩
  intro other last otherFound selected
  have sameRun : other = run := Option.some.inj (otherFound.symm.trans found)
  have selectedHere : selectCurrentAttempt db run = some current := currentEq
  rw [sameRun, selectedHere] at selected
  exact Option.some.inj selected ▸ failed

/-- An uncommitted row of `runs`. -/
structure RunRow (db : Database) (run : Run) : Prop where
  initial : run.toSnapshot = .initial
  unused : db.runs.get? run.id = none
  reserved : run.id < db.runs.next

structure AttemptRow (db : Database) (runId : Nat) (row : RunAttempt) : Prop where
  initial : row.toSnapshot = .initial
  owner : row.runId = runId
  unused : db.attempts.get? row.id = none
  reserved : row.id < db.attempts.next

structure SeenRun (db : Database) (run : Run) : Prop where
  failed : run.status = .failed
  pointer : ∀ id, run.currentAttemptId = some id → id < db.attempts.next

structure RetryRow (db : Database) (seen : LoadedRun) (row : RunAttempt) : Prop where
  attempt : AttemptRow db seen.run.id row
  failed : seen.run.status = .failed
  pointer : seen.run.currentAttemptId ≠ some row.id

structure InsertedRow (db : Database) (seen : LoadedRun) (row : RunAttempt) : Prop where
  retry : RetryRow db seen row
  free : violatesUniqueNumber db.attempts.rows seen.run.id row.attemptNumber = false
  ready : Ready db seen.run.id row.attemptNumber row.id

def RequestFact (db : Database) : RequestPhase → Prop
  | .idle | .done => True
  | .runInserted run => RunRow db run
  | .firstInserted run attempt => RunRow db run ∧ AttemptRow db run.id attempt ∧
      attempt.attemptNumber = 1 ∧ run.currentAttemptId = some attempt.id
  | .reading run _ attempts => (∃ stored, db.runs.get? run.id = some stored) ∧
      (∀ id, run.currentAttemptId = some id → id < db.attempts.next) ∧
      ∀ read, attempts = some read → run.status = .failed →
        Sound db run.id (nextAttemptNumber read) db.attempts.next
  | .loaded seen => SeenRun db seen.run ∧
      Sound db seen.run.id (nextAttemptNumber seen.attempts) db.attempts.next
  | .keyTaken seen row => RetryRow db seen row ∧ Sound db seen.run.id row.attemptNumber row.id
  | .inserted seen row => InsertedRow db seen row
  | .updated seen row runRow => InsertedRow db seen row ∧
      ∃ run, db.runs.get? seen.run.id = some run ∧ runRow = supersede seen.run row.id run

def RequestPhase.runKey : RequestPhase → Option Nat
  | .runInserted run | .firstInserted run _ => some run.id
  | _ => none

def RequestPhase.attemptKey : RequestPhase → Option Nat
  | .firstInserted _ attempt => some attempt.id
  | .keyTaken _ row | .inserted _ row | .updated _ row _ => some row.id
  | _ => none

section Effect

variable {db db' : Database} {moved freshRun : Option Nat} {fresh : Option RunAttempt}
  (outside : Effect db db' moved freshRun fresh)

include outside

theorem RunRow.effect {run : Run} (row : RunRow db run) (other : freshRun ≠ some run.id) :
    RunRow db' run :=
  ⟨row.initial, outside.runUnused row.unused other, Nat.lt_of_lt_of_le row.reserved outside.runKeys⟩

theorem AttemptRow.effect {runId : Nat} {attempt : RunAttempt} (row : AttemptRow db runId attempt)
    (other : ∀ added, fresh = some added → added.id ≠ attempt.id) : AttemptRow db' runId attempt :=
  ⟨row.initial, row.owner, outside.unused row.unused other,
    Nat.lt_of_lt_of_le row.reserved outside.attemptKeys⟩

theorem InsertedRow.effect (consistent : Consistent db) {seen : LoadedRun} {row : RunAttempt}
    (inserted : InsertedRow db seen row) (otherKey : ∀ added, fresh = some added → added.id ≠ row.id)
    (otherNumber : ∀ added, fresh = some added →
      (added.runId, added.attemptNumber) ≠ (seen.run.id, row.attemptNumber)) :
    InsertedRow db' seen row ∧
      ∀ run, db.runs.get? seen.run.id = some run → db'.runs.get? seen.run.id = some run := by
  have free := outside.free inserted.free otherNumber
  rcases inserted.ready.effect outside consistent with taken | ⟨same, ready⟩
  · rw [free] at taken
    cases taken
  · exact ⟨⟨⟨inserted.retry.attempt.effect outside otherKey, inserted.retry.failed,
      inserted.retry.pointer⟩, free, ready⟩, same⟩

/-- What another party does leaves the facts of a request standing, as long as it commits neither
a key nor a number the request holds. -/
theorem request_effect (consistent : Consistent db) {phase : RequestPhase}
    (fact : RequestFact db phase)
    (otherRun : ∀ id, phase.runKey = some id → freshRun ≠ some id)
    (otherKey : ∀ id, phase.attemptKey = some id → ∀ added, fresh = some added → added.id ≠ id)
    (otherNumber : ∀ key, phase.numberLock = some key → ∀ added, fresh = some added →
      (added.runId, added.attemptNumber) ≠ key) : RequestFact db' phase := by
  have pointers (run : Run) (old : ∀ id, run.currentAttemptId = some id → id < db.attempts.next) :
      ∀ id, run.currentAttemptId = some id → id < db'.attempts.next := by
    intro id pointer
    exact Nat.lt_of_lt_of_le (old id pointer) outside.attemptKeys
  cases phase with
  | idle => trivial
  | done => trivial
  | runInserted run => exact RunRow.effect outside fact (otherRun run.id rfl)
  | firstInserted run attempt =>
      obtain ⟨runRow, attemptRow, number, pointer⟩ := fact
      exact ⟨runRow.effect outside (otherRun run.id rfl),
        attemptRow.effect outside (otherKey attempt.id rfl), number, pointer⟩
  | reading run current attempts =>
      obtain ⟨⟨stored, found⟩, pointer, sound⟩ := fact
      refine ⟨?_, pointers run pointer, ?_⟩
      · obtain ⟨later, row, id⟩ : ∃ later ∈ db'.runs.rows, later.id = run.id := by
          have key : stored.id = run.id := Table.get?_id found
          cases outside.run_change consistent (Table.get?_mem found) with
          | untouched row => exact ⟨stored, row, key⟩
          | advanced later row id => exact ⟨later, row, id.trans key⟩
          | retried later _ _ row id => exact ⟨later, row, id.trans key⟩
        exact ⟨later, id ▸ Table.get?_of_mem row⟩
      · intro read same failed
        exact ((sound read same failed).effect outside consistent).mono outside.attemptKeys
  | loaded seen =>
      obtain ⟨seenRun, sound⟩ := fact
      exact ⟨⟨seenRun.failed, pointers seen.run seenRun.pointer⟩,
        (sound.effect outside consistent).mono outside.attemptKeys⟩
  | keyTaken seen row =>
      obtain ⟨retry, sound⟩ := fact
      exact ⟨⟨retry.attempt.effect outside (otherKey row.id rfl), retry.failed, retry.pointer⟩,
        sound.effect outside consistent⟩
  | inserted seen row =>
      exact (InsertedRow.effect outside consistent fact (otherKey row.id rfl)
        (otherNumber _ rfl)).1
  | updated seen row runRow =>
      obtain ⟨inserted, run, found, rfl⟩ := fact
      obtain ⟨still, same⟩ := inserted.effect outside consistent (otherKey row.id rfl)
        (otherNumber _ rfl)
      exact ⟨still, run, same run found, rfl⟩

end Effect

theorem request_step_effect {db db' : Database} {locks : Locks} {statement : Statement}
    {phase phase' : RequestPhase} (step : RequestStep db locks statement phase phase' db') :
    Effect db db' none none none := by
  cases step with
  | insertRun | insertFirst | takeKey => exact effect_loseKeys db _ _
  | selectRun | selectCurrent | selectAttempts | selectSnapshot => exact .refl db
  | guards | insertAttempt | updateRun | rolledBack => exact .refl db

theorem request_step_fact {db db' : Database} (consistent : Consistent db) {locks : Locks}
    {statement : Statement} {phase phase' : RequestPhase} (fact : RequestFact db phase)
    (settled : statement = .selectAttempts → ∀ run current attempts,
      phase = .reading run current attempts → run.status = .failed → CurrentFailed db run.id)
    (step : RequestStep db locks statement phase phase' db') : RequestFact db' phase' := by
  have effect := request_step_effect step
  have still : RequestFact db' phase := request_effect effect consistent fact
    (fun _ _ same => nomatch same) (fun _ _ _ same => nomatch same) (fun _ _ _ same => nomatch same)
  cases step with
  | insertRun new now project found =>
      exact ⟨rfl, db.runs.get?_next _ (Nat.le_refl _), Nat.lt_succ_self _⟩
  | insertFirst run now =>
      obtain ⟨initial, unused, reserved⟩ := still
      exact ⟨⟨initial, unused, reserved⟩,
        ⟨rfl, rfl, db.attempts.get?_next _ (Nat.le_refl _), Nat.lt_succ_self _⟩, rfl, rfl⟩
  | selectRun run found =>
      refine ⟨⟨run, found⟩, ?_, ?_⟩
      · intro id pointer
        obtain ⟨past, current, lineage⟩ := consistent.of_run found
        rw [lineage.pointer] at pointer
        obtain rfl := Option.some.inj pointer
        exact Table.get?_lt_next lineage.current_get?
      · intro read same
        cases same
  | selectCurrent run attempts => exact fact
  | selectAttempts run current =>
      obtain ⟨⟨stored, found⟩, pointer, _⟩ := fact
      refine ⟨⟨stored, found⟩, pointer, ?_⟩
      intro read same failed
      obtain rfl := Option.some.inj same
      have key : stored.id = run.id := Table.get?_id found
      have storedFound : db.runs.get? stored.id = some stored := key.symm ▸ found
      have ready := CurrentFailed.ready consistent storedFound
        (key.symm ▸ settled rfl run current none rfl failed)
      rw [key] at ready
      exact Or.inr ready
  | selectSnapshot runId seen prepared =>
      obtain ⟨failed, found, ready⟩ := prepareRetry_ready consistent prepared
      refine ⟨⟨failed, ?_⟩, Or.inr ready⟩
      intro id pointer
      obtain ⟨past, current, lineage⟩ := consistent.of_run found
      rw [lineage.pointer] at pointer
      obtain rfl := Option.some.inj pointer
      exact Table.get?_lt_next lineage.current_get?
  | guards run current attempts allowed =>
      obtain ⟨_, pointer, sound⟩ := fact
      obtain ⟨failed, _⟩ := (retryAllowed_iff _).mp allowed
      exact ⟨⟨failed, pointer⟩, sound attempts rfl failed⟩
  | takeKey seen now =>
      obtain ⟨seenRun, sound⟩ := fact
      refine ⟨⟨⟨rfl, rfl, db.attempts.get?_next _ (Nat.le_refl _), Nat.lt_succ_self _⟩,
        seenRun.failed, ?_⟩, sound.effect effect consistent⟩
      intro same
      have old := seenRun.pointer _ same
      exact Nat.lt_irrefl _ old
  | insertAttempt seen row free unique =>
      obtain ⟨retry, sound⟩ := fact
      refine ⟨retry, unique, ?_⟩
      rcases sound with taken | ready
      · rw [unique] at taken
        cases taken
      · exact ready
  | updateRun seen row run free found => exact ⟨fact, run, found, rfl⟩
  | rolledBack phase => trivial

theorem runKey_lt {db : Database} {phase : RequestPhase} (fact : RequestFact db phase) {id : Nat}
    (holds : phase.runKey = some id) : id < db.runs.next := by
  cases phase with
  | runInserted run => exact Option.some.inj holds ▸ fact.reserved
  | firstInserted run attempt => exact Option.some.inj holds ▸ fact.1.reserved
  | idle | reading | loaded | keyTaken | inserted | updated | done => cases holds

theorem numberLock_run {db : Database} {phase : RequestPhase} (fact : RequestFact db phase)
    {runId attemptNumber : Nat} (holds : phase.numberLock = some (runId, attemptNumber)) :
    ∃ run, db.runs.get? runId = some run := by
  cases phase with
  | inserted seen row =>
      obtain ⟨rfl, rfl⟩ := Prod.mk.inj (Option.some.inj holds)
      obtain ⟨run, _, _, found, _⟩ := fact.ready
      exact ⟨run, found⟩
  | updated seen row runRow =>
      obtain ⟨rfl, rfl⟩ := Prod.mk.inj (Option.some.inj holds)
      obtain ⟨run, _, _, found, _⟩ := fact.1.ready
      exact ⟨run, found⟩
  | idle | runInserted | firstInserted | reading | loaded | keyTaken | done => cases holds

theorem RequestStep.takes {db db' : Database} {locks : Locks} {statement : Statement}
    {phase phase' : RequestPhase} (step : RequestStep db locks statement phase phase' db') :
    (∀ id, phase'.runKey = some id → phase.runKey = some id ∨ id = db.runs.next) ∧
      (∀ id, phase'.attemptKey = some id → phase.attemptKey = some id ∨ id = db.attempts.next) ∧
      (∀ key, phase'.numberLock = some key →
        phase.numberLock = some key ∨ ¬ locks.number key.1 key.2) := by
  cases step with
  | insertRun new now project found =>
      exact ⟨fun id same => Or.inr (Option.some.inj same).symm, fun _ same => (nomatch same),
        fun _ same => (nomatch same)⟩
  | insertFirst run now =>
      exact ⟨fun id same => Or.inl same, fun id same => Or.inr (Option.some.inj same).symm,
        fun _ same => (nomatch same)⟩
  | takeKey seen now =>
      exact ⟨fun _ same => (nomatch same), fun id same => Or.inr (Option.some.inj same).symm,
        fun _ same => (nomatch same)⟩
  | insertAttempt seen row free unique =>
      refine ⟨fun _ same => (nomatch same), fun id same => Or.inl same, ?_⟩
      intro key same
      obtain rfl := Option.some.inj same
      exact Or.inr free
  | updateRun seen row run free found =>
      exact ⟨fun id same => Or.inl same, fun id same => Or.inl same, fun key same => Or.inl same⟩
  | selectRun | selectCurrent | selectAttempts | selectSnapshot | guards | rolledBack =>
      exact ⟨fun _ same => (nomatch same), fun _ same => (nomatch same),
        fun _ same => (nomatch same)⟩

end Evalynx
