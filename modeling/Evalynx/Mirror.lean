import Evalynx.History

namespace Evalynx

open Relational Relation

def Mirrored (db : Database) : Prop :=
  ∀ run ∈ db.runs.rows, ∀ attempt ∈ db.attempts.rows, run.currentAttemptId = some attempt.id →
    run.toSnapshot.load = attempt.toSnapshot.load

theorem mirrored_empty : Mirrored .empty := by
  intro run member
  cases member

theorem start_load {first second : Snapshot} (same : first.load = second.load) (now : Timestamp) :
    (first.start now).load = (second.start now).load := by
  simp only [Snapshot.load, LoadedSnapshot.mk.injEq] at same
  simp only [Snapshot.load, Snapshot.start, same]

theorem finish_load {first second : Snapshot} (same : first.load = second.load)
    (values : TerminalValues) : (first.finish values).load = (second.finish values).load := by
  simp only [Snapshot.load, LoadedSnapshot.mk.injEq] at same
  simp only [Snapshot.load, Snapshot.finish, same]

theorem Consistent.pointer_unique {db : Database} (consistent : Consistent db) {run other : Run}
    {attempt : RunAttempt} (member : run ∈ db.runs.rows) (row : attempt ∈ db.attempts.rows)
    (pointer : run.currentAttemptId = some attempt.id) (owner : attempt.runId = other.id) :
    run.id = other.id := by
  obtain ⟨past, current, lineage⟩ := consistent.lineage run member
  obtain rfl := lineage.current_unique (Table.get?_of_mem row) pointer
  exact lineage.current_mem.2.symm.trans owner

theorem Consistent.pointer_used {db : Database} (consistent : Consistent db) {run : Run} {id : Nat}
    (member : run ∈ db.runs.rows) (unused : db.attempts.get? id = none) :
    run.currentAttemptId ≠ some id := by
  intro pointer
  obtain ⟨past, current, lineage⟩ := consistent.lineage run member
  have found := lineage.current_get?
  rw [lineage.pointer] at pointer
  rw [Option.some.inj pointer, unused] at found
  cases found

section Preserved

variable {db : Database} (consistent : Consistent db) (mirrored : Mirrored db)
include consistent mirrored

theorem mirrored_advance {run : Run} {attempt : RunAttempt} (runSnapshot attemptSnapshot : Snapshot)
    (runFound : db.runs.get? run.id = some run)
    (attemptFound : db.attempts.get? attempt.id = some attempt) (owner : attempt.runId = run.id)
    (same : runSnapshot.load = attemptSnapshot.load)
    (pointer : run.currentAttemptId = some attempt.id) :
    Mirrored { db with
      attempts := db.attempts.put { attempt with toSnapshot := attemptSnapshot }
      runs := db.runs.put { run with toSnapshot := runSnapshot } } := by
  have runRows := mem_putRun { run with toSnapshot := runSnapshot } runFound
  have attemptRows := mem_putAttempt { attempt with toSnapshot := attemptSnapshot } attemptFound
  intro holder holderRow target targetRow points
  rcases (runRows holder).mp holderRow with rfl | ⟨oldHolder, otherRun⟩
  · rcases (attemptRows target).mp targetRow with rfl | ⟨_, otherAttempt⟩
    · exact same
    · rw [pointer] at points
      exact absurd (Option.some.inj points).symm otherAttempt
  · rcases (attemptRows target).mp targetRow with rfl | ⟨oldTarget, _⟩
    · exact absurd (consistent.pointer_unique oldHolder (Table.get?_mem attemptFound) points owner)
        otherRun
    · exact mirrored holder oldHolder target oldTarget points

theorem mirrored_retry {run : Run} (fresh : RunAttempt) (runSnapshot : Snapshot) (keys : Nat)
    (runFound : db.runs.get? run.id = some run) (unused : db.attempts.get? fresh.id = none)
    (reserved : fresh.id < db.attempts.next + keys)
    (same : runSnapshot.load = fresh.toSnapshot.load) :
    Mirrored { db with
      attempts := (db.attempts.reserve keys).adopt fresh
      runs := db.runs.put
        { run with toSnapshot := runSnapshot, currentAttemptId := some fresh.id } } := by
  have runRows := mem_putRun
    { run with toSnapshot := runSnapshot, currentAttemptId := some fresh.id } runFound
  have attemptRows := Table.mem_adopt (db.attempts.reserve keys) fresh unused reserved
  intro holder holderRow target targetRow points
  rcases (runRows holder).mp holderRow with rfl | ⟨oldHolder, _⟩
  · rcases (attemptRows target).mp targetRow with oldTarget | rfl
    · have absent := (db.attempts.get?_eq_none fresh.id).mp unused target oldTarget
      exact absurd (Option.some.inj points).symm absent
    · exact same
  · rcases (attemptRows target).mp targetRow with oldTarget | rfl
    · exact mirrored holder oldHolder target oldTarget points
    · exact absurd points (consistent.pointer_used oldHolder unused)

theorem mirrored_insertRun (new : NewRun) (runCreatedAt attemptCreatedAt : Timestamp) :
    Mirrored (insertRun db new runCreatedAt attemptCreatedAt).1 := by
  obtain ⟨runs, attempts⟩ := insertRun_rows db new runCreatedAt attemptCreatedAt
  have noAttempt : db.attempts.get? db.attempts.next = none :=
    db.attempts.get?_next _ (Nat.le_refl _)
  intro holder holderRow target targetRow points
  rw [runs, List.mem_append, List.mem_singleton] at holderRow
  rw [attempts, List.mem_append, List.mem_singleton] at targetRow
  rcases holderRow with oldHolder | rfl
  · rcases targetRow with oldTarget | rfl
    · exact mirrored holder oldHolder target oldTarget points
    · exact absurd points (consistent.pointer_used oldHolder noAttempt)
  · rcases targetRow with oldTarget | rfl
    · have absent := (db.attempts.get?_eq_none _).mp noAttempt target oldTarget
      exact absurd (Option.some.inj points).symm absent
    · rfl

theorem mirrored_claim {claimed : Database} {attempt : RunAttempt} {now : Timestamp}
    (found : db.attempts.get? attempt.id = some attempt)
    (success : claimAttempt db attempt.runId attempt.id now = some claimed) : Mirrored claimed := by
  obtain ⟨_, run, key, runFound, pointer, rfl⟩ := claim_writes found success
  have same := mirrored run (Table.get?_mem runFound) attempt (Table.get?_mem found) pointer
  exact mirrored_advance consistent mirrored _ _ runFound found key.symm (start_load same now)
    pointer

theorem mirrored_persist {accepts : TerminalValues → Bool} {persisted : Database}
    {attempt : RunAttempt} {result : RunnerResult} {now : Timestamp}
    (found : db.attempts.get? attempt.id = some attempt)
    (success : persistTerminalResult accepts db attempt.runId attempt.id result now =
      some persisted) : Mirrored persisted := by
  by_cases running : attempt.status = .running
  · obtain ⟨run, past, key, runFound, lineage, rfl⟩ :=
      persist_writes consistent found running success
    have same := mirrored run (Table.get?_mem runFound) attempt (Table.get?_mem found)
      lineage.pointer
    exact mirrored_advance consistent mirrored _ _ runFound found key.symm (finish_load same _)
      lineage.pointer
  · rw [persist_skips found running success]
    exact mirrored

theorem mirrored_txn {accepts : TerminalValues → Bool} {db' : Database}
    (txn : Txn accepts db db') : Mirrored db' := by
  cases txn with
  | createProject name description createdAt => exact mirrored
  | createRun project new runCreatedAt attemptCreatedAt =>
      exact mirrored_insertRun consistent mirrored new runCreatedAt attemptCreatedAt
  | retryRun runId loaded now attemptId written seen allowed inserted =>
      obtain ⟨run, past, current, -, found, lineage, -, rfl⟩ :=
        retry_writes consistent seen allowed inserted
      exact mirrored_retry consistent mirrored
        (newAttempt db.attempts.next run.id (past.length + 2) now) _ 1 found
        (db.attempts.get?_next _ (Nat.le_refl _)) (Nat.lt_succ_self _)
        (clearRunSnapshot_load run.toSnapshot)
  | claim attempt now claimed found success =>
      exact mirrored_claim consistent mirrored found success
  | persist attempt result now persisted found success =>
      exact mirrored_persist consistent mirrored found success
  | rollback runs attempts => exact mirrored

end Preserved

theorem history_mirrored {accepts : TerminalValues → Bool} {db : Database}
    (history : ReflTransGen (Txn accepts) .empty db) : Mirrored db := by
  let kept (state : Database) := Consistent state ∧ Mirrored state
  have step (before after : Database) (both : kept before) (txn : Txn accepts before after) :
      kept after :=
    ⟨txn.consistent both.1, mirrored_txn both.1 both.2 txn⟩
  have both : kept db := Transition.invariant ⟨consistent_empty, mirrored_empty⟩ step history
  exact both.2

end Evalynx
