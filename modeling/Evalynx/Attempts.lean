import Evalynx.Requests
import Evalynx.Holding

/-! What a call knows of the attempt it has won and a request of the one it has inserted, whatever
the retries have read. No fact here is about the row of a run. -/

namespace Evalynx

open Relational Relation Holding

/-- `moved` is the attempt whose row is replaced, `fresh` the one that is added. -/
structure Moves (attempts later : Table RunAttempt) (moved : Option Nat)
    (fresh : Option RunAttempt) : Prop where
  kept : ∀ id row, attempts.get? id = some row → moved ≠ some id → later.get? id = some row
  versions : ∀ id row, attempts.get? id = some row → ∃ version, later.get? id = some version ∧
    version.runId = row.runId ∧ (row.status ≠ .queued → version.status ≠ .queued)
  unused : ∀ id, attempts.get? id = none → (∀ row, fresh = some row → row.id ≠ id) →
    later.get? id = none
  keys : attempts.next ≤ later.next

section Tables

variable {attempts : Table RunAttempt}

theorem Moves.reserve (attempts : Table RunAttempt) (count : Nat) :
    Moves attempts (attempts.reserve count) none none where
  kept := fun _ _ found _ => found
  versions := fun _ row found => ⟨row, found, rfl, fun begun => begun⟩
  unused := fun _ absent _ => absent
  keys := Nat.le_add_right _ _

theorem Moves.refl (attempts : Table RunAttempt) : Moves attempts attempts none none :=
  .reserve attempts 0

theorem Moves.put {old : RunAttempt} (row : RunAttempt) (found : attempts.get? row.id = some old)
    (owner : row.runId = old.runId) (begun : row.status ≠ .queued) :
    Moves attempts (attempts.put row) (some row.id) none where
  kept := by
    intro id other otherFound different
    rw [Table.get?_put, if_neg fun same => different (congrArg some same.symm)]
    exact otherFound
  versions := by
    intro id other otherFound
    by_cases same : id = row.id
    · subst same
      obtain rfl := Option.some.inj (found.symm.trans otherFound)
      exact ⟨row, Table.get?_put_self row found, owner, fun _ => begun⟩
    · refine ⟨other, ?_, rfl, fun begun => begun⟩
      rw [Table.get?_put]
      exact (if_neg same).trans otherFound
  unused := by
    intro id absent _
    rw [Table.get?_put, absent]
    split <;> rfl
  keys := Nat.le_refl _

theorem Moves.adopt (row : RunAttempt) (count : Nat) (unused : attempts.get? row.id = none)
    (reserved : row.id < attempts.next + count) :
    Moves attempts ((attempts.reserve count).adopt row) none (some row) := by
  have absentHere : (attempts.reserve count).get? row.id = none := unused
  have others (id : Nat) (different : id ≠ row.id) :
      ((attempts.reserve count).adopt row).get? id = attempts.get? id :=
    Table.get?_adopt_other absentHere reserved different
  have old (id : Nat) (other : RunAttempt) (found : attempts.get? id = some other) :
      ((attempts.reserve count).adopt row).get? id = some other := by
    refine (others id ?_).trans found
    rintro rfl
    rw [unused] at found
    cases found
  constructor
  · intro id other found _
    exact old id other found
  · intro id other found
    exact ⟨other, old id other found, rfl, fun begun => begun⟩
  · intro id absent other
    exact (others id (other row rfl).symm).trans absent
  · rw [Table.next_adopt]
    exact Nat.le_add_right _ _

theorem Moves.started {later : Table RunAttempt} {moved : Option Nat} {fresh : Option RunAttempt}
    (moves : Moves attempts later moved fresh) {id : Nat}
    (started : ∃ attempt, attempts.get? id = some attempt ∧ attempt.status ≠ .queued) :
    ∃ attempt, later.get? id = some attempt ∧ attempt.status ≠ .queued := by
  obtain ⟨attempt, found, begun⟩ := started
  obtain ⟨version, versionFound, -, still⟩ := moves.versions id attempt found
  exact ⟨version, versionFound, still begun⟩

end Tables

def RowFact : CallPhase → RunAttempt → Prop
  | .idle, _ | .selected _ _, _ | .done, _ => True
  | .attemptClaimed _ _ now row, attempt => attempt.status = .queued ∧ row = attempt.start now
  | .runMissed _ _, attempt => attempt.status = .queued
  | .runClaimed _ _ row _, attempt => attempt.status = .queued ∧ ∃ now, row = attempt.start now
  | .claimed _ _, attempt | .executing _ _, attempt | .finished _ _ _ _, attempt
  | .abandoned _ _ _, attempt => attempt.status = .running
  | .attemptPersisted _ _ _ values row, attempt =>
      attempt.status = .running ∧ values.status.terminal = true ∧ row = attempt.finish values
  | .runPersisted _ _ _ row _, attempt =>
      attempt.status = .running ∧ ∃ values, values.status.terminal = true ∧
        row = attempt.finish values

structure Tenure (attempts : Table RunAttempt) (phase : CallPhase) : Prop where
  selected : ∀ runId attemptId, phase = .selected runId attemptId →
    ∃ attempt, attempts.get? attemptId = some attempt ∧ attempt.runId = runId
  owned : ∀ runId attemptId, phase.owns = some (runId, attemptId) →
    ∃ attempt, attempts.get? attemptId = some attempt ∧ attempt.runId = runId ∧
      RowFact phase attempt

theorem RowFact.running {phase : CallPhase} {attempt : RunAttempt} {claim : Nat × Nat × Bool}
    (fact : RowFact phase attempt) (owes : phase.owes = some claim) : attempt.status = .running := by
  cases phase <;> simp_all [RowFact, CallPhase.owes]

/-- Whoever owns an attempt that is still queued holds its lock. -/
theorem RowFact.locked {phase : CallPhase} {runId attemptId : Nat} {attempt : RunAttempt}
    (fact : RowFact phase attempt) (owns : phase.owns = some (runId, attemptId))
    (queued : attempt.status = .queued) : phase.attemptLock = some attemptId := by
  cases phase <;> simp_all [RowFact, CallPhase.owns, CallPhase.attemptLock]

theorem tenure_of_owns {attempts : Table RunAttempt} {phase : CallPhase} {runId attemptId : Nat}
    {attempt : RunAttempt} (owns : phase.owns = some (runId, attemptId))
    (found : attempts.get? attemptId = some attempt) (owner : attempt.runId = runId)
    (fact : RowFact phase attempt) : Tenure attempts phase where
  selected := by
    rintro _ _ rfl
    cases owns
  owned := by
    intro otherRun otherAttempt same
    rw [owns] at same
    obtain ⟨rfl, rfl⟩ := Prod.mk.inj (Option.some.inj same)
    exact ⟨attempt, found, owner, fact⟩

theorem tenure_done (attempts : Table RunAttempt) : Tenure attempts .done := ⟨nofun, nofun⟩

theorem Tenure.moves {attempts later : Table RunAttempt} {moved : Option Nat}
    {fresh : Option RunAttempt} (moves : Moves attempts later moved fresh) {phase : CallPhase}
    (tenure : Tenure attempts phase)
    (other : ∀ runId attemptId, phase.owns = some (runId, attemptId) → moved ≠ some attemptId) :
    Tenure later phase where
  selected := by
    intro runId attemptId same
    obtain ⟨attempt, found, owner⟩ := tenure.selected runId attemptId same
    obtain ⟨version, versionFound, sameRun, -⟩ := moves.versions attemptId attempt found
    exact ⟨version, versionFound, sameRun.trans owner⟩
  owned := by
    intro runId attemptId owns
    obtain ⟨attempt, found, owner, fact⟩ := tenure.owned runId attemptId owns
    exact ⟨attempt, moves.kept attemptId attempt found (other runId attemptId owns), owner, fact⟩

theorem Tenure.step {accepts : TerminalValues → Bool} {db : Database} {locks : Locks}
    {phase phase' : CallPhase} (tenure : Tenure db.attempts phase)
    (step : CallStep accepts db locks phase phase') : Tenure db.attempts phase' := by
  cases step with
  | unknown | claimAttemptMissed | claimRolledBack => exact tenure_done _
  | select attempt found =>
      refine ⟨?_, nofun⟩
      intro runId attemptId same
      obtain ⟨rfl, rfl⟩ := CallPhase.selected.inj same
      exact ⟨attempt, found, rfl⟩
  | claimAttempt runId attemptId now attempt free found matched =>
      obtain ⟨row, rowFound, owner⟩ := tenure.selected runId attemptId rfl
      obtain rfl := Option.some.inj (found.symm.trans rowFound)
      exact tenure_of_owns rfl found owner ⟨by simpa [RunAttempt.isQueued] using matched, rfl⟩
  | claimRun runId attemptId now row run =>
      obtain ⟨attempt, found, owner, queued, same⟩ := tenure.owned runId attemptId rfl
      exact tenure_of_owns rfl found owner ⟨queued, now, same⟩
  | claimRunMissed runId attemptId =>
      obtain ⟨attempt, found, owner, queued, -⟩ := tenure.owned runId attemptId rfl
      exact tenure_of_owns rfl found owner queued
  | vanished runId attemptId | runnerMissing runId attemptId | leave runId attemptId
  | persistAttemptMissed runId attemptId =>
      obtain ⟨attempt, found, owner, running⟩ := tenure.owned runId attemptId rfl
      exact tenure_of_owns rfl found owner running
  | persistAttempt runId attemptId entered result now attempt free taken found matched =>
      obtain ⟨row, rowFound, owner, running⟩ := tenure.owned runId attemptId rfl
      obtain rfl := Option.some.inj (found.symm.trans rowFound)
      exact tenure_of_owns rfl found owner ⟨running, terminalStatus_terminal result, rfl⟩
  | persistRun runId attemptId entered values | persistRunMissed runId attemptId entered values =>
      obtain ⟨attempt, found, owner, running, terminal, same⟩ := tenure.owned runId attemptId rfl
      exact tenure_of_owns rfl found owner ⟨running, values, terminal, same⟩
  | abandoned _ runId attemptId entered owes =>
      obtain ⟨attempt, found, owner, fact⟩ :=
        tenure.owned runId attemptId (CallPhase.owns_of_owes owes)
      exact tenure_of_owns rfl found owner (fact.running owes)

theorem Tenure.committed {db db' : Database} {phase phase' : CallPhase}
    (tenure : Tenure db.attempts phase) (commit : CallCommit db phase phase' db') :
    ∃ runId attempt row, phase.owns = some (runId, attempt.id) ∧
      db.attempts.get? attempt.id = some attempt ∧ attempt.runId = runId ∧
      row.id = attempt.id ∧ row.runId = runId ∧ db'.attempts = db.attempts.put row ∧
      ((phase' = .claimed runId attempt.id ∧ attempt.status = .queued ∧ row.status = .running) ∨
        (phase' = .done ∧ row.status.terminal = true)) := by
  cases commit with
  | claim runId attemptId row runRow =>
      obtain ⟨attempt, found, owner, queued, now, rfl⟩ := tenure.owned runId attemptId rfl
      obtain rfl : attempt.id = attemptId := Table.get?_id found
      exact ⟨runId, attempt, attempt.start now, rfl, found, owner, rfl, owner, rfl,
        Or.inl ⟨rfl, queued, rfl⟩⟩
  | persist runId attemptId entered row | persistWithoutRun runId attemptId entered row =>
      obtain ⟨attempt, found, owner, -, values, terminal, rfl⟩ := tenure.owned runId attemptId rfl
      obtain rfl : attempt.id = attemptId := Table.get?_id found
      exact ⟨runId, attempt, attempt.finish values, rfl, found, owner, rfl, owner, rfl,
        Or.inr ⟨rfl, terminal⟩⟩

def RequestPhase.fresh : RequestPhase → Option RunAttempt
  | .firstInserted _ attempt => some attempt
  | .keyTaken _ row | .inserted _ row | .updated _ row _ => some row
  | _ => none

theorem RequestPhase.attemptKey_eq_some (phase : RequestPhase) (id : Nat) :
    phase.attemptKey = some id ↔ ∃ row, phase.fresh = some row ∧ row.id = id := by
  cases phase <;> simp [RequestPhase.attemptKey, RequestPhase.fresh]

structure FreshRow (attempts : Table RunAttempt) (row : RunAttempt) : Prop where
  queued : row.status = .queued
  unused : attempts.get? row.id = none
  reserved : row.id < attempts.next

theorem freshRow_new (attempts : Table RunAttempt) (runId attemptNumber : Nat) (now : Timestamp) :
    FreshRow (attempts.reserve 1) (newAttempt attempts.next runId attemptNumber now) :=
  ⟨rfl, attempts.get?_next _ (Nat.le_refl _), Nat.lt_succ_self _⟩

theorem FreshRow.moves {attempts later : Table RunAttempt} {moved : Option Nat}
    {fresh : Option RunAttempt} (moves : Moves attempts later moved fresh) {row : RunAttempt}
    (still : FreshRow attempts row) (other : ∀ added, fresh = some added → added.id ≠ row.id) :
    FreshRow later row :=
  ⟨still.queued, moves.unused row.id still.unused other,
    Nat.lt_of_lt_of_le still.reserved moves.keys⟩

theorem RequestStep.moves {db db' : Database} {locks : Locks} {statement : Statement}
    {phase phase' : RequestPhase} (step : RequestStep db locks statement phase phase' db') :
    Moves db.attempts db'.attempts none none := by
  cases step with
  | insertRun | insertFirst | takeKey => exact .reserve db.attempts _
  | selectRun | selectCurrent | selectAttempts | selectSnapshot => exact .refl db.attempts
  | guards | insertAttempt | updateRun | rolledBack => exact .refl db.attempts

theorem RequestStep.attempt_rows {db db' : Database} {locks : Locks} {statement : Statement}
    {phase phase' : RequestPhase} (step : RequestStep db locks statement phase phase' db') :
    db'.attempts.rows = db.attempts.rows := by
  cases step <;> rfl

theorem RequestStep.freshRow {db db' : Database} {locks : Locks} {statement : Statement}
    {phase phase' : RequestPhase} (step : RequestStep db locks statement phase phase' db')
    (added : ∀ row, phase.fresh = some row → FreshRow db.attempts row) {row : RunAttempt}
    (fresh : phase'.fresh = some row) : FreshRow db'.attempts row := by
  cases step with
  | insertFirst run now =>
      obtain rfl := Option.some.inj fresh
      exact freshRow_new db.attempts _ _ _
  | takeKey seen now =>
      obtain rfl := Option.some.inj fresh
      exact freshRow_new db.attempts _ _ _
  | insertAttempt | updateRun => exact added row fresh
  | insertRun | selectRun | selectCurrent | selectAttempts | selectSnapshot => cases fresh
  | guards | rolledBack => cases fresh

theorem RequestCommit.adopts {db db' : Database} {locks : Locks} {statement : Statement}
    {phase : RequestPhase} (commit : RequestCommit db locks statement phase db')
    (added : ∀ row, phase.fresh = some row → FreshRow db.attempts row) :
    ∃ row, row.status = .queued ∧ Moves db.attempts db'.attempts none (some row) ∧
      db'.attempts.rows = db.attempts.rows ++ [row] ∧
      (phase.fresh = some row ∨ row.id = db.attempts.next) := by
  cases commit with
  | createRun run attempt =>
      have row := added attempt rfl
      exact ⟨attempt, row.queued, .adopt attempt 0 row.unused row.reserved,
        Table.rows_adopt db.attempts attempt row.unused row.reserved, Or.inl rfl⟩
  | retryRun seen attempt runRow =>
      have row := added attempt rfl
      exact ⟨attempt, row.queued, .adopt attempt 0 row.unused row.reserved,
        Table.rows_adopt db.attempts attempt row.unused row.reserved, Or.inl rfl⟩
  | wholeRetry runId seen now written attemptId runFree prepared numberFree inserted =>
      obtain ⟨-, rfl, attempts⟩ := insertRetry_attempts inserted
      refine ⟨_, rfl, ?_, (insertRetry_rows inserted).2.2, Or.inr rfl⟩
      rw [attempts]
      exact .adopt _ 1 (db.attempts.get?_next _ (Nat.le_refl _)) (Nat.lt_succ_self _)

def CallPhase.ownedAttempt (phase : CallPhase) : Option Nat := phase.owns.map Prod.snd

theorem CallPhase.ownedAttempt_iff (phase : CallPhase) (attemptId : Nat) :
    phase.ownedAttempt = some attemptId ↔ ∃ runId, phase.owns = some (runId, attemptId) := by
  simp [CallPhase.ownedAttempt]

namespace Sessions

/-- What holds of the attempts under every order of the statements. -/
structure Tracked (sessions : Sessions) : Prop where
  tenure : ∀ call, Tenure sessions.db.attempts (sessions.calls call)
  fresh : ∀ caller row, (sessions.requests caller).fresh = some row →
    FreshRow sessions.db.attempts row
  attempts : Exclusive (fun call => (sessions.calls call).ownedAttempt)
  attemptKeys : Exclusive (fun caller => (sessions.requests caller).attemptKey)
  entered : sessions.entered.Nodup
  started : ∀ id ∈ sessions.entered, ∃ attempt, sessions.db.attempts.get? id = some attempt ∧
    attempt.status ≠ .queued
  unentered : ∀ call runId attemptId, sessions.calls call = .claimed runId attemptId →
    attemptId ∉ sessions.entered

theorem tracked_empty : Tracked empty where
  tenure := fun _ => ⟨nofun, nofun⟩
  fresh := fun _ _ same => nomatch same
  attempts := exclusive_none
  attemptKeys := exclusive_none
  entered := List.nodup_nil
  started := fun _ member => nomatch member
  unentered := fun _ _ _ same => nomatch same

variable {accepts : TerminalValues → Bool} {allowed : Schedule} {sessions sessions' : Sessions}

theorem Tracked.attemptKey_lt (tracked : Tracked sessions) {caller id : Nat}
    (holds : (sessions.requests caller).attemptKey = some id) : id < sessions.db.attempts.next := by
  obtain ⟨row, fresh, rfl⟩ := (RequestPhase.attemptKey_eq_some _ id).mp holds
  exact (tracked.fresh caller row fresh).reserved

theorem Tracked.setCall (tracked : Tracked sessions) {db : Database} {moved : Option Nat}
    (moves : Moves sessions.db.attempts db.attempts moved none) (call : Nat) (phase : CallPhase)
    (own : ∀ attemptId, moved = some attemptId →
      (sessions.calls call).ownedAttempt = some attemptId)
    (tenure : Tenure db.attempts phase)
    (fair : ∀ attemptId, phase.ownedAttempt = some attemptId →
      (sessions.calls call).ownedAttempt = some attemptId ∨
        ∀ other, (sessions.calls other).ownedAttempt ≠ some attemptId)
    (entered : List Nat) (nodup : entered.Nodup)
    (started : ∀ id ∈ entered, ∃ attempt, db.attempts.get? id = some attempt ∧
      attempt.status ≠ .queued)
    (unentered : ∀ other runId attemptId,
      Function.update sessions.calls call phase other = .claimed runId attemptId →
        attemptId ∉ entered) :
    Tracked { sessions.setCall call phase with db := db, entered := entered } where
  tenure := by
    intro other
    by_cases same : other = call
    · subst same
      simpa [Sessions.setCall] using tenure
    · have kept : Tenure db.attempts (sessions.calls other) := by
        apply (tracked.tenure other).moves moves
        intro runId attemptId owns isMoved
        have holds : (sessions.calls other).ownedAttempt = some attemptId :=
          (CallPhase.ownedAttempt_iff _ _).mpr ⟨runId, owns⟩
        exact same (tracked.attempts other call attemptId holds (own attemptId isMoved))
      simpa [Sessions.setCall, same] using kept
  fresh := fun caller row fresh => (tracked.fresh caller row fresh).moves moves
    (fun _ same => nomatch same)
  attempts := tracked.attempts.update_state call phase fair
  attemptKeys := tracked.attemptKeys
  entered := nodup
  started := started
  unentered := unentered

theorem Tracked.unentered_update (tracked : Tracked sessions) (call : Nat) {phase : CallPhase}
    (notClaimed : ∀ runId attemptId, phase = .claimed runId attemptId →
      attemptId ∉ sessions.entered) (other runId attemptId : Nat)
    (claimed : Function.update sessions.calls call phase other = .claimed runId attemptId) :
    attemptId ∉ sessions.entered := by
  by_cases same : other = call
  · subst same
    rw [Function.update_self] at claimed
    exact notClaimed runId attemptId claimed
  · rw [Function.update_of_ne same] at claimed
    exact tracked.unentered other runId attemptId claimed

theorem tracked_callStep (tracked : Tracked sessions) (call : Nat) {phase : CallPhase}
    (moved : CallStep accepts sessions.db sessions.locks (sessions.calls call) phase) :
    Tracked (sessions.setCall call phase) := by
  apply tracked.setCall (.refl sessions.db.attempts) call phase nofun
  · exact (tracked.tenure call).step moved
  · intro attemptId owned
    obtain ⟨runId, owns⟩ := (CallPhase.ownedAttempt_iff _ _).mp owned
    rcases moved.won owns with before | ⟨free, attempt, found, queued⟩
    · exact Or.inl ((CallPhase.ownedAttempt_iff _ _).mpr ⟨runId, before⟩)
    · right
      intro other holds
      obtain ⟨otherRun, otherOwns⟩ := (CallPhase.ownedAttempt_iff _ _).mp holds
      obtain ⟨row, rowFound, -, fact⟩ := (tracked.tenure other).owned otherRun attemptId otherOwns
      obtain rfl := Option.some.inj (found.symm.trans rowFound)
      exact free ⟨other, fact.locked otherOwns queued⟩
  · exact tracked.entered
  · exact tracked.started
  · exact tracked.unentered_update call
      (fun runId attemptId same => absurd same moved.not_claimed)

theorem tracked_callCommit (tracked : Tracked sessions) (call : Nat) {phase : CallPhase}
    {db : Database} (committed : CallCommit sessions.db (sessions.calls call) phase db) :
    Tracked { sessions.setCall call phase with db := db } := by
  obtain ⟨runId, attempt, row, owns, found, owner, sameId, sameRun, attempts, ends⟩ :=
    (tracked.tenure call).committed committed
  have owned : (sessions.calls call).ownedAttempt = some attempt.id :=
    (CallPhase.ownedAttempt_iff _ _).mpr ⟨runId, owns⟩
  have begun : row.status ≠ .queued := by
    intro queued
    rcases ends with ⟨-, -, status⟩ | ⟨-, status⟩
    · rw [queued] at status
      cases status
    · rw [queued] at status
      cases status
  have moves : Moves sessions.db.attempts db.attempts (some row.id) none := by
    rw [attempts]
    exact .put row (sameId.symm ▸ found) (sameRun.trans owner.symm) begun
  have rowFound : db.attempts.get? attempt.id = some row := by
    rw [attempts, ← sameId]
    exact Table.get?_put_self row (sameId.symm ▸ found)
  apply tracked.setCall moves call phase
  · intro id same
    rw [owned, ← sameId]
    exact same
  · rcases ends with ⟨rfl, -, running⟩ | ⟨rfl, -⟩
    · exact tenure_of_owns rfl rowFound sameRun running
    · exact tenure_done _
  · intro id same
    rcases ends with ⟨rfl, -⟩ | ⟨rfl, -⟩
    · left
      rw [owned, ← same]
      rfl
    · cases same
  · exact tracked.entered
  · intro id member
    exact moves.started (tracked.started id member)
  · apply tracked.unentered_update call
    intro otherRun otherAttempt claimed member
    rcases ends with ⟨rfl, queued, -⟩ | ⟨rfl, -⟩
    · obtain ⟨rfl, rfl⟩ := CallPhase.claimed.inj claimed
      obtain ⟨held, heldFound, heldBegun⟩ := tracked.started attempt.id member
      obtain rfl := Option.some.inj (found.symm.trans heldFound)
      exact heldBegun queued
    · cases claimed

theorem tracked_enter (tracked : Tracked sessions) (call runId attemptId : Nat)
    (claimed : sessions.calls call = .claimed runId attemptId) :
    Tracked { sessions.setCall call (.executing runId attemptId) with
      entered := attemptId :: sessions.entered } := by
  have owned : (sessions.calls call).ownedAttempt = some attemptId := by
    rw [claimed]
    rfl
  obtain ⟨attempt, found, owner, fact⟩ :=
    (tracked.tenure call).owned runId attemptId (by rw [claimed]; rfl)
  have running : attempt.status = .running := by
    rw [claimed] at fact
    exact fact
  apply tracked.setCall (.refl sessions.db.attempts) call (.executing runId attemptId) nofun
  · exact tenure_of_owns rfl found owner running
  · intro id same
    left
    rw [owned, ← same]
    rfl
  · exact List.nodup_cons.mpr ⟨tracked.unentered call runId attemptId claimed, tracked.entered⟩
  · intro id member
    rcases List.mem_cons.mp member with rfl | old
    · exact ⟨attempt, found, by simp [running]⟩
    · exact tracked.started id old
  · intro other otherRun otherAttempt otherClaimed member
    by_cases same : other = call
    · subst same
      rw [Function.update_self] at otherClaimed
      cases otherClaimed
    · rw [Function.update_of_ne same] at otherClaimed
      rcases List.mem_cons.mp member with rfl | old
      · have otherOwned : (sessions.calls other).ownedAttempt = some otherAttempt := by
          rw [otherClaimed]
          rfl
        exact same (tracked.attempts other call otherAttempt otherOwned owned)
      · exact tracked.unentered other otherRun otherAttempt otherClaimed old

theorem Tracked.setRequest (tracked : Tracked sessions) {db : Database} {fresh : Option RunAttempt}
    (moves : Moves sessions.db.attempts db.attempts none fresh) (caller : Nat) (phase : RequestPhase)
    (added : ∀ row, phase.fresh = some row → FreshRow db.attempts row)
    (others : ∀ other, other ≠ caller → ∀ id, (sessions.requests other).attemptKey = some id →
      ∀ added, fresh = some added → added.id ≠ id)
    (fair : ∀ id, phase.attemptKey = some id → (sessions.requests caller).attemptKey = some id ∨
      ∀ other, (sessions.requests other).attemptKey ≠ some id) :
    Tracked { sessions.setRequest caller phase with db := db } where
  tenure := fun call => (tracked.tenure call).moves moves (fun _ _ _ same => nomatch same)
  fresh := by
    intro other row isFresh
    by_cases same : other = caller
    · subst same
      exact added row (by simpa [Sessions.setRequest] using isFresh)
    · have before : (sessions.requests other).fresh = some row := by
        simpa [Sessions.setRequest, same] using isFresh
      exact (tracked.fresh other row before).moves moves
        (others other same row.id ((RequestPhase.attemptKey_eq_some _ _).mpr ⟨row, before, rfl⟩))
  attempts := tracked.attempts
  attemptKeys := tracked.attemptKeys.update_state caller phase fair
  entered := tracked.entered
  started := fun id member => moves.started (tracked.started id member)
  unentered := tracked.unentered

theorem tracked_requestStep (tracked : Tracked sessions) (caller : Nat) {statement : Statement}
    {phase : RequestPhase} {db : Database}
    (moved : RequestStep sessions.db sessions.locks statement (sessions.requests caller) phase db) :
    Tracked { sessions.setRequest caller phase with db := db } := by
  apply tracked.setRequest moved.moves caller phase
  · intro row fresh
    exact moved.freshRow (tracked.fresh caller) fresh
  · intro other _ id _ added same
    cases same
  · intro id holds
    rcases moved.takes.2.1 id holds with before | rfl
    · exact Or.inl before
    · right
      intro other same
      exact Nat.lt_irrefl _ (tracked.attemptKey_lt same)

theorem tracked_requestCommit (tracked : Tracked sessions) (caller : Nat) {statement : Statement}
    {db : Database}
    (committed : RequestCommit sessions.db sessions.locks statement (sessions.requests caller) db) :
    Tracked { sessions.setRequest caller .done with db := db } := by
  obtain ⟨row, -, moves, -, key⟩ := committed.adopts (tracked.fresh caller)
  apply tracked.setRequest moves caller .done (fun _ same => nomatch same)
  · intro other different id holds added same equal
    obtain rfl := Option.some.inj same
    subst equal
    rcases key with fresh | next
    · have own : (sessions.requests caller).attemptKey = some row.id :=
        (RequestPhase.attemptKey_eq_some _ _).mpr ⟨row, fresh, rfl⟩
      exact different (tracked.attemptKeys other caller row.id holds own)
    · have below := tracked.attemptKey_lt holds
      rw [next] at below
      exact Nat.lt_irrefl _ below
  · intro id same
    cases same

theorem tracked_step (tracked : Tracked sessions)
    (step : Step accepts allowed sessions sessions') : Tracked sessions' := by
  cases step with
  | createProject name description createdAt =>
      exact ⟨tracked.tenure, tracked.fresh, tracked.attempts, tracked.attemptKeys,
        tracked.entered, tracked.started, tracked.unentered⟩
  | call call phase moved => exact tracked_callStep tracked call moved
  | enter call runId attemptId run attempt runner registry claimed =>
      exact tracked_enter tracked call runId attemptId claimed
  | callCommit call phase db committed => exact tracked_callCommit tracked call committed
  | request caller statement phase db permitted moved =>
      exact tracked_requestStep tracked caller moved
  | requestCommit caller statement db permitted committed =>
      exact tracked_requestCommit tracked caller committed

theorem tracked_reached (reached : ReflTransGen (Step accepts allowed) empty sessions) :
    Tracked sessions :=
  Transition.invariant tracked_empty (fun _ _ tracked step => tracked_step tracked step) reached

end Sessions

end Evalynx
