import Evalynx.Attempts

namespace Evalynx

open Relational Relation Holding

theorem effect_createRun {db : Database} {run : Run} {attempt : RunAttempt}
    (fact : RequestFact db (.firstInserted run attempt)) :
    Effect db { db with runs := db.runs.adopt run, attempts := db.attempts.adopt attempt }
      none (some run.id) (some attempt) := by
  obtain ⟨runRow, attemptRow, number, pointer⟩ := fact
  have rows := Table.mem_adopt db.attempts attempt attemptRow.unused attemptRow.reserved
  have runRows := Table.mem_adopt db.runs run runRow.unused runRow.reserved
  constructor
  · exact Or.inr (.founded run attempt 0 0 runRow.initial attemptRow.initial attemptRow.owner number
      pointer runRow.unused runRow.reserved attemptRow.unused attemptRow.reserved)
  · intro other member _
    exact (rows other).mpr (Or.inl member)
  · intro row member
    rcases (rows row).mp member with old | rfl
    · exact Or.inl ⟨row, old, .refl row⟩
    · exact Or.inr rfl
  · intro other member
    rcases (runRows other).mp member with old | rfl
    · exact Or.inl ⟨other, old, rfl⟩
    · exact Or.inr rfl
  · exact Nat.le_of_eq (Table.next_adopt _ _).symm
  · exact Nat.le_of_eq (Table.next_adopt _ _).symm

theorem effect_retry {db : Database} {runId attemptNumber : Nat} (row : RunAttempt) {run : Run}
    {runSnapshot : Snapshot} (keys : Nat) (found : db.runs.get? runId = some run)
    (ready : Ready db runId attemptNumber row.id) (initial : row.toSnapshot = .initial)
    (owner : row.runId = runId) (number : row.attemptNumber = attemptNumber)
    (unused : db.attempts.get? row.id = none) (reserved : row.id < db.attempts.next + keys)
    (queued : runSnapshot.status = .queued) :
    Effect db { db with
        attempts := (db.attempts.reserve keys).adopt row
        runs := db.runs.put
          { run with toSnapshot := runSnapshot, currentAttemptId := some row.id } }
      none none (some row) := by
  obtain ⟨holder, past, current, holderFound, lineage, failed, rfl, newer⟩ := ready
  rw [found] at holderFound
  obtain rfl := Option.some.inj holderFound
  obtain rfl : run.id = runId := Table.get?_id found
  have rows := Table.mem_adopt (db.attempts.reserve keys) row unused reserved
  have runRows := mem_putRun
    { run with toSnapshot := runSnapshot, currentAttemptId := some row.id } found
  constructor
  · refine Or.inr (.retried run current row runSnapshot keys found lineage.current_get?
      lineage.pointer failed owner initial ?_ newer unused reserved queued)
    rw [number, lineage.length]
  · intro other member _
    exact (rows other).mpr (Or.inl member)
  · intro other member
    rcases (rows other).mp member with old | rfl
    · exact Or.inl ⟨other, old, .refl other⟩
    · exact Or.inr rfl
  · intro other member
    rcases (runRows other).mp member with rfl | ⟨old, _⟩
    · exact Or.inl ⟨run, Table.get?_mem found, rfl⟩
    · exact Or.inl ⟨other, old, rfl⟩
  · simp
  · exact Nat.le_refl _

theorem clearRunSnapshot_failed {loaded : Snapshot} (stored : Snapshot)
    (failed : loaded.status = .failed) : (clearRunSnapshot loaded stored).status = .queued := by
  simp [clearRunSnapshot, failed]

theorem effect_commitRetry {db : Database} {seen : LoadedRun} {row : RunAttempt} {runRow : Run}
    (fact : RequestFact db (.updated seen row runRow)) :
    Effect db { db with attempts := db.attempts.adopt row, runs := db.runs.put runRow }
      none none (some row) := by
  obtain ⟨inserted, run, found, rfl⟩ := fact
  have attempt := inserted.retry.attempt
  have same : supersede seen.run row.id run =
      { run with
        toSnapshot := clearRunSnapshot seen.run.toSnapshot run.toSnapshot
        currentAttemptId := some row.id } := by
    simp [supersede, inserted.retry.pointer]
  rw [same]
  exact effect_retry row 0 found inserted.ready attempt.initial attempt.owner rfl attempt.unused
    attempt.reserved (clearRunSnapshot_failed run.toSnapshot inserted.retry.failed)

theorem effect_wholeRetry {db written : Database} (consistent : Consistent db) {runId : Nat}
    {seen : LoadedRun} {now : Timestamp} {attemptId : Nat}
    (prepared : prepareRetry db runId = .ok seen)
    (inserted : insertRetry db seen now = some (written, attemptId)) :
    Effect db written none none (some (newAttempt db.attempts.next seen.run.id
      (nextAttemptNumber seen.attempts) now)) := by
  obtain ⟨-, allowed, loaded⟩ := prepareRetry_eq_ok prepared
  obtain ⟨status, found, ready⟩ := prepareRetry_ready consistent prepared
  obtain ⟨run, runFound, key, same⟩ := loadRun_eq_some loaded
  rw [found] at runFound
  obtain rfl := Option.some.inj runFound
  obtain ⟨past, current, lineage⟩ := consistent.of_run found
  have number : nextAttemptNumber seen.attempts = past.length + 2 := by
    rw [same]
    exact lineage.nextAttemptNumber
  have written_eq := insertRetry_current lineage found seen.currentAttempt now
  have attempts : seen.attempts = selectAttempts db seen.run.id := by rw [same]
  rw [← attempts, inserted] at written_eq
  obtain ⟨rfl, rfl⟩ := Prod.mk.inj (Option.some.inj written_eq)
  rw [number] at ready ⊢
  exact effect_retry (newAttempt db.attempts.next seen.run.id (past.length + 2) now) 1 found
    ready rfl rfl rfl (db.attempts.get?_next _ (Nat.le_refl _)) (Nat.lt_succ_self _)
    (clearRunSnapshot_status seen.run.toSnapshot)

theorem requestCommit_effect {db db' : Database} (consistent : Consistent db) {locks : Locks}
    {statement : Statement} {phase : RequestPhase} (fact : RequestFact db phase)
    (committed : RequestCommit db locks statement phase db') :
    ∃ freshRun fresh, Effect db db' none freshRun fresh := by
  cases committed with
  | createRun run attempt => exact ⟨_, _, effect_createRun fact⟩
  | retryRun seen row runRow => exact ⟨_, _, effect_commitRetry fact⟩
  | wholeRetry runId seen now written attemptId runFree prepared numberFree inserted =>
      exact ⟨_, _, effect_wholeRetry consistent prepared inserted⟩

namespace Sessions

structure Valid (sessions : Sessions) : Prop extends Tracked sessions where
  consistent : Consistent sessions.db
  calls : ∀ call, CallFact sessions.db (sessions.calls call)
  requests : ∀ caller, RequestFact sessions.db (sessions.requests caller)
  runKeys : Exclusive (fun caller => (sessions.requests caller).runKey)
  numbers : Exclusive (fun caller => (sessions.requests caller).numberLock)

theorem valid_empty : Valid empty where
  toTracked := tracked_empty
  consistent := consistent_empty
  calls := fun _ => ⟨fun _ _ same => (nomatch same), fun _ _ same => (nomatch same)⟩
  requests := fun _ => trivial
  runKeys := exclusive_none
  numbers := exclusive_none

variable {accepts : TerminalValues → Bool} {allowed : Schedule} {sessions sessions' : Sessions}

theorem Valid.otherCalls (valid : Valid sessions) {db : Database} {moved freshRun : Option Nat}
    {fresh : Option RunAttempt} (effect : Effect sessions.db db moved freshRun fresh) (call : Nat)
    (own : ∀ attemptId, moved = some attemptId →
      (sessions.calls call).ownedAttempt = some attemptId) (other : Nat) (different : other ≠ call) :
    CallFact db (sessions.calls other) := by
  apply (valid.calls other).effect effect valid.consistent
  intro runId attemptId owns same
  have holds : (sessions.calls other).ownedAttempt = some attemptId :=
    (CallPhase.ownedAttempt_iff _ _).mpr ⟨runId, owns⟩
  exact different (valid.attempts other call attemptId holds (own attemptId same))

theorem Valid.allRequests (valid : Valid sessions) {db : Database} {moved : Option Nat}
    (effect : Effect sessions.db db moved none none) (caller : Nat) :
    RequestFact db (sessions.requests caller) :=
  request_effect effect valid.consistent (valid.requests caller) (fun _ _ same => nomatch same)
    (fun _ _ _ same => nomatch same) (fun _ _ _ same => nomatch same)

theorem Valid.allCalls (valid : Valid sessions) {db : Database} {freshRun : Option Nat}
    {fresh : Option RunAttempt} (effect : Effect sessions.db db none freshRun fresh) (call : Nat) :
    CallFact db (sessions.calls call) :=
  (valid.calls call).effect effect valid.consistent (fun _ _ _ same => nomatch same)

theorem Valid.setCall (valid : Valid sessions) {db : Database} {moved : Option Nat}
    (effect : Effect sessions.db db moved none none) (call : Nat) (phase : CallPhase)
    (own : ∀ attemptId, moved = some attemptId →
      (sessions.calls call).ownedAttempt = some attemptId)
    (fact : CallFact db phase) (entered : List Nat)
    (tracked : Tracked { sessions.setCall call phase with db := db, entered := entered }) :
    Valid { sessions.setCall call phase with db := db, entered := entered } where
  toTracked := tracked
  consistent := effect.consistent valid.consistent
  calls := by
    intro other
    by_cases same : other = call
    · subst same
      simpa [Sessions.setCall] using fact
    · simpa [Sessions.setCall, same] using valid.otherCalls effect call own other same
  requests := valid.allRequests effect
  runKeys := valid.runKeys
  numbers := valid.numbers

theorem valid_callStep (valid : Valid sessions) (call : Nat) {phase : CallPhase}
    (moved : CallStep accepts sessions.db sessions.locks (sessions.calls call) phase) :
    Valid (sessions.setCall call phase) :=
  valid.setCall (.refl sessions.db) call phase nofun
    ((valid.calls call).step valid.consistent moved) sessions.entered
    (tracked_callStep valid.toTracked call moved)

theorem valid_callCommit (valid : Valid sessions) (call : Nat) {phase : CallPhase} {db : Database}
    (committed : CallCommit sessions.db (sessions.calls call) phase db) :
    Valid { sessions.setCall call phase with db := db } := by
  have tracked := tracked_callCommit valid.toTracked call committed
  obtain ⟨runId, attemptId, attempt, run, attemptSnapshot, runSnapshot, owns, holds, progress,
    together, rfl, ends⟩ := (valid.calls call).committed committed
  apply valid.setCall (effect_advance holds progress together) call phase _ _ _ tracked
  · intro id same
    exact same ▸ (CallPhase.ownedAttempt_iff _ _).mpr ⟨runId, owns⟩
  · rcases ends with rfl | ⟨rfl, _, running⟩
    · exact callFact_done _
    · exact callFact_of_owns rfl (holds_advance holds together) running

theorem valid_enter (valid : Valid sessions) (call runId attemptId : Nat)
    (claimed : sessions.calls call = .claimed runId attemptId) :
    Valid { sessions.setCall call (.executing runId attemptId) with
      entered := attemptId :: sessions.entered } := by
  obtain ⟨attempt, run, holds, fact⟩ :=
    (valid.calls call).owned runId attemptId (by rw [claimed]; rfl)
  have running : attempt.status = .running := by
    rw [claimed] at fact
    exact fact
  exact valid.setCall (.refl sessions.db) call (.executing runId attemptId) nofun
    (callFact_of_owns rfl holds running) (attemptId :: sessions.entered)
    (tracked_enter valid.toTracked call runId attemptId claimed)

theorem Valid.setRequest (valid : Valid sessions) {db : Database} {freshRun : Option Nat}
    {fresh : Option RunAttempt} (effect : Effect sessions.db db none freshRun fresh) (caller : Nat)
    (phase : RequestPhase) (tracked : Tracked { sessions.setRequest caller phase with db := db })
    (fact : RequestFact db phase)
    (others : ∀ other, other ≠ caller →
      (∀ id, (sessions.requests other).runKey = some id → freshRun ≠ some id) ∧
      (∀ id, (sessions.requests other).attemptKey = some id →
        ∀ added, fresh = some added → added.id ≠ id) ∧
      (∀ key, (sessions.requests other).numberLock = some key →
        ∀ added, fresh = some added → (added.runId, added.attemptNumber) ≠ key))
    (fairRun : ∀ id, phase.runKey = some id → (sessions.requests caller).runKey = some id ∨
      ∀ other, (sessions.requests other).runKey ≠ some id)
    (fairNumber : ∀ key, phase.numberLock = some key →
      (sessions.requests caller).numberLock = some key ∨
        ∀ other, (sessions.requests other).numberLock ≠ some key) :
    Valid { sessions.setRequest caller phase with db := db } where
  toTracked := tracked
  consistent := effect.consistent valid.consistent
  calls := valid.allCalls effect
  requests := by
    intro other
    by_cases same : other = caller
    · subst same
      simpa [Sessions.setRequest] using fact
    · obtain ⟨run, key, number⟩ := others other same
      simpa [Sessions.setRequest, same] using
        request_effect effect valid.consistent (valid.requests other) run key number
  runKeys := valid.runKeys.update_state caller phase fairRun
  numbers := valid.numbers.update_state caller phase fairNumber

theorem valid_requestStep (valid : Valid sessions) (caller : Nat) {statement : Statement}
    {phase : RequestPhase} {db : Database}
    (settled : statement = .selectAttempts → ∀ run current attempts,
      sessions.requests caller = .reading run current attempts → run.status = .failed →
        CurrentFailed sessions.db run.id)
    (moved : RequestStep sessions.db sessions.locks statement (sessions.requests caller) phase db) :
    Valid { sessions.setRequest caller phase with db := db } := by
  obtain ⟨runKeys, -, numbers⟩ := moved.takes
  apply valid.setRequest (request_step_effect moved) caller phase
    (tracked_requestStep valid.toTracked caller moved)
  · exact request_step_fact valid.consistent (valid.requests caller) settled moved
  · intro other _
    exact ⟨fun _ _ same => (nomatch same), fun _ _ _ same => (nomatch same),
      fun _ _ _ same => (nomatch same)⟩
  · intro id holds
    rcases runKeys id holds with before | rfl
    · exact Or.inl before
    · right
      intro other same
      exact Nat.lt_irrefl _ (runKey_lt (valid.requests other) same)
  · intro key holds
    rcases numbers key holds with before | free
    · exact Or.inl before
    · right
      intro other same
      exact free ⟨other, same⟩

theorem Valid.commitRequest (valid : Valid sessions) {db : Database} {freshRun : Option Nat}
    {fresh : Option RunAttempt} (effect : Effect sessions.db db none freshRun fresh) (caller : Nat)
    (tracked : Tracked { sessions.setRequest caller .done with db := db })
    (others : ∀ other, other ≠ caller →
      (∀ id, (sessions.requests other).runKey = some id → freshRun ≠ some id) ∧
      (∀ id, (sessions.requests other).attemptKey = some id →
        ∀ added, fresh = some added → added.id ≠ id) ∧
      (∀ key, (sessions.requests other).numberLock = some key →
        ∀ added, fresh = some added → (added.runId, added.attemptNumber) ≠ key)) :
    Valid { sessions.setRequest caller .done with db := db } :=
  valid.setRequest effect caller .done tracked trivial others (fun _ same => (nomatch same))
    (fun _ same => (nomatch same))

theorem Valid.attemptKey_apart (valid : Valid sessions) {caller other : Nat}
    (different : other ≠ caller) {added : RunAttempt}
    (own : (sessions.requests caller).attemptKey = some added.id) {id : Nat}
    (holds : (sessions.requests other).attemptKey = some id) : added.id ≠ id := by
  rintro rfl
  exact different (valid.attemptKeys other caller _ holds own)

theorem valid_requestCommit (valid : Valid sessions) (caller : Nat) {statement : Statement}
    {db : Database}
    (committed : RequestCommit sessions.db sessions.locks statement (sessions.requests caller) db) :
    Valid { sessions.setRequest caller .done with db := db } := by
  have fact := valid.requests caller
  have tracked := tracked_requestCommit valid.toTracked caller committed
  generalize phaseEq : sessions.requests caller = phase at committed fact
  cases committed with
  | createRun run attempt =>
      apply valid.commitRequest (effect_createRun fact) caller tracked
      intro other different
      refine ⟨?_, ?_, ?_⟩
      · intro id holds same
        have own : (sessions.requests caller).runKey = some id := by
          rw [phaseEq]
          exact same
        exact different (valid.runKeys other caller id holds own)
      · intro id holds added same
        obtain rfl := Option.some.inj same
        apply valid.attemptKey_apart different _ holds
        rw [phaseEq]
        rfl
      · intro key holds added same equal
        obtain rfl := Option.some.inj same
        obtain ⟨stored, found⟩ := numberLock_run (valid.requests other) (equal ▸ holds)
        rw [fact.2.1.owner, fact.1.unused] at found
        cases found
  | retryRun seen row runRow =>
      apply valid.commitRequest (effect_commitRetry fact) caller tracked
      intro other different
      refine ⟨fun _ _ same => (nomatch same), ?_, ?_⟩
      · intro id holds added same
        obtain rfl := Option.some.inj same
        apply valid.attemptKey_apart different _ holds
        rw [phaseEq]
        rfl
      · intro key holds added same equal
        obtain rfl := Option.some.inj same
        have own : (sessions.requests caller).numberLock = some key := by
          rw [phaseEq, ← equal, fact.1.retry.attempt.owner]
          rfl
        exact different (valid.numbers other caller key holds own)
  | wholeRetry runId seen now written attemptId runFree prepared numberFree inserted =>
      apply valid.commitRequest (effect_wholeRetry valid.consistent prepared inserted) caller tracked
      intro other different
      refine ⟨fun _ _ same => (nomatch same), ?_, ?_⟩
      · intro id holds added same equal
        obtain rfl := Option.some.inj same
        have below := valid.attemptKey_lt holds
        rw [← equal] at below
        exact Nat.lt_irrefl _ below
      · intro key holds added same equal
        obtain rfl := Option.some.inj same
        obtain ⟨runKey, _⟩ := prepareRetry_eq_ok prepared
        apply numberFree
        refine ⟨other, ?_⟩
        rw [holds, ← equal, ← runKey]
        rfl

end Sessions

end Evalynx
