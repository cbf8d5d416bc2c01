import Evalynx.LockOrder
import Evalynx.Potential
import Evalynx.Schedules

/-! Which statement waits for which transaction, and that every call under way comes to its end. -/

namespace Evalynx

open Relational Relation

inductive Lock where
  | attempt (id : Nat)
  | run (id : Nat)
  | number (runId attemptNumber : Nat)

def Lock.rank : Lock → Nat
  | .attempt _ | .number _ _ => 0
  | .run _ => 1

theorem Lock.rank_lt (lock : Lock) : lock.rank < 2 := by
  cases lock <;> simp [Lock.rank]

inductive Party where
  | call (call : Nat)
  | request (caller : Nat)

def CallPhase.HasLock (phase : CallPhase) : Lock → Prop
  | .attempt id => phase.attemptLock = some id
  | .run id => phase.runLock = some id
  | .number _ _ => False

def RequestPhase.HasLock (phase : RequestPhase) : Lock → Prop
  | .attempt _ => False
  | .run id => phase.runLock = some id
  | .number runId attemptNumber => phase.numberLock = some (runId, attemptNumber)

section Statements

variable (db : Database)

/-- The lock the next UPDATE of a call takes. One whose committed row does not match takes none. -/
inductive CallPhase.NeedsLock : CallPhase → Lock → Prop where
  | claimAttempt (runId attemptId : Nat) (attempt : RunAttempt)
      (found : db.attempts.get? attemptId = some attempt) (matched : attempt.isQueued = true) :
      NeedsLock (.selected runId attemptId) (.attempt attemptId)
  | claimRun (runId attemptId : Nat) (now : Timestamp) (row : RunAttempt) (run : Run)
      (found : db.runs.get? runId = some run) (matched : run.isQueuedFor attemptId = true) :
      NeedsLock (.attemptClaimed runId attemptId now row) (.run runId)
  | persistAttempt (runId attemptId : Nat) (entered : Bool) (result : RunnerResult)
      (attempt : RunAttempt) (found : db.attempts.get? attemptId = some attempt)
      (matched : attempt.isRunning = true) :
      NeedsLock (.finished runId attemptId entered result) (.attempt attemptId)
  | persistRun (runId attemptId : Nat) (entered : Bool) (values : TerminalValues)
      (row : RunAttempt) (run : Run) (found : db.runs.get? runId = some run)
      (matched : run.isCurrent attemptId = true) :
      NeedsLock (.attemptPersisted runId attemptId entered values row) (.run runId)

/-- The lock the INSERT or the UPDATE of a retry takes. An INSERT whose number is committed fails
at once. -/
inductive RequestPhase.NeedsLock : RequestPhase → Lock → Prop where
  | insertAttempt (seen : LoadedRun) (row : RunAttempt)
      (unique : violatesUniqueNumber db.attempts.rows seen.run.id row.attemptNumber = false) :
      NeedsLock (.keyTaken seen row) (.number seen.run.id row.attemptNumber)
  | updateRun (seen : LoadedRun) (row : RunAttempt) (run : Run)
      (found : db.runs.get? seen.run.id = some run) :
      NeedsLock (.inserted seen row) (.run seen.run.id)

end Statements

section Inversion

variable {db : Database}

theorem CallPhase.NeedsLock.attempt {phase : CallPhase} {attemptId : Nat}
    (needs : phase.NeedsLock db (.attempt attemptId)) :
    (∃ runId attempt, phase = .selected runId attemptId ∧
        db.attempts.get? attemptId = some attempt ∧ attempt.status = .queued) ∨
      phase.attemptLock = none ∧ ∃ runId, phase.owns = some (runId, attemptId) := by
  cases needs with
  | claimAttempt runId _ attempt found matched =>
      exact Or.inl ⟨runId, attempt, rfl, found, by simpa [RunAttempt.isQueued] using matched⟩
  | persistAttempt runId => exact Or.inr ⟨rfl, runId, rfl⟩

theorem CallPhase.NeedsLock.run {phase : CallPhase} {runId : Nat}
    (needs : phase.NeedsLock db (.run runId)) :
    phase.runLock = none ∧ ∃ attemptId, phase.owns = some (runId, attemptId) := by
  cases needs with
  | claimRun _ attemptId | persistRun _ attemptId => exact ⟨rfl, attemptId, rfl⟩

theorem CallPhase.NeedsLock.number {phase : CallPhase} {runId attemptNumber : Nat} :
    ¬ phase.NeedsLock db (.number runId attemptNumber) := by
  intro needs
  cases needs

theorem RequestPhase.NeedsLock.attempt {phase : RequestPhase} {attemptId : Nat} :
    ¬ phase.NeedsLock db (.attempt attemptId) := by
  intro needs
  cases needs

theorem RequestPhase.NeedsLock.run {phase : RequestPhase} {runId : Nat}
    (needs : phase.NeedsLock db (.run runId)) :
    phase.runLock = none ∧ ∃ number, phase.numberLock = some (runId, number) := by
  cases needs with
  | updateRun seen row => exact ⟨rfl, row.attemptNumber, rfl⟩

theorem RequestPhase.NeedsLock.number {phase : RequestPhase} {runId attemptNumber : Nat}
    (needs : phase.NeedsLock db (.number runId attemptNumber)) :
    ∃ seen row, phase = .keyTaken seen row ∧ seen.run.id = runId ∧
      row.attemptNumber = attemptNumber ∧
      violatesUniqueNumber db.attempts.rows runId attemptNumber = false := by
  cases needs with
  | insertAttempt seen row unique => exact ⟨seen, row, rfl, rfl, rfl, unique⟩

theorem CallPhase.NeedsLock.ordered {phase : CallPhase} {lock next : Lock}
    (needs : phase.NeedsLock db next) (held : phase.HasLock lock) : lock.rank < next.rank := by
  cases needs with
  | claimAttempt | persistAttempt => cases lock <;> cases held
  | claimRun | persistRun =>
      cases lock with
      | attempt | number => exact Nat.zero_lt_one
      | run => cases held

theorem RequestPhase.NeedsLock.ordered {phase : RequestPhase} {lock next : Lock}
    (needs : phase.NeedsLock db next) (held : phase.HasLock lock) : lock.rank < next.rank := by
  cases needs with
  | insertAttempt => cases lock <;> cases held
  | updateRun =>
      cases lock with
      | attempt | number => exact Nat.zero_lt_one
      | run => cases held

end Inversion

theorem PhaseFact.claiming {phase : CallPhase} {attemptId : Nat} {attempt : RunAttempt} {run : Run}
    (fact : PhaseFact phase attempt run) (held : phase.attemptLock = some attemptId)
    (queued : attempt.status = .queued) : phase.claiming = true := by
  cases phase with
  | attemptClaimed | runMissed | runClaimed => rfl
  | attemptPersisted | runPersisted =>
      have running := fact.1
      rw [queued] at running
      cases running
  | idle | selected | claimed | executing | finished | abandoned | done => cases held

namespace Sessions

def HasLock (sessions : Sessions) : Party → Lock → Prop
  | .call call => (sessions.calls call).HasLock
  | .request caller => (sessions.requests caller).HasLock

def NeedsLock (sessions : Sessions) (db : Database) : Party → Lock → Prop
  | .call call => (sessions.calls call).NeedsLock db
  | .request caller => (sessions.requests caller).NeedsLock db

def WaitsFor (sessions : Sessions) : Party → Party → Prop :=
  LockOrder.WaitsFor sessions.HasLock (sessions.NeedsLock sessions.db)

inductive Commits (sessions : Sessions) : Party → Database → Prop where
  | call (call : Nat) (phase : CallPhase) (db : Database)
      (committed : CallCommit sessions.db (sessions.calls call) phase db) :
      Commits sessions (.call call) db
  | request (caller : Nat) (statement : Statement) (db : Database)
      (committed : RequestCommit sessions.db sessions.locks statement (sessions.requests caller)
        db) :
      Commits sessions (.request caller) db

/-- Two deliveries of one attempt, or two retries that insert the same number; the second party is
the one ahead. -/
inductive Rivals (sessions : Sessions) : Party → Party → Prop where
  | deliveries (call winner runId attemptId : Nat)
      (waiting : sessions.calls call = .selected runId attemptId)
      (claiming : (sessions.calls winner).claiming = true)
      (owns : (sessions.calls winner).owns = some (runId, attemptId)) :
      Rivals sessions (.call call) (.call winner)
  | retries (caller winner : Nat) (seen : LoadedRun) (row : RunAttempt)
      (waiting : sessions.requests caller = .keyTaken seen row)
      (inserted : (sessions.requests winner).numberLock = some (seen.run.id, row.attemptNumber)) :
      Rivals sessions (.request caller) (.request winner)

variable {accepts : TerminalValues → Bool} {allowed : Schedule} {sessions sessions' : Sessions}

theorem owns_of_runLock {phase : CallPhase} {runId : Nat} (held : phase.runLock = some runId) :
    ∃ attemptId, phase.owns = some (runId, attemptId) := by
  cases phase with
  | runClaimed run attempt row runRow =>
      obtain rfl := Option.some.inj held
      exact ⟨attempt, rfl⟩
  | runPersisted run attempt entered row runRow =>
      cases runRow with
      | none => cases held
      | some stored =>
          obtain rfl := Option.some.inj held
          exact ⟨attempt, rfl⟩
  | idle | selected | attemptClaimed | runMissed | claimed | executing => cases held
  | finished | attemptPersisted | abandoned | done => cases held

theorem owns_of_attemptLock {phase : CallPhase} {attemptId : Nat}
    (held : phase.attemptLock = some attemptId) :
    ∃ runId, phase.owns = some (runId, attemptId) := by
  cases phase with
  | attemptClaimed run attempt now row | runMissed run attempt | runClaimed run attempt row runRow
  | attemptPersisted run attempt entered values row | runPersisted run attempt entered row runRow =>
      obtain rfl := Option.some.inj held
      exact ⟨run, rfl⟩
  | idle | selected | claimed | executing | finished | abandoned | done => cases held

theorem Valid.runLock_owner (valid : Valid sessions) {call holder runId attemptId : Nat}
    (owns : (sessions.calls call).owns = some (runId, attemptId))
    (held : (sessions.calls holder).runLock = some runId) : call = holder := by
  obtain ⟨other, otherOwns⟩ := owns_of_runLock held
  obtain ⟨attempt, run, holds, -⟩ := (valid.calls call).owned runId attemptId owns
  obtain ⟨otherAttempt, otherRun, otherHolds, -⟩ :=
    (valid.calls holder).owned runId other otherOwns
  obtain rfl := Option.some.inj (holds.runFound.symm.trans otherHolds.runFound)
  obtain rfl := Option.some.inj (holds.pointer.symm.trans otherHolds.pointer)
  exact valid.attempts call holder attemptId
    ((CallPhase.ownedAttempt_iff _ _).mpr ⟨runId, owns⟩)
    ((CallPhase.ownedAttempt_iff _ _).mpr ⟨runId, otherOwns⟩)

theorem ready_of_numberLock {db : Database} {phase : RequestPhase} (fact : RequestFact db phase)
    {runId number : Nat} (held : phase.numberLock = some (runId, number)) :
    ∃ bound, Ready db runId number bound := by
  cases phase with
  | inserted seen row =>
      obtain ⟨rfl, rfl⟩ := Prod.mk.inj (Option.some.inj held)
      exact ⟨_, fact.ready⟩
  | updated seen row runRow =>
      obtain ⟨rfl, rfl⟩ := Prod.mk.inj (Option.some.inj held)
      exact ⟨_, fact.1.ready⟩
  | idle | runInserted | firstInserted | reading | loaded | keyTaken | done => cases held

theorem numberLock_of_runLock {phase : RequestPhase} {runId : Nat}
    (held : phase.runLock = some runId) : ∃ number, phase.numberLock = some (runId, number) := by
  cases phase with
  | updated seen row runRow =>
      obtain rfl := Option.some.inj held
      exact ⟨row.attemptNumber, rfl⟩
  | idle | runInserted | firstInserted | reading | loaded | keyTaken | inserted | done => cases held

theorem Valid.owned_not_ready (valid : Valid sessions) {call runId attemptId number bound : Nat}
    (owns : (sessions.calls call).owns = some (runId, attemptId)) :
    ¬ Ready sessions.db runId number bound := by
  rintro ⟨run, past, current, found, lineage, failed, -, -⟩
  obtain ⟨attempt, owned, holds, fact⟩ := (valid.calls call).owned runId attemptId owns
  obtain rfl := Option.some.inj (holds.runFound.symm.trans found)
  have status := (holds.status.symm.trans lineage.status).trans failed
  rcases fact.alive owns with queued | running
  · rw [queued] at status
    cases status
  · rw [running] at status
    cases status

theorem Valid.inserted_unique (valid : Valid sessions) {caller other runId number later : Nat}
    (first : (sessions.requests caller).numberLock = some (runId, number))
    (second : (sessions.requests other).numberLock = some (runId, later)) : caller = other := by
  obtain ⟨bound, run, past, current, found, lineage, -, next, -⟩ :=
    ready_of_numberLock (valid.requests caller) first
  obtain ⟨otherBound, otherRun, otherPast, last, otherFound, otherLineage, -, otherNext, -⟩ :=
    ready_of_numberLock (valid.requests other) second
  obtain rfl := Option.some.inj (found.symm.trans otherFound)
  have length := lineage.length.symm.trans otherLineage.length
  have same : number = later := by omega
  exact valid.numbers caller other _ first (same ▸ second)

theorem Valid.run_free (valid : Valid sessions) {party other : Party} {runId : Nat}
    (needs : sessions.NeedsLock sessions.db party (.run runId)) :
    ¬ sessions.HasLock other (.run runId) := by
  intro held
  cases party with
  | call call =>
      obtain ⟨free, attemptId, owns⟩ := CallPhase.NeedsLock.run needs
      cases other with
      | call holder =>
          obtain rfl := valid.runLock_owner owns held
          exact Option.some_ne_none runId (held.symm.trans free)
      | request holder =>
          obtain ⟨number, inserted⟩ := numberLock_of_runLock held
          obtain ⟨bound, ready⟩ := ready_of_numberLock (valid.requests holder) inserted
          exact valid.owned_not_ready owns ready
  | request caller =>
      obtain ⟨free, number, inserted⟩ := RequestPhase.NeedsLock.run needs
      cases other with
      | call holder =>
          obtain ⟨attemptId, owns⟩ := owns_of_runLock held
          obtain ⟨bound, ready⟩ := ready_of_numberLock (valid.requests caller) inserted
          exact valid.owned_not_ready owns ready
      | request holder =>
          obtain ⟨later, ahead⟩ := numberLock_of_runLock held
          obtain rfl := valid.inserted_unique inserted ahead
          exact Option.some_ne_none runId (held.symm.trans free)

theorem Valid.delivery_rivals (valid : Valid sessions) {call holder attemptId : Nat}
    (needs : (sessions.calls call).NeedsLock sessions.db (.attempt attemptId))
    (held : (sessions.calls holder).attemptLock = some attemptId) :
    sessions.Rivals (.call call) (.call holder) := by
  obtain ⟨runId, owns⟩ := owns_of_attemptLock held
  rcases needs.attempt with ⟨wanted, attempt, waiting, found, queued⟩ | ⟨free, owned, mine⟩
  · obtain ⟨row, run, holds, fact⟩ := (valid.calls holder).owned runId attemptId owns
    obtain ⟨selected, selectedFound, owner⟩ :=
      (valid.calls call).selected wanted attemptId waiting
    obtain rfl := Option.some.inj (found.symm.trans holds.attemptFound)
    obtain rfl := Option.some.inj (found.symm.trans selectedFound)
    obtain rfl := owner.symm.trans holds.owner
    exact .deliveries call holder _ attemptId waiting (fact.claiming held queued) owns
  · obtain rfl := valid.attempts call holder attemptId
      ((CallPhase.ownedAttempt_iff _ _).mpr ⟨owned, mine⟩)
      ((CallPhase.ownedAttempt_iff _ _).mpr ⟨runId, owns⟩)
    exact absurd (held.symm.trans free) (Option.some_ne_none attemptId)

theorem Valid.rivals (valid : Valid sessions) {party other : Party}
    (waits : sessions.WaitsFor party other) : sessions.Rivals party other := by
  obtain ⟨lock, needs, held⟩ := waits
  cases lock with
  | run runId => exact absurd held (valid.run_free needs)
  | attempt attemptId =>
      cases party with
      | request caller => exact absurd needs RequestPhase.NeedsLock.attempt
      | call call =>
          cases other with
          | request holder => cases held
          | call holder => exact valid.delivery_rivals needs held
  | number runId number =>
      cases party with
      | call call => exact absurd needs CallPhase.NeedsLock.number
      | request caller =>
          cases other with
          | call holder => cases held
          | request holder =>
              obtain ⟨seen, row, waiting, rfl, rfl, -⟩ := RequestPhase.NeedsLock.number needs
              exact .retries caller holder seen row waiting held

theorem locks_ordered (sessions : Sessions) :
    LockOrder.Ordered sessions.HasLock (sessions.NeedsLock sessions.db) Lock.rank := by
  intro party lock next held needs
  cases party with
  | call call => exact CallPhase.NeedsLock.ordered needs held
  | request caller => exact RequestPhase.NeedsLock.ordered needs held

theorem Valid.holder_goes_on (valid : Valid sessions) {party third : Party} {lock : Lock}
    (held : sessions.HasLock party lock) : ¬ sessions.WaitsFor party third := by
  rintro ⟨next, needs, taken⟩
  have above := locks_ordered sessions party lock next held needs
  cases next with
  | attempt | number => exact absurd above (Nat.not_lt_zero _)
  | run runId => exact valid.run_free needs taken

theorem Valid.delivery_loses (valid : Valid sessions) {winner runId attemptId : Nat}
    (owns : (sessions.calls winner).owns = some (runId, attemptId)) {phase : CallPhase}
    {db : Database} (committed : CallCommit sessions.db (sessions.calls winner) phase db)
    {attempt : RunAttempt} (found : db.attempts.get? attemptId = some attempt) :
    attempt.status ≠ .queued := by
  obtain ⟨_, _, before, run, attemptSnapshot, runSnapshot, owned, holds, progress, together, rfl,
    -⟩ := (valid.calls winner).committed committed
  obtain ⟨rfl, rfl⟩ := Prod.mk.inj (Option.some.inj (owned.symm.trans owns))
  have later := (holds_advance holds together).attemptFound
  obtain rfl := Option.some.inj (later.symm.trans found)
  intro queued
  change attemptSnapshot.status = .queued at queued
  rcases progress with ⟨-, running⟩ | ⟨-, terminal⟩
  · rw [queued] at running
    cases running
  · rw [queued] at terminal
    cases terminal

theorem Valid.retry_loses (valid : Valid sessions) {winner runId number : Nat}
    (inserted : (sessions.requests winner).numberLock = some (runId, number))
    {statement : Statement} {db : Database}
    (committed : RequestCommit sessions.db sessions.locks statement (sessions.requests winner) db) :
    violatesUniqueNumber db.attempts.rows runId number = true := by
  have fact := valid.requests winner
  generalize sessions.requests winner = phase at inserted committed fact
  cases committed with
  | createRun | wholeRetry => cases inserted
  | retryRun seen row runRow =>
      obtain ⟨rfl, rfl⟩ := Prod.mk.inj (Option.some.inj inserted)
      have added := fact.1.retry.attempt
      refine (violatesUniqueNumber_iff _ _ _).mpr ⟨row, ?_, added.owner, rfl⟩
      rw [Table.rows_adopt sessions.db.attempts row added.unused added.reserved]
      exact List.mem_append_right _ List.mem_cons_self

/-- A statement waits only for a rival, who never waits for anybody; and when the rival commits,
the statement that has waited finds nothing left to lock. -/
theorem waiters_lose (settles : Settles allowed)
    (reached : ReflTransGen (Step accepts allowed) empty sessions) {party other : Party}
    (waits : sessions.WaitsFor party other) :
    sessions.Rivals party other ∧ (∀ third, ¬ sessions.WaitsFor other third) ∧
      ∀ db, sessions.Commits other db → ∀ lock, ¬ sessions.NeedsLock db party lock := by
  have valid := valid_reached settles reached
  have rivals := valid.rivals waits
  refine ⟨rivals, ?_, ?_⟩
  · obtain ⟨lock, -, held⟩ := waits
    exact fun third => valid.holder_goes_on held
  · intro db commits lock needs
    cases rivals with
    | deliveries call winner runId attemptId waiting claiming owns =>
        cases commits with
        | call _ phase _ committed =>
            change (sessions.calls call).NeedsLock db lock at needs
            rw [waiting] at needs
            cases needs with
            | claimAttempt _ _ attempt found matched =>
                exact valid.delivery_loses owns committed found
                  (by simpa [RunAttempt.isQueued] using matched)
    | retries caller winner seen row waiting inserted =>
        cases commits with
        | request _ statement _ committed =>
            change (sessions.requests caller).NeedsLock db lock at needs
            rw [waiting] at needs
            cases needs with
            | insertAttempt _ _ unique =>
                rw [valid.retry_loses inserted committed] at unique
                cases unique

/-- The attempt of one run delivered to two workers, of which the first has claimed it. -/
theorem rivals_reached (others : ∀ sessions caller, allowed sessions caller .other) :
    ∃ sessions, ReflTransGen (Step (fun _ => true) allowed) empty sessions ∧
      sessions.WaitsFor (.call 1) (.call 0) := by
  refine Transition.reach _ (.createProject "evals" none 0) ?_
  refine Transition.reach _ (.request 0 .other _ _ (others _ _)
    (.insertRun sampleNew 0 ⟨1, "evals", none, 0⟩ rfl)) ?_
  refine Transition.reach _ (.request 0 .other _ _ (others _ _) (.insertFirst _ 0)) ?_
  refine Transition.reach _ (.requestCommit 0 .other _ (others _ _) (.createRun _ _)) ?_
  refine Transition.reach _ (.call 0 _ (.select (newAttempt 1 1 1 0) rfl)) ?_
  refine Transition.reach _ (.call 1 _ (.select (newAttempt 1 1 1 0) rfl)) ?_
  refine Transition.reach _ (.call 0 _ (.claimAttempt 1 1 1 (newAttempt 1 1 1 0) ?_ rfl rfl)) ?_
  · rintro ⟨call, held⟩
    match call with
    | 0 => cases held
    | 1 => cases held
    | call + 2 => cases held
  exact Transition.reached ⟨.attempt 1, .claimAttempt 1 1 (newAttempt 1 1 1 0) rfl rfl, rfl⟩

theorem waiters_lose_delivered_twice :
    ∃ sessions, ReflTransGen (Step (fun _ => true) snapshotReads) empty sessions ∧
      sessions.Rivals (.call 1) (.call 0) ∧ ∀ third, ¬ sessions.WaitsFor (.call 0) third := by
  have others (sessions : Sessions) (caller : Nat) : snapshotReads sessions caller .other :=
    ⟨nofun, nofun, nofun⟩
  obtain ⟨sessions, run, waits⟩ := rivals_reached others
  obtain ⟨rivals, free, -⟩ := waiters_lose settles_snapshotReads run waits
  exact ⟨sessions, run, rivals, free⟩

end Sessions

end Evalynx
