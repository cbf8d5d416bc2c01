import Evalynx.LockWaits

/-! Calls and requests that are under way come to their end without an abort. -/

namespace Evalynx

open Relational Relation

/-- A step of a call under way in which nothing fails: where it ends the call, the code does. -/
def CallPhase.Orderly (accepts : TerminalValues → Bool) (db : Database) :
    CallPhase → CallPhase → Prop
  | .idle, _ => False
  | .selected _ attemptId, .done =>
      ∀ attempt, db.attempts.get? attemptId = some attempt → attempt.isQueued = false
  | .attemptClaimed _ _ _ _, .done | .runClaimed _ _ _ _, .done => False
  | .claimed runId attemptId, .abandoned _ _ _ =>
      db.runs.get? runId = none ∨ db.attempts.get? attemptId = none
  | .finished _ attemptId _ result, .abandoned _ _ _ =>
      (∀ attempt, db.attempts.get? attemptId = some attempt → attempt.isRunning = false) ∨
        ∃ now, accepts (terminalValues result now) = false
  | .executing _ _, .abandoned _ _ _ | .attemptPersisted _ _ _ _ _, .abandoned _ _ _
  | .runPersisted _ _ _ _ _, .abandoned _ _ _ | .abandoned _ _ _, .abandoned _ _ _ => False
  | _, _ => True

def RequestPhase.Orderly (db : Database) : RequestPhase → RequestPhase → Prop
  | .idle, _ => False
  | .reading run (some current) (some attempts), .done =>
      retryAllowed ⟨run, current, attempts⟩ = false
  | .keyTaken seen row, .done =>
      violatesUniqueNumber db.attempts.rows seen.run.id row.attemptNumber = true
  | .inserted seen _, .done => db.runs.get? seen.run.id = none
  | _, .done => False
  | _, _ => True

namespace Sessions

inductive Proceeds (accepts : TerminalValues → Bool) (sessions : Sessions) : Sessions → Prop where
  | call (call : Nat) (phase : CallPhase)
      (moved : CallStep accepts sessions.db sessions.locks (sessions.calls call) phase)
      (orderly : (sessions.calls call).Orderly accepts sessions.db phase) :
      Proceeds accepts sessions (sessions.setCall call phase)
  | enter (call runId attemptId : Nat) (run : Run) (attempt : RunAttempt) (runner : Runner)
      (registry : RunnerRegistry) (claimed : sessions.calls call = .claimed runId attemptId)
      (runFound : sessions.db.runs.get? runId = some run)
      (attemptFound : sessions.db.attempts.get? attemptId = some attempt)
      (registered : registry.lookup run.runnerType = some runner) :
      Proceeds accepts sessions
        { sessions.setCall call (.executing runId attemptId) with
          entered := attemptId :: sessions.entered }
  | callCommit (call : Nat) (phase : CallPhase) (db : Database)
      (committed : CallCommit sessions.db (sessions.calls call) phase db) :
      Proceeds accepts sessions { sessions.setCall call phase with db := db }
  | request (caller : Nat) (statement : Statement) (phase : RequestPhase) (db : Database)
      (moved : RequestStep sessions.db sessions.locks statement (sessions.requests caller) phase db)
      (orderly : (sessions.requests caller).Orderly sessions.db phase) :
      Proceeds accepts sessions { sessions.setRequest caller phase with db := db }
  | requestCommit (caller : Nat) (statement : Statement) (db : Database)
      (underway : sessions.requests caller ≠ .idle)
      (committed : RequestCommit sessions.db sessions.locks statement (sessions.requests caller)
        db) :
      Proceeds accepts sessions { sessions.setRequest caller .done with db := db }

variable {accepts : TerminalValues → Bool} {allowed : Schedule} {sessions sessions' : Sessions}

theorem Proceeds.step (proceeds : Proceeds accepts sessions sessions') :
    Step accepts unrestricted sessions sessions' := by
  cases proceeds with
  | call call phase moved => exact .call call phase moved
  | enter call runId attemptId run attempt runner registry claimed runFound attemptFound found =>
      exact .enter call runId attemptId run attempt runner registry claimed runFound attemptFound
        found
  | callCommit call phase db committed => exact .callCommit call phase db committed
  | request caller statement phase db moved =>
      exact .request caller statement phase db trivial moved
  | requestCommit caller statement db underway committed =>
      exact .requestCommit caller statement db trivial committed

end Sessions

def CallPhase.left : CallPhase → Nat
  | .idle | .abandoned _ _ _ | .done => 0
  | .runPersisted _ _ _ _ _ | .runMissed _ _ => 1
  | .attemptPersisted _ _ _ _ _ => 2
  | .finished _ _ _ _ => 3
  | .executing _ _ => 4
  | .claimed _ _ => 5
  | .runClaimed _ _ _ _ => 6
  | .attemptClaimed _ _ _ _ => 7
  | .selected _ _ => 8

def RequestPhase.left : RequestPhase → Nat
  | .idle | .done => 0
  | .firstInserted _ _ | .updated _ _ _ => 1
  | .runInserted _ | .inserted _ _ => 2
  | .keyTaken _ _ => 3
  | .loaded _ => 4
  | .reading _ (some _) (some _) => 5
  | .reading _ (some _) none | .reading _ none (some _) => 6
  | .reading _ none none => 7

theorem CallStep.left_lt {db : Database} {locks : Locks} {phase phase' : CallPhase}
    {accepts : TerminalValues → Bool} (step : CallStep accepts db locks phase phase')
    (orderly : phase.Orderly accepts db phase') : phase'.left < phase.left := by
  cases step with
  | unknown | select => cases orderly
  | claimAttempt | claimAttemptMissed | claimRun | claimRunMissed => simp [CallPhase.left]
  | claimRolledBack phase claiming =>
      cases phase with
      | selected | attemptClaimed | runMissed | runClaimed => simp [CallPhase.left]
      | idle | claimed | executing | finished => cases claiming
      | attemptPersisted | runPersisted | abandoned | done => cases claiming
  | vanished | runnerMissing | leave => simp [CallPhase.left]
  | persistAttempt | persistAttemptMissed | persistRun | persistRunMissed =>
      simp [CallPhase.left]
  | abandoned phase runId attemptId entered owes =>
      cases phase with
      | claimed | executing | finished | attemptPersisted | runPersisted => simp [CallPhase.left]
      | abandoned => cases orderly
      | idle | selected | attemptClaimed | runMissed | runClaimed | done => cases owes

theorem CallCommit.left_lt {db db' : Database} {phase phase' : CallPhase}
    (commit : CallCommit db phase phase' db') : phase'.left < phase.left := by
  cases commit with
  | claim | persist | persistWithoutRun => simp [CallPhase.left]

theorem RequestStep.left_lt {db db' : Database} {locks : Locks} {statement : Statement}
    {phase phase' : RequestPhase} (step : RequestStep db locks statement phase phase' db')
    (orderly : phase.Orderly db phase') : phase'.left < phase.left := by
  cases step with
  | insertRun | selectRun | selectSnapshot => cases orderly
  | insertFirst | guards | takeKey | insertAttempt | updateRun => simp [RequestPhase.left]
  | selectCurrent run attempts => cases attempts <;> simp [RequestPhase.left]
  | selectAttempts run current => cases current <;> simp [RequestPhase.left]
  | rolledBack phase =>
      cases phase with
      | idle | done => cases orderly
      | runInserted | firstInserted | loaded => simp [RequestPhase.left]
      | keyTaken | inserted | updated => simp [RequestPhase.left]
      | reading run current attempts =>
          cases current <;> cases attempts <;> simp [RequestPhase.left]

theorem RequestCommit.left_lt {db db' : Database} {locks : Locks} {statement : Statement}
    {phase : RequestPhase} (commit : RequestCommit db locks statement phase db')
    (underway : phase ≠ .idle) : RequestPhase.done.left < phase.left := by
  cases commit with
  | createRun | retryRun => simp [RequestPhase.left]
  | wholeRetry => exact absurd rfl underway

namespace Sessions

variable {accepts : TerminalValues → Bool} {allowed : Schedule} {sessions sessions' : Sessions}

structure Left (sessions : Sessions) (calls requests : Nat) : Prop where
  calls : Potential.Total (fun call => (sessions.calls call).left) calls
  requests : Potential.Total (fun caller => (sessions.requests caller).left) requests

theorem Step.left (step : Step accepts allowed sessions sessions') {calls requests : Nat}
    (left : Left sessions calls requests) :
    ∃ laterCalls laterRequests, Left sessions' laterCalls laterRequests := by
  cases step with
  | createProject name description createdAt => exact ⟨_, _, left.calls, left.requests⟩
  | call call phase | callCommit call phase | enter call =>
      obtain ⟨later, total, -⟩ := left.calls.update_state call _
      exact ⟨later, _, total, left.requests⟩
  | request caller statement phase | requestCommit caller =>
      obtain ⟨later, total, -⟩ := left.requests.update_state caller _
      exact ⟨_, later, left.calls, total⟩

theorem left_reached (reached : ReflTransGen (Step accepts allowed) empty sessions) :
    ∃ calls requests, Left sessions calls requests := by
  induction reached with
  | refl => exact ⟨0, 0, Potential.Total.zero, Potential.Total.zero⟩
  | tail before last ih =>
      obtain ⟨calls, requests, left⟩ := ih
      exact last.left left

theorem Left.call {calls requests : Nat} (left : Left sessions calls requests) (call : Nat)
    {phase : CallPhase} (less : phase.left < (sessions.calls call).left) (db : Database)
    (entered : List Nat) :
    ∃ fewer, fewer < calls ∧
      Left { sessions.setCall call phase with db := db, entered := entered } fewer requests := by
  obtain ⟨fewer, total, balance⟩ := left.calls.update_state call phase
  exact ⟨fewer, by omega, total, left.requests⟩

theorem Left.request {calls requests : Nat} (left : Left sessions calls requests) (caller : Nat)
    {phase : RequestPhase} (less : phase.left < (sessions.requests caller).left) (db : Database) :
    ∃ fewer, fewer < requests ∧
      Left { sessions.setRequest caller phase with db := db } calls fewer := by
  obtain ⟨fewer, total, balance⟩ := left.requests.update_state caller phase
  exact ⟨fewer, by omega, left.calls, total⟩

theorem Left.proceeds {calls requests : Nat} (left : Left sessions calls requests)
    (proceeds : Proceeds accepts sessions sessions') :
    ∃ laterCalls laterRequests, laterCalls + laterRequests < calls + requests ∧
      Left sessions' laterCalls laterRequests := by
  cases proceeds with
  | call call phase moved orderly =>
      obtain ⟨fewer, less, later⟩ :=
        left.call call (moved.left_lt orderly) sessions.db sessions.entered
      exact ⟨fewer, requests, by omega, later⟩
  | enter call runId attemptId run attempt runner registry claimed =>
      have shorter : (CallPhase.executing runId attemptId).left < (sessions.calls call).left := by
        rw [claimed]
        simp [CallPhase.left]
      obtain ⟨fewer, less, later⟩ :=
        left.call call shorter sessions.db (attemptId :: sessions.entered)
      exact ⟨fewer, requests, by omega, later⟩
  | callCommit call phase db committed =>
      obtain ⟨fewer, less, later⟩ := left.call call committed.left_lt db sessions.entered
      exact ⟨fewer, requests, by omega, later⟩
  | request caller statement phase db moved orderly =>
      obtain ⟨fewer, less, later⟩ := left.request caller (moved.left_lt orderly) db
      exact ⟨calls, fewer, by omega, later⟩
  | requestCommit caller statement db underway committed =>
      obtain ⟨fewer, less, later⟩ := left.request caller (committed.left_lt underway) db
      exact ⟨calls, fewer, by omega, later⟩

def Underway (sessions : Sessions) : Party → Prop
  | .call call => 0 < (sessions.calls call).left
  | .request caller => 0 < (sessions.requests caller).left

theorem underway_of_lock {party : Party} {lock : Lock} (held : sessions.HasLock party lock) :
    sessions.Underway party := by
  cases party with
  | call call =>
      change (sessions.calls call).HasLock lock at held
      change 0 < (sessions.calls call).left
      generalize sessions.calls call = phase at held
      cases phase with
      | idle | abandoned | done => cases lock <;> cases held
      | selected | attemptClaimed | runMissed | runClaimed => simp [CallPhase.left]
      | claimed | executing | finished => simp [CallPhase.left]
      | attemptPersisted | runPersisted => simp [CallPhase.left]
  | request caller =>
      change (sessions.requests caller).HasLock lock at held
      change 0 < (sessions.requests caller).left
      generalize sessions.requests caller = phase at held
      cases phase with
      | idle | runInserted | firstInserted | reading => cases lock <;> cases held
      | loaded | keyTaken | done => cases lock <;> cases held
      | inserted | updated => simp [RequestPhase.left]

theorem matched_or_missed {ρ : Type} (found : Option ρ) (clause : ρ → Bool) :
    (∃ row, found = some row ∧ clause row = true) ∨
      ∀ row, found = some row → clause row = false := by
  cases found with
  | none => simp
  | some row => cases same : clause row <;> simp [same]

theorem attempt_unheld {attemptId : Nat}
    (free : ∀ other, ¬ sessions.HasLock other (.attempt attemptId)) :
    ¬ sessions.locks.attempt attemptId := by
  rintro ⟨other, held⟩
  exact free (.call other) held

theorem run_unheld {runId : Nat} (free : ∀ other, ¬ sessions.HasLock other (.run runId)) :
    ¬ sessions.locks.run runId := by
  rintro (⟨other, held⟩ | ⟨other, held⟩)
  · exact free (.call other) held
  · exact free (.request other) held

theorem number_unheld {runId number : Nat}
    (free : ∀ other, ¬ sessions.HasLock other (.number runId number)) :
    ¬ sessions.locks.number runId number := by
  rintro ⟨other, held⟩
  exact free (.request other) held

theorem call_proceeds {call : Nat} (underway : sessions.Underway (.call call))
    (free : ∀ lock, (sessions.calls call).NeedsLock sessions.db lock →
      ∀ other, ¬ sessions.HasLock other lock) :
    ∃ next, Proceeds accepts sessions next := by
  have goes {phase : CallPhase}
      (moved : CallStep accepts sessions.db sessions.locks (sessions.calls call) phase)
      (orderly : (sessions.calls call).Orderly accepts sessions.db phase) :
      ∃ next, Proceeds accepts sessions next := ⟨_, .call call phase moved orderly⟩
  have commits {phase : CallPhase} {db : Database}
      (committed : CallCommit sessions.db (sessions.calls call) phase db) :
      ∃ next, Proceeds accepts sessions next := ⟨_, .callCommit call phase db committed⟩
  change 0 < (sessions.calls call).left at underway
  generalize sessions.calls call = phase at underway free goes commits
  cases phase with
  | idle | abandoned | done => cases underway
  | selected runId attemptId =>
      rcases matched_or_missed (sessions.db.attempts.get? attemptId) RunAttempt.isQueued with
        ⟨attempt, found, queued⟩ | missed
      · have unlocked := attempt_unheld (free _ (.claimAttempt runId attemptId attempt found queued))
        exact goes (.claimAttempt runId attemptId 0 attempt unlocked found queued) trivial
      · exact goes (.claimAttemptMissed runId attemptId missed) missed
  | attemptClaimed runId attemptId now row =>
      rcases matched_or_missed (sessions.db.runs.get? runId) (Run.isQueuedFor attemptId) with
        ⟨run, found, queued⟩ | missed
      · have unlocked := run_unheld (free _ (.claimRun runId attemptId now row run found queued))
        exact goes (.claimRun runId attemptId now row run unlocked found queued) trivial
      · exact goes (.claimRunMissed runId attemptId now row missed) trivial
  | runMissed runId attemptId => exact goes (.claimRolledBack _ rfl) trivial
  | runClaimed runId attemptId row runRow => exact commits (.claim runId attemptId row runRow)
  | claimed runId attemptId =>
      cases found : sessions.db.runs.get? runId with
      | none => exact goes (.vanished runId attemptId (Or.inl found)) (Or.inl found)
      | some run => exact goes (.runnerMissing runId attemptId run found) trivial
  | executing runId attemptId => exact goes (.leave runId attemptId (.returned {})) trivial
  | finished runId attemptId entered result =>
      rcases matched_or_missed (sessions.db.attempts.get? attemptId) RunAttempt.isRunning with
        ⟨attempt, found, running⟩ | missed
      · have unlocked := attempt_unheld
          (free _ (.persistAttempt runId attemptId entered result attempt found running))
        cases taken : accepts (terminalValues result 0) with
        | true =>
            exact goes (.persistAttempt runId attemptId entered result 0 attempt unlocked taken
              found running) trivial
        | false => exact goes (.abandoned _ runId attemptId entered rfl) (Or.inr ⟨0, taken⟩)
      · exact goes (.persistAttemptMissed runId attemptId entered result missed) (Or.inl missed)
  | attemptPersisted runId attemptId entered values row =>
      rcases matched_or_missed (sessions.db.runs.get? runId) (Run.isCurrent attemptId) with
        ⟨run, found, current⟩ | missed
      · have unlocked := run_unheld
          (free _ (.persistRun runId attemptId entered values row run found current))
        exact goes (.persistRun runId attemptId entered values row run unlocked found current)
          trivial
      · exact goes (.persistRunMissed runId attemptId entered values row missed) trivial
  | runPersisted runId attemptId entered row runRow =>
      cases runRow with
      | none => exact commits (.persistWithoutRun runId attemptId entered row)
      | some stored => exact commits (.persist runId attemptId entered row stored)

theorem request_proceeds {caller : Nat} (underway : sessions.Underway (.request caller))
    (free : ∀ lock, (sessions.requests caller).NeedsLock sessions.db lock →
      ∀ other, ¬ sessions.HasLock other lock) :
    ∃ next, Proceeds accepts sessions next := by
  have goes {statement : Statement} {phase : RequestPhase} {db : Database}
      (moved : RequestStep sessions.db sessions.locks statement (sessions.requests caller) phase db)
      (orderly : (sessions.requests caller).Orderly sessions.db phase) :
      ∃ next, Proceeds accepts sessions next :=
    ⟨_, .request caller statement phase db moved orderly⟩
  have commits {statement : Statement} {db : Database} (still : sessions.requests caller ≠ .idle)
      (committed : RequestCommit sessions.db sessions.locks statement (sessions.requests caller)
        db) :
      ∃ next, Proceeds accepts sessions next :=
    ⟨_, .requestCommit caller statement db still committed⟩
  change 0 < (sessions.requests caller).left at underway
  generalize sessions.requests caller = phase at underway free goes commits
  cases phase with
  | idle | done => cases underway
  | runInserted run => exact goes (.insertFirst run 0) trivial
  | firstInserted run attempt => exact commits nofun (.createRun run attempt)
  | reading run current attempts =>
      cases current with
      | none => exact goes (.selectCurrent run attempts) (by cases attempts <;> trivial)
      | some current =>
          cases attempts with
          | none => exact goes (.selectAttempts run (some current)) trivial
          | some attempts =>
              cases allowed : retryAllowed ⟨run, current, attempts⟩ with
              | true => exact goes (.guards run current attempts allowed) trivial
              | false => exact goes (.rolledBack _) allowed
  | loaded seen => exact goes (.takeKey seen 0) trivial
  | keyTaken seen row =>
      cases unique : violatesUniqueNumber sessions.db.attempts.rows seen.run.id row.attemptNumber with
      | true => exact goes (.rolledBack _) unique
      | false =>
          have unlocked := number_unheld (free _ (.insertAttempt seen row unique))
          exact goes (.insertAttempt seen row unlocked unique) trivial
  | inserted seen row =>
      cases found : sessions.db.runs.get? seen.run.id with
      | none => exact goes (.rolledBack _) found
      | some run =>
          have unlocked := run_unheld (free _ (.updateRun seen row run found))
          exact goes (.updateRun seen row run unlocked found) trivial
  | updated seen row runRow => exact commits nofun (.retryRun seen row runRow)

/-- As every transaction takes its locks in one order, some party under way waits for nobody. -/
theorem underway_proceeds {party : Party} (underway : sessions.Underway party) :
    ∃ next, Proceeds accepts sessions next := by
  obtain ⟨last, path, free⟩ := (locks_ordered sessions).waits_end Lock.rank_lt party
  have busy : sessions.Underway last := by
    cases path with
    | refl => exact underway
    | tail _ waits =>
        obtain ⟨lock, -, held⟩ := waits
        exact underway_of_lock held
  have unlocked (lock : Lock) (needs : sessions.NeedsLock sessions.db last lock) (other : Party) :
      ¬ sessions.HasLock other lock := fun held => free other ⟨lock, needs, held⟩
  cases last with
  | call call => exact call_proceeds busy unlocked
  | request caller => exact request_proceeds busy unlocked

/-- From every state that any interleaving leads to, the calls and requests under way all come to
their end, whatever their order, and none is aborted for another one. -/
theorem sessions_complete (reached : ReflTransGen (Step accepts allowed) empty sessions) :
    Potential.Inevitable (Proceeds accepts) (fun later => ∀ party, ¬ later.Underway party)
      sessions := by
  obtain ⟨calls, requests, left⟩ := left_reached reached
  refine Potential.Inevitable.of_rank
    (fun steps state => ∃ calls requests, steps = calls + requests ∧ Left state calls requests)
    ?_ ?_ ⟨calls, requests, rfl, left⟩
  · rintro steps state next ⟨calls, requests, rfl, left⟩ proceeds
    obtain ⟨laterCalls, laterRequests, less, later⟩ := left.proceeds proceeds
    exact ⟨_, less, laterCalls, laterRequests, rfl, later⟩
  · intro steps state _
    by_cases underway : ∃ party, state.Underway party
    · obtain ⟨party, underway⟩ := underway
      exact Or.inr (underway_proceeds underway)
    · exact Or.inl (not_exists.mp underway)

theorem sessions_complete_waiting :
    ∃ sessions, ReflTransGen (Step (fun _ => true) unrestricted) empty sessions ∧
      sessions.WaitsFor (.call 1) (.call 0) ∧
      Potential.Inevitable (Proceeds (fun _ => true)) (fun later => ∀ party, ¬ later.Underway party)
        sessions := by
  have others (sessions : Sessions) (caller : Nat) : unrestricted sessions caller .other := trivial
  obtain ⟨sessions, run, waits⟩ := rivals_reached others
  exact ⟨sessions, run, waits, sessions_complete run⟩

end Sessions

end Evalynx
