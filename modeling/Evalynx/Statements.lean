import Evalynx.World

/-! The same calls one SQL statement at a time: READ COMMITTED, row locks and the unique key.

A transaction's writes are in the phase of its call until it commits; the locks it holds follow
from that phase. -/

namespace Evalynx

open Relational Relation

inductive CallPhase where
  | idle
  | selected (runId attemptId : Nat)
  | attemptClaimed (runId attemptId : Nat) (now : Timestamp) (row : RunAttempt)
  | runMissed (runId attemptId : Nat)
  | runClaimed (runId attemptId : Nat) (row : RunAttempt) (runRow : Run)
  | claimed (runId attemptId : Nat)
  | executing (runId attemptId : Nat)
  | finished (runId attemptId : Nat) (entered : Bool) (result : RunnerResult)
  | attemptPersisted (runId attemptId : Nat) (entered : Bool) (values : TerminalValues)
      (row : RunAttempt)
  | runPersisted (runId attemptId : Nat) (entered : Bool) (row : RunAttempt) (runRow : Option Run)
  /-- The call ended after its claim and without its terminal persist. -/
  | abandoned (runId attemptId : Nat) (entered : Bool)
  | done

def CallPhase.claiming : CallPhase → Bool
  | .selected _ _ | .attemptClaimed _ _ _ _ | .runMissed _ _ | .runClaimed _ _ _ _ => true
  | _ => false

/-- The run and the attempt whose terminal persist is due, and whether `runner.execute` was
entered for it. -/
def CallPhase.owes : CallPhase → Option (Nat × Nat × Bool)
  | .claimed runId attemptId => some (runId, attemptId, false)
  | .executing runId attemptId => some (runId, attemptId, true)
  | .finished runId attemptId entered _ | .attemptPersisted runId attemptId entered _ _
  | .runPersisted runId attemptId entered _ _ | .abandoned runId attemptId entered =>
      some (runId, attemptId, entered)
  | _ => none

inductive RequestPhase where
  | idle
  | runInserted (run : Run)
  | firstInserted (run : Run) (attempt : RunAttempt)
  | reading (run : Run) (current : Option (Option RunAttempt)) (attempts : Option (List RunAttempt))
  | loaded (seen : LoadedRun)
  | keyTaken (seen : LoadedRun) (row : RunAttempt)
  | inserted (seen : LoadedRun) (row : RunAttempt)
  | updated (seen : LoadedRun) (row : RunAttempt) (runRow : Run)
  | done

inductive Statement where
  | selectRun
  | selectCurrent
  | selectAttempts
  | selectSnapshot
  | wholeRetry
  | commitRetry
  | other
  deriving DecidableEq

structure Sessions where
  db : Database
  calls : Nat → CallPhase
  requests : Nat → RequestPhase
  entered : List Nat

def CallPhase.attemptLock : CallPhase → Option Nat
  | .attemptClaimed _ attemptId _ _ | .runMissed _ attemptId | .runClaimed _ attemptId _ _
  | .attemptPersisted _ attemptId _ _ _ | .runPersisted _ attemptId _ _ _ => some attemptId
  | _ => none

def CallPhase.runLock : CallPhase → Option Nat
  | .runClaimed runId _ _ _ | .runPersisted runId _ _ _ (some _) => some runId
  | _ => none

def RequestPhase.runLock : RequestPhase → Option Nat
  | .updated seen _ _ => some seen.run.id
  | _ => none

/-- The key of an uncommitted INSERT. The key of a new run's first attempt is left out: no other
statement can name its run. -/
def RequestPhase.numberLock : RequestPhase → Option (Nat × Nat)
  | .inserted seen row | .updated seen row _ => some (seen.run.id, row.attemptNumber)
  | _ => none

structure Locks where
  attempt : Nat → Prop
  run : Nat → Prop
  number : Nat → Nat → Prop

def Sessions.locks (sessions : Sessions) : Locks where
  attempt := fun id => ∃ call, (sessions.calls call).attemptLock = some id
  run := fun id => (∃ call, (sessions.calls call).runLock = some id) ∨
    ∃ caller, (sessions.requests caller).runLock = some id
  number := fun runId attemptNumber =>
    ∃ caller, (sessions.requests caller).numberLock = some (runId, attemptNumber)

section Calls

variable (accepts : TerminalValues → Bool) (db : Database) (locks : Locks)

/-- The steps of a `process_attempt` call that change no committed row. An UPDATE that finds its
row waits for the row's lock and tests the WHERE clause on the committed version; one whose
committed version does not match counts no row and takes no lock. -/
inductive CallStep : CallPhase → CallPhase → Prop where
  | unknown (attemptId : Nat) (missing : db.attempts.get? attemptId = none) : CallStep .idle .done
  | select (attempt : RunAttempt) (found : db.attempts.get? attempt.id = some attempt) :
      CallStep .idle (.selected attempt.runId attempt.id)
  | claimAttempt (runId attemptId : Nat) (now : Timestamp) (attempt : RunAttempt)
      (free : ¬ locks.attempt attemptId) (found : db.attempts.get? attemptId = some attempt)
      (matched : attempt.isQueued = true) :
      CallStep (.selected runId attemptId)
        (.attemptClaimed runId attemptId now (attempt.start now))
  | claimAttemptMissed (runId attemptId : Nat)
      (missed : ∀ attempt, db.attempts.get? attemptId = some attempt → attempt.isQueued = false) :
      CallStep (.selected runId attemptId) .done
  | claimRun (runId attemptId : Nat) (now : Timestamp) (row : RunAttempt) (run : Run)
      (free : ¬ locks.run runId) (found : db.runs.get? runId = some run)
      (matched : run.isQueuedFor attemptId = true) :
      CallStep (.attemptClaimed runId attemptId now row)
        (.runClaimed runId attemptId row (run.start now))
  | claimRunMissed (runId attemptId : Nat) (now : Timestamp) (row : RunAttempt)
      (missed : ∀ run, db.runs.get? runId = some run → run.isQueuedFor attemptId = false) :
      CallStep (.attemptClaimed runId attemptId now row) (.runMissed runId attemptId)
  /-- The rollback after a missed run, and any exception before the COMMIT. -/
  | claimRolledBack (phase : CallPhase) (claiming : phase.claiming = true) : CallStep phase .done
  | vanished (runId attemptId : Nat)
      (missing : db.runs.get? runId = none ∨ db.attempts.get? attemptId = none) :
      CallStep (.claimed runId attemptId) (.abandoned runId attemptId false)
  | runnerMissing (runId attemptId : Nat) (run : Run) (found : db.runs.get? runId = some run) :
      CallStep (.claimed runId attemptId)
        (.finished runId attemptId false (runnerMissingResult run.runnerType))
  | leave (runId attemptId : Nat) (outcome : Outcome) :
      CallStep (.executing runId attemptId) (.finished runId attemptId true outcome.result)
  | persistAttempt (runId attemptId : Nat) (entered : Bool) (result : RunnerResult)
      (now : Timestamp) (attempt : RunAttempt) (free : ¬ locks.attempt attemptId)
      (taken : accepts (terminalValues result now) = true)
      (found : db.attempts.get? attemptId = some attempt) (matched : attempt.isRunning = true) :
      CallStep (.finished runId attemptId entered result)
        (.attemptPersisted runId attemptId entered (terminalValues result now)
          (attempt.finish (terminalValues result now)))
  | persistAttemptMissed (runId attemptId : Nat) (entered : Bool) (result : RunnerResult)
      (missed : ∀ attempt, db.attempts.get? attemptId = some attempt → attempt.isRunning = false) :
      CallStep (.finished runId attemptId entered result) (.abandoned runId attemptId entered)
  | persistRun (runId attemptId : Nat) (entered : Bool) (values : TerminalValues)
      (row : RunAttempt) (run : Run) (free : ¬ locks.run runId)
      (found : db.runs.get? runId = some run) (matched : run.isCurrent attemptId = true) :
      CallStep (.attemptPersisted runId attemptId entered values row)
        (.runPersisted runId attemptId entered row (some (run.finish values)))
  | persistRunMissed (runId attemptId : Nat) (entered : Bool) (values : TerminalValues)
      (row : RunAttempt)
      (missed : ∀ run, db.runs.get? runId = some run → run.isCurrent attemptId = false) :
      CallStep (.attemptPersisted runId attemptId entered values row)
        (.runPersisted runId attemptId entered row none)
  | abandoned (phase : CallPhase) (runId attemptId : Nat) (entered : Bool)
      (owes : phase.owes = some (runId, attemptId, entered)) :
      CallStep phase (.abandoned runId attemptId entered)

inductive CallCommit : CallPhase → CallPhase → Database → Prop where
  | claim (runId attemptId : Nat) (row : RunAttempt) (runRow : Run) :
      CallCommit (.runClaimed runId attemptId row runRow) (.claimed runId attemptId)
        { db with attempts := db.attempts.put row, runs := db.runs.put runRow }
  | persist (runId attemptId : Nat) (entered : Bool) (row : RunAttempt) (runRow : Run) :
      CallCommit (.runPersisted runId attemptId entered row (some runRow)) .done
        { db with attempts := db.attempts.put row, runs := db.runs.put runRow }
  | persistWithoutRun (runId attemptId : Nat) (entered : Bool) (row : RunAttempt) :
      CallCommit (.runPersisted runId attemptId entered row none) .done
        { db with attempts := db.attempts.put row }

end Calls

section Requests

variable (db : Database) (locks : Locks)

/-- The steps of a request that commit nothing. The key of an INSERT is taken when the statement
begins, also when it then waits for, or fails on, the unique key. -/
inductive RequestStep : Statement → RequestPhase → RequestPhase → Database → Prop where
  | insertRun (new : NewRun) (now : Timestamp) (project : Project)
      (found : db.projects.get? new.projectId = some project) :
      RequestStep .other .idle (.runInserted (new.row db.runs.next now)) (loseKeys db 1 0)
  | insertFirst (run : Run) (now : Timestamp) :
      RequestStep .other (.runInserted run)
        (.firstInserted { run with currentAttemptId := some db.attempts.next }
          (newAttempt db.attempts.next run.id 1 now)) (loseKeys db 0 1)
  | selectRun (run : Run) (found : db.runs.get? run.id = some run) :
      RequestStep .selectRun .idle (.reading run none none) db
  | selectCurrent (run : Run) (attempts : Option (List RunAttempt)) :
      RequestStep .selectCurrent (.reading run none attempts)
        (.reading run (some (selectCurrentAttempt db run)) attempts) db
  | selectAttempts (run : Run) (current : Option (Option RunAttempt)) :
      RequestStep .selectAttempts (.reading run current none)
        (.reading run current (some (selectAttempts db run.id))) db
  | selectSnapshot (runId : Nat) (seen : LoadedRun)
      (prepared : prepareRetry db runId = .ok seen) :
      RequestStep .selectSnapshot .idle (.loaded seen) db
  | guards (run : Run) (current : Option RunAttempt) (attempts : List RunAttempt)
      (allowed : retryAllowed ⟨run, current, attempts⟩ = true) :
      RequestStep .other (.reading run (some current) (some attempts))
        (.loaded ⟨run, current, attempts⟩) db
  | takeKey (seen : LoadedRun) (now : Timestamp) :
      RequestStep .other (.loaded seen)
        (.keyTaken seen (newAttempt db.attempts.next seen.run.id
          (nextAttemptNumber seen.attempts) now)) (loseKeys db 0 1)
  | insertAttempt (seen : LoadedRun) (row : RunAttempt)
      (free : ¬ locks.number seen.run.id row.attemptNumber)
      (unique : violatesUniqueNumber db.attempts.rows seen.run.id row.attemptNumber = false) :
      RequestStep .other (.keyTaken seen row) (.inserted seen row) db
  | updateRun (seen : LoadedRun) (row : RunAttempt) (run : Run) (free : ¬ locks.run seen.run.id)
      (found : db.runs.get? seen.run.id = some run) :
      RequestStep .other (.inserted seen row)
        (.updated seen row (supersede seen.run row.id run)) db
  /-- A guard refuses, the unique key is taken, or any other exception before the COMMIT. -/
  | rolledBack (phase : RequestPhase) : RequestStep .other phase .done db

/-- The COMMITs of the requests, and a whole `retry_run` transaction in one step. -/
inductive RequestCommit : Statement → RequestPhase → Database → Prop where
  | createRun (run : Run) (attempt : RunAttempt) :
      RequestCommit .other (.firstInserted run attempt)
        { db with runs := db.runs.adopt run, attempts := db.attempts.adopt attempt }
  | retryRun (seen : LoadedRun) (row : RunAttempt) (runRow : Run) :
      RequestCommit .commitRetry (.updated seen row runRow)
        { db with attempts := db.attempts.adopt row, runs := db.runs.put runRow }
  | wholeRetry (runId : Nat) (seen : LoadedRun) (now : Timestamp) (written : Database)
      (attemptId : Nat) (runFree : ¬ locks.run runId)
      (prepared : prepareRetry db runId = .ok seen)
      (numberFree : ¬ locks.number runId (nextAttemptNumber seen.attempts))
      (inserted : insertRetry db seen now = some (written, attemptId)) :
      RequestCommit .wholeRetry .idle written

end Requests

namespace Sessions

def empty : Sessions where
  db := .empty
  calls := fun _ => .idle
  requests := fun _ => .idle
  entered := []

def setCall (sessions : Sessions) (call : Nat) (phase : CallPhase) : Sessions :=
  { sessions with calls := Function.update sessions.calls call phase }

def setRequest (sessions : Sessions) (caller : Nat) (phase : RequestPhase) : Sessions :=
  { sessions with requests := Function.update sessions.requests caller phase }

abbrev Schedule := Sessions → Nat → Statement → Prop

inductive Step (accepts : TerminalValues → Bool) (allowed : Schedule) (sessions : Sessions) :
    Sessions → Prop where
  | createProject (name : String) (description : Option String) (createdAt : Timestamp) :
      Step accepts allowed sessions
        { sessions with db := insertProject sessions.db name description createdAt }
  | call (call : Nat) (phase : CallPhase)
      (moved : CallStep accepts sessions.db sessions.locks (sessions.calls call) phase) :
      Step accepts allowed sessions (sessions.setCall call phase)
  | enter (call runId attemptId : Nat) (run : Run) (attempt : RunAttempt) (runner : Runner)
      (registry : RunnerRegistry) (claimed : sessions.calls call = .claimed runId attemptId)
      (runFound : sessions.db.runs.get? runId = some run)
      (attemptFound : sessions.db.attempts.get? attemptId = some attempt)
      (registered : registry.lookup run.runnerType = some runner) :
      Step accepts allowed sessions
        { sessions.setCall call (.executing runId attemptId) with
          entered := attemptId :: sessions.entered }
  | callCommit (call : Nat) (phase : CallPhase) (db : Database)
      (committed : CallCommit sessions.db (sessions.calls call) phase db) :
      Step accepts allowed sessions { sessions.setCall call phase with db := db }
  | request (caller : Nat) (statement : Statement) (phase : RequestPhase) (db : Database)
      (permitted : allowed sessions caller statement)
      (moved : RequestStep sessions.db sessions.locks statement (sessions.requests caller) phase db) :
      Step accepts allowed sessions { sessions.setRequest caller phase with db := db }
  | requestCommit (caller : Nat) (statement : Statement) (db : Database)
      (permitted : allowed sessions caller statement)
      (committed : RequestCommit sessions.db sessions.locks statement (sessions.requests caller) db) :
      Step accepts allowed sessions { sessions.setRequest caller .done with db := db }

end Sessions

end Evalynx
