import Evalynx.RowShape
import Mathlib.Logic.Function.Basic

/-! The transactions of all processes, with every reading of a clock as a step of its own. -/

namespace Evalynx

open Relational Relation Posix

inductive ClockedCall where
  | idle
  | selected (attemptId : Nat)
  | claiming (attemptId : Nat) (startedAt : Timestamp)
  | claimed (attemptId : Nat)
  | executed (attemptId : Nat) (result : RunnerResult)
  | persisting (attemptId : Nat) (result : RunnerResult) (finishedAt : Timestamp)

/-- Where a `create_run` call is; the defaults of both rows read the clock before the COMMIT. -/
inductive ClockedCreate where
  | idle
  | runStamped (new : NewRun) (runCreatedAt : Timestamp)
  | stamped (new : NewRun) (runCreatedAt attemptCreatedAt : Timestamp)

structure Clocked where
  db : Database
  clock : Timestamp
  calls : Nat → ClockedCall
  creates : Nat → ClockedCreate

namespace Clocked

def empty : Clocked where
  db := .empty
  clock := 0
  calls := fun _ => .idle
  creates := fun _ => .idle

def setCall (world : Clocked) (call : Nat) (phase : ClockedCall) : Clocked :=
  { world with calls := Function.update world.calls call phase }

def setCreate (world : Clocked) (caller : Nat) (phase : ClockedCreate) : Clocked :=
  { world with creates := Function.update world.creates caller phase }

/-- One step of one of the processes. `reads` relates each reading of a clock to the one before. -/
inductive Step (accepts : TerminalValues → Bool) (reads : Timestamp → Timestamp → Prop)
    (world : Clocked) : Clocked → Prop where
  | createProject (name : String) (description : Option String) (now : Timestamp)
      (reading : reads world.clock now) :
      Step accepts reads world
        { world with db := insertProject world.db name description now, clock := now }
  | stampRun (caller : Nat) (new : NewRun) (project : Project) (now : Timestamp)
      (found : world.db.projects.get? new.projectId = some project)
      (phase : world.creates caller = .idle) (reading : reads world.clock now) :
      Step accepts reads world { world.setCreate caller (.runStamped new now) with clock := now }
  | stampAttempt (caller : Nat) (new : NewRun) (runCreatedAt now : Timestamp)
      (phase : world.creates caller = .runStamped new runCreatedAt)
      (reading : reads world.clock now) :
      Step accepts reads world
        { world.setCreate caller (.stamped new runCreatedAt now) with clock := now }
  | createRun (caller : Nat) (new : NewRun) (project : Project)
      (runCreatedAt attemptCreatedAt : Timestamp)
      (phase : world.creates caller = .stamped new runCreatedAt attemptCreatedAt)
      (found : world.db.projects.get? new.projectId = some project) :
      Step accepts reads world { world.setCreate caller .idle with
        db := (insertRun world.db new runCreatedAt attemptCreatedAt).1 }
  | createFailed (caller runs attempts : Nat) :
      Step accepts reads world
        { world.setCreate caller .idle with db := loseKeys world.db runs attempts }
  | retryRun (runId : Nat) (loaded : LoadedRun) (now : Timestamp) (written : Database)
      (attemptId : Nat) (seen : loadRun world.db runId = some loaded)
      (allowed : retryAllowed loaded = true)
      (inserted : insertRetry world.db loaded now = some (written, attemptId))
      (reading : reads world.clock now) :
      Step accepts reads world { world with db := written, clock := now }
  | select (call : Nat) (attempt : RunAttempt)
      (found : world.db.attempts.get? attempt.id = some attempt)
      (phase : world.calls call = .idle) :
      Step accepts reads world (world.setCall call (.selected attempt.id))
  | readStart (call attemptId : Nat) (now : Timestamp)
      (phase : world.calls call = .selected attemptId) (reading : reads world.clock now) :
      Step accepts reads world { world.setCall call (.claiming attemptId now) with clock := now }
  | claim (call : Nat) (attempt : RunAttempt) (now : Timestamp) (claimed : Database)
      (phase : world.calls call = .claiming attempt.id now)
      (found : world.db.attempts.get? attempt.id = some attempt)
      (success : claimAttempt world.db attempt.runId attempt.id now = some claimed) :
      Step accepts reads world { world.setCall call (.claimed attempt.id) with db := claimed }
  | execute (call : Nat) (run : Run) (attempt : RunAttempt) (soloWargame : SoloWargameRunner)
      (fs : FileSystem) (phase : world.calls call = .claimed attempt.id)
      (runFound : world.db.runs.get? attempt.runId = some run)
      (attemptFound : world.db.attempts.get? attempt.id = some attempt) :
      Step accepts reads world (world.setCall call (.executed attempt.id
        (executeAttempt (buildRunnerRegistry soloWargame fs) run attempt).1))
  | readFinish (call attemptId : Nat) (result : RunnerResult) (now : Timestamp)
      (phase : world.calls call = .executed attemptId result) (reading : reads world.clock now) :
      Step accepts reads world
        { world.setCall call (.persisting attemptId result now) with clock := now }
  | persist (call : Nat) (attempt : RunAttempt) (result : RunnerResult) (now : Timestamp)
      (persisted : Database) (phase : world.calls call = .persisting attempt.id result now)
      (found : world.db.attempts.get? attempt.id = some attempt)
      (success : persistTerminalResult accepts world.db attempt.runId attempt.id result now =
        some persisted) :
      Step accepts reads world { world.setCall call .idle with db := persisted }
  | ended (call : Nat) : Step accepts reads world (world.setCall call .idle)

section Steps

variable {accepts : TerminalValues → Bool} {reads : Timestamp → Timestamp → Prop}
  {world later : Clocked}

theorem step_txn (step : Step accepts reads world later) :
    later.db = world.db ∨ Txn accepts world.db later.db := by
  cases step with
  | createProject name description now => exact Or.inr (.createProject name description now)
  | stampRun => exact Or.inl rfl
  | stampAttempt => exact Or.inl rfl
  | createRun caller new project runCreatedAt attemptCreatedAt phase found =>
      exact Or.inr (.createRun project new runCreatedAt attemptCreatedAt found)
  | createFailed caller runs attempts => exact Or.inr (.rollback runs attempts)
  | retryRun runId loaded now written attemptId seen allowed inserted =>
      exact Or.inr (.retryRun runId loaded now _ attemptId seen allowed inserted)
  | select => exact Or.inl rfl
  | readStart => exact Or.inl rfl
  | claim call attempt now claimed phase found success =>
      exact Or.inr (.claim attempt now _ found success)
  | execute => exact Or.inl rfl
  | readFinish => exact Or.inl rfl
  | persist call attempt result now persisted phase found success =>
      exact Or.inr (.persist attempt result now _ found success)
  | ended => exact Or.inl rfl

end Steps

end Clocked

theorem claim_rows {db claimed : Database} {attempt : RunAttempt} {now : Timestamp}
    (found : db.attempts.get? attempt.id = some attempt)
    (success : claimAttempt db attempt.runId attempt.id now = some claimed) :
    attempt.status = .queued ∧ ∀ row, row ∈ claimed.attempts.rows ↔
      row = attempt.start now ∨ (row ∈ db.attempts.rows ∧ row.id ≠ attempt.id) := by
  obtain ⟨queued, run, -, -, -, rfl⟩ := claim_writes found success
  exact ⟨queued, mem_putAttempt (attempt.start now) found⟩

theorem persist_rows {accepts : TerminalValues → Bool} {db persisted : Database}
    (consistent : Consistent db) {attempt : RunAttempt} {result : RunnerResult} {now : Timestamp}
    (found : db.attempts.get? attempt.id = some attempt)
    (success : persistTerminalResult accepts db attempt.runId attempt.id result now =
      some persisted) :
    persisted = db ∨ attempt.status = .running ∧
      (∀ other ∈ db.attempts.rows, other.runId = attempt.runId →
        other.attemptNumber ≤ attempt.attemptNumber) ∧
      ∀ row, row ∈ persisted.attempts.rows ↔ row = attempt.finish (terminalValues result now) ∨
        (row ∈ db.attempts.rows ∧ row.id ≠ attempt.id) := by
  by_cases running : attempt.status = .running
  · obtain ⟨run, past, key, runFound, lineage, rfl⟩ :=
      persist_writes consistent found running success
    refine Or.inr ⟨running, ?_, mem_putAttempt (attempt.finish (terminalValues result now)) found⟩
    intro other row owner
    rw [lineage.current_number]
    exact (lineage.number_le ((db.mem_attemptRows run.id other).mpr
      ⟨row, owner.trans key.symm⟩)).2
  · exact Or.inl (persist_skips found running success)

/-! ### The shape of the rows -/

def Shaped (db : Database) : Prop :=
  ∀ attempt ∈ db.attempts.rows, attempt.toSnapshot.load.WellFormed

section Shapes

variable {accepts : TerminalValues → Bool} {db : Database} (shaped : Shaped db)

include shaped

theorem shaped_append {written : Database} {id runId attemptNumber : Nat} {createdAt : Timestamp}
    (attempts : written.attempts.rows =
      db.attempts.rows ++ [newAttempt id runId attemptNumber createdAt]) : Shaped written := by
  intro attempt member
  rw [attempts, List.mem_append, List.mem_singleton] at member
  rcases member with old | rfl
  · exact shaped attempt old
  · exact initial_wellFormed

theorem shaped_claim {claimed : Database} {attempt : RunAttempt} {now : Timestamp}
    (found : db.attempts.get? attempt.id = some attempt)
    (success : claimAttempt db attempt.runId attempt.id now = some claimed) : Shaped claimed := by
  obtain ⟨queued, rows⟩ := claim_rows found success
  intro row member
  rcases (rows row).mp member with rfl | ⟨old, _⟩
  · exact start_wellFormed (shaped attempt (Table.get?_mem found)) queued now
  · exact shaped row old

theorem shaped_persist (consistent : Consistent db) {persisted : Database} {attempt : RunAttempt}
    {result : RunnerResult} {now : Timestamp} (settled : result.Settled)
    (found : db.attempts.get? attempt.id = some attempt)
    (success : persistTerminalResult accepts db attempt.runId attempt.id result now =
      some persisted) : Shaped persisted := by
  rcases persist_rows consistent found success with rfl | ⟨running, _, rows⟩
  · exact shaped
  · intro row member
    rcases (rows row).mp member with rfl | ⟨old, _⟩
    · exact finish_wellFormed (shaped attempt (Table.get?_mem found)) running settled now
    · exact shaped row old

theorem shaped_run (consistent : Consistent db) (mirrored : Mirrored db) {run : Run}
    (member : run ∈ db.runs.rows) : run.toSnapshot.load.WellFormed := by
  obtain ⟨past, current, lineage⟩ := consistent.lineage run member
  rw [mirrored run member current lineage.current_mem.1 lineage.pointer]
  exact shaped current lineage.current_mem.1

end Shapes

def ClockedCall.result : ClockedCall → Option RunnerResult
  | .executed _ result | .persisting _ result _ => some result
  | _ => none

def ClockedCall.Settled (phase : ClockedCall) : Prop :=
  ∀ result, phase.result = some result → result.Settled

namespace Clocked

structure Valid (world : Clocked) : Prop where
  consistent : Consistent world.db
  mirrored : Mirrored world.db
  shaped : Shaped world.db
  settled : ∀ call, (world.calls call).Settled

theorem valid_empty : Valid empty where
  consistent := consistent_empty
  mirrored := mirrored_empty
  shaped := fun _ member => nomatch member
  settled := nofun

section Steps

variable {accepts : TerminalValues → Bool} {reads : Timestamp → Timestamp → Prop}
  {world later : Clocked}

theorem update_all {α : Type} {fact : α → Prop} {phases : Nat → α} (before : ∀ n, fact (phases n))
    (n : Nat) {phase : α} (mine : fact phase) : ∀ m, fact (Function.update phases n phase m) :=
  (Function.forall_update_iff phases (fun _ => fact)).mpr ⟨mine, fun m _ => before m⟩

theorem step_shaped (valid : Valid world) (step : Step accepts reads world later) :
    Shaped later.db := by
  cases step with
  | createRun caller new project runCreatedAt attemptCreatedAt phase found =>
      exact shaped_append valid.shaped (insertRun_rows _ new runCreatedAt attemptCreatedAt).2
  | retryRun runId loaded now written attemptId seen allowed inserted =>
      exact shaped_append valid.shaped (insertRetry_rows inserted).2.2
  | claim call attempt now claimed phase found success =>
      exact shaped_claim valid.shaped found success
  | persist call attempt result now persisted phase found success =>
      have settled := valid.settled call result (by rw [phase]; rfl)
      exact shaped_persist valid.shaped valid.consistent settled found success
  | createProject | stampRun | stampAttempt | createFailed | select | readStart | execute | readFinish
  | ended => exact valid.shaped

theorem step_settled (valid : Valid world) (step : Step accepts reads world later) :
    ∀ call, (later.calls call).Settled := by
  cases step with
  | execute call run attempt soloWargame fs =>
      apply update_all valid.settled call
      intro result same
      obtain rfl := Option.some.inj same
      exact executeAttempt_settled soloWargame fs run attempt
  | readFinish call attemptId result now phase =>
      apply update_all valid.settled call
      intro other same
      obtain rfl := Option.some.inj same
      exact valid.settled call result (by rw [phase]; rfl)
  | select call | readStart call | claim call | persist call | ended call =>
      exact update_all valid.settled call nofun
  | createProject | stampRun | stampAttempt | createRun | createFailed | retryRun =>
      exact valid.settled

theorem valid_step (valid : Valid world) (step : Step accepts reads world later) : Valid later := by
  have both : Consistent later.db ∧ Mirrored later.db := by
    rcases step_txn step with same | txn
    · rw [same]
      exact ⟨valid.consistent, valid.mirrored⟩
    · exact ⟨txn.consistent valid.consistent, mirrored_txn valid.consistent valid.mirrored txn⟩
  exact ⟨both.1, both.2, step_shaped valid step, step_settled valid step⟩

end Steps

end Clocked

/-! ### The order of the readings -/

/-- No reading is later than `clock`, those of one attempt follow one another, and so do the
attempts of one run. -/
structure Ordered (attempts : List RunAttempt) (clock : Timestamp) : Prop where
  created : ∀ attempt ∈ attempts, attempt.createdAt ≤ clock
  started : ∀ attempt ∈ attempts, ∀ startedAt, attempt.startedAt = some startedAt →
    attempt.createdAt ≤ startedAt ∧ startedAt ≤ clock
  finished : ∀ attempt ∈ attempts, ∀ finishedAt, attempt.finishedAt = some finishedAt →
    finishedAt ≤ clock ∧ ∀ startedAt, attempt.startedAt = some startedAt → startedAt ≤ finishedAt
  successive : ∀ attempt ∈ attempts, ∀ next ∈ attempts, next.runId = attempt.runId →
    next.attemptNumber = attempt.attemptNumber + 1 →
      ∀ finishedAt, attempt.finishedAt = some finishedAt → finishedAt ≤ next.createdAt

namespace Ordered

variable {attempts : List RunAttempt} {clock : Timestamp} (ordered : Ordered attempts clock)

include ordered

theorem later {now : Timestamp} (after : clock ≤ now) : Ordered attempts now where
  created := fun attempt member => Nat.le_trans (ordered.created attempt member) after
  started := by
    intro attempt member startedAt set
    obtain ⟨first, last⟩ := ordered.started attempt member startedAt set
    exact ⟨first, Nat.le_trans last after⟩
  finished := by
    intro attempt member finishedAt set
    obtain ⟨last, first⟩ := ordered.finished attempt member finishedAt set
    exact ⟨Nat.le_trans last after, first⟩
  successive := ordered.successive

theorem add (fresh : RunAttempt) (initial : fresh.toSnapshot = .initial)
    (created : fresh.createdAt ≤ clock)
    (after : ∀ attempt ∈ attempts, fresh.runId = attempt.runId →
      ∀ finishedAt, attempt.finishedAt = some finishedAt → finishedAt ≤ fresh.createdAt) :
    Ordered (attempts ++ [fresh]) clock := by
  have unstarted : fresh.startedAt = none := congrArg Snapshot.startedAt initial
  have unfinished : fresh.finishedAt = none := congrArg Snapshot.finishedAt initial
  have cases_of {attempt : RunAttempt} (member : attempt ∈ attempts ++ [fresh]) :
      attempt ∈ attempts ∨ attempt = fresh := by simpa using member
  constructor
  · intro attempt member
    rcases cases_of member with old | rfl
    · exact ordered.created attempt old
    · exact created
  · intro attempt member startedAt set
    rcases cases_of member with old | rfl
    · exact ordered.started attempt old startedAt set
    · cases unstarted.symm.trans set
  · intro attempt member finishedAt set
    rcases cases_of member with old | rfl
    · exact ordered.finished attempt old finishedAt set
    · cases unfinished.symm.trans set
  · intro attempt member next nextMember owner number finishedAt set
    rcases cases_of member with old | rfl
    · rcases cases_of nextMember with nextOld | rfl
      · exact ordered.successive attempt old next nextOld owner number finishedAt set
      · exact after attempt old owner finishedAt set
    · cases unfinished.symm.trans set

theorem replace {attempt version : RunAttempt} {rows : List RunAttempt}
    (member : attempt ∈ attempts)
    (versions : ∀ row, row ∈ rows ↔ row = version ∨ (row ∈ attempts ∧ row.id ≠ attempt.id))
    (owner : version.runId = attempt.runId)
    (number : version.attemptNumber = attempt.attemptNumber)
    (created : version.createdAt = attempt.createdAt)
    (started : ∀ startedAt, version.startedAt = some startedAt →
      attempt.createdAt ≤ startedAt ∧ startedAt ≤ clock)
    (finished : ∀ finishedAt, version.finishedAt = some finishedAt →
      finishedAt ≤ clock ∧ ∀ startedAt, version.startedAt = some startedAt → startedAt ≤ finishedAt)
    (last : version.finishedAt = attempt.finishedAt ∨
      ∀ other ∈ attempts, other.runId = attempt.runId →
        other.attemptNumber ≤ attempt.attemptNumber) :
    Ordered rows clock := by
  constructor
  · intro row present
    rcases (versions row).mp present with rfl | ⟨old, _⟩
    · rw [created]
      exact ordered.created attempt member
    · exact ordered.created row old
  · intro row present startedAt set
    rcases (versions row).mp present with rfl | ⟨old, _⟩
    · rw [created]
      exact started startedAt set
    · exact ordered.started row old startedAt set
  · intro row present finishedAt set
    rcases (versions row).mp present with rfl | ⟨old, _⟩
    · exact finished finishedAt set
    · exact ordered.finished row old finishedAt set
  · intro row present next nextPresent nextOwner nextNumber finishedAt set
    rcases (versions row).mp present with rfl | ⟨old, _⟩
    · rw [owner] at nextOwner
      rw [number] at nextNumber
      rcases (versions next).mp nextPresent with rfl | ⟨nextOld, _⟩
      · omega
      · rcases last with same | greatest
        · exact ordered.successive attempt member next nextOld nextOwner nextNumber finishedAt
            (same.symm.trans set)
        · have bound := greatest next nextOld nextOwner
          omega
    · rcases (versions next).mp nextPresent with rfl | ⟨nextOld, _⟩
      · rw [created]
        exact ordered.successive row old attempt member (owner.symm.trans nextOwner)
          (number.symm.trans nextNumber) finishedAt set
      · exact ordered.successive row old next nextOld nextOwner nextNumber finishedAt set

end Ordered

def ClockedCall.Timed (attempts : List RunAttempt) (clock : Timestamp) : ClockedCall → Prop
  | .idle => True
  | .selected attemptId => ∃ row ∈ attempts, row.id = attemptId
  | .claiming attemptId now => now ≤ clock ∧ ∃ row ∈ attempts, row.id = attemptId ∧
      row.createdAt ≤ now
  | .claimed attemptId | .executed attemptId _ => ∃ row ∈ attempts, row.id = attemptId ∧
      row.status ≠ .queued
  | .persisting attemptId _ now => now ≤ clock ∧ ∃ row ∈ attempts, row.id = attemptId ∧
      row.status ≠ .queued ∧ ∀ startedAt, row.startedAt = some startedAt → startedAt ≤ now

def ClockedCreate.Timed (clock : Timestamp) : ClockedCreate → Prop
  | .stamped _ _ attemptCreatedAt => attemptCreatedAt ≤ clock
  | _ => True

def Aged (before after : List RunAttempt) : Prop :=
  ∀ row ∈ before, ∃ version ∈ after, version.id = row.id ∧ version.createdAt = row.createdAt ∧
    (row.status ≠ .queued → version.status ≠ .queued ∧ version.startedAt = row.startedAt)

theorem Aged.refl (attempts : List RunAttempt) : Aged attempts attempts :=
  fun row member => ⟨row, member, rfl, rfl, fun started => ⟨started, rfl⟩⟩

theorem Aged.add (attempts : List RunAttempt) (fresh : RunAttempt) :
    Aged attempts (attempts ++ [fresh]) :=
  fun row member => ⟨row, List.mem_append_left _ member, rfl, rfl, fun started => ⟨started, rfl⟩⟩

theorem ClockedCall.Timed.aged {before after : List RunAttempt} {clock now : Timestamp}
    {phase : ClockedCall} (timed : phase.Timed before clock) (aged : Aged before after)
    (later : clock ≤ now) : phase.Timed after now := by
  cases phase with
  | idle => trivial
  | selected attemptId =>
      obtain ⟨row, member, id⟩ := timed
      obtain ⟨version, present, same, _⟩ := aged row member
      exact ⟨version, present, same.trans id⟩
  | claiming attemptId startedAt =>
      obtain ⟨read, row, member, id, created⟩ := timed
      obtain ⟨version, present, same, sameCreated, _⟩ := aged row member
      exact ⟨Nat.le_trans read later, version, present, same.trans id, sameCreated ▸ created⟩
  | claimed attemptId =>
      obtain ⟨row, member, id, started⟩ := timed
      obtain ⟨version, present, same, _, kept⟩ := aged row member
      exact ⟨version, present, same.trans id, (kept started).1⟩
  | executed attemptId result =>
      obtain ⟨row, member, id, started⟩ := timed
      obtain ⟨version, present, same, _, kept⟩ := aged row member
      exact ⟨version, present, same.trans id, (kept started).1⟩
  | persisting attemptId result finishedAt =>
      obtain ⟨read, row, member, id, started, bound⟩ := timed
      obtain ⟨version, present, same, _, kept⟩ := aged row member
      obtain ⟨stillStarted, sameStart⟩ := kept started
      exact ⟨Nat.le_trans read later, version, present, same.trans id, stillStarted,
        sameStart ▸ bound⟩

namespace Clocked

structure Timed (world : Clocked) : Prop where
  ordered : Ordered world.db.attempts.rows world.clock
  calls : ∀ call, (world.calls call).Timed world.db.attempts.rows world.clock
  creates : ∀ caller, (world.creates caller).Timed world.clock

theorem ordered_nil (clock : Timestamp) : Ordered [] clock := by
  constructor
  · intro attempt member
    cases member
  · intro attempt member
    cases member
  · intro attempt member
    cases member
  · intro attempt member
    cases member

theorem timed_empty : Timed empty where
  ordered := ordered_nil 0
  calls := fun _ => trivial
  creates := fun _ => trivial

theorem creates_later {creates : Nat → ClockedCreate} {clock now : Timestamp}
    (timed : ∀ caller, (creates caller).Timed clock) (later : clock ≤ now) :
    ∀ caller, (creates caller).Timed now := by
  intro caller
  have before := timed caller
  cases phase : creates caller with
  | idle => trivial
  | runStamped new runCreatedAt => trivial
  | stamped new runCreatedAt attemptCreatedAt =>
      rw [phase] at before
      exact Nat.le_trans before later

section Steps

variable {accepts : TerminalValues → Bool} {reads : Timestamp → Timestamp → Prop}
  {world later : Clocked}

theorem Timed.calls_later (timed : Timed world) {rows : List RunAttempt} {now : Timestamp}
    (aged : Aged world.db.attempts.rows rows) (after : world.clock ≤ now) :
    ∀ call, (world.calls call).Timed rows now :=
  fun call => (timed.calls call).aged aged after

theorem Timed.read (timed : Timed world) {now : Timestamp} (after : world.clock ≤ now) :
    Timed { world with clock := now } where
  ordered := timed.ordered.later after
  calls := timed.calls_later (.refl _) after
  creates := creates_later timed.creates after

theorem Timed.write (timed : Timed world) {db : Database}
    (ordered : Ordered db.attempts.rows world.clock)
    (aged : Aged world.db.attempts.rows db.attempts.rows) : Timed { world with db := db } where
  ordered := ordered
  calls := timed.calls_later aged (Nat.le_refl _)
  creates := timed.creates

theorem Timed.setCall (timed : Timed world) (call : Nat) {phase : ClockedCall}
    (mine : phase.Timed world.db.attempts.rows world.clock) : Timed (world.setCall call phase) where
  ordered := timed.ordered
  calls := update_all timed.calls call mine
  creates := timed.creates

theorem Timed.setCreate (timed : Timed world) (caller : Nat) {phase : ClockedCreate}
    (mine : phase.Timed world.clock) : Timed (world.setCreate caller phase) where
  ordered := timed.ordered
  calls := timed.calls
  creates := update_all timed.creates caller mine

theorem insertRun_ordered {db : Database} {clock : Timestamp} (consistent : Consistent db)
    (ordered : Ordered db.attempts.rows clock) (new : NewRun)
    (runCreatedAt attemptCreatedAt : Timestamp) (read : attemptCreatedAt ≤ clock) :
    Ordered (insertRun db new runCreatedAt attemptCreatedAt).1.attempts.rows clock ∧
      Aged db.attempts.rows (insertRun db new runCreatedAt attemptCreatedAt).1.attempts.rows := by
  rw [(insertRun_rows db new runCreatedAt attemptCreatedAt).2]
  refine ⟨ordered.add _ rfl read ?_, .add _ _⟩
  intro attempt member owner
  obtain ⟨run, row, key⟩ := consistent.owned attempt member
  have bound := db.runs.below run row
  have owned : db.runs.next = attempt.runId := owner
  rw [rowId_run] at bound
  omega

theorem insertRetry_ordered {db written : Database} {clock now : Timestamp}
    (ordered : Ordered db.attempts.rows clock) (after : clock ≤ now) {loaded : LoadedRun}
    {attemptId : Nat} (inserted : insertRetry db loaded now = some (written, attemptId)) :
    Ordered written.attempts.rows now ∧ Aged db.attempts.rows written.attempts.rows := by
  rw [(insertRetry_rows inserted).2.2]
  refine ⟨(ordered.later after).add _ rfl (Nat.le_refl _) ?_, .add _ _⟩
  intro attempt member _ finishedAt set
  exact Nat.le_trans (ordered.finished attempt member finishedAt set).1 after

theorem claim_ordered {db claimed : Database} {clock now : Timestamp} (shaped : Shaped db)
    (ordered : Ordered db.attempts.rows clock) {attempt : RunAttempt}
    (found : db.attempts.get? attempt.id = some attempt) (created : attempt.createdAt ≤ now)
    (read : now ≤ clock)
    (success : claimAttempt db attempt.runId attempt.id now = some claimed) :
    Ordered claimed.attempts.rows clock ∧ Aged db.attempts.rows claimed.attempts.rows := by
  obtain ⟨queued, rows⟩ := claim_rows found success
  have member := Table.get?_mem found
  have unfinished : attempt.finishedAt = none :=
    ((shaped attempt member).queued queued).2.finishedAt
  constructor
  · apply ordered.replace member rows rfl rfl rfl
    · intro startedAt set
      obtain rfl : now = startedAt := Option.some.inj set
      exact ⟨created, read⟩
    · intro finishedAt set
      cases unfinished.symm.trans set
    · exact Or.inl rfl
  · intro row present
    by_cases same : row.id = attempt.id
    · obtain rfl := Table.eq_of_mem found present same
      exact ⟨_, (rows _).mpr (Or.inl rfl), rfl, rfl, fun started => absurd queued started⟩
    · exact ⟨row, (rows row).mpr (Or.inr ⟨present, same⟩), rfl, rfl, fun started => ⟨started, rfl⟩⟩

theorem persist_ordered {db persisted : Database} {clock now : Timestamp}
    (consistent : Consistent db) (ordered : Ordered db.attempts.rows clock) {attempt : RunAttempt}
    {result : RunnerResult} (found : db.attempts.get? attempt.id = some attempt)
    (started : ∀ startedAt, attempt.startedAt = some startedAt → startedAt ≤ now)
    (read : now ≤ clock)
    (success : persistTerminalResult accepts db attempt.runId attempt.id result now =
      some persisted) :
    Ordered persisted.attempts.rows clock ∧ Aged db.attempts.rows persisted.attempts.rows := by
  rcases persist_rows consistent found success with rfl | ⟨_, last, rows⟩
  · exact ⟨ordered, .refl _⟩
  · have member := Table.get?_mem found
    constructor
    · apply ordered.replace member rows rfl rfl rfl
      · exact ordered.started attempt member
      · intro finishedAt set
        obtain rfl : now = finishedAt := Option.some.inj set
        exact ⟨read, started⟩
      · exact Or.inr last
    · intro row present
      by_cases same : row.id = attempt.id
      · obtain rfl := Table.eq_of_mem found present same
        refine ⟨_, (rows _).mpr (Or.inl rfl), rfl, rfl, fun _ => ⟨?_, rfl⟩⟩
        intro queued
        have terminal := terminalStatus_terminal result
        have written : terminalStatus result = .queued := queued
        rw [written] at terminal
        cases terminal
      · exact ⟨row, (rows row).mpr (Or.inr ⟨present, same⟩), rfl, rfl,
          fun started => ⟨started, rfl⟩⟩

theorem timed_step (never : ∀ last now, reads last now → last ≤ now) (valid : Valid world)
    (timed : Timed world) (step : Step accepts reads world later) : Timed later := by
  cases step with
  | createProject name description now reading =>
      have read := timed.read (never _ _ reading)
      exact read.write read.ordered (.refl _)
  | stampRun caller new project now found phase reading =>
      exact (timed.read (never _ _ reading)).setCreate caller trivial
  | stampAttempt caller new runCreatedAt now phase reading =>
      exact (timed.read (never _ _ reading)).setCreate caller (Nat.le_refl now)
  | createRun caller new project runCreatedAt attemptCreatedAt phase found =>
      have read := timed.creates caller
      rw [phase] at read
      obtain ⟨ordered, aged⟩ := insertRun_ordered valid.consistent timed.ordered new runCreatedAt
        attemptCreatedAt read
      have ended : Timed (world.setCreate caller .idle) := timed.setCreate caller trivial
      exact ended.write ordered aged
  | createFailed caller runs attempts =>
      have ended : Timed (world.setCreate caller .idle) := timed.setCreate caller trivial
      exact ended.write timed.ordered (.refl _)
  | retryRun runId loaded now written attemptId seen allowed inserted reading =>
      have after := never _ _ reading
      obtain ⟨ordered, aged⟩ := insertRetry_ordered timed.ordered after inserted
      exact (timed.read after).write ordered aged
  | select call attempt found phase =>
      exact timed.setCall call ⟨attempt, Table.get?_mem found, rfl⟩
  | readStart call attemptId now phase reading =>
      have after := never _ _ reading
      have selected := timed.calls call
      rw [phase] at selected
      obtain ⟨row, member, id⟩ := selected
      have created := Nat.le_trans (timed.ordered.created row member) after
      exact (timed.read after).setCall call ⟨Nat.le_refl _, row, member, id, created⟩
  | claim call attempt now claimed phase found success =>
      have claiming := timed.calls call
      rw [phase] at claiming
      obtain ⟨read, row, member, id, created⟩ := claiming
      obtain rfl := Table.eq_of_mem found member id
      obtain ⟨ordered, aged⟩ :=
        claim_ordered valid.shaped timed.ordered found created read success
      have written := ((claim_rows found success).2 (row.start now)).mpr (Or.inl rfl)
      have started : (row.start now).status ≠ .queued := nofun
      exact (timed.write ordered aged).setCall call ⟨_, written, rfl, started⟩
  | execute call run attempt soloWargame fs phase runFound attemptFound =>
      have claimed := timed.calls call
      rw [phase] at claimed
      exact timed.setCall call claimed
  | readFinish call attemptId result now phase reading =>
      have after := never _ _ reading
      have executed := timed.calls call
      rw [phase] at executed
      obtain ⟨row, member, id, started⟩ := executed
      refine (timed.read after).setCall call ⟨Nat.le_refl _, row, member, id, started, ?_⟩
      intro startedAt set
      exact Nat.le_trans (timed.ordered.started row member startedAt set).2 after
  | persist call attempt result now persisted phase found success =>
      have persisting := timed.calls call
      rw [phase] at persisting
      obtain ⟨read, row, member, id, _, started⟩ := persisting
      obtain rfl := Table.eq_of_mem found member id
      obtain ⟨ordered, aged⟩ :=
        persist_ordered valid.consistent timed.ordered found started read success
      have ended : Timed (world.setCall call .idle) := timed.setCall call trivial
      exact ended.write ordered aged
  | ended call => exact timed.setCall call trivial

theorem valid_reached (reached : ReflTransGen (Step accepts reads) empty world) : Valid world :=
  Transition.invariant valid_empty (fun _ _ valid step => valid_step valid step) reached

theorem timed_reached (never : ∀ last now, reads last now → last ≤ now)
    (reached : ReflTransGen (Step accepts reads) empty world) : Timed world := by
  let kept (state : Clocked) := Valid state ∧ Timed state
  have step (before after : Clocked) (here : kept before) (last : Step accepts reads before after) :
      kept after :=
    ⟨valid_step here.1 last, timed_step never here.1 here.2 last⟩
  have both : kept world := Transition.invariant ⟨valid_empty, timed_empty⟩ step reached
  exact both.2

theorem failed_before {db : Database} (consistent : Consistent db) {attempt next : RunAttempt}
    (member : attempt ∈ db.attempts.rows) (nextMember : next ∈ db.attempts.rows)
    (owner : next.runId = attempt.runId)
    (number : next.attemptNumber = attempt.attemptNumber + 1) : attempt.status = .failed := by
  obtain ⟨run, past, current, found, lineage⟩ := consistent.of_attempt member
  have key : run.id = attempt.runId := Table.get?_id found
  have bound := (lineage.number_le ((db.mem_attemptRows run.id next).mpr
    ⟨nextMember, owner.trans key.symm⟩)).2
  rcases lineage.member_cases member key.symm with old | rfl
  · exact lineage.superseded attempt old
  · have last := lineage.current_number
    omega

/-- Which fields of a row are set follows from its status, and with clocks that never go back the
readings of a run stand in the order of its attempts. -/
theorem rows_well_formed (reached : ReflTransGen (Step accepts reads) empty world) :
    (∀ run ∈ world.db.runs.rows, run.toSnapshot.load.WellFormed) ∧
      (∀ attempt ∈ world.db.attempts.rows, attempt.toSnapshot.load.WellFormed) ∧
      ((∀ last now, reads last now → last ≤ now) →
        (∀ attempt ∈ world.db.attempts.rows,
          (∀ startedAt, attempt.startedAt = some startedAt → attempt.createdAt ≤ startedAt) ∧
          ∀ startedAt finishedAt, attempt.startedAt = some startedAt →
            attempt.finishedAt = some finishedAt → startedAt ≤ finishedAt) ∧
        ∀ attempt ∈ world.db.attempts.rows, ∀ next ∈ world.db.attempts.rows,
          next.runId = attempt.runId → next.attemptNumber = attempt.attemptNumber + 1 →
            ∃ finishedAt, attempt.finishedAt = some finishedAt ∧ finishedAt ≤ next.createdAt) := by
  have valid := valid_reached reached
  refine ⟨fun run member => shaped_run valid.shaped valid.consistent valid.mirrored member,
    valid.shaped, ?_⟩
  intro never
  have ordered := (timed_reached never reached).ordered
  constructor
  · intro attempt member
    constructor
    · intro startedAt started
      exact (ordered.started attempt member startedAt started).1
    · intro startedAt finishedAt started finished
      exact (ordered.finished attempt member finishedAt finished).2 startedAt started
  · intro attempt member next nextMember owner number
    have failed := failed_before valid.consistent member nextMember owner number
    have terminal : attempt.status.terminal = true := by rw [failed]; rfl
    obtain ⟨_, finished, _⟩ := (valid.shaped attempt member).terminal terminal
    obtain ⟨finishedAt, set⟩ := Option.isSome_iff_exists.mp finished
    exact ⟨finishedAt, set,
      ordered.successive attempt member next nextMember owner number finishedAt set⟩

end Steps

theorem rows_well_formed_stub :
    ∃ world, ReflTransGen (Step (fun _ => true) (· ≤ ·)) empty world ∧
      ∃ run ∈ world.db.runs.rows, run.status = .succeeded ∧ run.toSnapshot.load.WellFormed := by
  have project : Step (fun _ => true) (· ≤ ·) empty _ :=
    .createProject "evals" none 0 (Nat.le_refl 0)
  have reached := (((((((((ReflTransGen.single project).tail
    (.stampRun 0 sampleNew ⟨1, "evals", none, 0⟩ 0 rfl rfl (Nat.le_refl 0))).tail
    (.stampAttempt 0 sampleNew 0 0 rfl (Nat.le_refl 0))).tail
    (.createRun 0 sampleNew ⟨1, "evals", none, 0⟩ 0 0 rfl rfl)).tail
    (.select 0 (newAttempt 1 1 1 0) rfl rfl)).tail
    (.readStart 0 1 1 rfl (Nat.zero_le 1))).tail
    (.claim 0 (newAttempt 1 1 1 0) 1 _ rfl rfl rfl)).tail
    (.execute 0 _ ((newAttempt 1 1 1 0).start 1) (wargameRunner .nan)
      (.plain (fun _ => none) []) rfl rfl rfl)).tail
    (.readFinish 0 1 _ 2 rfl (by decide))).tail
    (.persist 0 ((newAttempt 1 1 1 0).start 1) _ 2 _ rfl rfl rfl)
  obtain ⟨runs, _⟩ := rows_well_formed reached
  exact ⟨_, reached, _, List.mem_singleton.mpr rfl, rfl, runs _ (List.mem_singleton.mpr rfl)⟩

end Clocked

end Evalynx
