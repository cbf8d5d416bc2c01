import Evalynx.Commuting
import Evalynx.Processing

namespace Evalynx

open Relational

def settled (env : WorkerEnv) (db : Database) (attempt : RunAttempt) (run : Run) : Database :=
  db.replace ((attempt.start env.startedAt).finish (env.values attempt run))
    ((run.start env.startedAt).finish (env.values attempt run))

theorem processAttempt_other (env : WorkerEnv) {db : Database} {attemptId : Nat}
    (unclaimable : ∀ attempt run, Claimable db attempt run → attempt.id ≠ attemptId) :
    (processAttempt env db attemptId).db = db := by
  rw [processAttempt_unclaimed env unclaimable]

theorem Claimable.unique {db : Database} {attempt other : RunAttempt} {run otherRun : Run}
    (claimable : Claimable db attempt run) (again : Claimable db other otherRun)
    (same : other.id = attempt.id) : other = attempt ∧ otherRun = run := by
  have attempts := again.attemptFound
  rw [same, claimable.attemptFound] at attempts
  obtain rfl := Option.some.inj attempts
  have runs := again.runFound
  rw [claimable.runFound] at runs
  exact ⟨rfl, (Option.some.inj runs).symm⟩

theorem Claimable.runs_differ {db : Database} {attempt other : RunAttempt} {run otherRun : Run}
    (claimable : Claimable db attempt run) (second : Claimable db other otherRun)
    (different : other.id ≠ attempt.id) : otherRun.id ≠ run.id := by
  intro same
  have found := second.run_self
  rw [same, claimable.run_self] at found
  have pointer := second.pointer
  rw [← Option.some.inj found, claimable.pointer] at pointer
  exact different (Option.some.inj pointer).symm

section Settled

variable (env : WorkerEnv) {db : Database} {attempt : RunAttempt} {run : Run}
  (claimable : Claimable db attempt run)

include claimable

theorem processAttempt_settled (accepted : env.accepts (env.values attempt run) = true) :
    (processAttempt env db attempt.id).db = settled env db attempt run := by
  rw [processAttempt_claimable claimable, if_pos accepted]
  rfl

theorem settled_unclaimable (other : RunAttempt) (otherRun : Run)
    (again : Claimable (settled env db attempt run) other otherRun) : other.id ≠ attempt.id := by
  intro same
  have found := again.attemptFound
  have stored := (claimable.replaced ((attempt.start env.startedAt).finish (env.values attempt run))
    ((run.start env.startedAt).finish (env.values attempt run)) rfl rfl).1
  rw [same] at found
  obtain rfl := Option.some.inj (stored.symm.trans found)
  have terminal := terminalStatus_terminal (env.execution attempt run).1
  have queued : terminalStatus (env.execution attempt run).1 = .queued := again.attemptQueued
  rw [queued] at terminal
  cases terminal

theorem claimable_settled {other : RunAttempt} {otherRun : Run} (different : other.id ≠ attempt.id) :
    Claimable (settled env db attempt run) other otherRun ↔ Claimable db other otherRun := by
  have attempts : (settled env db attempt run).attempts.get? other.id =
      db.attempts.get? other.id := by
    have foreign : other.id ≠
        Row.id ((attempt.start env.startedAt).finish (env.values attempt run)) := different
    rw [settled, Database.replace, Table.get?_put, if_neg foreign]
  have runs (pointer : otherRun.currentAttemptId = some other.id) :
      (settled env db attempt run).runs.get? other.runId = some otherRun ↔
        db.runs.get? other.runId = some otherRun := by
    rw [settled, Database.replace, Table.get?_put]
    split
    · rename_i sameRun
      have key : other.runId = run.id := sameRun
      have stored := claimable.run_self
      rw [key, stored]
      have mine := claimable.pointer
      constructor
      · intro found
        obtain rfl := Option.some.inj found
        exact absurd (Option.some.inj (pointer.symm.trans mine)) different
      · intro found
        obtain rfl := Option.some.inj found
        exact absurd (Option.some.inj (pointer.symm.trans mine)) different
    · exact Iff.rfl
  constructor
  · intro after
    exact ⟨attempts ▸ after.attemptFound, after.attemptQueued,
      (runs after.pointer).mp after.runFound, after.pointer, after.runQueued⟩
  · intro before
    exact ⟨attempts ▸ before.attemptFound, before.attemptQueued,
      (runs before.pointer).mpr before.runFound, before.pointer, before.runQueued⟩

theorem settled_comm {other : RunAttempt} {otherRun : Run} (second : Claimable db other otherRun)
    (different : other.id ≠ attempt.id) :
    settled env (settled env db attempt run) other otherRun =
      settled env (settled env db other otherRun) attempt run := by
  have distinct : run.id ≠ otherRun.id := Ne.symm (claimable.runs_differ second different)
  have attempts := db.attempts.put_comm
    ((attempt.start env.startedAt).finish (env.values attempt run))
    ((other.start env.startedAt).finish (env.values other otherRun)) (Ne.symm different)
  have runs := db.runs.put_comm ((run.start env.startedAt).finish (env.values attempt run))
    ((otherRun.start env.startedAt).finish (env.values other otherRun)) distinct
  simp only [settled, Database.replace, attempts, runs]

end Settled

section Calls

variable (env : WorkerEnv)
  (accepted : ∀ attempt run, env.accepts (env.values attempt run) = true)

include accepted

theorem processAttempt_cases (db : Database) (attemptId : Nat) :
    (∃ attempt run, attempt.id = attemptId ∧ Claimable db attempt run ∧
        (processAttempt env db attemptId).db = settled env db attempt run) ∨
      ((∀ attempt run, Claimable db attempt run → attempt.id ≠ attemptId) ∧
        (processAttempt env db attemptId).db = db) := by
  rcases claimable_cases db attemptId with ⟨attempt, run, rfl, claimable⟩ | unclaimable
  · exact Or.inl ⟨attempt, run, rfl, claimable,
      processAttempt_settled env claimable (accepted attempt run)⟩
  · exact Or.inr ⟨unclaimable, processAttempt_other env unclaimable⟩

theorem processAttempt_lawful :
    Commuting.Lawful (fun db attemptId => (processAttempt env db attemptId).db) where
  absorb := by
    intro db attemptId
    rcases processAttempt_cases env accepted db attemptId with
      ⟨attempt, run, rfl, claimable, settles⟩ | ⟨_, same⟩
    · rw [settles]
      exact processAttempt_other env (settled_unclaimable env claimable)
    · rw [same, same]
  commute := by
    intro db first second
    by_cases equal : second = first
    · rw [equal]
    · have settles (db : Database) (attempt : RunAttempt) (run : Run)
          (claimable : Claimable db attempt run) :
          (processAttempt env db attempt.id).db = settled env db attempt run :=
        processAttempt_settled env claimable (accepted attempt run)
      rcases processAttempt_cases env accepted db first with
        ⟨attempt, run, rfl, claimable, one⟩ | ⟨unclaimable, one⟩
      · rcases processAttempt_cases env accepted db second with
          ⟨other, otherRun, rfl, also, two⟩ | ⟨others, two⟩
        · rw [one, two, settles _ _ _ ((claimable_settled env claimable equal).mpr also),
            settles _ _ _ ((claimable_settled env also (Ne.symm equal)).mpr claimable)]
          exact settled_comm env claimable also equal
        · rw [one, two, one]
          apply processAttempt_other
          intro later laterRun after same
          have before := (claimable_settled env claimable (same ▸ equal)).mp after
          exact others later laterRun before same
      · rcases processAttempt_cases env accepted db second with
          ⟨other, otherRun, rfl, also, two⟩ | ⟨others, two⟩
        · rw [one, two]
          symm
          apply processAttempt_other
          intro later laterRun after same
          have before := (claimable_settled env also (same ▸ Ne.symm equal)).mp after
          exact unclaimable later laterRun before same
        · rw [one, two, one]

end Calls

def forget (reading : Option Timestamp) : Option Timestamp := reading.map (fun _ => 0)

def Snapshot.untimed (snapshot : Snapshot) : Snapshot :=
  { snapshot with
    startedAt := forget snapshot.startedAt
    finishedAt := forget snapshot.finishedAt }

def Run.untimed (run : Run) : Run := { run with toSnapshot := run.toSnapshot.untimed }

def RunAttempt.untimed (attempt : RunAttempt) : RunAttempt :=
  { attempt with toSnapshot := attempt.toSnapshot.untimed }

def Database.untimed (db : Database) : Database :=
  { db with
    runs := db.runs.map Run.untimed (fun _ => rfl)
    attempts := db.attempts.map RunAttempt.untimed (fun _ => rfl) }

def Run.SameButTimes (run other : Run) : Prop :=
  { run with
    createdAt := other.createdAt
    startedAt := other.startedAt
    finishedAt := other.finishedAt } = other

def RunAttempt.SameButTimes (attempt other : RunAttempt) : Prop :=
  { attempt with
    createdAt := other.createdAt
    startedAt := other.startedAt
    finishedAt := other.finishedAt } = other

def RunnerRegistry.Timeless (registry : RunnerRegistry) : Prop :=
  ∀ runnerType runner, registry.lookup runnerType = some runner →
    ∀ run otherRun attempt otherAttempt, Run.SameButTimes run otherRun →
      RunAttempt.SameButTimes attempt otherAttempt →
        runner.execute run attempt = runner.execute otherRun otherAttempt

/-- The database takes the values of every outcome. -/
def RunnerRegistry.Accepted (registry : RunnerRegistry) (accepts : TerminalValues → Bool) : Prop :=
  ∀ run attempt finishedAt,
    accepts (terminalValues (executeAttempt registry run attempt).1 finishedAt) = true

structure Delivery where
  attemptId : Nat
  startedAt : Timestamp
  finishedAt : Timestamp

def processAll (registry : RunnerRegistry) (accepts : TerminalValues → Bool) (db : Database)
    (deliveries : List Delivery) : Database :=
  deliveries.foldl
    (fun db delivery =>
      (processAttempt ⟨registry, accepts, delivery.startedAt, delivery.finishedAt⟩ db
        delivery.attemptId).db)
    db

theorem untimed_replace (db : Database) (attempt : RunAttempt) (run : Run) :
    (db.replace attempt run).untimed = db.untimed.replace attempt.untimed run.untimed := by
  have attempts := db.attempts.map_put RunAttempt.untimed (fun _ => rfl) attempt
  have runs := db.runs.map_put Run.untimed (fun _ => rfl) run
  simp only [Database.replace, Database.untimed, attempts, runs]

theorem Claimable.untimed {db : Database} {attempt : RunAttempt} {run : Run}
    (claimable : Claimable db attempt run) : Claimable db.untimed attempt.untimed run.untimed where
  attemptFound := by
    have found : db.untimed.attempts.get? attempt.id =
        (db.attempts.get? attempt.id).map RunAttempt.untimed :=
      db.attempts.get?_map RunAttempt.untimed (fun _ => rfl) attempt.id
    exact found.trans (congrArg _ claimable.attemptFound)
  attemptQueued := claimable.attemptQueued
  runFound := by
    have found : db.untimed.runs.get? attempt.runId =
        (db.runs.get? attempt.runId).map Run.untimed :=
      db.runs.get?_map Run.untimed (fun _ => rfl) attempt.runId
    exact found.trans (congrArg _ claimable.runFound)
  pointer := claimable.pointer
  runQueued := claimable.runQueued

theorem claimable_of_untimed {db : Database} {attempt : RunAttempt} {run : Run}
    (claimable : Claimable db.untimed attempt run) :
    ∃ stored storedRun, stored.id = attempt.id ∧ Claimable db stored storedRun := by
  have attempts : db.untimed.attempts.get? attempt.id =
      (db.attempts.get? attempt.id).map RunAttempt.untimed :=
      db.attempts.get?_map RunAttempt.untimed (fun _ => rfl) attempt.id
  have runs : db.untimed.runs.get? attempt.runId =
      (db.runs.get? attempt.runId).map Run.untimed :=
      db.runs.get?_map Run.untimed (fun _ => rfl) attempt.runId
  rw [claimable.attemptFound] at attempts
  rw [claimable.runFound] at runs
  obtain ⟨stored, found, rfl⟩ := Option.map_eq_some_iff.mp attempts.symm
  obtain ⟨storedRun, runFound, rfl⟩ := Option.map_eq_some_iff.mp runs.symm
  exact ⟨stored, storedRun, rfl, found, claimable.attemptQueued, runFound, claimable.pointer,
    claimable.runQueued⟩

section Deliveries

variable {registry : RunnerRegistry} {accepts : TerminalValues → Bool}
  (timeless : registry.Timeless) (accepted : registry.Accepted accepts)

include timeless

theorem executeAttempt_timeless {run otherRun : Run} {attempt otherAttempt : RunAttempt}
    (runs : Run.SameButTimes run otherRun) (attempts : RunAttempt.SameButTimes attempt otherAttempt) :
    (executeAttempt registry run attempt).1 = (executeAttempt registry otherRun otherAttempt).1 := by
  have runnerType : run.runnerType = otherRun.runnerType := by
    have columns := congrArg Run.runnerType runs
    exact columns
  unfold executeAttempt
  rw [runnerType]
  cases registered : registry.lookup otherRun.runnerType with
  | none => rfl
  | some runner =>
      exact congrArg Outcome.result (timeless _ _ registered _ _ _ _ runs attempts)

theorem settled_untimed (db : Database) (attempt : RunAttempt) (run : Run)
    (startedAt finishedAt : Timestamp) :
    (settled ⟨registry, accepts, startedAt, finishedAt⟩ db attempt run).untimed =
      settled ⟨registry, accepts, 0, 0⟩ db.untimed attempt.untimed run.untimed := by
  have same : (executeAttempt registry (run.start startedAt) (attempt.start startedAt)).1 =
      (executeAttempt registry (run.untimed.start 0) (attempt.untimed.start 0)).1 :=
    executeAttempt_timeless timeless rfl rfl
  have values : WorkerEnv.values ⟨registry, accepts, startedAt, finishedAt⟩ attempt run =
      { WorkerEnv.values ⟨registry, accepts, 0, 0⟩ attempt.untimed run.untimed with
        finishedAt := finishedAt } := by
    simp only [WorkerEnv.values, WorkerEnv.execution, same]
    rfl
  rw [settled, untimed_replace, values]
  rfl

include accepted

theorem processAttempt_untimed (db : Database) (delivery : Delivery) :
    (processAttempt ⟨registry, accepts, delivery.startedAt, delivery.finishedAt⟩ db
        delivery.attemptId).db.untimed =
      (processAttempt ⟨registry, accepts, 0, 0⟩ db.untimed delivery.attemptId).db := by
  obtain ⟨attemptId, startedAt, finishedAt⟩ := delivery
  rcases processAttempt_cases ⟨registry, accepts, startedAt, finishedAt⟩
      (fun attempt run => accepted _ _ _) db attemptId with
    ⟨attempt, run, rfl, claimable, settles⟩ | ⟨unclaimable, same⟩
  · have settlesUntimed := processAttempt_settled ⟨registry, accepts, 0, 0⟩ claimable.untimed
      (accepted _ _ _)
    rw [settles, settled_untimed timeless]
    exact settlesUntimed.symm
  · rw [same]
    symm
    apply processAttempt_other
    intro attempt run claimable key
    obtain ⟨stored, storedRun, sameId, before⟩ := claimable_of_untimed claimable
    exact unclaimable stored storedRun before (sameId.trans key)

theorem processAll_untimed (db : Database) (deliveries : List Delivery) :
    (processAll registry accepts db deliveries).untimed =
      (deliveries.map Delivery.attemptId).foldl
        (fun db attemptId => (processAttempt ⟨registry, accepts, 0, 0⟩ db attemptId).db)
        db.untimed := by
  induction deliveries generalizing db with
  | nil => rfl
  | cons delivery deliveries ih =>
      rw [List.map_cons, List.foldl_cons, ← processAttempt_untimed timeless accepted db delivery]
      exact ih _

/-- Two ways to deliver the same jobs, in any order and any number of times each, lead to the same
tables up to the clock readings, whatever tables they start from. -/
theorem deliveries_agree (db : Database) (first second : List Delivery)
    (same : ∀ attemptId, attemptId ∈ first.map Delivery.attemptId ↔
      attemptId ∈ second.map Delivery.attemptId) :
    (processAll registry accepts db first).untimed =
      (processAll registry accepts db second).untimed := by
  rw [processAll_untimed timeless accepted, processAll_untimed timeless accepted]
  exact (processAttempt_lawful ⟨registry, accepts, 0, 0⟩
    (fun attempt run => accepted _ _ _)).foldl_eq same db.untimed

end Deliveries

theorem deliveries_agree_created :
    (processAll [("stub", sampleRunner)] (fun _ => true) sampleCreated
        [⟨1, 1, 2⟩, ⟨7, 3, 4⟩]).untimed =
      (processAll [("stub", sampleRunner)] (fun _ => true) sampleCreated
        [⟨1, 5, 6⟩, ⟨7, 7, 8⟩, ⟨1, 9, 10⟩]).untimed := by
  apply deliveries_agree
  · intro runnerType runner registered run otherRun attempt otherAttempt _ _
    have single : [("stub", sampleRunner)].lookup runnerType = some runner := registered
    rw [List.lookup_cons] at single
    split at single
    · obtain rfl := Option.some.inj single
      rfl
    · cases single
  · intro run attempt finishedAt
    rfl
  · intro attemptId
    simp [or_comm]

end Evalynx
