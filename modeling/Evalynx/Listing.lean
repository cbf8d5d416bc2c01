import Evalynx.StoredTypes

/-! `GET /runs` and `GET /projects/{id}/runs`: many runs loaded by the SELECTs of one. -/

namespace Evalynx

open Relational Relation Transition

def orderedByIdDesc (runs : List Run) : List Run :=
  runs.insertionSort (fun a b => b.id ≤ a.id)

/-- `_with_attempts` behind a SELECT of many runs. The attempts are SELECTed for a batch of run keys
at a time: `second` and `third` are the tables the two SELECTs for the batch of a run find. The
session keeps the instances of all runs. -/
def withAttempts (order : SelectOrder) (second third : Nat → Database) (runs : List Run) :
    List LoadedRun :=
  match order with
  | .currentFirst =>
      let currentAttempts := runs.filterMap fun run => selectCurrentAttempt (second run.id) run
      runs.map fun run => ⟨run, selectCurrentAttempt (second run.id) run,
        (selectAttempts (third run.id) run.id).map (identityMap currentAttempts)⟩
  | .attemptsFirst =>
      let attempts := runs.flatMap fun run => selectAttempts (second run.id) run.id
      runs.map fun run =>
        ⟨run, (selectCurrentAttempt (third run.id) run).map (identityMap attempts),
          selectAttempts (second run.id) run.id⟩

def selectRuns (order : SelectOrder) (first : Database) (second third : Nat → Database) :
    List LoadedRun :=
  withAttempts order second third (orderedByIdDesc first.runs.rows)

def selectRunsByProject (order : SelectOrder) (first : Database) (second third : Nat → Database)
    (projectId : Nat) : List LoadedRun :=
  withAttempts order second third
    (orderedByIdDesc (first.runs.rows.filter fun run => run.projectId == projectId))

structure RunSummaryRead extends LoadedSnapshot where
  id : Nat
  projectId : Nat
  runnerType : String
  currentAttemptNumber : Option Nat
  attemptCount : Nat
  submittedConfig : JsonObject
  normalizedConfig : JsonObject
  configHash : String
  createdAt : Timestamp

def RunRead.toSummaryRead (read : RunRead) : RunSummaryRead where
  toLoadedSnapshot := read.toLoadedSnapshot
  id := read.id
  projectId := read.projectId
  runnerType := read.runnerType
  currentAttemptNumber := read.currentAttemptNumber
  attemptCount := read.attemptCount
  submittedConfig := read.submittedConfig
  normalizedConfig := read.normalizedConfig
  configHash := read.configHash
  createdAt := read.createdAt

def RunSummaryRead.modelValidate (loaded : LoadedRun) : Except ReadError RunSummaryRead :=
  if loaded.run.toSnapshot.load.wellTyped then .ok loaded.read.toSummaryRead
  else .error .validation

def listRuns (order : SelectOrder) (first : Database) (second third : Nat → Database) :
    Except ReadError (List RunSummaryRead) :=
  (selectRuns order first second third).mapM RunSummaryRead.modelValidate

def listProjectRuns (order : SelectOrder) (known first : Database) (second third : Nat → Database)
    (projectId : Nat) : Except ReadError (List RunSummaryRead) :=
  match known.projects.get? projectId with
  | none => .error (.notFound s!"Project {projectId} was not found.")
  | some _ =>
      (selectRunsByProject order first second third projectId).mapM RunSummaryRead.modelValidate

def loadAlone (order : SelectOrder) (second third : Database) (run : Run) : LoadedRun :=
  match order with
  | .currentFirst => ⟨run, selectCurrentAttempt second run, (selectAttempts third run.id).map
      (identityMap (selectCurrentAttempt second run).toList)⟩
  | .attemptsFirst =>
      ⟨run, (selectCurrentAttempt third run).map (identityMap (selectAttempts second run.id)),
        selectAttempts second run.id⟩

theorem selectRun_found (order : SelectOrder) {first : Database} (second third : Database)
    {run : Run} (found : first.runs.get? run.id = some run) :
    selectRun order first second third run.id = some (loadAlone order second third run) := by
  rw [selectRun, found, Option.map_some]
  cases order <;> rfl

theorem loadAlone_run (order : SelectOrder) (second third : Database) (run : Run) :
    (loadAlone order second third run).run = run := by
  cases order <;> rfl

theorem identityMap_of_mem {loaded : List RunAttempt} {row held : RunAttempt}
    (member : held ∈ loaded) (same : held.id = row.id)
    (only : ∀ other ∈ loaded, other.id = row.id → other = held) :
    identityMap loaded row = held := by
  unfold identityMap
  cases found : loaded.find? (fun other => other.id == row.id) with
  | none =>
      have absent := List.find?_eq_none.mp found held member
      exact absurd (beq_iff_eq.mpr same) absent
  | some other =>
      exact only other (List.mem_of_find?_eq_some found) (by simpa using List.find?_some found)

theorem identityMap_of_absent {loaded : List RunAttempt} {row : RunAttempt}
    (absent : ∀ held ∈ loaded, held.id ≠ row.id) : identityMap loaded row = row := by
  have none : loaded.find? (fun held => held.id == row.id) = none :=
    List.find?_eq_none.mpr fun held member same => absent held member (beq_iff_eq.mp same)
  rw [identityMap, none, Option.getD_none]

theorem identityMap_congr {loaded other : List RunAttempt} {row : RunAttempt}
    (agree : ∀ held, held.id = row.id → (held ∈ loaded ↔ held ∈ other))
    (only : ∀ a ∈ other, ∀ b ∈ other, a.id = row.id → b.id = row.id → a = b) :
    identityMap loaded row = identityMap other row := by
  by_cases present : ∃ held ∈ other, held.id = row.id
  · obtain ⟨held, member, same⟩ := present
    rw [identityMap_of_mem ((agree held same).mpr member) same, identityMap_of_mem member same]
    · intro a inOther key
      exact only a inOther held member key same
    · intro a inLoaded key
      exact only a ((agree a key).mp inLoaded) held member key same
  · have absent : ∀ held ∈ other, held.id ≠ row.id :=
      fun held member same => present ⟨held, member, same⟩
    rw [identityMap_of_absent absent, identityMap_of_absent]
    intro held member same
    exact absent held ((agree held same).mp member) same

theorem identityMap_cases (loaded : List RunAttempt) (row : RunAttempt) :
    identityMap loaded row ∈ loaded ∨ identityMap loaded row = row := by
  unfold identityMap
  cases found : loaded.find? (fun held => held.id == row.id) with
  | none => exact Or.inr rfl
  | some held => exact Or.inl (List.mem_of_find?_eq_some found)

theorem mapM_ok {α β ε : Type} {check : α → Except ε β} {value : α → β} {items : List α}
    (each : ∀ item ∈ items, check item = .ok (value item)) :
    items.mapM check = .ok (items.map value) := by
  induction items with
  | nil => rfl
  | cons item rest ih =>
      have others := ih fun other member => each other (List.mem_cons_of_mem _ member)
      rw [List.mapM_cons, each item List.mem_cons_self, others]
      rfl

/-- The moments at which the tables are read: the runs first, then each batch, and every first
SELECT for a batch before every second one. -/
structure Moments (accepts : TerminalValues → Bool) (first : Database)
    (second third : Nat → Database) (runs : List Run) : Prop where
  history : ReflTransGen (Txn accepts) .empty first
  before : ∀ run ∈ runs, ReflTransGen (Txn accepts) first (second run.id)
  after : ∀ run ∈ runs, ∀ other ∈ runs, ReflTransGen (Txn accepts) (second run.id) (third other.id)
  listed : ∀ run ∈ runs, run ∈ first.runs.rows

section Batches

variable {accepts : TerminalValues → Bool}

theorem consistent_later {db later : Database} (consistent : Consistent db)
    (more : ReflTransGen (Txn accepts) db later) : Consistent later :=
  Transition.invariant consistent (fun _ _ here txn => txn.consistent here) more

theorem owner_kept {db later : Database} (consistent : Consistent db)
    (more : ReflTransGen (Txn accepts) db later) {held row : RunAttempt}
    (member : held ∈ db.attempts.rows) (present : row ∈ later.attempts.rows)
    (same : held.id = row.id) : row.runId = held.runId := by
  obtain ⟨log, path⟩ := Txn.path more
  obtain ⟨version, found, moved⟩ := path_moved consistent path (Table.get?_of_mem member)
  have only : row = version := Table.eq_of_mem found present same.symm
  rw [only]
  exact moved.runId

theorem current_owner {first later : Database} (consistent : Consistent first)
    (more : ReflTransGen (Txn accepts) first later) {run : Run} (member : run ∈ first.runs.rows)
    {held : RunAttempt} (selected : selectCurrentAttempt later run = some held) :
    held ∈ later.attempts.rows ∧ held.runId = run.id := by
  obtain ⟨past, current, lineage⟩ := consistent.lineage run member
  rw [selectCurrentAttempt, lineage.pointer, Option.bind_some] at selected
  refine ⟨Table.get?_mem selected, ?_⟩
  rw [owner_kept consistent more lineage.current_mem.1 (Table.get?_mem selected)
    (Table.get?_id selected).symm]
  exact lineage.current_mem.2

variable {first : Database} {second third : Nat → Database} {runs : List Run}
  (moments : Moments accepts first second third runs)

include moments

theorem Moments.consistent : Consistent first := history_consistent moments.history

theorem Moments.run_eq {run other : Run} (member : run ∈ runs) (otherMember : other ∈ runs)
    (same : other.id = run.id) : other = run :=
  Table.eq_of_mem (Table.get?_of_mem (moments.listed run member)) (moments.listed other otherMember)
    same

theorem Moments.currentFirst {run : Run} (member : run ∈ runs) {row : RunAttempt}
    (listed : row ∈ selectAttempts (third run.id) run.id) :
    identityMap (runs.filterMap fun run => selectCurrentAttempt (second run.id) run) row =
      identityMap (selectCurrentAttempt (second run.id) run).toList row := by
  obtain ⟨present, owner⟩ :=
    ((third run.id).mem_attemptRows run.id row).mp ((mem_selectAttempts _ _ _).mp listed)
  apply identityMap_congr
  · intro held same
    rw [List.mem_filterMap, Option.mem_toList]
    constructor
    · rintro ⟨other, otherMember, selected⟩
      obtain ⟨heldRow, heldOwner⟩ := current_owner moments.consistent
        (moments.before other otherMember) (moments.listed other otherMember) selected
      have consistent := consistent_later moments.consistent (moments.before other otherMember)
      have sameRun : row.runId = held.runId :=
        owner_kept consistent (moments.after other otherMember run member) heldRow present same
      rw [owner, heldOwner] at sameRun
      obtain rfl := moments.run_eq member otherMember sameRun.symm
      exact selected
    · intro selected
      exact ⟨run, member, selected⟩
  · intro a inList b inOther _ _
    rw [Option.mem_toList] at inList inOther
    exact Option.mem_unique inList inOther

theorem Moments.attemptsFirst {run : Run} (member : run ∈ runs) {row : RunAttempt}
    (selected : selectCurrentAttempt (third run.id) run = some row) :
    identityMap (runs.flatMap fun run => selectAttempts (second run.id) run.id) row =
      identityMap (selectAttempts (second run.id) run.id) row := by
  obtain ⟨present, owner⟩ := current_owner moments.consistent
    ((moments.before run member).trans (moments.after run member run member))
    (moments.listed run member) selected
  apply identityMap_congr
  · intro held same
    rw [List.mem_flatMap]
    constructor
    · rintro ⟨other, otherMember, listed⟩
      obtain ⟨heldRow, heldOwner⟩ :=
        ((second other.id).mem_attemptRows other.id held).mp ((mem_selectAttempts _ _ _).mp listed)
      have consistent := consistent_later moments.consistent (moments.before other otherMember)
      have sameRun : row.runId = held.runId :=
        owner_kept consistent (moments.after other otherMember run member) heldRow present same
      rw [owner, heldOwner] at sameRun
      obtain rfl := moments.run_eq member otherMember sameRun.symm
      exact listed
    · intro listed
      exact ⟨run, member, listed⟩
  · intro a inFirst b inSecond aKey bKey
    have rowOf : ∀ attempt ∈ selectAttempts (second run.id) run.id,
        attempt ∈ (second run.id).attempts.rows := fun attempt listed =>
      (((second run.id).mem_attemptRows run.id attempt).mp
        ((mem_selectAttempts _ _ _).mp listed)).1
    exact Table.eq_of_mem (Table.get?_of_mem (rowOf b inSecond)) (rowOf a inFirst)
      (aKey.trans bKey.symm)

theorem Moments.withAttempts_eq (order : SelectOrder) :
    withAttempts order second third runs =
      runs.map fun run => loadAlone order (second run.id) (third run.id) run := by
  cases order with
  | currentFirst =>
      apply List.map_congr_left
      intro run member
      have attempts : (selectAttempts (third run.id) run.id).map
            (identityMap (runs.filterMap fun run => selectCurrentAttempt (second run.id) run)) =
          (selectAttempts (third run.id) run.id).map
            (identityMap (selectCurrentAttempt (second run.id) run).toList) :=
        List.map_congr_left fun row listed => moments.currentFirst member listed
      rw [loadAlone, attempts]
  | attemptsFirst =>
      apply List.map_congr_left
      intro run member
      have current : (selectCurrentAttempt (third run.id) run).map
            (identityMap (runs.flatMap fun run => selectAttempts (second run.id) run.id)) =
          (selectCurrentAttempt (third run.id) run).map
            (identityMap (selectAttempts (second run.id) run.id)) :=
        Option.map_congr fun row selected => moments.attemptsFirst member selected
      rw [loadAlone, current]

theorem Moments.attempt_typed (order : SelectOrder) {run : Run} (member : run ∈ runs)
    {attempt : RunAttempt}
    (listed : attempt ∈ (loadAlone order (second run.id) (third run.id) run).attempts) :
    attempt.toSnapshot.load.wellTyped = true := by
  have secondHistory := moments.history.trans (moments.before run member)
  have thirdHistory := secondHistory.trans (moments.after run member run member)
  cases order with
  | attemptsFirst => exact selected_typed secondHistory listed
  | currentFirst =>
      obtain ⟨row, rowListed, rfl⟩ := List.mem_map.mp listed
      rcases identityMap_cases (selectCurrentAttempt (second run.id) run).toList row with
        held | same
      · rw [Option.mem_toList] at held
        obtain ⟨present, _⟩ := current_owner moments.consistent (moments.before run member)
          (moments.listed run member) held
        exact history_typed secondHistory _ present
      · rw [same]
        exact selected_typed thirdHistory rowListed

theorem Moments.typed (order : SelectOrder) {run : Run} (member : run ∈ runs) :
    (loadAlone order (second run.id) (third run.id) run).read.wellTyped = true := by
  rw [RunRead.wellTyped, Bool.and_eq_true]
  constructor
  · have mine := run_typed moments.history (moments.listed run member)
    rw [← loadAlone_run order (second run.id) (third run.id) run] at mine
    exact mine
  · rw [List.all_eq_true]
    intro entry listed
    obtain ⟨attempt, member', rfl⟩ := List.mem_map.mp listed
    exact moments.attempt_typed order member member'

theorem Moments.summaries (order : SelectOrder) :
    (withAttempts order second third runs).mapM RunSummaryRead.modelValidate =
      .ok (runs.map fun run =>
        (loadAlone order (second run.id) (third run.id) run).read.toSummaryRead) := by
  rw [moments.withAttempts_eq order]
  have each : ∀ loaded ∈ runs.map fun run => loadAlone order (second run.id) (third run.id) run,
      RunSummaryRead.modelValidate loaded = .ok loaded.read.toSummaryRead := by
    intro loaded member
    obtain ⟨run, listed, rfl⟩ := List.mem_map.mp member
    have typed := moments.typed order listed
    rw [RunRead.wellTyped, Bool.and_eq_true] at typed
    exact if_pos typed.1
  rw [mapM_ok each, List.map_map]
  rfl

theorem Moments.filter (condition : Run → Bool) :
    Moments accepts first second third (runs.filter condition) where
  history := moments.history
  before := fun run member => moments.before run (List.mem_of_mem_filter member)
  after := fun run member other otherMember =>
    moments.after run (List.mem_of_mem_filter member) other (List.mem_of_mem_filter otherMember)
  listed := fun run member => moments.listed run (List.mem_of_mem_filter member)

end Batches

theorem orderedByIdDesc_pairwise (runs : List Run) :
    (orderedByIdDesc runs).Pairwise (fun a b => b.id ≤ a.id) := by
  have total : Std.Total (fun a b : Run => b.id ≤ a.id) := ⟨fun a b => Nat.le_total b.id a.id⟩
  have transitive : IsTrans Run (fun a b => b.id ≤ a.id) :=
    ⟨fun _ _ _ first second => Nat.le_trans second first⟩
  exact List.pairwise_insertionSort _ _

theorem mem_orderedByIdDesc (runs : List Run) (run : Run) :
    run ∈ orderedByIdDesc runs ↔ run ∈ runs := List.mem_insertionSort _

theorem orderedByIdDesc_filter {runs : List Run} (nodup : (runs.map Run.id).Nodup)
    (condition : Run → Bool) :
    orderedByIdDesc (runs.filter condition) = (orderedByIdDesc runs).filter condition := by
  have perm : (orderedByIdDesc (runs.filter condition)).Perm
      ((orderedByIdDesc runs).filter condition) :=
    (List.perm_insertionSort _ _).trans ((List.perm_insertionSort _ runs).symm.filter condition)
  refine perm.eq_of_pairwise ?_ (orderedByIdDesc_pairwise _)
    ((orderedByIdDesc_pairwise runs).filter condition)
  intro a b inFirst inSecond below above
  have first := List.mem_of_mem_filter ((mem_orderedByIdDesc _ a).mp inFirst)
  have second := (mem_orderedByIdDesc runs b).mp (List.mem_of_mem_filter inSecond)
  exact List.inj_on_of_nodup_map nodup first second (Nat.le_antisymm above below)

end Evalynx
