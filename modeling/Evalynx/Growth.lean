import Evalynx.Clocked

namespace Evalynx

open Relational Relation

def Run.place (run : Run) : Nat × Nat := (run.id, run.projectId)

structure Grown (db later : Database) (newProjects : List Project) (newRuns : List Run) : Prop where
  projects : later.projects.rows = db.projects.rows ++ newProjects
  projectKeys : ∀ project ∈ newProjects, db.projects.next ≤ project.id
  runs : later.runs.rows.map Run.place = (db.runs.rows ++ newRuns).map Run.place
  runKeys : ∀ run ∈ newRuns, db.runs.next ≤ run.id
  nextProject : db.projects.next ≤ later.projects.next
  nextRun : db.runs.next ≤ later.runs.next

theorem places_put {runs : Table Run} (version : Run) {run : Run}
    (found : runs.get? run.id = some run) (same : version.place = run.place) :
    (runs.put version).rows.map Run.place = runs.rows.map Run.place := by
  have key : version.id = run.id := congrArg Prod.fst same
  rw [Table.rows_put, List.map_map]
  apply List.map_congr_left
  intro old member
  by_cases changed : Row.id old = Row.id version
  · have only : old = run := Table.eq_of_mem found member (changed.trans key)
    rw [Function.comp_apply, if_pos changed, same, only]
  · rw [Function.comp_apply, if_neg changed]

theorem Grown.versions {db : Database} {runs : Table Run} {attempts : Table RunAttempt}
    (places : runs.rows.map Run.place = db.runs.rows.map Run.place)
    (next : db.runs.next ≤ runs.next) :
    Grown db { db with runs := runs, attempts := attempts } [] [] where
  projects := (List.append_nil _).symm
  projectKeys := List.forall_mem_nil _
  runs := by
    rw [List.append_nil]
    exact places
  runKeys := List.forall_mem_nil _
  nextProject := Nat.le_refl _
  nextRun := next

def Housed (db : Database) : Prop :=
  ∀ run ∈ db.runs.rows, ∃ project ∈ db.projects.rows, project.id = run.projectId

structure Ascending (db : Database) : Prop where
  projects : (db.projects.rows.map Project.id).Pairwise (· < ·)
  runs : (db.runs.rows.map Run.id).Pairwise (· < ·)

section Histories

variable {accepts : TerminalValues → Bool} {db later last : Database}

theorem grown_versions {runs : Table Run} {attempts : Table RunAttempt}
    (places : runs.rows.map Run.place = db.runs.rows.map Run.place)
    (next : db.runs.next ≤ runs.next) :
    ∃ newProjects newRuns, Grown db { db with runs := runs, attempts := attempts } newProjects
        newRuns ∧ newProjects.length ≤ 1 ∧ newRuns.length ≤ 1 ∧
      ∀ run ∈ newRuns, ∃ project ∈ db.projects.rows, project.id = run.projectId :=
  ⟨[], [], .versions places next, Nat.zero_le _, Nat.zero_le _, List.forall_mem_nil _⟩

theorem Txn.grown (consistent : Consistent db) (txn : Txn accepts db later) :
    ∃ newProjects newRuns, Grown db later newProjects newRuns ∧
      newProjects.length ≤ 1 ∧ newRuns.length ≤ 1 ∧
      ∀ run ∈ newRuns, ∃ project ∈ later.projects.rows, project.id = run.projectId := by
  cases txn with
  | createProject name description createdAt =>
      refine ⟨[⟨db.projects.next, name, description, createdAt⟩], [], ?_, Nat.le_refl _,
        Nat.zero_le _, List.forall_mem_nil _⟩
      constructor
      · exact Table.rows_adopt (db.projects.reserve 1) _
          (db.projects.get?_next _ (Nat.le_refl _)) (Nat.lt_succ_self _)
      · intro project member
        rw [List.mem_singleton.mp member]
      · rw [List.append_nil]
        rfl
      · exact List.forall_mem_nil _
      · simp [insertProject]
      · exact Nat.le_refl _
  | createRun project new runCreatedAt attemptCreatedAt found =>
      have rows := (insertRun_rows db new runCreatedAt attemptCreatedAt).1
      refine ⟨[], [{ new.row db.runs.next runCreatedAt with
        currentAttemptId := some db.attempts.next }], ?_, Nat.zero_le _, Nat.le_refl _, ?_⟩
      · constructor
        · exact (List.append_nil _).symm
        · exact List.forall_mem_nil _
        · rw [rows]
        · intro run member
          rw [List.mem_singleton.mp member]
          exact Nat.le_refl _
        · exact Nat.le_refl _
        · simp [insertRun]
      · intro run member
        rw [List.mem_singleton.mp member]
        exact ⟨project, Table.get?_mem found, Table.get?_id found⟩
  | retryRun runId loaded now written attemptId seen allowed inserted =>
      obtain ⟨run, past, current, -, found, -, -, rfl⟩ :=
        retry_writes consistent seen allowed inserted
      exact grown_versions (places_put _ found rfl) (Nat.le_refl _)
  | claim attempt now claimed found success =>
      obtain ⟨-, run, -, runFound, -, rfl⟩ := claim_writes found success
      exact grown_versions (places_put _ runFound rfl) (Nat.le_refl _)
  | persist attempt result now persisted found success =>
      by_cases running : attempt.status = .running
      · obtain ⟨run, past, -, runFound, -, rfl⟩ := persist_writes consistent found running success
        exact grown_versions (places_put _ runFound rfl) (Nat.le_refl _)
      · obtain rfl := persist_skips found running success
        exact grown_versions rfl (Nat.le_refl _)
  | rollback runs attempts => exact grown_versions rfl (Nat.le_add_right _ _)

theorem Grown.trans {moreProjects lastProjects : List Project} {moreRuns lastRuns : List Run}
    (first : Grown db later moreProjects moreRuns)
    (second : Grown later last lastProjects lastRuns) :
    Grown db last (moreProjects ++ lastProjects) (moreRuns ++ lastRuns) where
  projects := by rw [second.projects, first.projects, List.append_assoc]
  projectKeys := by
    intro project member
    rcases List.mem_append.mp member with old | new
    · exact first.projectKeys project old
    · exact first.nextProject.trans (second.projectKeys project new)
  runs := by
    rw [second.runs, List.map_append, first.runs, ← List.map_append, List.append_assoc]
  runKeys := by
    intro run member
    rcases List.mem_append.mp member with old | new
    · exact first.runKeys run old
    · exact first.nextRun.trans (second.runKeys run new)
  nextProject := first.nextProject.trans second.nextProject
  nextRun := first.nextRun.trans second.nextRun

theorem history_grown (consistent : Consistent db) (more : ReflTransGen (Txn accepts) db later) :
    ∃ newProjects newRuns, Grown db later newProjects newRuns := by
  induction more with
  | refl => exact ⟨[], [], .versions rfl (Nat.le_refl _)⟩
  | tail before txn ih =>
      obtain ⟨moreProjects, moreRuns, first⟩ := ih
      have here := Transition.invariant consistent (fun _ _ held txn => txn.consistent held) before
      obtain ⟨lastProjects, lastRuns, second, -⟩ := txn.grown here
      exact ⟨_, _, first.trans second⟩

theorem housed_txn (consistent : Consistent db) (housed : Housed db) (txn : Txn accepts db later) :
    Housed later := by
  obtain ⟨newProjects, newRuns, grown, -, -, under⟩ := txn.grown consistent
  intro run member
  have place : run.place ∈ (db.runs.rows ++ newRuns).map Run.place := by
    rw [← grown.runs]
    exact List.mem_map_of_mem member
  obtain ⟨version, present, same⟩ := List.mem_map.mp place
  have project : version.projectId = run.projectId := congrArg Prod.snd same
  rw [← project]
  rcases List.mem_append.mp present with old | new
  · obtain ⟨holder, holderRow, key⟩ := housed version old
    exact ⟨holder, grown.projects ▸ List.mem_append_left _ holderRow, key⟩
  · exact under version new

theorem history_housed (history : ReflTransGen (Txn accepts) .empty db) : Housed db := by
  induction history with
  | refl => exact List.forall_mem_nil _
  | tail before txn ih => exact housed_txn (history_consistent before) ih txn

theorem ascending_append {ρ : Type} [Row ρ] {table : Table ρ} {added : List ρ}
    (ascending : (table.rows.map Row.id).Pairwise (· < ·))
    (keys : ∀ row ∈ added, table.next ≤ Row.id row) (one : added.length ≤ 1) :
    ((table.rows ++ added).map Row.id).Pairwise (· < ·) := by
  rw [List.map_append, List.pairwise_append]
  refine ⟨ascending, ?_, ?_⟩
  · match added, one with
    | [], _ => exact List.Pairwise.nil
    | [row], _ => exact List.pairwise_singleton _ _
  · intro key member fresh freshMember
    obtain ⟨row, present, rfl⟩ := List.mem_map.mp member
    obtain ⟨other, new, rfl⟩ := List.mem_map.mp freshMember
    exact Nat.lt_of_lt_of_le (table.below row present) (keys other new)

theorem ids_of_places {runs others : List Run}
    (places : runs.map Run.place = others.map Run.place) : runs.map Run.id = others.map Run.id := by
  have first := congrArg (List.map Prod.fst) places
  rw [List.map_map, List.map_map] at first
  exact first

theorem history_ascending (history : ReflTransGen (Txn accepts) .empty db) : Ascending db := by
  induction history with
  | refl => exact ⟨List.Pairwise.nil, List.Pairwise.nil⟩
  | tail before txn ih =>
      obtain ⟨newProjects, newRuns, grown, oneProject, oneRun, -⟩ :=
        txn.grown (history_consistent before)
      constructor
      · rw [grown.projects]
        exact ascending_append ih.projects grown.projectKeys oneProject
      · rw [ids_of_places grown.runs]
        exact ascending_append ih.runs grown.runKeys oneRun

end Histories

end Evalynx
