import Evalynx.Service
import Mathlib.Data.List.Nodup
import Mathlib.Data.List.Infix

/-! The attempts of a run as one history, and what a committed transaction does to it. -/

namespace Evalynx

open Relational

/-- All attempts of a run but the last are failed, they are numbered from one without a gap,
and the run points to the last one and has its status. -/
structure Lineage (db : Database) (run : Run) (past : List RunAttempt) (current : RunAttempt) :
    Prop where
  rows : db.attemptRows run.id = past ++ [current]
  pointer : run.currentAttemptId = some current.id
  status : run.status = current.status
  superseded : ∀ attempt ∈ past, attempt.status = .failed
  numbers : (past ++ [current]).map RunAttempt.attemptNumber = List.range' 1 (past.length + 1)
  ordered : (past ++ [current]).Pairwise (fun a b => a.id < b.id)

structure Consistent (db : Database) : Prop where
  lineage : ∀ run ∈ db.runs.rows, ∃ past current, Lineage db run past current
  owned : ∀ attempt ∈ db.attempts.rows, ∃ run ∈ db.runs.rows, run.id = attempt.runId

def Progress (before after : RunStatus) : Prop :=
  (before = .queued ∧ after = .running) ∨ (before = .running ∧ after.terminal = true)

/-- What a committed transaction does to the tables. -/
inductive Commit (db : Database) : Database → Prop where
  | project (projects : Table Project) : Commit db { db with projects := projects }
  | keysLost (runs attempts : Nat) : Commit db (loseKeys db runs attempts)
  | founded (run : Run) (attempt : RunAttempt) (runKeys attemptKeys : Nat)
      (runInitial : run.toSnapshot = .initial) (attemptInitial : attempt.toSnapshot = .initial)
      (owner : attempt.runId = run.id) (first : attempt.attemptNumber = 1)
      (pointer : run.currentAttemptId = some attempt.id)
      (runFresh : db.runs.get? run.id = none) (runReserved : run.id < db.runs.next + runKeys)
      (attemptFresh : db.attempts.get? attempt.id = none)
      (attemptReserved : attempt.id < db.attempts.next + attemptKeys) :
      Commit db { db with
        runs := (db.runs.reserve runKeys).adopt run
        attempts := (db.attempts.reserve attemptKeys).adopt attempt }
  | advanced (run : Run) (attempt : RunAttempt) (attemptSnapshot runSnapshot : Snapshot)
      (runFound : db.runs.get? run.id = some run)
      (attemptFound : db.attempts.get? attempt.id = some attempt)
      (pointer : run.currentAttemptId = some attempt.id) (owner : attempt.runId = run.id)
      (progress : Progress attempt.status attemptSnapshot.status)
      (together : runSnapshot.status = attemptSnapshot.status) :
      Commit db { db with
        attempts := db.attempts.put { attempt with toSnapshot := attemptSnapshot }
        runs := db.runs.put { run with toSnapshot := runSnapshot } }
  | retried (run : Run) (current fresh : RunAttempt) (runSnapshot : Snapshot) (attemptKeys : Nat)
      (runFound : db.runs.get? run.id = some run)
      (currentFound : db.attempts.get? current.id = some current)
      (pointer : run.currentAttemptId = some current.id)
      (failed : current.status = .failed)
      (owner : fresh.runId = run.id) (attemptInitial : fresh.toSnapshot = .initial)
      (next : fresh.attemptNumber = (db.attemptRows run.id).length + 1)
      (newer : ∀ attempt ∈ db.attemptRows run.id, attempt.id < fresh.id)
      (attemptFresh : db.attempts.get? fresh.id = none)
      (attemptReserved : fresh.id < db.attempts.next + attemptKeys)
      (queued : runSnapshot.status = .queued) :
      Commit db { db with
        attempts := (db.attempts.reserve attemptKeys).adopt fresh
        runs := db.runs.put
          { run with toSnapshot := runSnapshot, currentAttemptId := some fresh.id } }

namespace Lineage

variable {db : Database} {run : Run} {past : List RunAttempt} {current : RunAttempt}

theorem mem (lineage : Lineage db run past current) {attempt : RunAttempt}
    (member : attempt ∈ past ++ [current]) : attempt ∈ db.attempts.rows ∧ attempt.runId = run.id := by
  rw [← lineage.rows] at member
  exact (db.mem_attemptRows run.id attempt).mp member

theorem current_mem (lineage : Lineage db run past current) :
    current ∈ db.attempts.rows ∧ current.runId = run.id :=
  lineage.mem (List.mem_append_right past (List.mem_singleton.mpr rfl))

theorem current_get? (lineage : Lineage db run past current) :
    db.attempts.get? current.id = some current :=
  Table.get?_of_mem lineage.current_mem.1

theorem current_unique (lineage : Lineage db run past current) {attempt : RunAttempt}
    (found : db.attempts.get? attempt.id = some attempt)
    (pointer : run.currentAttemptId = some attempt.id) : attempt = current := by
  have same : current.id = attempt.id := by
    rw [lineage.pointer] at pointer
    exact Option.some.inj pointer
  have foundCurrent := lineage.current_get?
  rw [same, found] at foundCurrent
  exact Option.some.inj foundCurrent

theorem past_lt (lineage : Lineage db run past current) :
    ∀ attempt ∈ past, attempt.id < current.id := by
  intro attempt member
  exact (List.pairwise_append.mp lineage.ordered).2.2 attempt member current
    (List.mem_singleton.mpr rfl)

theorem member_cases (lineage : Lineage db run past current) {attempt : RunAttempt}
    (present : attempt ∈ db.attempts.rows) (owner : attempt.runId = run.id) :
    attempt ∈ past ∨ attempt = current := by
  have member := (db.mem_attemptRows run.id attempt).mpr ⟨present, owner⟩
  rw [lineage.rows] at member
  simpa using member

theorem eq_current_of_not_failed (lineage : Lineage db run past current) {attempt : RunAttempt}
    (present : attempt ∈ db.attempts.rows) (owner : attempt.runId = run.id)
    (alive : attempt.status ≠ .failed) : attempt = current := by
  rcases lineage.member_cases present owner with old | same
  · exact absurd (lineage.superseded attempt old) alive
  · exact same

theorem length (lineage : Lineage db run past current) :
    (db.attemptRows run.id).length = past.length + 1 := by
  rw [lineage.rows]
  simp

theorem current_number (lineage : Lineage db run past current) :
    current.attemptNumber = past.length + 1 := by
  have last := congrArg List.getLast? lineage.numbers
  rw [List.map_append, List.map_singleton, List.getLast?_concat, List.range'_concat,
    List.getLast?_concat] at last
  have number := Option.some.inj last
  omega

end Lineage

namespace Consistent

variable {db : Database}

theorem of_attempt (consistent : Consistent db) {attempt : RunAttempt}
    (present : attempt ∈ db.attempts.rows) :
    ∃ run past current, db.runs.get? attempt.runId = some run ∧ Lineage db run past current := by
  obtain ⟨run, member, owner⟩ := consistent.owned attempt present
  obtain ⟨past, current, lineage⟩ := consistent.lineage run member
  exact ⟨run, past, current, owner ▸ Table.get?_of_mem member, lineage⟩

theorem of_run (consistent : Consistent db) {runId : Nat} {run : Run}
    (found : db.runs.get? runId = some run) : ∃ past current, Lineage db run past current :=
  consistent.lineage run (Table.get?_mem found)

end Consistent

theorem consistent_empty : Consistent .empty where
  lineage := by
    intro run member
    cases member
  owned := by
    intro attempt member
    cases member

theorem put_id_map {attempt : RunAttempt} (rows : List RunAttempt)
    (different : ∀ old ∈ rows, old.id ≠ attempt.id) :
    rows.map (fun old => if old.id = attempt.id then attempt else old) = rows := by
  have each := List.map_congr_left (f := fun old => if old.id = attempt.id then attempt else old)
    (g := id) (fun old member => if_neg (different old member))
  rw [each, List.map_id]

theorem attemptRows_put {db : Database} {runs : Table Run} (attempt : RunAttempt)
    {old : RunAttempt} (runId : Nat)
    (found : db.attempts.get? attempt.id = some old) (owner : old.runId = attempt.runId) :
    ({ db with attempts := db.attempts.put attempt, runs := runs } : Database).attemptRows runId =
      (db.attemptRows runId).map (fun old => if old.id = attempt.id then attempt else old) := by
  apply Table.filter_put
  intro row member equal
  rw [Table.eq_of_mem found member equal, owner]

theorem attemptRows_put_other {db : Database} {runs : Table Run} (attempt : RunAttempt)
    {old : RunAttempt} {runId : Nat} (found : db.attempts.get? attempt.id = some old)
    (owner : old.runId = attempt.runId) (other : attempt.runId ≠ runId) :
    ({ db with attempts := db.attempts.put attempt, runs := runs } : Database).attemptRows runId =
      db.attemptRows runId := by
  rw [attemptRows_put attempt runId found owner]
  apply put_id_map
  intro row member equal
  obtain ⟨present, rowOwner⟩ := (db.mem_attemptRows runId row).mp member
  rw [Table.eq_of_mem found present equal, owner] at rowOwner
  exact other rowOwner

theorem attemptRows_adopt {db : Database} {runs : Table Run} {fresh : RunAttempt} {keys : Nat}
    (runId : Nat) (unused : db.attempts.get? fresh.id = none)
    (reserved : fresh.id < db.attempts.next + keys) :
    ({ db with attempts := (db.attempts.reserve keys).adopt fresh, runs := runs } :
        Database).attemptRows runId =
      db.attemptRows runId ++ if fresh.runId = runId then [fresh] else [] := by
  have rows := Table.rows_adopt (db.attempts.reserve keys) fresh unused reserved
  simp only [Database.attemptRows, rows, Table.rows_reserve, List.filter_append]
  by_cases owner : fresh.runId = runId <;> simp [owner]

theorem attemptRows_adopt_other {db : Database} {runs : Table Run} {fresh : RunAttempt} {keys : Nat}
    {runId : Nat} (unused : db.attempts.get? fresh.id = none)
    (reserved : fresh.id < db.attempts.next + keys) (other : fresh.runId ≠ runId) :
    ({ db with attempts := (db.attempts.reserve keys).adopt fresh, runs := runs } :
        Database).attemptRows runId = db.attemptRows runId := by
  rw [attemptRows_adopt runId unused reserved, if_neg other, List.append_nil]

theorem Lineage.frame {db db' : Database} {run : Run} {past : List RunAttempt}
    {current : RunAttempt} (lineage : Lineage db run past current)
    (same : db'.attemptRows run.id = db.attemptRows run.id) : Lineage db' run past current where
  rows := same.trans lineage.rows
  pointer := lineage.pointer
  status := lineage.status
  superseded := lineage.superseded
  numbers := lineage.numbers
  ordered := lineage.ordered

theorem Lineage.advance {db : Database} {runs : Table Run} {run : Run} {past : List RunAttempt}
    {current : RunAttempt} (lineage : Lineage db run past current)
    (attemptSnapshot runSnapshot : Snapshot) (together : runSnapshot.status = attemptSnapshot.status) :
    Lineage
      { db with
        attempts := db.attempts.put { current with toSnapshot := attemptSnapshot }, runs := runs }
      { run with toSnapshot := runSnapshot } past { current with toSnapshot := attemptSnapshot } where
  rows := by
    rw [attemptRows_put { current with toSnapshot := attemptSnapshot } run.id lineage.current_get? rfl,
      lineage.rows, List.map_append, List.map_singleton,
      if_pos rfl, put_id_map past]
    intro old member
    exact Nat.ne_of_lt (lineage.past_lt old member)
  pointer := lineage.pointer
  status := together
  superseded := lineage.superseded
  numbers := by
    have numbers := lineage.numbers
    rw [List.map_append, List.map_singleton] at numbers ⊢
    exact numbers
  ordered := by
    have ordered := lineage.ordered
    rw [List.pairwise_append] at ordered ⊢
    refine ⟨ordered.1, List.pairwise_singleton _ _, ?_⟩
    intro old member last single
    rw [List.mem_singleton] at single
    subst single
    exact lineage.past_lt old member

theorem Lineage.retry {db : Database} {runs : Table Run} {run : Run} {past : List RunAttempt}
    {current : RunAttempt} (lineage : Lineage db run past current) (fresh : RunAttempt)
    (runSnapshot : Snapshot) (keys : Nat) (failed : current.status = .failed)
    (owner : fresh.runId = run.id) (initial : fresh.toSnapshot = .initial)
    (next : fresh.attemptNumber = (db.attemptRows run.id).length + 1)
    (newer : ∀ attempt ∈ db.attemptRows run.id, attempt.id < fresh.id)
    (unused : db.attempts.get? fresh.id = none) (reserved : fresh.id < db.attempts.next + keys)
    (queued : runSnapshot.status = .queued) :
    Lineage
      { db with attempts := (db.attempts.reserve keys).adopt fresh, runs := runs }
      { run with toSnapshot := runSnapshot, currentAttemptId := some fresh.id }
      (past ++ [current]) fresh where
  rows := by
    rw [attemptRows_adopt _ unused reserved, if_pos owner, lineage.rows]
  pointer := rfl
  status := by
    rw [queued, initial]
    rfl
  superseded := by
    intro attempt member
    rcases List.mem_append.mp member with old | last
    · exact lineage.superseded attempt old
    · rw [List.mem_singleton.mp last]
      exact failed
  numbers := by
    have longer : List.range' 1 (past.length + 1 + 1) =
        List.range' 1 (past.length + 1) ++ [past.length + 1 + 1] := by
      rw [List.range'_concat]
      congr 2
      omega
    rw [List.map_append, List.map_singleton, lineage.numbers, next, lineage.length,
      List.length_append, List.length_singleton, longer]
  ordered := by
    rw [lineage.rows] at newer
    rw [List.pairwise_append]
    refine ⟨lineage.ordered, List.pairwise_singleton _ _, ?_⟩
    intro old member last single
    rw [List.mem_singleton.mp single]
    exact newer old member

theorem advanced_consistent {db : Database} (consistent : Consistent db) {run : Run}
    {attempt : RunAttempt} (attemptSnapshot runSnapshot : Snapshot)
    (runFound : db.runs.get? run.id = some run)
    (attemptFound : db.attempts.get? attempt.id = some attempt)
    (pointer : run.currentAttemptId = some attempt.id) (owner : attempt.runId = run.id)
    (together : runSnapshot.status = attemptSnapshot.status) :
    Consistent { db with
      attempts := db.attempts.put { attempt with toSnapshot := attemptSnapshot }
      runs := db.runs.put { run with toSnapshot := runSnapshot } } := by
  have runMember := mem_putRun { run with toSnapshot := runSnapshot } runFound
  have attemptMember := mem_putAttempt { attempt with toSnapshot := attemptSnapshot } attemptFound
  constructor
  · intro other member
    rcases (runMember other).mp member with rfl | ⟨member, different⟩
    · obtain ⟨past, current, lineage⟩ := consistent.of_run runFound
      obtain rfl := lineage.current_unique attemptFound pointer
      exact ⟨past, _, lineage.advance attemptSnapshot runSnapshot together⟩
    · obtain ⟨past, current, lineage⟩ := consistent.lineage other member
      have foreign : attempt.runId ≠ other.id := fun same => different (same.symm.trans owner)
      exact ⟨past, current, lineage.frame (attemptRows_put_other
        { attempt with toSnapshot := attemptSnapshot } attemptFound rfl foreign)⟩
  · intro other member
    rcases (attemptMember other).mp member with rfl | ⟨member, _⟩
    · exact ⟨_, (runMember _).mpr (Or.inl rfl), owner.symm⟩
    · obtain ⟨holder, present, same⟩ := consistent.owned other member
      by_cases changed : holder.id = run.id
      · exact ⟨_, (runMember _).mpr (Or.inl rfl), changed.symm.trans same⟩
      · exact ⟨holder, (runMember holder).mpr (Or.inr ⟨present, changed⟩), same⟩

theorem retried_consistent {db : Database} (consistent : Consistent db) {run : Run}
    {current fresh : RunAttempt} (runSnapshot : Snapshot) (keys : Nat)
    (runFound : db.runs.get? run.id = some run)
    (currentFound : db.attempts.get? current.id = some current)
    (pointer : run.currentAttemptId = some current.id) (failed : current.status = .failed)
    (owner : fresh.runId = run.id) (initial : fresh.toSnapshot = .initial)
    (next : fresh.attemptNumber = (db.attemptRows run.id).length + 1)
    (newer : ∀ attempt ∈ db.attemptRows run.id, attempt.id < fresh.id)
    (unused : db.attempts.get? fresh.id = none) (reserved : fresh.id < db.attempts.next + keys)
    (queued : runSnapshot.status = .queued) :
    Consistent { db with
      attempts := (db.attempts.reserve keys).adopt fresh
      runs := db.runs.put
        { run with toSnapshot := runSnapshot, currentAttemptId := some fresh.id } } := by
  have runMember := mem_putRun
    { run with toSnapshot := runSnapshot, currentAttemptId := some fresh.id } runFound
  constructor
  · intro other member
    rcases (runMember other).mp member with rfl | ⟨member, different⟩
    · obtain ⟨past, last, lineage⟩ := consistent.of_run runFound
      obtain rfl := lineage.current_unique currentFound pointer
      exact ⟨_, fresh, lineage.retry fresh runSnapshot keys failed owner initial next newer unused
        reserved queued⟩
    · obtain ⟨past, last, lineage⟩ := consistent.lineage other member
      have foreign : fresh.runId ≠ other.id := fun same => different (same.symm.trans owner)
      exact ⟨past, last, lineage.frame (attemptRows_adopt_other unused reserved foreign)⟩
  · intro other member
    rcases (Table.mem_adopt (db.attempts.reserve keys) fresh unused reserved other).mp member with
      old | rfl
    · obtain ⟨holder, present, same⟩ := consistent.owned other old
      by_cases changed : holder.id = run.id
      · exact ⟨_, (runMember _).mpr (Or.inl rfl), changed.symm.trans same⟩
      · exact ⟨holder, (runMember holder).mpr (Or.inr ⟨present, changed⟩), same⟩
    · exact ⟨_, (runMember _).mpr (Or.inl rfl), owner.symm⟩

theorem founded_consistent {db : Database} (consistent : Consistent db) {run : Run}
    {attempt : RunAttempt} (runKeys attemptKeys : Nat) (runInitial : run.toSnapshot = .initial)
    (attemptInitial : attempt.toSnapshot = .initial) (owner : attempt.runId = run.id)
    (first : attempt.attemptNumber = 1) (pointer : run.currentAttemptId = some attempt.id)
    (runFresh : db.runs.get? run.id = none) (runReserved : run.id < db.runs.next + runKeys)
    (attemptFresh : db.attempts.get? attempt.id = none)
    (attemptReserved : attempt.id < db.attempts.next + attemptKeys) :
    Consistent { db with
      runs := (db.runs.reserve runKeys).adopt run
      attempts := (db.attempts.reserve attemptKeys).adopt attempt } := by
  have runs := Table.mem_adopt (db.runs.reserve runKeys) run runFresh runReserved
  have attempts := Table.mem_adopt (db.attempts.reserve attemptKeys) attempt attemptFresh
    attemptReserved
  have unowned : db.attemptRows run.id = [] := by
    apply List.filter_eq_nil_iff.mpr
    intro other member
    obtain ⟨holder, present, same⟩ := consistent.owned other member
    intro equal
    rw [beq_iff_eq, ← same] at equal
    exact (db.runs.get?_eq_none run.id).mp runFresh holder present equal
  constructor
  · intro other member
    rcases (runs other).mp member with old | rfl
    · obtain ⟨past, current, lineage⟩ := consistent.lineage other old
      have foreign : attempt.runId ≠ other.id := by
        intro same
        exact (db.runs.get?_eq_none run.id).mp runFresh other old (same.symm.trans owner)
      exact ⟨past, current, lineage.frame
        (attemptRows_adopt_other attemptFresh attemptReserved foreign)⟩
    · refine ⟨[], attempt, ?_, pointer, ?_, ?_, ?_, ?_⟩
      · rw [attemptRows_adopt _ attemptFresh attemptReserved, unowned, if_pos owner]
      · rw [runInitial, attemptInitial]
      · intro other member
        cases member
      · rw [List.nil_append, List.map_singleton, first]
        rfl
      · rw [List.nil_append]
        exact List.pairwise_singleton _ _
  · intro other member
    rcases (attempts other).mp member with old | rfl
    · obtain ⟨holder, present, same⟩ := consistent.owned other old
      exact ⟨holder, (runs holder).mpr (Or.inl present), same⟩
    · exact ⟨run, (runs run).mpr (Or.inr rfl), owner.symm⟩

theorem commit_consistent {db db' : Database} (consistent : Consistent db) (commit : Commit db db') :
    Consistent db' := by
  cases commit with
  | project projects =>
      exact ⟨fun run member => by
        obtain ⟨past, current, lineage⟩ := consistent.lineage run member
        exact ⟨past, current, lineage.frame rfl⟩, consistent.owned⟩
  | keysLost runs attempts =>
      exact ⟨fun run member => by
        obtain ⟨past, current, lineage⟩ := consistent.lineage run member
        exact ⟨past, current, lineage.frame rfl⟩, consistent.owned⟩
  | founded run attempt runKeys attemptKeys runInitial attemptInitial owner first pointer runFresh
      runReserved attemptFresh attemptReserved =>
      exact founded_consistent consistent runKeys attemptKeys runInitial attemptInitial owner first
        pointer runFresh runReserved attemptFresh attemptReserved
  | advanced run attempt attemptSnapshot runSnapshot runFound attemptFound pointer owner _ together =>
      exact advanced_consistent consistent attemptSnapshot runSnapshot runFound attemptFound pointer
        owner together
  | retried run current fresh runSnapshot keys runFound currentFound pointer failed owner initial
      next newer unused reserved queued =>
      exact retried_consistent consistent runSnapshot keys runFound currentFound pointer failed owner
        initial next newer unused reserved queued

end Evalynx
