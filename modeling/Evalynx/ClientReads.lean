import Evalynx.BookedCalls
import Evalynx.HashedRequest
import Evalynx.StoredTypes

namespace Evalynx

open Relational Relation Retrying

def RunRead.life (read : RunRead) : Life RunAttemptRead where
  failures := read.attempts.dropLast
  stage :=
    match read.status, read.attempts.getLast? with
    | .succeeded, some attempt => .done attempt
    | .failed, some attempt => .failed attempt
    | .running, _ => .working
    | _, _ => .waiting

def RunRead.requested (read : RunRead) : NewRun :=
  ⟨read.projectId, read.runnerType, read.submittedConfig, read.normalizedConfig, read.configHash⟩

theorem read_life {db : Database} (consistent : Consistent db) {runId : Nat} {loaded : LoadedRun}
    (seen : loadRun db runId = some loaded) : db.book runId = some loaded.read.life := by
  obtain ⟨run, found, rfl, rfl⟩ := loadRun_eq_some seen
  obtain ⟨past, current, lineage⟩ := consistent.of_run found
  have status : (LoadedRun.read ⟨run, selectCurrentAttempt db run,
      selectAttempts db run.id⟩).status = current.status := lineage.status
  have attempts : (LoadedRun.read ⟨run, selectCurrentAttempt db run,
      selectAttempts db run.id⟩).attempts = past.map RunAttempt.read ++ [current.read] := by
    simp [LoadedRun.read, lineage.selectAttempts_eq]
  rw [book_of_lineage found lineage, RunRead.life, attempts, status, List.dropLast_concat,
    List.getLast?_concat, RunAttempt.stage]
  cases current.status <;> rfl

section Histories

variable {accepts : TerminalValues → Bool} {db later : Database}

theorem requested_kept (consistent : Consistent db) (more : ReflTransGen (Txn accepts) db later)
    {run : Run} (member : run ∈ db.runs.rows) :
    ∃ version ∈ later.runs.rows, version.id = run.id ∧ version.requested = run.requested := by
  induction more with
  | refl => exact ⟨run, member, rfl, rfl⟩
  | tail before txn ih =>
      obtain ⟨version, row, id, same⟩ := ih
      have here := Transition.invariant consistent (fun _ _ held txn => txn.consistent held) before
      obtain ⟨next, nextRow, nextId, _⟩ := (txn.stepLaw here).pointer version row
      refine ⟨next, nextRow, nextId.trans id, ?_⟩
      rcases txn.commit here with rfl | commit
      · obtain rfl := Table.eq_of_mem (Table.get?_of_mem row) nextRow nextId
        exact same
      · exact (commit.requested row nextRow nextId).trans same

/-- However many transactions commit between two reads of a run, the second one finds it, with the
request it had; it shows the ended attempts of the first as they were; and a run that has succeeded
is shown the same again. -/
theorem reads_extend (history : ReflTransGen (Txn accepts) .empty db)
    (more : ReflTransGen (Txn accepts) db later) (order : SelectOrder) {runId : Nat}
    {read : RunRead} (got : getRun order db db db runId = .ok read) :
    ∃ last, getRun order later later later runId = .ok last ∧ read.life.Later last.life ∧
      last.requested = read.requested ∧ (read.status = .succeeded → last = read) := by
  have consistent := history_consistent history
  have whole := history.trans more
  rw [getRun_quiet history] at got
  cases seen : loadRun db runId with
  | none =>
      rw [seen] at got
      cases got
  | some loaded =>
      rw [seen] at got
      obtain rfl := Except.ok.inj got
      obtain ⟨run, found, rfl, same⟩ := loadRun_eq_some seen
      obtain ⟨version, row, id, requested⟩ := requested_kept consistent more (Table.get?_mem found)
      have foundLater : later.runs.get? run.id = some version := id ▸ Table.get?_of_mem row
      have seenLater : loadRun later run.id =
          some ⟨version, selectCurrentAttempt later version, selectAttempts later version.id⟩ :=
        id ▸ loadRun_found (Table.get?_of_mem row)
      obtain ⟨life, known, lives⟩ :=
        advances_later (book_history consistent more) (read_life consistent seen)
      rw [read_life (history_consistent whole) seenLater] at known
      obtain rfl := Option.some.inj known
      rw [getRun_quiet whole, seenLater]
      refine ⟨_, rfl, lives, ?_, ?_⟩
      · rw [same]
        exact requested
      · intro succeeded
        have law := (history_appends history).2.2 later more
        have ended : run.status = .succeeded := by
          rw [same] at succeeded
          exact succeeded
        obtain ⟨kept, attempts⟩ := law.succeeded run (Table.get?_mem found) ended
        have again := loadRun_untouched consistent found kept attempts
        rw [seen, seenLater] at again
        exact congrArg LoadedRun.read (Option.some.inj again)

end Histories

theorem reads_extend_retried :
    ∃ read last, getRun .currentFirst sampleFailed sampleFailed sampleFailed 1 = .ok read ∧
      getRun .currentFirst sampleRetried sampleRetried sampleRetried 1 = .ok last ∧
      read.life.Later last.life := by
  have retried : Txn (fun _ => true) sampleFailed sampleRetried := .retryRun 1 _ 3 _ 2 rfl rfl rfl
  obtain ⟨read, shown⟩ : ∃ read,
      getRun .currentFirst sampleFailed sampleFailed sampleFailed 1 = .ok read := ⟨_, rfl⟩
  obtain ⟨last, got, lives, _⟩ := reads_extend (calls_history sampleFailed_called) (.single retried)
    .currentFirst shown
  exact ⟨read, last, shown, got, lives⟩

end Evalynx
