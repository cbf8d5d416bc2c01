import Evalynx.Fate
import Evalynx.PosixPath
import Evalynx.Schedules

/-! The directories the executions of a history write to. -/

namespace Evalynx

open Relational Relation Posix

def partsOf (text : List Char) : List (List Char) :=
  (text.splitOn '/').filter (fun name => name ≠ [] ∧ name ≠ ['.'])

theorem parts_parse (text : String) : (PurePath.parse text).parts = partsOf text.toList := rfl

theorem partsOf_slash (front back : List Char) :
    partsOf (front ++ '/' :: back) = partsOf front ++ partsOf back := by
  rw [partsOf, List.splitOn_append_cons_self, List.filter_append]
  rfl

theorem partsOf_component {name : List Char} (proper : IsComponent name) : partsOf name = [name] := by
  obtain ⟨single, nonempty, nodot⟩ := proper
  rw [partsOf, List.splitOn_eq_singleton single]
  simp [nonempty, nodot]

theorem parts_joinPath (parent name : String) (proper : IsComponent name.toList) :
    (PurePath.parse (PyText.joinPath parent name)).parts =
      (PurePath.parse parent).parts ++ [name.toList] := by
  rw [parts_parse, parts_parse, PyText.joinPath]
  split
  · rename_i slash
    obtain ⟨front, same⟩ := List.getLast?_eq_some_iff.mp slash
    have bare : partsOf (front ++ ['/']) = partsOf front := by
      rw [partsOf_slash]
      exact List.append_nil _
    rw [String.toList_append, same, bare, List.append_assoc, List.singleton_append, partsOf_slash,
      partsOf_component proper]
  · have text : (parent ++ "/" ++ name).toList = parent.toList ++ '/' :: name.toList := by simp
    rw [text, partsOf_slash, partsOf_component proper]

theorem padded_component (label : String) (width n : Nat) (solid : '/' ∉ label.toList)
    (long : 2 ≤ label.toList.length) : IsComponent (label ++ PyText.zeroPadded width n).toList := by
  rw [String.toList_append]
  refine ⟨?_, ?_, ?_⟩
  · intro member
    rcases List.mem_append.mp member with inLabel | inDigits
    · exact solid inLabel
    · have digit := PyText.zeroPadded_digit inDigits
      cases digit
  · intro empty
    have none := congrArg List.length empty
    rw [List.length_append, List.length_nil] at none
    omega
  · intro dot
    have one := congrArg List.length dot
    rw [List.length_append, List.length_singleton] at one
    omega

theorem padded_injective (label : String) (width : Nat) {m n : Nat}
    (same : (label ++ PyText.zeroPadded width m).toList =
      (label ++ PyText.zeroPadded width n).toList) : m = n := by
  rw [String.toList_append, String.toList_append] at same
  have digits := String.toList_injective (List.append_cancel_left same)
  exact PyText.zeroPadded_injective width digits

namespace SoloWargameRunner

variable (self : SoloWargameRunner)

theorem artifactDir_parts (run : Run) (attempt : RunAttempt) :
    (PurePath.parse (self.artifactDir run attempt)).parts =
      (PurePath.parse self.artifactRoot).parts ++
        [("run-" ++ PyText.zeroPadded 6 run.id).toList,
          ("attempt-" ++ PyText.zeroPadded 4 attempt.attemptNumber).toList] := by
  have runDir := padded_component "run-" 6 run.id (by decide) (by decide)
  have attemptDir := padded_component "attempt-" 4 attempt.attemptNumber (by decide) (by decide)
  rw [artifactDir, parts_joinPath _ _ attemptDir, parts_joinPath _ _ runDir, List.append_assoc]
  rfl

theorem requestFile_parts (run : Run) (attempt : RunAttempt) :
    (PurePath.parse (self.requestFile run attempt)).parts =
      (PurePath.parse (self.artifactDir run attempt)).parts ++ ["evalynx-request.json".toList] := by
  rw [requestFile, parts_joinPath]
  decide

theorem artifactDir_inside {run otherRun : Run} {attempt other : RunAttempt}
    (inside : (PurePath.parse (self.artifactDir run attempt)).parts <+:
      (PurePath.parse (self.artifactDir otherRun other)).parts) :
    run.id = otherRun.id ∧ attempt.attemptNumber = other.attemptNumber := by
  rw [artifactDir_parts, artifactDir_parts, List.prefix_append_right_inj, List.cons_prefix_cons,
    List.cons_prefix_cons] at inside
  obtain ⟨runs, attempts, -⟩ := inside
  exact ⟨padded_injective "run-" 6 runs, padded_injective "attempt-" 4 attempts⟩

theorem requestFile_same {run otherRun : Run} {attempt other : RunAttempt}
    (same : PurePath.parse (self.requestFile run attempt) =
      PurePath.parse (self.requestFile otherRun other)) :
    run.id = otherRun.id ∧ attempt.attemptNumber = other.attemptNumber := by
  have parts := congrArg PurePath.parts same
  rw [requestFile_parts, requestFile_parts] at parts
  apply self.artifactDir_inside
  rw [List.append_cancel_right parts]

structure Apart (first second : Run × RunAttempt) : Prop where
  outside : ¬ PurePath.Inside (PurePath.parse (self.artifactDir first.1 first.2))
    (PurePath.parse (self.artifactDir second.1 second.2))
  around : ¬ PurePath.Inside (PurePath.parse (self.artifactDir second.1 second.2))
    (PurePath.parse (self.artifactDir first.1 first.2))
  requestFiles : PurePath.parse (self.requestFile first.1 first.2) ≠
    PurePath.parse (self.requestFile second.1 second.2)

theorem apart {first second : Run × RunAttempt}
    (different : ¬ (first.1.id = second.1.id ∧
      first.2.attemptNumber = second.2.attemptNumber)) : self.Apart first second where
  outside := fun inside => different (self.artifactDir_inside inside.2)
  around := by
    intro inside
    obtain ⟨runs, attempts⟩ := self.artifactDir_inside inside.2
    exact different ⟨runs.symm, attempts.symm⟩
  requestFiles := fun same => different (self.requestFile_same same)

end SoloWargameRunner

theorem Consistent.number_unique {db : Database} (consistent : Consistent db)
    {attempt other : RunAttempt} (row : attempt ∈ db.attempts.rows)
    (otherRow : other ∈ db.attempts.rows) (owner : attempt.runId = other.runId)
    (number : attempt.attemptNumber = other.attemptNumber) : attempt = other := by
  obtain ⟨run, past, current, found, lineage⟩ := consistent.of_attempt row
  have key : run.id = attempt.runId := Table.get?_id found
  have distinct : ((past ++ [current]).map RunAttempt.attemptNumber).Nodup := by
    rw [lineage.numbers]
    exact List.nodup_range'
  have first := (db.mem_attemptRows run.id attempt).mpr ⟨row, key.symm⟩
  have second := (db.mem_attemptRows run.id other).mpr ⟨otherRow, owner.symm.trans key.symm⟩
  rw [lineage.rows] at first second
  exact List.inj_on_of_nodup_map distinct first second number

namespace Sessions

/-- A history with the rows every call of `runner.execute` was given, the latest call first. -/
inductive Executions (accepts : TerminalValues → Bool) (allowed : Schedule) :
    List (Run × RunAttempt) → Sessions → Prop where
  | empty : Executions accepts allowed [] empty
  | other {log : List (Run × RunAttempt)} {sessions sessions' : Sessions}
      (before : Executions accepts allowed log sessions)
      (step : Step accepts allowed sessions sessions') (same : sessions'.entered = sessions.entered) :
      Executions accepts allowed log sessions'
  | enter {log : List (Run × RunAttempt)} {sessions : Sessions}
      (before : Executions accepts allowed log sessions) (call runId attemptId : Nat) (run : Run)
      (attempt : RunAttempt) (runner : Runner) (registry : RunnerRegistry)
      (claimed : sessions.calls call = .claimed runId attemptId)
      (runFound : sessions.db.runs.get? runId = some run)
      (attemptFound : sessions.db.attempts.get? attemptId = some attempt)
      (registered : registry.lookup run.runnerType = some runner) :
      Executions accepts allowed ((run, attempt) :: log)
        { sessions.setCall call (.executing runId attemptId) with
          entered := attemptId :: sessions.entered }

variable {accepts : TerminalValues → Bool} {allowed : Schedule} {sessions : Sessions}
  {log : List (Run × RunAttempt)}

theorem Executions.reached (history : Executions accepts allowed log sessions) :
    ReflTransGen (Step accepts allowed) Sessions.empty sessions := by
  induction history with
  | empty => exact .refl
  | other _ step _ ih => exact ih.tail step
  | enter _ call runId attemptId run attempt runner registry claimed runFound attemptFound registered
      ih =>
      exact ih.tail (.enter call runId attemptId run attempt runner registry claimed runFound
        attemptFound registered)

theorem executions_of_reached (reached : ReflTransGen (Step accepts allowed) Sessions.empty sessions) :
    ∃ log, Executions accepts allowed log sessions := by
  induction reached with
  | refl => exact ⟨[], .empty⟩
  | tail _ step ih =>
      obtain ⟨log, before⟩ := ih
      have kept := step
      cases step with
      | enter call runId attemptId run attempt runner registry claimed runFound attemptFound
          registered =>
          exact ⟨_, before.enter call runId attemptId run attempt runner registry claimed runFound
            attemptFound registered⟩
      | createProject name description createdAt => exact ⟨log, before.other kept rfl⟩
      | call call phase moved => exact ⟨log, before.other kept rfl⟩
      | callCommit call phase db committed => exact ⟨log, before.other kept rfl⟩
      | request caller statement phase db permitted moved => exact ⟨log, before.other kept rfl⟩
      | requestCommit caller statement db permitted committed => exact ⟨log, before.other kept rfl⟩

theorem Executions.entered (history : Executions accepts allowed log sessions) :
    log.map (fun execution => execution.2.id) = sessions.entered := by
  induction history with
  | empty => rfl
  | other _ _ same ih => exact ih.trans same.symm
  | enter _ call runId attemptId run attempt runner registry claimed runFound attemptFound _ ih =>
      have key : attempt.id = attemptId := Table.get?_id attemptFound
      rw [List.map_cons, ih, key]

theorem Executions.recorded (settles : Settles allowed)
    (history : Executions accepts allowed log sessions) :
    ∀ execution ∈ log, ∃ row ∈ sessions.db.attempts.rows, row.id = execution.2.id ∧
      row.runId = execution.1.id ∧ row.attemptNumber = execution.2.attemptNumber := by
  induction history with
  | empty =>
      intro execution member
      cases member
  | other before step _ ih =>
      intro execution member
      obtain ⟨row, present, id, runId, number⟩ := ih execution member
      rcases step_commit (valid_reached settles before.reached) step with same | commit
      · rw [same]
        exact ⟨row, present, id, runId, number⟩
      · obtain ⟨later, laterPresent, version⟩ := commit.attempt_row present
        exact ⟨later, laterPresent, version.id.trans id, version.runId.trans runId,
          version.attemptNumber.trans number⟩
  | enter before call runId attemptId run attempt runner registry claimed runFound attemptFound _ ih =>
      intro execution member
      rcases List.mem_cons.mp member with rfl | earlier
      · have owns : (CallPhase.claimed runId attemptId).owns = some (runId, attemptId) := rfl
        rw [← claimed] at owns
        obtain ⟨row, holder, holds, _⟩ :=
          ((valid_reached settles before.reached).calls call).owned runId attemptId owns
        have same : row = attempt := Option.some.inj (holds.attemptFound.symm.trans attemptFound)
        exact ⟨attempt, Table.get?_mem attemptFound, rfl,
          (same ▸ holds.owner).trans (Table.get?_id runFound).symm, rfl⟩
      · exact ih execution earlier

theorem Executions.numbers (settles : Settles allowed)
    (history : Executions accepts allowed log sessions) :
    log.Pairwise fun first second =>
      ¬ (first.1.id = second.1.id ∧ first.2.attemptNumber = second.2.attemptNumber) := by
  have valid := valid_reached settles history.reached
  have distinct : log.Pairwise fun first second => first.2.id ≠ second.2.id := by
    have entered := valid.entered
    rw [← history.entered] at entered
    exact List.pairwise_map.mp entered
  apply distinct.imp_of_mem
  intro first second member secondMember different same
  obtain ⟨row, present, id, owner, number⟩ := history.recorded settles first member
  obtain ⟨other, otherPresent, otherId, otherOwner, otherNumber⟩ :=
    history.recorded settles second secondMember
  have equal : row = other := by
    apply valid.consistent.number_unique present otherPresent
    · rw [owner, otherOwner, same.1]
    · rw [number, otherNumber, same.2]
  exact different (id.symm.trans ((congrArg RunAttempt.id equal).trans otherId))

/-- No directory is given to two executions or lies in that of another, and no request file is
written twice. -/
theorem artifact_dirs_apart (self : SoloWargameRunner)
    (history : Executions accepts wholeRetries log sessions) : log.Pairwise self.Apart :=
  (history.numbers settles_wholeRetries).imp self.apart

theorem artifact_dirs_apart_retried :
    ∃ log sessions, Executions (fun _ => true) wholeRetries log sessions ∧
      log.map (fun execution => execution.2.id) = [2, 1] ∧
      log.Pairwise (wargameRunner .nan).Apart := by
  have failed : ReflTransGen (Step (fun _ => true) wholeRetries) Sessions.empty failedSessions :=
    failedSessions_reached (fun _ _ => ⟨⟨nofun, nofun, nofun⟩, nofun⟩)
  obtain ⟨log, history⟩ := executions_of_reached failed
  have retried := history.other (.requestCommit 1 .wholeRetry _ ⟨⟨nofun, nofun, nofun⟩, nofun⟩
    (.wholeRetry 1 _ 3 sampleRetried 2 (run_unlocked nofun nofun nofun nofun nofun nofun) rfl
      (number_unlocked nofun nofun nofun nofun) rfl)) rfl
  have selected := retried.other (.call 1 _ (.select (newAttempt 2 1 2 3) rfl)) rfl
  have attemptClaimed := selected.other (.call 1 _ (.claimAttempt 1 2 4 _
    (attempt_unlocked nofun (by intro call; cases call <;> nofun)) rfl rfl)) rfl
  have runClaimed := attemptClaimed.other (.call 1 _ (.claimRun 1 2 4 _ _
    (run_unlocked nofun (by intro call; cases call <;> nofun) nofun nofun nofun nofun) rfl rfl)) rfl
  have claimed := runClaimed.other (.callCommit 1 _ _ (.claim 1 2 _ _)) rfl
  have again := claimed.enter 1 1 2 _ _ sampleRunner [("stub", sampleRunner)] rfl rfl rfl rfl
  exact ⟨_, _, again, again.entered, artifact_dirs_apart _ again⟩

end Sessions

end Evalynx
