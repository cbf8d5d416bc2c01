import Evalynx.Fate
import Evalynx.Mirror
import Evalynx.Registry

namespace Evalynx

open Relational Posix

structure LoadedSnapshot.Unreported (row : LoadedSnapshot) : Prop where
  summary : row.summary = .null
  metrics : row.resultMetrics = .null
  execution : row.resultExecution = .null
  artifacts : row.resultArtifacts = .null
  warnings : row.resultWarnings = .null
  error : row.resultError = .null
  message : row.failureMessage = none
  finishedAt : row.finishedAt = none

structure LoadedSnapshot.WellFormed (row : LoadedSnapshot) : Prop where
  queued : row.status = .queued → row.startedAt = none ∧ row.Unreported
  running : row.status = .running → row.startedAt.isSome = true ∧ row.Unreported
  terminal : row.status.terminal = true →
    row.startedAt.isSome = true ∧ row.finishedAt.isSome = true ∧
      (∃ artifacts, row.resultArtifacts = .arr artifacts) ∧
      ∃ warnings, row.resultWarnings = .arr warnings
  succeeded : row.status = .succeeded → row.failureMessage = none ∧ row.resultError = .null
  failed : row.status = .failed → row.failureMessage.isSome = true ∧ row.resultError ≠ .null

structure RunnerResult.Settled (result : RunnerResult) : Prop where
  succeeded : result.status = .succeeded → result.failureMessage = none ∧ result.resultError = none
  failed : result.status = .failed →
    result.failureMessage.isSome = true ∧ result.resultError.isSome = true

theorem RunnerResult.Reports.settled {result : RunnerResult} (reports : result.Reports) :
    result.Settled := by
  unfold RunnerResult.Reports at reports
  cases status : result.status with
  | succeeded =>
      rw [status] at reports
      obtain ⟨message, error, _⟩ := reports
      exact ⟨fun _ => ⟨message, error⟩, (fun failed => nomatch status.symm.trans failed)⟩
  | failed =>
      rw [status] at reports
      obtain ⟨message, error, told, carried, _⟩ := reports
      refine ⟨(fun succeeded => nomatch status.symm.trans succeeded), fun _ => ?_⟩
      rw [told, carried]
      exact ⟨rfl, rfl⟩

theorem stub_settled (isPrintable : Char → Bool) (run : Run) (attempt : RunAttempt) :
    (StubRunner.execute isPrintable run attempt).result.Settled := by
  unfold StubRunner.execute
  split
  · exact ⟨nofun, fun _ => ⟨rfl, rfl⟩⟩
  · exact ⟨fun _ => ⟨rfl, rfl⟩, nofun⟩

theorem runnerMissing_settled (runnerType : String) : (runnerMissingResult runnerType).Settled :=
  ⟨nofun, fun _ => ⟨rfl, rfl⟩⟩

theorem executeAttempt_settled (soloWargame : SoloWargameRunner) (fs : FileSystem) (run : Run)
    (attempt : RunAttempt) :
    (executeAttempt (buildRunnerRegistry soloWargame fs) run attempt).1.Settled := by
  unfold executeAttempt
  cases registered : (buildRunnerRegistry soloWargame fs).lookup run.runnerType with
  | none => exact runnerMissing_settled run.runnerType
  | some runner =>
      rcases registered_cases registered with ⟨_, rfl⟩ | ⟨_, rfl⟩
      · exact (Outcome.result_reports (soloWargame.execute_reports run attempt)).settled
      · exact stub_settled soloWargame.isPrintable run attempt

theorem initial_wellFormed : Snapshot.initial.load.WellFormed where
  queued := fun _ => ⟨rfl, rfl, rfl, rfl, rfl, rfl, rfl, rfl, rfl⟩
  running := nofun
  terminal := nofun
  succeeded := nofun
  failed := nofun

theorem start_wellFormed {snapshot : Snapshot} (shape : snapshot.load.WellFormed)
    (queued : snapshot.status = .queued) (now : Timestamp) :
    (snapshot.start now).load.WellFormed := by
  obtain ⟨_, summary, metrics, execution, artifacts, warnings, error, message, finishedAt⟩ :=
    shape.queued queued
  constructor
  · nofun
  · intro _
    exact ⟨rfl, summary, metrics, execution, artifacts, warnings, error, message, finishedAt⟩
  · nofun
  · nofun
  · nofun

theorem finish_wellFormed {snapshot : Snapshot} (shape : snapshot.load.WellFormed)
    (running : snapshot.status = .running) {result : RunnerResult} (settled : result.Settled)
    (now : Timestamp) : (snapshot.finish (terminalValues result now)).load.WellFormed := by
  have started : snapshot.startedAt.isSome = true := (shape.running running).1
  cases status : result.status with
  | succeeded =>
      have written : terminalStatus result = .succeeded := if_pos status
      obtain ⟨message, error⟩ := settled.succeeded status
      constructor
      · intro queued
        cases written.symm.trans queued
      · intro stillRunning
        cases written.symm.trans stillRunning
      · exact fun _ => ⟨started, rfl, ⟨_, rfl⟩, ⟨_, rfl⟩⟩
      · refine fun _ => ⟨message, ?_⟩
        simp [Snapshot.load, Snapshot.finish, terminalValues, error, optionalObject]
      · intro failed
        cases written.symm.trans failed
  | failed =>
      have written : terminalStatus result = .failed := if_neg (by simp [status])
      obtain ⟨message, error⟩ := settled.failed status
      obtain ⟨members, carried⟩ := Option.isSome_iff_exists.mp error
      constructor
      · intro queued
        cases written.symm.trans queued
      · intro stillRunning
        cases written.symm.trans stillRunning
      · exact fun _ => ⟨started, rfl, ⟨_, rfl⟩, ⟨_, rfl⟩⟩
      · intro succeeded
        cases written.symm.trans succeeded
      · refine fun _ => ⟨message, ?_⟩
        simp [Snapshot.load, Snapshot.finish, terminalValues, carried, optionalObject]

end Evalynx
