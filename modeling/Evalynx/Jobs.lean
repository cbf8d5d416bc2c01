import Evalynx.World

namespace Evalynx

open Relational Relation

/-- The second guard of the claim never strands an attempt: a queued attempt is the current one
of a queued run. -/
theorem claim_of_queued {db : Database} (consistent : Consistent db) {attempt : RunAttempt}
    (row : attempt ∈ db.attempts.rows) (queued : attempt.status = .queued) (now : Timestamp) :
    ∃ claimed, claimAttempt db attempt.runId attempt.id now = some claimed ∧
      claimed.attempts.get? attempt.id = some (attempt.start now) := by
  obtain ⟨run, past, current, runFound, lineage⟩ := consistent.of_attempt row
  have key : run.id = attempt.runId := Table.get?_id runFound
  have last : attempt = current :=
    lineage.eq_current_of_not_failed row key.symm (by simp [queued])
  subst last
  refine ⟨_, (claimAttempt_eq_some _ _ _ _ _).mpr ⟨attempt, run, lineage.current_get?, queued,
    runFound, lineage.pointer, lineage.status.trans queued, rfl⟩, ?_⟩
  exact Table.get?_put_self (attempt.start now) lineage.current_get?

theorem queued_of_claim {db claimed : Database} {runId attemptId : Nat} {now : Timestamp}
    (success : claimAttempt db runId attemptId now = some claimed) {other : RunAttempt}
    (row : other ∈ claimed.attempts.rows) (queued : other.status = .queued) :
    other ∈ db.attempts.rows ∧ other.id ≠ attemptId := by
  obtain ⟨attempt, run, found, -, -, -, -, rfl⟩ := (claimAttempt_eq_some _ _ _ _ _).mp success
  obtain rfl : attempt.id = attemptId := Table.get?_id found
  rcases (mem_putAttempt (attempt.start now) found other).mp row with rfl | ⟨old, different⟩
  · cases queued
  · exact ⟨old, different⟩

theorem queued_of_persist {accepts : TerminalValues → Bool} {db persisted : Database}
    {runId attemptId : Nat} {result : RunnerResult} {now : Timestamp}
    (success : persistTerminalResult accepts db runId attemptId result now = some persisted)
    {other : RunAttempt} (row : other ∈ persisted.attempts.rows) (queued : other.status = .queued) :
    other ∈ db.attempts.rows := by
  simp only [persistTerminalResult] at success
  split at success
  · split at success
    · obtain rfl := Option.some.inj success
      exact row
    · rename_i one
      obtain rfl := Option.some.inj success
      obtain ⟨attempt, found, running⟩ := (Table.update_count _ _ _ _).mp (not_not.mp one)
      rw [Table.update_of_match _ _ _ _ _ found running] at row
      obtain rfl : attempt.id = attemptId := Table.get?_id found
      have rows := mem_putAttempt (attempt.finish (terminalValues result now)) found
      rcases (rows other).mp row with rfl | ⟨old, _⟩
      · have terminal := terminalStatus_terminal result
        change (terminalStatus result) = .queued at queued
        rw [queued] at terminal
        cases terminal
      · exact old
  · cases success

namespace World

inductive HasJob (world : World) (attemptId : Nat) : Prop where
  | inQueue (member : attemptId ∈ world.queue)
  | beforeEnqueue (member : attemptId ∈ world.enqueuing)
  | beforeClaim (worker : Nat) (delivered : world.workers worker = .delivered attemptId)

def Served (world : World) : Prop :=
  ∀ attempt ∈ world.db.attempts.rows, attempt.status = .queued → HasJob world attempt.id

variable {accepts : TerminalValues → Bool} {world world' : World}

theorem step_queued (step : Step accepts world world') {attempt : RunAttempt}
    (row : attempt ∈ world'.db.attempts.rows) (queued : attempt.status = .queued) :
    attempt ∈ world.db.attempts.rows ∨ attempt.id ∈ world'.enqueuing := by
  cases step with
  | createProject | createFailed | enqueue => exact Or.inl row
  | retryRead | retryConflict | retryFailed => exact Or.inl row
  | dequeue | deliver | unknown | claimMissed => exact Or.inl row
  | execute | vanished | persistRaised => exact Or.inl row
  | createRun project new runCreatedAt attemptCreatedAt found =>
      have rows := (insertRun_rows world.db new runCreatedAt attemptCreatedAt).2
      change attempt ∈ (insertRun world.db new runCreatedAt attemptCreatedAt).1.attempts.rows at row
      rw [rows, List.mem_append, List.mem_singleton] at row
      rcases row with old | rfl
      · exact Or.inl old
      · exact Or.inr List.mem_cons_self
  | retryWrite caller loaded now db attemptId pending inserted =>
      have rows := (insertRetry_rows inserted).2.2
      change attempt ∈ db.attempts.rows at row
      rw [rows, List.mem_append, List.mem_singleton] at row
      rcases row with old | rfl
      · exact Or.inl old
      · exact Or.inr List.mem_cons_self
  | claim worker attemptId moved now db delivered found success =>
      exact Or.inl (queued_of_claim success row queued).1
  | persist worker runId attemptId result now db executed success =>
      exact Or.inl (queued_of_persist success row queued)

theorem HasJob.setWorker {worker attemptId : Nat} {phase : WorkerPhase} {db : Database}
    (job : HasJob world attemptId) (other : world.workers worker ≠ .delivered attemptId) :
    HasJob { world.setWorker worker phase with db := db } attemptId := by
  cases job with
  | inQueue member => exact .inQueue member
  | beforeEnqueue member => exact .beforeEnqueue member
  | beforeClaim holder delivered =>
      refine .beforeClaim holder ?_
      have different : holder ≠ worker := by
        intro same
        exact other (same ▸ delivered)
      simpa [World.setWorker, different] using delivered

theorem HasJob.step (valid : Valid world) (step : Step accepts world world') {attempt : RunAttempt}
    (job : HasJob world attempt.id) (before : attempt ∈ world.db.attempts.rows)
    (after : attempt ∈ world'.db.attempts.rows) (queued : attempt.status = .queued) :
    HasJob world' attempt.id := by
  cases step with
  | createProject | createFailed | retryRead | retryConflict | retryFailed =>
      cases job with
      | inQueue member => exact .inQueue member
      | beforeEnqueue member => exact .beforeEnqueue member
      | beforeClaim worker delivered => exact .beforeClaim worker delivered
  | createRun | retryWrite =>
      cases job with
      | inQueue member => exact .inQueue member
      | beforeEnqueue member => exact .beforeEnqueue (List.mem_cons_of_mem _ member)
      | beforeClaim worker delivered => exact .beforeClaim worker delivered
  | enqueue attemptId committed =>
      cases job with
      | inQueue member => exact .inQueue (List.mem_append_left _ member)
      | beforeEnqueue member =>
          by_cases same : attempt.id = attemptId
          · exact .inQueue (List.mem_append_right _ (List.mem_singleton.mpr same))
          · exact .beforeEnqueue ((List.mem_erase_of_ne same).mpr member)
      | beforeClaim worker delivered => exact .beforeClaim worker delivered
  | dequeue worker attemptId idle inQueue =>
      by_cases same : attempt.id = attemptId
      · exact .beforeClaim worker (by simp [World.setWorker, same])
      · have moved : HasJob { world.setWorker worker (.delivered attemptId) with db := world.db }
            attempt.id := job.setWorker (by rw [idle]; simp)
        cases moved with
        | inQueue member => exact .inQueue ((List.mem_erase_of_ne same).mpr member)
        | beforeEnqueue member => exact .beforeEnqueue member
        | beforeClaim holder delivered => exact .beforeClaim holder delivered
  | deliver worker attemptId idle =>
      exact job.setWorker (by rw [idle]; simp)
  | unknown worker attemptId delivered missing =>
      apply job.setWorker
      rw [delivered]
      intro same
      obtain rfl : attemptId = attempt.id := WorkerPhase.delivered.inj same
      exact (world.db.attempts.get?_eq_none _).mp missing attempt before rfl
  | claim worker attemptId moved now db delivered found success =>
      apply job.setWorker
      rw [delivered]
      intro same
      obtain rfl : attemptId = attempt.id := WorkerPhase.delivered.inj same
      exact (queued_of_claim success after queued).2 rfl
  | claimMissed worker attemptId row now delivered found missed =>
      apply job.setWorker
      rw [delivered]
      intro same
      obtain rfl : attemptId = attempt.id := WorkerPhase.delivered.inj same
      have present := Table.get?_of_mem before
      rw [rowId_attempt, found] at present
      obtain rfl := Option.some.inj present
      obtain ⟨claimed, success, _⟩ := claim_of_queued valid.consistent before queued now
      rw [missed] at success
      cases success
  | execute worker runId attemptId run row registry claimed =>
      exact job.setWorker (by rw [claimed]; simp)
  | vanished worker runId attemptId claimed =>
      exact job.setWorker (by rw [claimed]; simp)
  | persist worker runId attemptId result now db executed =>
      exact job.setWorker (by rw [executed]; simp)
  | persistRaised worker runId attemptId result now executed =>
      exact job.setWorker (by rw [executed]; simp)

theorem served_step (valid : Valid world) (served : Served world)
    (step : Step accepts world world') : Served world' := by
  intro attempt row queued
  rcases step_queued step row queued with old | fresh
  · exact (served attempt old queued).step valid step old row queued
  · exact .beforeEnqueue fresh

theorem served_reached (reached : ReflTransGen (Step accepts) empty world) : Served world := by
  induction reached with
  | refl =>
      intro attempt row
      cases row
  | tail before last ih => exact served_step (valid_reached before) ih last

/-- A queued attempt has a job, and whoever takes the job claims the attempt. -/
theorem queued_attempt_has_job (reached : ReflTransGen (Step accepts) empty world)
    (attempt : RunAttempt) (row : attempt ∈ world.db.attempts.rows)
    (queued : attempt.status = .queued) :
    HasJob world attempt.id ∧
      ∀ now, ∃ claimed, claimAttempt world.db attempt.runId attempt.id now = some claimed ∧
        claimed.attempts.get? attempt.id = some (attempt.start now) := by
  refine ⟨served_reached reached attempt row queued, ?_⟩
  intro now
  exact claim_of_queued (valid_reached reached).consistent row queued now

theorem created_attempt_has_job :
    ∃ world, ReflTransGen (Step (fun _ => true)) empty world ∧ HasJob world 1 ∧
      ∃ claimed, claimAttempt world.db 1 1 7 = some claimed ∧
        claimed.attempts.get? 1 = some ((newAttempt 1 1 1 0).start 7) := by
  obtain ⟨world, run, present⟩ : ∃ world, ReflTransGen (Step (fun _ => true)) empty world ∧
      newAttempt 1 1 1 0 ∈ world.db.attempts.rows := by
    refine Transition.reach _ (.createProject "evals" none 0) ?_
    refine Transition.reach _ (.createRun ⟨1, "evals", none, 0⟩ sampleNew 0 0 rfl) ?_
    exact Transition.reached (List.mem_singleton.mpr rfl)
  obtain ⟨job, claims⟩ := queued_attempt_has_job run (newAttempt 1 1 1 0) present rfl
  exact ⟨world, run, job, claims 7⟩

end World

end Evalynx
