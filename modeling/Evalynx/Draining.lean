import Evalynx.Clocked
import Evalynx.Jobs
import Evalynx.Potential

/-! When the callers stop, the workers bring every attempt to its end. -/

namespace Evalynx

open Relational Relation

def WorkerPhase.job : WorkerPhase → Option Nat
  | .idle => none
  | .delivered attemptId | .claimed _ attemptId | .executed _ attemptId _ => some attemptId

theorem WorkerPhase.eq_idle {phase : WorkerPhase} (free : phase.job = none) : phase = .idle := by
  cases phase with
  | idle => rfl
  | delivered | claimed | executed => cases free

namespace World

/-- A step of the queue or of a worker whose call goes on. What `Step` has beyond these are the
callers and the deliveries the queue does not account for. -/
inductive Works (accepts : TerminalValues → Bool) (world : World) : World → Prop where
  | enqueue (attemptId : Nat) (committed : attemptId ∈ world.enqueuing) :
      Works accepts world { world with
        queue := world.queue ++ [attemptId]
        enqueuing := world.enqueuing.erase attemptId }
  | dequeue (worker attemptId : Nat) (idle : world.workers worker = .idle)
      (queued : attemptId ∈ world.queue) :
      Works accepts world
        { world.setWorker worker (.delivered attemptId) with queue := world.queue.erase attemptId }
  | unknown (worker attemptId : Nat) (delivered : world.workers worker = .delivered attemptId)
      (missing : world.db.attempts.get? attemptId = none) :
      Works accepts world (world.setWorker worker .idle)
  | claim (worker attemptId : Nat) (attempt : RunAttempt) (now : Timestamp) (db : Database)
      (delivered : world.workers worker = .delivered attemptId)
      (found : world.db.attempts.get? attemptId = some attempt)
      (success : claimAttempt world.db attempt.runId attemptId now = some db) :
      Works accepts world
        { world.setWorker worker (.claimed attempt.runId attemptId) with db := db }
  | claimMissed (worker attemptId : Nat) (attempt : RunAttempt) (now : Timestamp)
      (delivered : world.workers worker = .delivered attemptId)
      (found : world.db.attempts.get? attemptId = some attempt)
      (missed : claimAttempt world.db attempt.runId attemptId now = none) :
      Works accepts world (world.setWorker worker .idle)
  | execute (worker runId attemptId : Nat) (run : Run) (attempt : RunAttempt)
      (registry : RunnerRegistry) (claimed : world.workers worker = .claimed runId attemptId)
      (runFound : world.db.runs.get? runId = some run)
      (attemptFound : world.db.attempts.get? attemptId = some attempt) :
      Works accepts world (world.setWorker worker
        (.executed runId attemptId (executeAttempt registry run attempt).1))
  | vanished (worker runId attemptId : Nat)
      (claimed : world.workers worker = .claimed runId attemptId)
      (missing : world.db.runs.get? runId = none ∨ world.db.attempts.get? attemptId = none) :
      Works accepts world (world.setWorker worker .idle)
  | persist (worker runId attemptId : Nat) (result : RunnerResult) (now : Timestamp)
      (db : Database) (executed : world.workers worker = .executed runId attemptId result)
      (success : persistTerminalResult accepts world.db runId attemptId result now = some db) :
      Works accepts world { world.setWorker worker .idle with db := db }
  | persistRaised (worker runId attemptId : Nat) (result : RunnerResult) (now : Timestamp)
      (executed : world.workers worker = .executed runId attemptId result)
      (refused : persistTerminalResult accepts world.db runId attemptId result now = none) :
      Works accepts world (world.setWorker worker .idle)

variable {accepts : TerminalValues → Bool} {world world' : World}

theorem Works.step (works : Works accepts world world') : Step accepts world world' := by
  cases works with
  | enqueue attemptId committed => exact .enqueue attemptId committed
  | dequeue worker attemptId idle queued => exact .dequeue worker attemptId idle queued
  | unknown worker attemptId delivered missing => exact .unknown worker attemptId delivered missing
  | claim worker attemptId attempt now db delivered found success =>
      exact .claim worker attemptId attempt now db delivered found success
  | claimMissed worker attemptId attempt now delivered found missed =>
      exact .claimMissed worker attemptId attempt now delivered found missed
  | execute worker runId attemptId run attempt registry claimed runFound attemptFound =>
      exact .execute worker runId attemptId run attempt registry claimed runFound attemptFound
  | vanished worker runId attemptId claimed missing =>
      exact .vanished worker runId attemptId claimed missing
  | persist worker runId attemptId result now db executed success =>
      exact .persist worker runId attemptId result now db executed success
  | persistRaised worker runId attemptId result now executed refused =>
      exact .persistRaised worker runId attemptId result now executed refused

def left : WorkerPhase → Nat
  | .idle => 0
  | .delivered _ => 3
  | .claimed _ _ => 2
  | .executed _ _ _ => 1

def lefts (world : World) : Nat → Nat := fun worker => left (world.workers worker)

/-- A commit to enqueue is five steps of work, a job in the queue four. -/
def Left (world : World) (steps : Nat) : Prop :=
  ∃ busy, Potential.Total world.lefts busy ∧
    steps = 5 * world.enqueuing.length + 4 * world.queue.length + busy

theorem lefts_set {busy : Nat} (total : Potential.Total world.lefts busy) (worker : Nat)
    (phase : WorkerPhase) :
    ∃ later, Potential.Total (world.setWorker worker phase).lefts later ∧
      later + left (world.workers worker) = busy + left phase := by
  have sum : Potential.Total (fun worker => left (world.workers worker)) busy := total
  exact sum.update_state worker phase

theorem left_step (step : Step accepts world world') {busy : Nat}
    (total : Potential.Total world.lefts busy) : ∃ later, Potential.Total world'.lefts later := by
  cases step with
  | createProject | createRun | createFailed | enqueue => exact ⟨busy, total⟩
  | retryRead | retryWrite | retryConflict | retryFailed => exact ⟨busy, total⟩
  | dequeue worker | deliver worker | unknown worker | claim worker | claimMissed worker
  | execute worker | vanished worker | persist worker | persistRaised worker =>
      obtain ⟨later, moved, -⟩ := lefts_set total worker _
      exact ⟨later, moved⟩

theorem left_reached (reached : ReflTransGen (Step accepts) empty world) :
    ∃ busy, Potential.Total world.lefts busy := by
  induction reached with
  | refl => exact ⟨0, Potential.Total.zero⟩
  | tail before last ih =>
      obtain ⟨busy, total⟩ := ih
      exact left_step last total

theorem Left.served {steps worker : Nat} {phase : WorkerPhase} (rest : Left world steps)
    (db : Database) (less : left phase < left (world.workers worker)) :
    ∃ fewer, fewer < steps ∧ Left { world.setWorker worker phase with db := db } fewer := by
  obtain ⟨busy, total, rfl⟩ := rest
  obtain ⟨later, moved, balance⟩ := lefts_set total worker phase
  refine ⟨5 * world.enqueuing.length + 4 * world.queue.length + later, ?_, later, moved, rfl⟩
  omega

theorem Left.works {steps : Nat} (rest : Left world steps) (works : Works accepts world world') :
    ∃ fewer, fewer < steps ∧ Left world' fewer := by
  cases works with
  | enqueue attemptId committed =>
      obtain ⟨busy, total, rfl⟩ := rest
      have one := List.length_erase_of_mem committed
      have some := List.length_pos_of_mem committed
      refine ⟨_, ?_, busy, total, rfl⟩
      simp only [List.length_append, List.length_singleton]
      omega
  | dequeue worker attemptId idle queued =>
      obtain ⟨busy, total, rfl⟩ := rest
      obtain ⟨later, moved, balance⟩ := lefts_set total worker (.delivered attemptId)
      have one := List.length_erase_of_mem queued
      have some := List.length_pos_of_mem queued
      have before : left (world.workers worker) = 0 := by
        rw [idle]
        rfl
      have after : left (.delivered attemptId) = 3 := rfl
      refine ⟨_, ?_, later, moved, rfl⟩
      change 5 * world.enqueuing.length + 4 * (world.queue.erase attemptId).length + later < _
      omega
  | unknown worker attemptId delivered | claimMissed worker attemptId _ _ delivered =>
      exact rest.served world.db (by rw [delivered]; simp [left])
  | claim worker attemptId attempt now db delivered =>
      exact rest.served db (by rw [delivered]; simp [left])
  | execute worker runId attemptId run attempt registry claimed =>
      exact rest.served world.db (by rw [claimed]; simp [left])
  | vanished worker runId attemptId claimed =>
      exact rest.served world.db (by rw [claimed]; simp [left])
  | persist worker runId attemptId result now db executed =>
      exact rest.served db (by rw [executed]; simp [left])
  | persistRaised worker runId attemptId result now executed =>
      exact rest.served world.db (by rw [executed]; simp [left])

theorem running_of_persist {db persisted : Database} (consistent : Consistent db)
    {attempt : RunAttempt} {result : RunnerResult} {now : Timestamp}
    (found : db.attempts.get? attempt.id = some attempt)
    (success : persistTerminalResult accepts db attempt.runId attempt.id result now =
      some persisted)
    {other : RunAttempt} (row : other ∈ persisted.attempts.rows)
    (running : other.status = .running) : other ∈ db.attempts.rows ∧ other.id ≠ attempt.id := by
  by_cases before : attempt.status = .running
  · obtain ⟨run, past, key, runFound, lineage, rfl⟩ :=
      persist_writes consistent found before success
    have rows := mem_putAttempt (attempt.finish (terminalValues result now)) found
    rcases (rows other).mp row with rfl | kept
    · have terminal := terminalStatus_terminal result
      change terminalStatus result = .running at running
      rw [running] at terminal
      cases terminal
    · exact kept
  · obtain rfl := persist_skips found before success
    refine ⟨row, ?_⟩
    intro same
    have present := Table.get?_of_mem row
    rw [rowId_attempt, same, found] at present
    obtain rfl := Option.some.inj present
    exact before running

def Attended (world : World) : Prop :=
  ∀ attempt ∈ world.db.attempts.rows, attempt.status = .running →
    ∃ worker, held (world.workers worker) = some (attempt.runId, attempt.id)

theorem step_running (valid : Valid world) (step : Step accepts world world')
    {attempt : RunAttempt} (row : attempt ∈ world'.db.attempts.rows)
    (running : attempt.status = .running) :
    attempt ∈ world.db.attempts.rows ∨
      ∃ worker, held (world'.workers worker) = some (attempt.runId, attempt.id) := by
  cases step with
  | createProject | createFailed | enqueue => exact Or.inl row
  | retryRead | retryConflict | retryFailed => exact Or.inl row
  | dequeue | deliver | unknown | claimMissed => exact Or.inl row
  | execute | vanished | persistRaised => exact Or.inl row
  | createRun project new runCreatedAt attemptCreatedAt found =>
      have rows := (insertRun_rows world.db new runCreatedAt attemptCreatedAt).2
      change attempt ∈ (insertRun world.db new runCreatedAt attemptCreatedAt).1.attempts.rows at row
      rw [rows, List.mem_append, List.mem_singleton] at row
      rcases row with old | rfl
      · exact Or.inl old
      · cases running
  | retryWrite caller loaded now db attemptId pending inserted =>
      have rows := (insertRetry_rows inserted).2.2
      change attempt ∈ db.attempts.rows at row
      rw [rows, List.mem_append, List.mem_singleton] at row
      rcases row with old | rfl
      · exact Or.inl old
      · cases running
  | claim worker attemptId moved now db delivered found success =>
      obtain rfl : moved.id = attemptId := Table.get?_id found
      rcases ((claim_rows found success).2 attempt).mp row with rfl | ⟨old, -⟩
      · exact Or.inr ⟨worker, by simp [setWorker, held, RunAttempt.start]⟩
      · exact Or.inl old
  | persist worker runId attemptId result now db executed success =>
      obtain ⟨moved, found, rfl⟩ := valid.workers worker runId attemptId (by rw [executed]; rfl)
      obtain rfl : moved.id = attemptId := Table.get?_id found
      exact Or.inl (running_of_persist valid.consistent found success row running).1

theorem held_setWorker {worker holder : Nat} {phase : WorkerPhase} {claim : Nat × Nat}
    (holding : held (world.workers holder) = some claim)
    (keeps : holder = worker → held phase = some claim) :
    held ((world.setWorker worker phase).workers holder) = some claim := by
  by_cases same : holder = worker
  · subst same
    simpa [setWorker] using keeps rfl
  · simpa [setWorker, same] using holding

theorem step_holder (all : ∀ values, accepts values = true) (valid : Valid world)
    (step : Step accepts world world') {attempt : RunAttempt} {holder : Nat}
    (holding : held (world.workers holder) = some (attempt.runId, attempt.id))
    (row : attempt ∈ world'.db.attempts.rows) (running : attempt.status = .running) :
    held (world'.workers holder) = some (attempt.runId, attempt.id) := by
  cases step with
  | createProject | createRun | createFailed | enqueue => exact holding
  | retryRead | retryWrite | retryConflict | retryFailed => exact holding
  | dequeue worker attemptId idle | deliver worker attemptId idle =>
      refine held_setWorker holding ?_
      rintro rfl
      rw [idle] at holding
      cases holding
  | unknown worker attemptId delivered | claimMissed worker attemptId _ _ delivered =>
      refine held_setWorker holding ?_
      rintro rfl
      rw [delivered] at holding
      cases holding
  | claim worker attemptId moved now db delivered =>
      refine held_setWorker holding ?_
      rintro rfl
      rw [delivered] at holding
      cases holding
  | execute worker runId attemptId run moved registry claimed =>
      refine held_setWorker holding ?_
      rintro rfl
      rw [claimed] at holding
      exact holding
  | vanished worker runId attemptId claimed missing =>
      refine held_setWorker holding ?_
      rintro rfl
      obtain ⟨moved, found, owner⟩ := valid.workers holder runId attemptId (by rw [claimed]; rfl)
      obtain ⟨run, _, _, runFound, _⟩ := valid.consistent.of_attempt (Table.get?_mem found)
      rw [owner] at runFound
      rcases missing with noRun | noAttempt
      · rw [runFound] at noRun
        cases noRun
      · rw [found] at noAttempt
        cases noAttempt
  | persist worker runId attemptId result now db executed success =>
      refine held_setWorker holding ?_
      rintro rfl
      obtain ⟨moved, found, rfl⟩ := valid.workers holder runId attemptId (by rw [executed]; rfl)
      obtain rfl : moved.id = attemptId := Table.get?_id found
      obtain ⟨-, different⟩ := running_of_persist valid.consistent found success row running
      rw [executed] at holding
      obtain ⟨-, same⟩ := Prod.mk.inj (Option.some.inj holding)
      exact absurd same.symm different
  | persistRaised worker runId attemptId result now executed refused =>
      simp only [persistTerminalResult, all, if_true] at refused
      split at refused <;> cases refused

theorem attended_reached (all : ∀ values, accepts values = true)
    (reached : ReflTransGen (Step accepts) empty world) : Attended world := by
  induction reached with
  | refl =>
      intro attempt row
      cases row
  | tail before last ih =>
      have valid := valid_reached before
      intro attempt row running
      rcases step_running valid last row running with old | holding
      · obtain ⟨holder, holding⟩ := ih attempt old running
        exact ⟨holder, step_holder all valid last holding row running⟩
      · exact holding

/-- No job is left, and every attempt and run has come to its end. A database that refuses the
values of a result leaves the attempt RUNNING. -/
structure Drained (accepts : TerminalValues → Bool) (world : World) : Prop where
  queue : world.queue = [] ∧ world.enqueuing = []
  workers : ∀ worker, world.workers worker = .idle
  claimed : ∀ attempt ∈ world.db.attempts.rows, attempt.status ≠ .queued
  attempts : (∀ values, accepts values = true) →
    ∀ attempt ∈ world.db.attempts.rows, attempt.status.terminal = true
  runs : (∀ values, accepts values = true) →
    ∀ run ∈ world.db.runs.rows, run.status.terminal = true

theorem busy_works {worker attemptId : Nat} (busy : (world.workers worker).job = some attemptId) :
    ∃ db phase, Works accepts world { world.setWorker worker phase with db := db } ∧
      (phase.job = some attemptId ∨ phase = .idle) := by
  cases phase : world.workers worker with
  | idle =>
      rw [phase] at busy
      cases busy
  | delivered held =>
      rw [phase] at busy
      obtain rfl := Option.some.inj busy
      cases found : world.db.attempts.get? held with
      | none => exact ⟨_, _, .unknown worker held phase found, Or.inr rfl⟩
      | some attempt =>
          cases success : claimAttempt world.db attempt.runId held 0 with
          | none => exact ⟨_, _, .claimMissed worker held attempt 0 phase found success, Or.inr rfl⟩
          | some db => exact ⟨_, _, .claim worker held attempt 0 db phase found success, Or.inl rfl⟩
  | claimed runId held =>
      rw [phase] at busy
      obtain rfl := Option.some.inj busy
      cases runFound : world.db.runs.get? runId with
      | none => exact ⟨_, _, .vanished worker runId held phase (Or.inl runFound), Or.inr rfl⟩
      | some run =>
          cases found : world.db.attempts.get? held with
          | none => exact ⟨_, _, .vanished worker runId held phase (Or.inr found), Or.inr rfl⟩
          | some attempt =>
              exact ⟨_, _, .execute worker runId held run attempt [] phase runFound found, Or.inl rfl⟩
  | executed runId held result =>
      rw [phase] at busy
      obtain rfl := Option.some.inj busy
      cases success : persistTerminalResult accepts world.db runId held result 0 with
      | none => exact ⟨_, _, .persistRaised worker runId held result 0 phase success, Or.inr rfl⟩
      | some db => exact ⟨_, _, .persist worker runId held result 0 db phase success, Or.inr rfl⟩

theorem drained_of_idle (reached : ReflTransGen (Step accepts) empty world)
    (queue : world.queue = []) (enqueuing : world.enqueuing = [])
    (idle : ∀ worker, world.workers worker = .idle) : Drained accepts world := by
  have claimed : ∀ attempt ∈ world.db.attempts.rows, attempt.status ≠ .queued := by
    intro attempt row queued
    cases served_reached reached attempt row queued with
    | inQueue member => simp [queue] at member
    | beforeEnqueue member => simp [enqueuing] at member
    | beforeClaim worker delivered => simp [idle worker] at delivered
  have attempts : (∀ values, accepts values = true) →
      ∀ attempt ∈ world.db.attempts.rows, attempt.status.terminal = true := by
    intro all attempt row
    cases status : attempt.status with
    | queued => exact absurd status (claimed attempt row)
    | running =>
        obtain ⟨worker, holding⟩ := attended_reached all reached attempt row status
        rw [idle worker] at holding
        cases holding
    | succeeded | failed => rfl
  refine ⟨⟨queue, enqueuing⟩, idle, claimed, attempts, ?_⟩
  intro all run row
  obtain ⟨past, current, lineage⟩ := (valid_reached reached).consistent.lineage run row
  rw [lineage.status]
  exact attempts all current lineage.current_mem.1

theorem works_or_drained (reached : ReflTransGen (Step accepts) empty world) :
    Drained accepts world ∨ ∃ next, Works accepts world next := by
  by_cases idle : ∀ worker, (world.workers worker).job = none
  · replace idle worker := WorkerPhase.eq_idle (idle worker)
    cases enqueuing : world.enqueuing with
    | cons attemptId others =>
        exact Or.inr ⟨_, .enqueue attemptId (by simp [enqueuing])⟩
    | nil =>
        cases queue : world.queue with
        | nil => exact Or.inl (drained_of_idle reached queue enqueuing idle)
        | cons attemptId others =>
            exact Or.inr ⟨_, .dequeue 0 attemptId (idle 0) (by simp [queue])⟩
  · obtain ⟨worker, busy⟩ := not_forall.mp idle
    obtain ⟨attemptId, held⟩ := Option.ne_none_iff_exists'.mp busy
    obtain ⟨db, phase, works, -⟩ := busy_works held
    exact Or.inr ⟨_, works⟩

/-- From every state that requests, workers and duplicate deliveries can lead to, the workers
alone come to an end in which nothing is left to do, whatever their order. -/
theorem work_drains (reached : ReflTransGen (Step accepts) empty world) :
    Potential.Inevitable (Works accepts) (Drained accepts) world := by
  obtain ⟨busy, total⟩ := left_reached reached
  refine Potential.Inevitable.of_rank
    (fun steps state => ReflTransGen (Step accepts) empty state ∧ Left state steps) ?_ ?_
    ⟨reached, busy, total, rfl⟩
  · intro steps state next ⟨before, rest⟩ works
    obtain ⟨fewer, less, later⟩ := rest.works works
    exact ⟨fewer, less, before.tail works.step, later⟩
  · intro steps state ⟨before, _⟩
    exact works_or_drained before

theorem work_drains_delivered_twice :
    ∃ world, ReflTransGen (Step (fun _ => true)) empty world ∧ world.enqueuing = [1] ∧
      world.workers 0 = .delivered 1 ∧ world.workers 1 = .delivered 1 ∧
      Potential.Inevitable (Works (fun _ => true)) (Drained (fun _ => true)) world := by
  obtain ⟨world, run, enqueuing, first, second⟩ : ∃ world,
      ReflTransGen (Step (fun _ => true)) empty world ∧ world.enqueuing = [1] ∧
        world.workers 0 = .delivered 1 ∧ world.workers 1 = .delivered 1 := by
    refine Transition.reach _ (.createProject "evals" none 0) ?_
    refine Transition.reach _ (.createRun ⟨1, "evals", none, 0⟩ sampleNew 0 0 rfl) ?_
    refine Transition.reach _ (.deliver 0 1 rfl) ?_
    refine Transition.reach _ (.deliver 1 1 rfl) ?_
    exact Transition.reached ⟨rfl, rfl, rfl⟩
  exact ⟨world, run, enqueuing, first, second, work_drains run⟩

end World

end Evalynx
