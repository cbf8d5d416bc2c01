import Evalynx.Outcomes
import Evalynx.ThreadPool

/-! The world with `BackgroundRunQueue` of `app/workers/queue.py` as its queue. -/

namespace Evalynx

open Relational Relation ThreadPool

namespace World

variable {accepts : TerminalValues → Bool} {world world' : World}

def attemptIds (world : World) : List Nat := world.db.attempts.rows.map RunAttempt.id

theorem attemptIds_claim {db claimed : Database} {runId attemptId : Nat} {now : Timestamp}
    (success : claimAttempt db runId attemptId now = some claimed) :
    claimed.attempts.rows.map RunAttempt.id = db.attempts.rows.map RunAttempt.id := by
  obtain ⟨attempt, run, -, -, -, -, -, rfl⟩ := (claimAttempt_eq_some _ _ _ _ _).mp success
  exact Table.ids_put db.attempts (attempt.start now)

theorem attemptIds_persist {db persisted : Database} {runId attemptId : Nat} {result : RunnerResult}
    {now : Timestamp}
    (success : persistTerminalResult accepts db runId attemptId result now = some persisted) :
    persisted.attempts.rows.map RunAttempt.id = db.attempts.rows.map RunAttempt.id := by
  simp only [persistTerminalResult] at success
  split at success
  · split at success
    · obtain rfl := Option.some.inj success
      rfl
    · rename_i one
      obtain rfl := Option.some.inj success
      obtain ⟨attempt, found, running⟩ := (Table.update_count _ _ _ _).mp (not_not.mp one)
      rw [Table.update_of_match _ _ _ _ _ found running]
      exact Table.ids_put db.attempts (attempt.finish (terminalValues result now))
  · cases success

inductive JobStep (world world' : World) : Prop where
  | kept (ids : world'.attemptIds = world.attemptIds)
      (enqueuing : world'.enqueuing = world.enqueuing)
      (queue : world'.queue.length ≤ world.queue.length)
  | created (attemptId : Nat) (ids : world'.attemptIds = world.attemptIds ++ [attemptId])
      (enqueuing : world'.enqueuing = attemptId :: world.enqueuing)
      (queue : world'.queue = world.queue)
  | handed (attemptId : Nat) (committed : attemptId ∈ world.enqueuing)
      (ids : world'.attemptIds = world.attemptIds)
      (enqueuing : world'.enqueuing = world.enqueuing.erase attemptId)
      (queue : world'.queue = world.queue ++ [attemptId])

theorem Step.jobStep (step : Step accepts world world') : JobStep world world' := by
  cases step with
  | createProject | createFailed | retryRead | retryConflict | retryFailed =>
      exact .kept rfl rfl (Nat.le_refl _)
  | deliver | unknown | claimMissed | execute | vanished | persistRaised =>
      exact .kept rfl rfl (Nat.le_refl _)
  | claim worker attemptId attempt now db delivered found success =>
      exact .kept (attemptIds_claim success) rfl (Nat.le_refl _)
  | persist worker runId attemptId result now db executed success =>
      exact .kept (attemptIds_persist success) rfl (Nat.le_refl _)
  | dequeue worker attemptId idle queued =>
      exact .kept rfl rfl (List.erase_sublist.length_le)
  | enqueue attemptId committed => exact .handed attemptId committed rfl rfl rfl
  | createRun project new runCreatedAt attemptCreatedAt found =>
      refine .created _ ?_ rfl rfl
      change (insertRun world.db new runCreatedAt attemptCreatedAt).1.attempts.rows.map _ = _
      rw [(insertRun_rows world.db new runCreatedAt attemptCreatedAt).2, List.map_append]
      rfl
  | retryWrite caller loaded now db attemptId pending inserted =>
      refine .created attemptId ?_ rfl rfl
      change db.attempts.rows.map _ = _
      rw [(insertRetry_rows inserted).2.2, List.map_append]
      rfl

end World

theorem World.AttemptStep.holder {world world' : World} (step : World.AttemptStep world world')
    {worker : Nat} {claim : Nat × Nat} (holds : World.held (world.workers worker) = some claim) :
    World.held (world'.workers worker) = some claim ∨ world'.workers worker = .idle := by
  cases step with
  | added fresh rows queued workers =>
      rcases (workers worker).held_after holds with same | idle
      · exact Or.inl (same ▸ holds)
      · exact Or.inr idle
  | claimed other attempt now found queued delivered rows workers =>
      have different : worker ≠ other := by
        rintro rfl
        rw [delivered] at holds
        cases holds
      rw [workers, Function.update_of_ne different]
      exact Or.inl holds
  | executed other runId attemptId run attempt registry claimed runFound attemptFound after =>
      left
      subst after
      refine World.held_setWorker holds ?_
      rintro rfl
      rw [claimed] at holds
      exact holds
  | persisted other attempt result now found executed running rows workers =>
      rw [workers]
      by_cases same : worker = other
      · subst same
        exact Or.inr (Function.update_self ..)
      · rw [Function.update_of_ne same]
        exact Or.inl holds

theorem WorkerPhase.job_of_held {phase : WorkerPhase} {runId attemptId : Nat}
    (holds : World.held phase = some (runId, attemptId)) : phase.job = some attemptId := by
  cases phase with
  | idle | delivered => cases holds
  | claimed | executed => exact congrArg (Option.map Prod.snd) holds

/-- The world and the executor of its queue: the queue holds what is pending, and the worker with
the number of a thread makes the call the thread is in. -/
structure Background where
  world : World
  executor : Pool Nat
  pending : executor.pending = world.queue
  threads : ∀ thread, executor.threads thread = (world.workers thread).job

namespace Background

def empty : Background where
  world := .empty
  executor := .empty
  pending := rfl
  threads := fun _ => rfl

theorem threads_set (state : Background) (thread : Nat) (phase : WorkerPhase) (other : Nat) :
    Function.update state.executor.threads thread phase.job other =
      ((state.world.setWorker thread phase).workers other).job := by
  by_cases same : other = thread
  · subst same
    simp [World.setWorker]
  · simpa [World.setWorker, same] using state.threads other

def started (state : Background) (thread attemptId : Nat) (rest : List Nat)
    (next : state.executor.pending = attemptId :: rest) : Background where
  world := { state.world.setWorker thread (.delivered attemptId) with
    queue := state.world.queue.erase attemptId }
  executor := { state.executor with
    pending := rest
    threads := Function.update state.executor.threads thread (some attemptId) }
  pending := by
    rw [← state.pending, next]
    exact (List.erase_cons_head attemptId rest).symm
  threads := threads_set state thread (.delivered attemptId)

def moved (state : Background) (db : Database) (thread : Nat) (phase : WorkerPhase)
    (same : phase.job = state.executor.threads thread) : Background where
  world := { state.world.setWorker thread phase with db := db }
  executor := state.executor
  pending := state.pending
  threads := by
    have threads := threads_set state thread phase
    rwa [same, Function.update_eq_self] at threads

def ended (state : Background) (db : Database) (thread attemptId : Nat) : Background where
  world := { state.world.setWorker thread .idle with db := db }
  executor := { state.executor with
    threads := Function.update state.executor.threads thread none
    done := state.executor.done ++ [attemptId] }
  pending := state.pending
  threads := threads_set state thread .idle

/-- A step of the world the executor has no part in, one it takes with the world (`submit` in
`enqueue`, the start and the end of a `process_attempt` call), or `shutdown`. A call that raises
ends like any other: its future keeps the exception and the thread goes on. -/
inductive Step (accepts : TerminalValues → Bool) (size : Nat) (state next : Background) : Prop where
  | aside (step : World.Step accepts state.world next.world)
      (executor : next.executor = state.executor)
  | together (step : World.Step accepts state.world next.world)
      (executor : Pool.Step size state.executor next.executor)
  | shutdown (world : next.world = state.world) (executor : next.executor = state.executor.shutdown)

variable {accepts : TerminalValues → Bool} {size : Nat} {state next : Background}

theorem Step.world (step : Step accepts size state next) :
    next.world = state.world ∨ World.Step accepts state.world next.world := by
  cases step with
  | aside step | together step => exact Or.inr step
  | shutdown world => exact Or.inl world

theorem world_reached (reached : ReflTransGen (Step accepts size) empty state) :
    ReflTransGen (World.Step accepts) .empty state.world := by
  induction reached with
  | refl => exact .refl
  | tail before last ih =>
      rcases last.world with same | step
      · exact same ▸ ih
      · exact ih.tail step

theorem sound_step (sound : state.executor.Sound size) (step : Step accepts size state next) :
    next.executor.Sound size := by
  cases step with
  | aside step executor => exact executor ▸ sound
  | together step executor => exact sound.step executor
  | shutdown world executor => exact executor ▸ sound.shutdown

theorem done_kept (step : Step accepts size state next) {attemptId : Nat}
    (done : attemptId ∈ state.executor.done) : attemptId ∈ next.executor.done := by
  cases step with
  | aside step executor => exact executor ▸ done
  | together step executor => exact executor.done_kept done
  | shutdown world executor =>
      rw [executor]
      exact done

theorem done_of_idle (step : Step accepts size state next) (thread : Nat) {attemptId : Nat}
    (busy : (state.world.workers thread).job = some attemptId)
    (idle : next.world.workers thread = .idle) : attemptId ∈ next.executor.done := by
  rw [← state.threads thread] at busy
  have free : next.executor.threads thread = none := by
    rw [next.threads thread, idle]
    rfl
  have unmoved (same : next.executor.threads = state.executor.threads) :
      attemptId ∈ next.executor.done := by
    rw [same, busy] at free
    cases free
  cases step with
  | aside step executor => exact unmoved (congrArg Pool.threads executor)
  | shutdown world executor => exact unmoved (executor ▸ rfl)
  | together step executor =>
      rcases executor.thread busy with still | ⟨-, done⟩
      · rw [free] at still
        cases still
      · exact done

structure Accounts (size : Nat) (state : Background) : Prop where
  sound : state.executor.Sound size
  handed : state.world.attemptIds.Perm (state.world.enqueuing ++ state.executor.submitted)
  started : ∀ attempt ∈ state.world.db.attempts.rows, attempt.status ≠ .queued →
    attempt.id ∈ state.executor.done ∨
      ∃ thread runId, World.held (state.world.workers thread) = some (runId, attempt.id)
  ended : ∀ attempt ∈ state.world.db.attempts.rows, attempt.status.terminal = true →
    attempt.id ∈ state.executor.done

theorem accounts_empty : Accounts size empty where
  sound := Pool.sound_empty size
  handed := List.Perm.refl []
  started := List.forall_mem_nil _
  ended := List.forall_mem_nil _

theorem handed_step (accounts : Accounts size state) (step : Step accepts size state next) :
    next.world.attemptIds.Perm (next.world.enqueuing ++ next.executor.submitted) := by
  have handed := accounts.handed
  -- without a `submit` the queue has not grown
  have created (submitted : next.executor.submitted = state.executor.submitted)
      (shorter : next.executor.pending.length ≤ state.executor.pending.length)
      (step : World.Step accepts state.world next.world) :
      next.world.attemptIds.Perm (next.world.enqueuing ++ next.executor.submitted) := by
    rw [submitted]
    rw [next.pending, state.pending] at shorter
    cases step.jobStep with
    | kept ids enqueuing queue => rwa [ids, enqueuing]
    | created attemptId ids enqueuing queue =>
        rw [ids, enqueuing]
        exact (handed.append_right [attemptId]).trans (List.perm_append_singleton attemptId _)
    | handed attemptId committed ids enqueuing queue =>
        rw [queue, List.length_append, List.length_singleton] at shorter
        omega
  cases step with
  | aside step executor =>
      exact created (congrArg Pool.submitted executor) (executor ▸ Nat.le_refl _) step
  | shutdown world executor =>
      rw [world, executor]
      exact handed
  | together step executor =>
      rcases executor.submitted with ⟨submitted, shorter⟩ | ⟨job, submitted, pending⟩
      · exact created submitted shorter step
      · rw [next.pending, state.pending] at pending
        rw [submitted]
        cases step.jobStep with
        | kept ids enqueuing queue =>
            rw [pending, List.length_append, List.length_singleton] at queue
            omega
        | created attemptId ids enqueuing queue =>
            rw [queue] at pending
            have longer := congrArg List.length pending
            rw [List.length_append, List.length_singleton] at longer
            omega
        | handed attemptId committed ids enqueuing queue =>
            rw [queue] at pending
            obtain rfl := List.singleton_inj.mp (List.append_cancel_left pending)
            rw [ids, enqueuing]
            have moved := (List.perm_cons_erase committed).append_right state.executor.submitted
            refine handed.trans (moved.trans ?_)
            rw [← List.append_assoc]
            exact (List.perm_append_singleton attemptId _).symm

theorem row_step (valid : World.Valid state.world) (step : Step accepts size state next)
    {attempt : RunAttempt} (row : attempt ∈ next.world.db.attempts.rows)
    (begun : attempt.status ≠ .queued) :
    attempt ∈ state.world.db.attempts.rows ∨ attempt.id ∈ next.executor.done ∨
      (attempt.status = .running ∧
        ∃ thread runId, World.held (next.world.workers thread) = some (runId, attempt.id)) := by
  rcases step.world with same | moved
  · rw [same] at row
    exact Or.inl row
  · cases moved.attemptStep valid with
    | added fresh rows queued workers =>
        rw [rows, List.mem_append] at row
        rcases row with old | new
        · exact Or.inl old
        · exact absurd (queued attempt new) begun
    | claimed worker claimed now found queued delivered rows workers =>
        rcases (rows attempt).mp row with rfl | ⟨old, -⟩
        · refine Or.inr (Or.inr ⟨rfl, worker, claimed.runId, ?_⟩)
          rw [workers, Function.update_self]
          rfl
        · exact Or.inl old
    | executed worker runId attemptId run given registry claimed runFound attemptFound after =>
        rw [after] at row
        exact Or.inl row
    | persisted worker persisted result now found executed running rows workers =>
        rcases (rows attempt).mp row with rfl | ⟨old, -⟩
        · refine Or.inr (Or.inl (done_of_idle step worker ?_ ?_))
          · rw [executed]
            rfl
          · rw [workers, Function.update_self]
        · exact Or.inl old

theorem accounts_step (valid : World.Valid state.world) (accounts : Accounts size state)
    (step : Step accepts size state next) : Accounts size next := by
  refine ⟨sound_step accounts.sound step, handed_step accounts step, ?_, ?_⟩
  · intro attempt row begun
    rcases row_step valid step row begun with old | done | ⟨-, holder⟩
    · rcases accounts.started attempt old begun with done | ⟨thread, runId, held⟩
      · exact Or.inl (done_kept step done)
      · rcases step.world with same | moved
        · exact Or.inr ⟨thread, runId, same ▸ held⟩
        · rcases (moved.attemptStep valid).holder held with still | idle
          · exact Or.inr ⟨thread, runId, still⟩
          · exact Or.inl (done_of_idle step thread (WorkerPhase.job_of_held held) idle)
    · exact Or.inl done
    · exact Or.inr holder
  · intro attempt row ended
    have begun : attempt.status ≠ .queued := by
      intro queued
      rw [queued] at ended
      cases ended
    rcases row_step valid step row begun with old | done | ⟨running, -⟩
    · exact done_kept step (accounts.ended attempt old ended)
    · exact done
    · rw [running] at ended
      cases ended

theorem accounts_reached (reached : ReflTransGen (Step accepts size) empty state) :
    Accounts size state := by
  induction reached with
  | refl => exact accounts_empty
  | tail before last ih => exact accounts_step (World.valid_reached (world_reached before)) ih last

namespace Accounts

variable (accounts : Accounts size state)

include accounts

theorem once : state.world.attemptIds.Perm (state.world.enqueuing ++ (state.executor.done ++
      (state.executor.running size ++ state.executor.pending))) :=
  accounts.handed.trans (accounts.sound.conserved.append_left _)

theorem apart : (state.world.enqueuing ++ (state.executor.done ++
    (state.executor.running size ++ state.executor.pending))).Nodup :=
  accounts.once.nodup_iff.mp state.world.db.attempts.nodup

theorem running_of_job {thread attemptId : Nat}
    (busy : (state.world.workers thread).job = some attemptId) :
    attemptId ∈ state.executor.running size :=
  (accounts.sound.mem_running attemptId).mpr ⟨thread, (state.threads thread).trans busy⟩

theorem running_of_held {thread runId attemptId : Nat}
    (held : World.held (state.world.workers thread) = some (runId, attemptId)) :
    attemptId ∈ state.executor.running size :=
  accounts.running_of_job (WorkerPhase.job_of_held held)

theorem enqueuing_apart {attemptId : Nat} (enqueuing : attemptId ∈ state.world.enqueuing) :
    attemptId ∉ state.executor.done ∧ attemptId ∉ state.executor.running size := by
  obtain ⟨-, -, apart⟩ := List.nodup_append.mp accounts.apart
  constructor
  · intro done
    exact apart _ enqueuing _ (List.mem_append_left _ done) rfl
  · intro running
    exact apart _ enqueuing _ (List.mem_append_right _ (List.mem_append_left _ running)) rfl

theorem pending_apart {attemptId : Nat} (pending : attemptId ∈ state.executor.pending) :
    attemptId ∉ state.executor.done ∧ attemptId ∉ state.executor.running size := by
  obtain ⟨-, handed, -⟩ := List.nodup_append.mp accounts.apart
  obtain ⟨-, started, apart⟩ := List.nodup_append.mp handed
  constructor
  · intro done
    exact apart _ done _ (List.mem_append_right _ pending) rfl
  · intro running
    exact (List.nodup_append.mp started).2.2 _ running _ pending rfl

theorem running_apart {attemptId : Nat} (running : attemptId ∈ state.executor.running size) :
    attemptId ∉ state.executor.done := by
  obtain ⟨-, handed, -⟩ := List.nodup_append.mp accounts.apart
  intro done
  exact (List.nodup_append.mp handed).2.2 _ done _ (List.mem_append_left _ running) rfl

theorem held_of_job {thread other runId attemptId : Nat}
    (held : World.held (state.world.workers thread) = some (runId, attemptId))
    (busy : (state.world.workers other).job = some attemptId) : thread = other := by
  have submitted : state.executor.submitted.Nodup :=
    (List.nodup_append.mp (accounts.handed.nodup_iff.mp state.world.db.attempts.nodup)).2.1
  exact accounts.sound.thread_unique submitted
    ((state.threads thread).trans (WorkerPhase.job_of_held held))
    ((state.threads other).trans busy)

end Accounts

/-- The attempt's creating call has yet to enqueue it, or it is pending, or the call of its thread
has yet to claim it. -/
def Waits (state : Background) (attemptId : Nat) : Prop :=
  attemptId ∈ state.world.enqueuing ∨ attemptId ∈ state.executor.pending ∨
    ∃ thread, state.world.workers thread = .delivered attemptId

theorem waits_not_begun (accounts : Accounts size state) {attemptId : Nat}
    (waits : Waits state attemptId) : attemptId ∉ state.executor.done ∧
      ∀ thread runId, World.held (state.world.workers thread) ≠ some (runId, attemptId) := by
  rcases waits with enqueuing | pending | ⟨other, delivered⟩
  · obtain ⟨notDone, notRunning⟩ := accounts.enqueuing_apart enqueuing
    exact ⟨notDone, fun thread runId held => notRunning (accounts.running_of_held held)⟩
  · obtain ⟨notDone, notRunning⟩ := accounts.pending_apart pending
    exact ⟨notDone, fun thread runId held => notRunning (accounts.running_of_held held)⟩
  · have busy : (state.world.workers other).job = some attemptId := by
      rw [delivered]
      rfl
    refine ⟨accounts.running_apart (accounts.running_of_job busy), ?_⟩
    intro thread runId held
    obtain rfl := accounts.held_of_job held busy
    rw [delivered] at held
    cases held

theorem queued_iff_waits (reached : ReflTransGen (Step accepts size) empty state)
    {attempt : RunAttempt} (row : attempt ∈ state.world.db.attempts.rows) :
    attempt.status = .queued ↔ Waits state attempt.id := by
  constructor
  · intro queued
    cases World.served_reached (world_reached reached) attempt row queued with
    | inQueue member => exact Or.inr (Or.inl (state.pending ▸ member))
    | beforeEnqueue member => exact Or.inl member
    | beforeClaim worker delivered => exact Or.inr (Or.inr ⟨worker, delivered⟩)
  · intro waits
    have accounts := accounts_reached reached
    obtain ⟨notDone, notHeld⟩ := waits_not_begun accounts waits
    by_contra begun
    rcases accounts.started attempt row begun with done | ⟨thread, runId, held⟩
    · exact notDone done
    · exact notHeld thread runId held

theorem running_iff_held (all : ∀ values, accepts values = true)
    (reached : ReflTransGen (Step accepts size) empty state) {attempt : RunAttempt}
    (row : attempt ∈ state.world.db.attempts.rows) :
    attempt.status = .running ↔
      ∃ thread, World.held (state.world.workers thread) = some (attempt.runId, attempt.id) := by
  refine ⟨World.attended_reached all (world_reached reached) attempt row, ?_⟩
  rintro ⟨thread, held⟩
  have accounts := accounts_reached reached
  have notDone := accounts.running_apart (accounts.running_of_held held)
  cases status : attempt.status with
  | running => rfl
  | queued =>
      exact absurd held
        ((waits_not_begun accounts ((queued_iff_waits reached row).mp status)).2 thread _)
  | succeeded | failed =>
      exact absurd (accounts.ended attempt row (by rw [status]; rfl)) notDone

theorem terminal_iff_done (all : ∀ values, accepts values = true)
    (reached : ReflTransGen (Step accepts size) empty state) {attempt : RunAttempt}
    (row : attempt ∈ state.world.db.attempts.rows) :
    attempt.status.terminal = true ↔ attempt.id ∈ state.executor.done := by
  have accounts := accounts_reached reached
  refine ⟨accounts.ended attempt row, ?_⟩
  intro done
  cases status : attempt.status with
  | succeeded | failed => rfl
  | queued =>
      exact absurd done (waits_not_begun accounts ((queued_iff_waits reached row).mp status)).1
  | running =>
      obtain ⟨thread, held⟩ := (running_iff_held all reached row).mp status
      exact absurd done (accounts.running_apart (accounts.running_of_held held))

/-! ### The threads at work -/

inductive Runs (accepts : TerminalValues → Bool) (size : Nat) (state next : Background) : Prop where
  | aside (works : World.Works accepts state.world next.world)
      (executor : next.executor = state.executor)
  | together (works : World.Works accepts state.world next.world)
      (executor : Pool.Step size state.executor next.executor)

theorem Runs.step (runs : Runs accepts size state next) : Step accepts size state next := by
  cases runs with
  | aside works executor => exact .aside works.step executor
  | together works executor => exact .together works.step executor

theorem Runs.works (runs : Runs accepts size state next) :
    World.Works accepts state.world next.world := by
  cases runs with
  | aside works | together works => exact works

theorem runs_started (thread : Nat) {attemptId : Nat} {rest : List Nat} (inside : thread < size)
    (free : state.world.workers thread = .idle)
    (next : state.executor.pending = attemptId :: rest) :
    Runs accepts size state (state.started thread attemptId rest next) := by
  have queued : attemptId ∈ state.world.queue := by
    rw [← state.pending, next]
    exact List.mem_cons_self
  have idle : state.executor.threads thread = none := by
    rw [state.threads thread, free]
    rfl
  exact .together (.dequeue thread attemptId free queued)
    (.start thread attemptId rest inside idle next)

theorem runs_moved (db : Database) (thread : Nat) (phase : WorkerPhase)
    (same : phase.job = state.executor.threads thread)
    (works : World.Works accepts state.world { state.world.setWorker thread phase with db := db }) :
    Runs accepts size state (state.moved db thread phase same) :=
  .aside works rfl

theorem runs_ended (db : Database) {thread attemptId : Nat}
    (busy : state.executor.threads thread = some attemptId)
    (works : World.Works accepts state.world { state.world.setWorker thread .idle with db := db }) :
    Runs accepts size state (state.ended db thread attemptId) :=
  .together works (.finish thread attemptId busy)

theorem sample_returned : ∃ state, ReflTransGen (Step (fun _ => true) 2) empty state ∧
    state.executor.Returned ∧ ∃ attempt ∈ state.world.db.attempts.rows,
      attempt.status = .succeeded := by
  refine Transition.reach ⟨_, _, rfl, fun _ => rfl⟩ (.aside (.createProject "evals" none 0) rfl) ?_
  refine Transition.reach ⟨_, _, rfl, fun _ => rfl⟩
    (.aside (.createRun ⟨1, "evals", none, 0⟩ sampleNew 0 0 rfl) rfl) ?_
  refine Transition.reach ⟨_, _, rfl, fun _ => rfl⟩
    (.together (.enqueue 1 List.mem_cons_self) (.submit 1 rfl)) ?_
  refine Transition.reach _ (runs_started 0 Nat.two_pos rfl rfl).step ?_
  refine Transition.reach _ (runs_moved sampleClaimed 0 (.claimed 1 1) rfl
    (.claim 0 1 (newAttempt 1 1 1 0) 1 sampleClaimed rfl rfl rfl)).step ?_
  refine Transition.reach _ (runs_moved sampleClaimed 0 (.executed 1 1 _) rfl
    (.execute 0 1 1 _ ((newAttempt 1 1 1 0).start 1)
      (buildRunnerRegistry (wargameRunner .nan) (.plain (fun _ => none) [])) rfl rfl rfl)).step ?_
  refine Transition.reach _ (runs_ended _ rfl (.persist 0 1 1 _ 2 _ rfl rfl)).step ?_
  refine Transition.reach ⟨_, Pool.shutdown _, rfl, Background.threads _⟩ (.shutdown rfl rfl) ?_
  refine Transition.reached ⟨⟨rfl, rfl, ?_⟩, _, List.mem_singleton.mpr rfl, rfl⟩
  intro thread
  by_cases here : thread = 0
  · subst here
    rfl
  · simp only [Pool.shutdown, ended, moved, started, Function.update_of_ne here]
    rfl

/-- The background queue hands every attempt to one call, and the status of an attempt says where it
is. -/
theorem background_queue_accounts (reached : ReflTransGen (Step accepts size) empty state) :
    ReflTransGen (World.Step accepts) .empty state.world ∧
      state.world.attemptIds.Perm (state.world.enqueuing ++ (state.executor.done ++
        (state.executor.running size ++ state.executor.pending))) ∧
      state.world.attemptIds.Nodup ∧ (state.executor.running size).length ≤ size ∧
      ∀ attempt ∈ state.world.db.attempts.rows,
        (attempt.status = .queued ↔ Waits state attempt.id) ∧
        ((∀ values, accepts values = true) →
          (attempt.status = .running ↔
            ∃ thread, World.held (state.world.workers thread) = some (attempt.runId, attempt.id)) ∧
          (attempt.status.terminal = true ↔ attempt.id ∈ state.executor.done)) :=
  ⟨world_reached reached, (accounts_reached reached).once, state.world.db.attempts.nodup,
    Pool.running_length size state.executor, fun _ row => ⟨queued_iff_waits reached row,
      fun all => ⟨running_iff_held all reached row, terminal_iff_done all reached row⟩⟩⟩

theorem background_queue_accounts_returned :
    ∃ state, ReflTransGen (Step (fun _ => true) 2) empty state ∧
      ∃ attempt ∈ state.world.db.attempts.rows, attempt.status = .succeeded ∧
        attempt.id ∈ state.executor.done := by
  obtain ⟨state, reached, -, attempt, row, succeeded⟩ := sample_returned
  obtain ⟨-, -, -, -, places⟩ := background_queue_accounts reached
  have done := ((places attempt row).2 (fun _ => rfl)).2.mp (by rw [succeeded]; rfl)
  exact ⟨state, reached, attempt, row, succeeded, done⟩

theorem returned_stays (returned : state.executor.Returned) {later : Background}
    (more : ReflTransGen (Step accepts size) state later) : later.executor = state.executor := by
  induction more with
  | refl => rfl
  | tail before last ih =>
      rename_i middle next
      have still : middle.executor.Returned := ih ▸ returned
      cases last with
      | aside step executor => exact executor.trans ih
      | together step executor => exact absurd executor still.stays
      | shutdown world executor => exact executor.trans (still.shutdown.trans ih)

/-- When `shutdown` has returned every submitted attempt has come to its end, and from then on
attempts are queued only where `enqueue` came too late. -/
theorem background_shutdown_completes (all : ∀ values, accepts values = true)
    (reached : ReflTransGen (Step accepts size) empty state) (returned : state.executor.Returned)
    (later : Background) (more : ReflTransGen (Step accepts size) state later) :
    later.executor = state.executor ∧ later.executor.submitted.Perm later.executor.done ∧
      ∀ attempt ∈ later.world.db.attempts.rows,
        (attempt.id ∈ later.executor.submitted ∧ attempt.status.terminal = true) ∨
          (attempt.id ∈ later.world.enqueuing ∧ attempt.status = .queued) := by
  have same := returned_stays returned more
  have still : later.executor.Returned := same ▸ returned
  have reachedLater := reached.trans more
  have done := still.submitted (accounts_reached reachedLater).sound
  have free (thread : Nat) : (later.world.workers thread).job = none :=
    (later.threads thread).symm.trans (still.free thread)
  refine ⟨same, done, ?_⟩
  intro attempt row
  have ended (terminal : attempt.status.terminal = true) :
      attempt.id ∈ later.executor.submitted ∧ attempt.status.terminal = true :=
    ⟨done.mem_iff.mpr ((terminal_iff_done all reachedLater row).mp terminal), terminal⟩
  cases status : attempt.status with
  | succeeded | failed =>
      left
      rw [← status]
      exact ended (by rw [status]; rfl)
  | running =>
      obtain ⟨thread, held⟩ := (running_iff_held all reachedLater row).mp status
      have busy := (WorkerPhase.job_of_held held).symm.trans (free thread)
      cases busy
  | queued =>
      right
      rcases (queued_iff_waits reachedLater row).mp status with
        enqueuing | pending | ⟨thread, phase⟩
      · exact ⟨enqueuing, rfl⟩
      · rw [still.pending] at pending
        cases pending
      · have busy := free thread
        rw [phase] at busy
        cases busy

theorem background_shutdown_completes_returned :
    ∃ state, ReflTransGen (Step (fun _ => true) 2) empty state ∧ state.executor.Returned ∧
      state.executor.submitted.Perm state.executor.done ∧ state.world.db.attempts.rows ≠ [] := by
  obtain ⟨state, reached, returned, attempt, row, -⟩ := sample_returned
  obtain ⟨-, done, -⟩ :=
    background_shutdown_completes (fun _ => rfl) reached returned state .refl
  exact ⟨state, reached, returned, done, List.ne_nil_of_mem row⟩

theorem returned_or_runs (sized : 0 < size) (down : state.executor.down = true) :
    state.executor.Returned ∨ ∃ next, Runs accepts size state next := by
  by_cases free : ∀ thread, state.executor.threads thread = none
  · cases pending : state.executor.pending with
    | nil => exact Or.inl ⟨down, pending, free⟩
    | cons attemptId rest =>
        have idle := WorkerPhase.eq_idle ((state.threads 0).symm.trans (free 0))
        exact Or.inr ⟨_, runs_started 0 sized idle pending⟩
  · right
    obtain ⟨thread, busy⟩ := not_forall.mp free
    obtain ⟨attemptId, busy⟩ := Option.ne_none_iff_exists'.mp busy
    obtain ⟨db, phase, works, same | rfl⟩ :=
      World.busy_works ((state.threads thread).symm.trans busy)
    · exact ⟨_, runs_moved db thread phase (same.trans busy.symm) works⟩
    · exact ⟨_, runs_ended db busy works⟩

structure Waiting (size : Nat) (submitted : List Nat) (steps : Nat) (state : Background) : Prop where
  down : state.executor.down = true
  submitted : state.executor.submitted = submitted
  sound : state.executor.Sound size
  left : World.Left state.world steps

theorem Waiting.runs {submitted : List Nat} {steps : Nat}
    (waiting : Waiting size submitted steps state) (runs : Runs accepts size state next) :
    ∃ fewer, fewer < steps ∧ Waiting size submitted fewer next := by
  obtain ⟨fewer, less, left⟩ := waiting.left.works runs.works
  have sound := sound_step waiting.sound runs.step
  refine ⟨fewer, less, ?_⟩
  cases runs with
  | aside works executor =>
      exact ⟨executor ▸ waiting.down, executor ▸ waiting.submitted, sound, left⟩
  | together works executor =>
      obtain ⟨down, same⟩ := executor.down_kept waiting.down
      exact ⟨down, same.trans waiting.submitted, sound, left⟩

/-- A `shutdown` that waits comes to its end, whatever the order of the threads, and by then every
job submitted before it is done, with those that were pending. -/
theorem shutdown_returns (sized : 0 < size)
    (reached : ReflTransGen (Step accepts size) empty state) (down : state.executor.down = true) :
    Potential.Inevitable (Runs accepts size)
      (fun later => later.executor.Returned ∧ later.executor.done.Perm state.executor.submitted)
      state := by
  obtain ⟨busy, total⟩ := World.left_reached (world_reached reached)
  refine Potential.Inevitable.of_rank (Waiting size state.executor.submitted) ?_ ?_
    ⟨down, rfl, (accounts_reached reached).sound, busy, total, rfl⟩
  · intro steps later next waiting runs
    exact waiting.runs runs
  · intro steps later waiting
    rcases returned_or_runs sized waiting.down with returned | runs
    · left
      have done := returned.submitted waiting.sound
      rw [waiting.submitted] at done
      exact ⟨returned, done.symm⟩
    · exact Or.inr runs

theorem shutdown_returns_pending :
    ∃ state, ReflTransGen (Step (fun _ => true) 1) empty state ∧
      state.executor.pending = [2] ∧ state.world.workers 0 = .delivered 1 ∧
      Potential.Inevitable (Runs (fun _ => true) 1)
        (fun later => later.executor.Returned ∧ later.executor.done.Perm [1, 2]) state := by
  obtain ⟨state, run, down, submitted, places⟩ : ∃ state,
      ReflTransGen (Step (fun _ => true) 1) empty state ∧ state.executor.down = true ∧
        state.executor.submitted = [1, 2] ∧ state.executor.pending = [2] ∧
        state.world.workers 0 = .delivered 1 := by
    refine Transition.reach ⟨_, _, rfl, fun _ => rfl⟩
      (.aside (.createProject "evals" none 0) rfl) ?_
    refine Transition.reach ⟨_, _, rfl, fun _ => rfl⟩
      (.aside (.createRun ⟨1, "evals", none, 0⟩ sampleNew 0 0 rfl) rfl) ?_
    refine Transition.reach ⟨_, _, rfl, fun _ => rfl⟩
      (.aside (.createRun ⟨1, "evals", none, 0⟩ sampleNew 0 0 rfl) rfl) ?_
    refine Transition.reach ⟨_, _, rfl, fun _ => rfl⟩
      (.together (.enqueue 1 (List.mem_cons_of_mem 2 List.mem_cons_self)) (.submit 1 rfl)) ?_
    refine Transition.reach ⟨_, _, rfl, fun _ => rfl⟩
      (.together (.enqueue 2 List.mem_cons_self) (.submit 2 rfl)) ?_
    refine Transition.reach _ (runs_started 0 Nat.one_pos rfl rfl).step ?_
    refine Transition.reach ⟨_, Pool.shutdown _, rfl, Background.threads _⟩ (.shutdown rfl rfl) ?_
    exact Transition.reached ⟨rfl, rfl, rfl, rfl⟩
  have returns := shutdown_returns Nat.one_pos run down
  rw [submitted] at returns
  exact ⟨state, run, places.1, places.2, returns⟩

end Background

end Evalynx
