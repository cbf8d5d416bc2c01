import Evalynx.Draining
import Evalynx.HashedRequest
import Evalynx.Holding

namespace Evalynx

open Relational Relation Holding

namespace World

def heldAttempt (phase : WorkerPhase) : Option Nat := (held phase).map Prod.snd

theorem heldAttempt_eq_some {phase : WorkerPhase} {attemptId : Nat} :
    heldAttempt phase = some attemptId ↔ ∃ runId, held phase = some (runId, attemptId) := by
  simp [heldAttempt]

variable {accepts : TerminalValues → Bool} {world world' : World}

inductive Rests : WorkerPhase → WorkerPhase → Prop where
  | stays (phase : WorkerPhase) : Rests phase phase
  | ends (phase : WorkerPhase) : Rests phase .idle
  | begins (attemptId : Nat) : Rests .idle (.delivered attemptId)

theorem Rests.held_before {before after : WorkerPhase} (rests : Rests before after)
    {claim : Nat × Nat} (holds : held after = some claim) : after = before := by
  cases rests with
  | stays => rfl
  | ends | begins => cases holds

theorem Rests.held_after {before after : WorkerPhase} (rests : Rests before after)
    {claim : Nat × Nat} (holds : held before = some claim) : after = before ∨ after = .idle := by
  cases rests with
  | stays => exact Or.inl rfl
  | ends => exact Or.inr rfl
  | begins => cases holds

inductive AttemptStep (world world' : World) : Prop where
  | added (fresh : List RunAttempt)
      (rows : world'.db.attempts.rows = world.db.attempts.rows ++ fresh)
      (queued : ∀ attempt ∈ fresh, attempt.status = .queued)
      (workers : ∀ worker, Rests (world.workers worker) (world'.workers worker))
  | claimed (worker : Nat) (attempt : RunAttempt) (now : Timestamp)
      (found : world.db.attempts.get? attempt.id = some attempt)
      (queued : attempt.status = .queued)
      (delivered : world.workers worker = .delivered attempt.id)
      (rows : ∀ other, other ∈ world'.db.attempts.rows ↔
        other = attempt.start now ∨ (other ∈ world.db.attempts.rows ∧ other.id ≠ attempt.id))
      (workers : world'.workers =
        Function.update world.workers worker (.claimed attempt.runId attempt.id))
  | executed (worker runId attemptId : Nat) (run : Run) (attempt : RunAttempt)
      (registry : RunnerRegistry) (claimed : world.workers worker = .claimed runId attemptId)
      (runFound : world.db.runs.get? runId = some run)
      (attemptFound : world.db.attempts.get? attemptId = some attempt)
      (after : world' = world.setWorker worker
        (.executed runId attemptId (executeAttempt registry run attempt).1))
  | persisted (worker : Nat) (attempt : RunAttempt) (result : RunnerResult) (now : Timestamp)
      (found : world.db.attempts.get? attempt.id = some attempt)
      (executed : world.workers worker = .executed attempt.runId attempt.id result)
      (running : attempt.status = .running)
      (rows : ∀ other, other ∈ world'.db.attempts.rows ↔
        other = attempt.finish (terminalValues result now) ∨
          (other ∈ world.db.attempts.rows ∧ other.id ≠ attempt.id))
      (workers : world'.workers = Function.update world.workers worker .idle)

theorem AttemptStep.rested (worker : Nat) {phase : WorkerPhase} (queue : List Nat)
    (rests : Rests (world.workers worker) phase) :
    AttemptStep world { world.setWorker worker phase with queue := queue } := by
  refine .added [] (List.append_nil _).symm (List.forall_mem_nil _) ?_
  intro other
  by_cases same : other = worker
  · subst same
    simpa [setWorker] using rests
  · simpa [setWorker, same] using Rests.stays (world.workers other)

theorem Step.attemptStep (valid : Valid world) (step : Step accepts world world') :
    AttemptStep world world' := by
  cases step with
  | createProject | createFailed | enqueue | retryRead | retryConflict | retryFailed =>
      exact .added [] (List.append_nil _).symm (List.forall_mem_nil _) (fun _ => .stays _)
  | createRun project new runCreatedAt attemptCreatedAt found =>
      refine .added _ (insertRun_rows world.db new runCreatedAt attemptCreatedAt).2 ?_
        (fun _ => .stays _)
      intro attempt member
      rw [List.mem_singleton.mp member]
      rfl
  | retryWrite caller loaded now db attemptId pending inserted =>
      refine .added _ (insertRetry_rows inserted).2.2 ?_ (fun _ => .stays _)
      intro attempt member
      rw [List.mem_singleton.mp member]
      rfl
  | dequeue worker attemptId idle queued => exact .rested worker _ (idle ▸ .begins attemptId)
  | deliver worker attemptId idle => exact .rested worker _ (idle ▸ .begins attemptId)
  | unknown worker attemptId delivered missing => exact .rested worker _ (.ends _)
  | claimMissed worker attemptId attempt now delivered found missed =>
      exact .rested worker _ (.ends _)
  | vanished worker runId attemptId claimed missing => exact .rested worker _ (.ends _)
  | persistRaised worker runId attemptId result now executed refused =>
      exact .rested worker _ (.ends _)
  | claim worker attemptId attempt now db delivered found success =>
      obtain rfl : attempt.id = attemptId := Table.get?_id found
      obtain ⟨queued, rows⟩ := claim_rows found success
      exact .claimed worker attempt now found queued delivered rows rfl
  | execute worker runId attemptId run attempt registry claimed runFound attemptFound =>
      exact .executed worker runId attemptId run attempt registry claimed runFound attemptFound rfl
  | persist worker runId attemptId result now db executed success =>
      obtain ⟨attempt, found, rfl⟩ := valid.workers worker runId attemptId (by rw [executed]; rfl)
      obtain rfl : attempt.id = attemptId := Table.get?_id found
      by_cases running : attempt.status = .running
      · obtain ⟨run, past, key, runFound, lineage, rfl⟩ :=
          persist_writes valid.consistent found running success
        exact .persisted worker attempt result now found executed running
          (mem_putAttempt (attempt.finish (terminalValues result now)) found) rfl
      · obtain rfl := persist_skips found running success
        exact .rested worker _ (.ends _)

end World

structure Execution where
  registry : RunnerRegistry
  run : Run
  attempt : RunAttempt

namespace Execution

def result (execution : Execution) : RunnerResult :=
  (executeAttempt execution.registry execution.run execution.attempt).1

def Keeps (execution : Execution) (row : RunAttempt) : Prop :=
  row = execution.attempt ∨
    ∃ now, row = execution.attempt.finish (terminalValues execution.result now)

theorem Keeps.id {execution : Execution} {row : RunAttempt} (keeps : execution.Keeps row) :
    row.id = execution.attempt.id := by
  rcases keeps with rfl | ⟨now, rfl⟩
  · rfl
  · rfl

theorem Keeps.finished {execution : Execution} {row : RunAttempt} (keeps : execution.Keeps row)
    (running : execution.attempt.status = .running) (ended : row.status.terminal = true) :
    ∃ now, row = execution.attempt.finish (terminalValues execution.result now) := by
  rcases keeps with rfl | finished
  · rw [running] at ended
    cases ended
  · exact finished

theorem Keeps.given {execution : Execution} {row : RunAttempt} (keeps : execution.Keeps row)
    (running : row.status = .running) : row = execution.attempt := by
  rcases keeps with same | ⟨now, rfl⟩
  · exact same
  · have terminal := terminalStatus_terminal execution.result
    change terminalStatus execution.result = .running at running
    rw [running] at terminal
    cases terminal

theorem Keeps.not_queued {execution : Execution} {row : RunAttempt} (keeps : execution.Keeps row)
    (running : execution.attempt.status = .running) : row.status ≠ .queued := by
  intro queued
  rcases keeps with rfl | ⟨now, rfl⟩
  · rw [running] at queued
    cases queued
  · have terminal := terminalStatus_terminal execution.result
    change terminalStatus execution.result = .queued at queued
    rw [queued] at terminal
    cases terminal

end Execution

/-- The world and every execution so far, the latest first. -/
structure Journal where
  world : World
  executions : List Execution

namespace Journal

def empty : Journal := ⟨.empty, []⟩

inductive Step (accepts : TerminalValues → Bool) (journal : Journal) : Journal → Prop where
  | execute (worker runId attemptId : Nat) (run : Run) (attempt : RunAttempt)
      (registry : RunnerRegistry)
      (claimed : journal.world.workers worker = .claimed runId attemptId)
      (runFound : journal.world.db.runs.get? runId = some run)
      (attemptFound : journal.world.db.attempts.get? attemptId = some attempt) :
      Step accepts journal
        ⟨journal.world.setWorker worker
          (.executed runId attemptId (executeAttempt registry run attempt).1),
          ⟨registry, run, attempt⟩ :: journal.executions⟩
  | other (world : World) (step : World.Step accepts journal.world world)
      (quiet : ∀ worker runId attemptId result,
        world.workers worker = .executed runId attemptId result →
          journal.world.workers worker = .executed runId attemptId result) :
      Step accepts journal ⟨world, journal.executions⟩

variable {accepts : TerminalValues → Bool} {journal later : Journal}

theorem Step.world (step : Step accepts journal later) :
    World.Step accepts journal.world later.world := by
  cases step with
  | execute worker runId attemptId run attempt registry claimed runFound attemptFound =>
      exact .execute worker runId attemptId run attempt registry claimed runFound attemptFound
  | other world step quiet => exact step

theorem world_reached (reached : ReflTransGen (Step accepts) empty journal) :
    ReflTransGen (World.Step accepts) .empty journal.world := by
  induction reached with
  | refl => exact .refl
  | tail before last ih => exact ih.tail last.world

theorem quiet_update (workers : Nat → WorkerPhase) (worker : Nat) {phase : WorkerPhase}
    (free : ∀ runId attemptId result, phase ≠ .executed runId attemptId result) :
    ∀ other runId attemptId result,
      Function.update workers worker phase other = .executed runId attemptId result →
        workers other = .executed runId attemptId result := by
  intro other runId attemptId result executed
  by_cases same : other = worker
  · subst same
    rw [Function.update_self] at executed
    exact absurd executed (free runId attemptId result)
  · rwa [Function.update_of_ne same] at executed

theorem journaled_step {world world' : World} (valid : World.Valid world)
    {executions : List Execution} (step : World.Step accepts world world') :
    ∃ extended, Step accepts ⟨world, executions⟩ ⟨world', extended⟩ := by
  cases step.attemptStep valid with
  | added fresh rows queued workers =>
      refine ⟨executions, .other world' step ?_⟩
      intro worker runId attemptId result executed
      rw [← executed]
      exact ((workers worker).held_before (by rw [executed]; rfl)).symm
  | claimed worker attempt now found queued delivered rows workers =>
      exact ⟨executions, .other world' step (workers ▸ quiet_update _ worker nofun)⟩
  | executed worker runId attemptId run attempt registry claimed runFound attemptFound after =>
      subst after
      exact ⟨_, .execute worker runId attemptId run attempt registry claimed runFound attemptFound⟩
  | persisted worker attempt result now found executed running rows workers =>
      exact ⟨executions, .other world' step (workers ▸ quiet_update _ worker nofun)⟩

/-- Keeping the journal takes no run of the world away. -/
theorem journaled {world : World} (reached : ReflTransGen (World.Step accepts) .empty world) :
    ∃ executions, ReflTransGen (Step accepts) empty ⟨world, executions⟩ := by
  induction reached with
  | refl => exact ⟨[], .refl⟩
  | tail before last ih =>
      obtain ⟨executions, run⟩ := ih
      obtain ⟨extended, step⟩ := journaled_step (World.valid_reached before) last
      exact ⟨extended, run.tail step⟩

structure Recorded (journal : Journal) : Prop where
  running : ∀ execution ∈ journal.executions, execution.attempt.status = .running
  once : (journal.executions.map (·.attempt.id)).Nodup
  kept : ∀ execution ∈ journal.executions, ∃ row ∈ journal.world.db.attempts.rows,
    execution.Keeps row
  requested : ∀ execution ∈ journal.executions, execution.run.id = execution.attempt.runId ∧
    ∃ run ∈ journal.world.db.runs.rows, run.id = execution.run.id ∧
      run.requested = execution.run.requested
  ended : ∀ row ∈ journal.world.db.attempts.rows, row.status.terminal = true →
    ∃ execution ∈ journal.executions, execution.attempt.id = row.id
  claimed : ∀ worker runId attemptId, journal.world.workers worker = .claimed runId attemptId →
    (∃ row ∈ journal.world.db.attempts.rows, row.id = attemptId ∧ row.status = .running) ∧
      ∀ execution ∈ journal.executions, execution.attempt.id ≠ attemptId
  executed : ∀ worker runId attemptId result,
    journal.world.workers worker = .executed runId attemptId result →
      ∃ execution ∈ journal.executions, execution.attempt.id = attemptId ∧
        execution.result = result
  apart : ∀ worker other runId otherId attemptId,
    World.held (journal.world.workers worker) = some (runId, attemptId) →
      World.held (journal.world.workers other) = some (otherId, attemptId) → worker = other

theorem recorded_empty : Recorded empty where
  running := List.forall_mem_nil _
  once := List.nodup_nil
  kept := List.forall_mem_nil _
  requested := List.forall_mem_nil _
  ended := List.forall_mem_nil _
  claimed := by
    intro worker runId attemptId claimed
    cases claimed
  executed := by
    intro worker runId attemptId result executed
    cases executed
  apart := by
    intro worker other runId otherId attemptId holding
    cases holding

theorem requested_later {db db' : Database} (consistent : Consistent db)
    (change : db' = db ∨ Commit db db') {run : Run} (member : run ∈ db.runs.rows) :
    ∃ later ∈ db'.runs.rows, later.id = run.id ∧ later.requested = run.requested := by
  rcases change with rfl | commit
  · exact ⟨run, member, rfl, rfl⟩
  · obtain ⟨later, present, id, _⟩ := (commit.stepLaw consistent).pointer run member
    exact ⟨later, present, id, commit.requested member present id⟩

namespace Recorded

variable {world : World}

theorem requested_step (recorded : Recorded journal) (consistent : Consistent journal.world.db)
    (change : world.db = journal.world.db ∨ Commit journal.world.db world.db) :
    ∀ execution ∈ journal.executions, execution.run.id = execution.attempt.runId ∧
      ∃ run ∈ world.db.runs.rows, run.id = execution.run.id ∧
        run.requested = execution.run.requested := by
  intro execution member
  obtain ⟨owner, run, row, id, requested⟩ := recorded.requested execution member
  obtain ⟨later, present, same, kept⟩ := requested_later consistent change row
  exact ⟨owner, later, present, same.trans id, kept.trans requested⟩

theorem apart_update (recorded : Recorded journal) (worker : Nat) (phase : WorkerPhase)
    (fair : ∀ runId attemptId, World.held phase = some (runId, attemptId) →
      World.held (journal.world.workers worker) = some (runId, attemptId) ∨
        ∀ other otherId, World.held (journal.world.workers other) ≠ some (otherId, attemptId)) :
    ∀ holder other runId otherId attemptId,
      World.held (Function.update journal.world.workers worker phase holder) =
        some (runId, attemptId) →
      World.held (Function.update journal.world.workers worker phase other) =
        some (otherId, attemptId) → holder = other := by
  have exclusive : Exclusive (fun each => World.heldAttempt (journal.world.workers each)) := by
    intro holder other attemptId first second
    obtain ⟨runId, holding⟩ := World.heldAttempt_eq_some.mp first
    obtain ⟨otherId, again⟩ := World.heldAttempt_eq_some.mp second
    exact recorded.apart holder other runId otherId attemptId holding again
  have later := exclusive.update_state worker phase (by
    intro attemptId taken
    obtain ⟨runId, holding⟩ := World.heldAttempt_eq_some.mp taken
    rcases fair runId attemptId holding with own | free
    · exact Or.inl (World.heldAttempt_eq_some.mpr ⟨runId, own⟩)
    · right
      intro other holds
      obtain ⟨otherId, again⟩ := World.heldAttempt_eq_some.mp holds
      exact free other otherId again)
  intro holder other runId otherId attemptId holding again
  exact later holder other attemptId (World.heldAttempt_eq_some.mpr ⟨runId, holding⟩)
    (World.heldAttempt_eq_some.mpr ⟨otherId, again⟩)

theorem apart_of_queued (recorded : Recorded journal) {attempt : RunAttempt}
    (found : journal.world.db.attempts.get? attempt.id = some attempt)
    (queued : attempt.status = .queued) {execution : Execution}
    (member : execution ∈ journal.executions) : execution.attempt.id ≠ attempt.id := by
  intro same
  obtain ⟨row, present, keeps⟩ := recorded.kept execution member
  obtain rfl := Table.eq_of_mem found present (keeps.id.trans same)
  exact keeps.not_queued (recorded.running execution member) queued

theorem held_of_queued (recorded : Recorded journal) {attempt : RunAttempt}
    (found : journal.world.db.attempts.get? attempt.id = some attempt)
    (queued : attempt.status = .queued) {worker runId : Nat} :
    World.held (journal.world.workers worker) ≠ some (runId, attempt.id) := by
  intro holding
  cases phase : journal.world.workers worker with
  | idle | delivered => simp [phase, World.held] at holding
  | claimed owner attemptId =>
      obtain ⟨-, rfl⟩ : owner = runId ∧ attemptId = attempt.id := by
        simpa [phase, World.held] using holding
      obtain ⟨⟨row, present, id, running⟩, -⟩ := recorded.claimed worker owner _ phase
      obtain rfl := Table.eq_of_mem found present id
      rw [queued] at running
      cases running
  | executed owner attemptId result =>
      obtain ⟨-, rfl⟩ : owner = runId ∧ attemptId = attempt.id := by
        simpa [phase, World.held] using holding
      obtain ⟨execution, member, id, -⟩ := recorded.executed worker owner _ result phase
      exact recorded.apart_of_queued found queued member id

theorem added (recorded : Recorded journal) (consistent : Consistent journal.world.db)
    (change : world.db = journal.world.db ∨ Commit journal.world.db world.db)
    (fresh : List RunAttempt)
    (rows : world.db.attempts.rows = journal.world.db.attempts.rows ++ fresh)
    (queued : ∀ attempt ∈ fresh, attempt.status = .queued)
    (workers : ∀ worker, World.Rests (journal.world.workers worker) (world.workers worker)) :
    Recorded ⟨world, journal.executions⟩ where
  running := recorded.running
  once := recorded.once
  kept := by
    intro execution member
    obtain ⟨row, present, keeps⟩ := recorded.kept execution member
    exact ⟨row, rows ▸ List.mem_append_left fresh present, keeps⟩
  requested := recorded.requested_step consistent change
  ended := by
    intro row member terminal
    change row ∈ world.db.attempts.rows at member
    rw [rows, List.mem_append] at member
    rcases member with old | new
    · exact recorded.ended row old terminal
    · rw [queued row new] at terminal
      cases terminal
  claimed := by
    intro worker runId attemptId claimed
    have same := (workers worker).held_before (congrArg World.held claimed)
    obtain ⟨⟨row, present, id, running⟩, unlisted⟩ :=
      recorded.claimed worker runId attemptId (same.symm.trans claimed)
    exact ⟨⟨row, rows ▸ List.mem_append_left fresh present, id, running⟩, unlisted⟩
  executed := by
    intro worker runId attemptId result executed
    have same := (workers worker).held_before (congrArg World.held executed)
    exact recorded.executed worker runId attemptId result (same.symm.trans executed)
  apart := by
    intro worker other runId otherId attemptId holding again
    rw [(workers worker).held_before holding] at holding
    rw [(workers other).held_before again] at again
    exact recorded.apart worker other runId otherId attemptId holding again

theorem claim (recorded : Recorded journal) (consistent : Consistent journal.world.db)
    (change : world.db = journal.world.db ∨ Commit journal.world.db world.db)
    (worker : Nat) (attempt : RunAttempt) (now : Timestamp)
    (found : journal.world.db.attempts.get? attempt.id = some attempt)
    (queued : attempt.status = .queued)
    (rows : ∀ other, other ∈ world.db.attempts.rows ↔
      other = attempt.start now ∨
        (other ∈ journal.world.db.attempts.rows ∧ other.id ≠ attempt.id))
    (workers : world.workers =
      Function.update journal.world.workers worker (.claimed attempt.runId attempt.id)) :
    Recorded ⟨world, journal.executions⟩ where
  running := recorded.running
  once := recorded.once
  kept := by
    intro execution member
    obtain ⟨row, present, keeps⟩ := recorded.kept execution member
    have different := recorded.apart_of_queued found queued member
    exact ⟨row, (rows row).mpr (Or.inr ⟨present, keeps.id ▸ different⟩), keeps⟩
  requested := recorded.requested_step consistent change
  ended := by
    intro row member terminal
    rcases (rows row).mp member with rfl | ⟨old, -⟩
    · cases terminal
    · exact recorded.ended row old terminal
  claimed := by
    intro holder runId attemptId claimed
    change world.workers holder = _ at claimed
    rw [workers] at claimed
    by_cases same : holder = worker
    · subst same
      rw [Function.update_self] at claimed
      obtain ⟨-, rfl⟩ := WorkerPhase.claimed.inj claimed
      exact ⟨⟨_, (rows _).mpr (Or.inl rfl), rfl, rfl⟩,
        fun execution member => recorded.apart_of_queued found queued member⟩
    · rw [Function.update_of_ne same] at claimed
      obtain ⟨⟨row, present, id, running⟩, unlisted⟩ :=
        recorded.claimed holder runId attemptId claimed
      refine ⟨⟨row, (rows row).mpr (Or.inr ⟨present, ?_⟩), id, running⟩, unlisted⟩
      intro sameId
      obtain rfl := Table.eq_of_mem found present sameId
      rw [queued] at running
      cases running
  executed := by
    intro holder runId attemptId result executed
    change world.workers holder = _ at executed
    rw [workers] at executed
    by_cases same : holder = worker
    · subst same
      rw [Function.update_self] at executed
      cases executed
    · rw [Function.update_of_ne same] at executed
      exact recorded.executed holder runId attemptId result executed
  apart := by
    change ∀ holder other runId otherId attemptId, World.held (world.workers holder) = _ → _
    rw [workers]
    refine recorded.apart_update worker _ ?_
    intro runId attemptId taken
    obtain ⟨rfl, rfl⟩ := Prod.mk.inj (Option.some.inj taken)
    exact Or.inr (fun other otherId => recorded.held_of_queued found queued)

theorem unique (recorded : Recorded journal) {execution other : Execution}
    (member : execution ∈ journal.executions) (again : other ∈ journal.executions)
    (same : execution.attempt.id = other.attempt.id) : execution = other :=
  List.inj_on_of_nodup_map recorded.once member again same

theorem persist (recorded : Recorded journal) (consistent : Consistent journal.world.db)
    (change : world.db = journal.world.db ∨ Commit journal.world.db world.db)
    (worker : Nat) (attempt : RunAttempt) (result : RunnerResult) (now : Timestamp)
    (found : journal.world.db.attempts.get? attempt.id = some attempt)
    (executed : journal.world.workers worker = .executed attempt.runId attempt.id result)
    (running : attempt.status = .running)
    (rows : ∀ other, other ∈ world.db.attempts.rows ↔
      other = attempt.finish (terminalValues result now) ∨
        (other ∈ journal.world.db.attempts.rows ∧ other.id ≠ attempt.id))
    (workers : world.workers = Function.update journal.world.workers worker .idle) :
    Recorded ⟨world, journal.executions⟩ := by
  obtain ⟨mine, listed, id, same⟩ := recorded.executed worker _ _ result executed
  have others {holder : Nat} {phase : WorkerPhase} (held : world.workers holder = phase)
      (busy : phase ≠ .idle) : holder ≠ worker ∧ journal.world.workers holder = phase := by
    rw [workers] at held
    by_cases same : holder = worker
    · subst same
      rw [Function.update_self] at held
      exact absurd held.symm busy
    · rw [Function.update_of_ne same] at held
      exact ⟨same, held⟩
  refine ⟨recorded.running, recorded.once, ?_, recorded.requested_step consistent change, ?_, ?_,
    ?_, ?_⟩
  · intro execution member
    obtain ⟨row, present, keeps⟩ := recorded.kept execution member
    by_cases same : row.id = attempt.id
    · obtain rfl := Table.eq_of_mem found present same
      obtain rfl := recorded.unique member listed (keeps.id.symm.trans id.symm)
      have given := keeps.given running
      refine ⟨_, (rows _).mpr (Or.inl rfl), Or.inr ⟨now, ?_⟩⟩
      rw [← given, ← ‹execution.result = result›]
    · exact ⟨row, (rows row).mpr (Or.inr ⟨present, same⟩), keeps⟩
  · intro row member terminal
    rcases (rows row).mp member with rfl | ⟨old, -⟩
    · exact ⟨mine, listed, id⟩
    · exact recorded.ended row old terminal
  · intro holder runId attemptId claimed
    obtain ⟨different, before⟩ := others claimed nofun
    obtain ⟨⟨row, present, key, runs⟩, unlisted⟩ := recorded.claimed holder runId attemptId before
    refine ⟨⟨row, (rows row).mpr (Or.inr ⟨present, ?_⟩), key, runs⟩, unlisted⟩
    intro sameId
    exact unlisted mine listed (id.trans (sameId.symm.trans key))
  · intro holder runId attemptId other executed
    obtain ⟨-, before⟩ := others executed nofun
    exact recorded.executed holder runId attemptId other before
  · change ∀ holder other runId otherId attemptId, World.held (world.workers holder) = _ → _
    rw [workers]
    exact recorded.apart_update worker .idle nofun

theorem execute (recorded : Recorded journal) (valid : World.Valid journal.world)
    (worker runId attemptId : Nat) (run : Run) (attempt : RunAttempt) (registry : RunnerRegistry)
    (claimed : journal.world.workers worker = .claimed runId attemptId)
    (runFound : journal.world.db.runs.get? runId = some run)
    (attemptFound : journal.world.db.attempts.get? attemptId = some attempt) :
    Recorded ⟨journal.world.setWorker worker
      (.executed runId attemptId (executeAttempt registry run attempt).1),
      ⟨registry, run, attempt⟩ :: journal.executions⟩ := by
  obtain rfl : run.id = runId := Table.get?_id runFound
  obtain rfl : attempt.id = attemptId := Table.get?_id attemptFound
  obtain ⟨⟨row, present, id, running⟩, unlisted⟩ := recorded.claimed worker _ _ claimed
  obtain rfl := Table.eq_of_mem attemptFound present id
  obtain ⟨owned, ownedFound, owner⟩ := valid.workers worker run.id row.id (by rw [claimed]; rfl)
  obtain rfl := Option.some.inj (attemptFound.symm.trans ownedFound)
  refine ⟨?_, ?_, ?_, ?_, ?_, ?_, ?_, ?_⟩
  · exact List.forall_mem_cons.mpr ⟨running, recorded.running⟩
  · refine List.nodup_cons.mpr ⟨?_, recorded.once⟩
    intro member
    obtain ⟨execution, listed, same⟩ := List.mem_map.mp member
    exact unlisted execution listed same
  · exact List.forall_mem_cons.mpr ⟨⟨row, present, Or.inl rfl⟩, recorded.kept⟩
  · exact List.forall_mem_cons.mpr
      ⟨⟨owner.symm, run, Table.get?_mem runFound, rfl, rfl⟩, recorded.requested⟩
  · intro other member terminal
    obtain ⟨execution, listed, same⟩ := recorded.ended other member terminal
    exact ⟨execution, List.mem_cons_of_mem _ listed, same⟩
  · intro holder heldRun heldAttempt before
    by_cases same : holder = worker
    · subst same
      simp [World.setWorker] at before
    · have phase : journal.world.workers holder = .claimed heldRun heldAttempt := by
        simpa [World.setWorker, same] using before
      obtain ⟨rows, others⟩ := recorded.claimed holder heldRun heldAttempt phase
      refine ⟨rows, List.forall_mem_cons.mpr ⟨?_, others⟩⟩
      rintro rfl
      exact same (recorded.apart holder worker heldRun run.id row.id (by rw [phase]; rfl)
        (by rw [claimed]; rfl))
  · intro holder heldRun heldAttempt result executed
    by_cases same : holder = worker
    · subst same
      obtain ⟨rfl, rfl, rfl⟩ : run.id = heldRun ∧ row.id = heldAttempt ∧
          (executeAttempt registry run row).1 = result := by
        simpa [World.setWorker] using executed
      exact ⟨_, List.mem_cons_self, rfl, rfl⟩
    · obtain ⟨execution, listed, facts⟩ := recorded.executed holder heldRun heldAttempt result
        (by simpa [World.setWorker, same] using executed)
      exact ⟨execution, List.mem_cons_of_mem _ listed, facts⟩
  · refine recorded.apart_update worker _ ?_
    intro heldRun heldAttempt taken
    left
    rw [claimed]
    exact taken

end Recorded

theorem recorded_step (valid : World.Valid journal.world) (recorded : Recorded journal)
    (step : Step accepts journal later) : Recorded later := by
  have change := World.step_commit valid step.world
  cases step with
  | execute worker runId attemptId run attempt registry claimed runFound attemptFound =>
      exact recorded.execute valid worker runId attemptId run attempt registry claimed runFound
        attemptFound
  | other world step quiet =>
      cases step.attemptStep valid with
      | added fresh rows queued workers =>
          exact recorded.added valid.consistent change fresh rows queued workers
      | claimed worker attempt now found queued delivered rows workers =>
          exact recorded.claim valid.consistent change worker attempt now found queued rows workers
      | executed worker runId attemptId run attempt registry claimed runFound attemptFound after =>
          have now := congrFun (congrArg World.workers after) worker
          have before := quiet worker runId attemptId _ (now.trans (Function.update_self ..))
          rw [claimed] at before
          cases before
      | persisted worker attempt result now found executed running rows workers =>
          exact recorded.persist valid.consistent change worker attempt result now found executed
            running rows workers

theorem recorded_reached (reached : ReflTransGen (Step accepts) empty journal) :
    Recorded journal := by
  induction reached with
  | refl => exact recorded_empty
  | tail before last ih => exact recorded_step (World.valid_reached (world_reached before)) ih last

/-- No attempt is executed twice, each execution is given the request of its run, every terminal
attempt is what its execution was given, finished with the result of that execution, and no result
of another one ever takes its place. -/
theorem results_recorded (reached : ReflTransGen (Step accepts) empty journal) :
    (journal.executions.map (·.attempt.id)).Nodup ∧
      (∀ attempt ∈ journal.world.db.attempts.rows, attempt.status.terminal = true →
        ∃ execution ∈ journal.executions, ∃ now,
          attempt = execution.attempt.finish (terminalValues execution.result now)) ∧
      ∀ execution ∈ journal.executions,
        (∃ run ∈ journal.world.db.runs.rows, run.id = execution.attempt.runId ∧
          run.requested = execution.run.requested) ∧
        ∀ later, ReflTransGen (Step accepts) journal later →
          ∃ attempt ∈ later.world.db.attempts.rows, attempt.id = execution.attempt.id ∧
            execution.Keeps attempt := by
  have recorded := recorded_reached reached
  refine ⟨recorded.once, ?_, ?_⟩
  · intro attempt member terminal
    obtain ⟨execution, listed, same⟩ := recorded.ended attempt member terminal
    obtain ⟨row, present, keeps⟩ := recorded.kept execution listed
    obtain rfl := Table.eq_of_mem (Table.get?_of_mem member) present (keeps.id.trans same)
    exact ⟨execution, listed, keeps.finished (recorded.running execution listed) terminal⟩
  · intro execution listed
    obtain ⟨owner, run, member, id, requested⟩ := recorded.requested execution listed
    refine ⟨⟨run, member, id.trans owner, requested⟩, ?_⟩
    intro later more
    have kept : execution ∈ later.executions := by
      induction more with
      | refl => exact listed
      | tail _ last ih =>
          cases last with
          | execute => exact List.mem_cons_of_mem _ ih
          | other => exact ih
    obtain ⟨row, present, keeps⟩ := (recorded_reached (reached.trans more)).kept execution kept
    exact ⟨row, present, keeps.id, keeps⟩

theorem results_recorded_stub :
    ∃ journal, ReflTransGen (Step (fun _ => true)) empty journal ∧
      ∃ attempt ∈ journal.world.db.attempts.rows, attempt.status = .succeeded ∧
        ∃ execution ∈ journal.executions, ∃ now,
          attempt = execution.attempt.finish (terminalValues execution.result now) := by
  obtain ⟨journal, run, attempt, present, succeeded⟩ : ∃ journal,
      ReflTransGen (Step (fun _ => true)) empty journal ∧
        ∃ attempt ∈ journal.world.db.attempts.rows, attempt.status = .succeeded := by
    refine Transition.reach _ (.other _ (.createProject "evals" none 0) nofun) ?_
    refine Transition.reach _
      (.other _ (.createRun ⟨1, "evals", none, 0⟩ sampleNew 0 0 rfl) nofun) ?_
    refine Transition.reach _ (.other _ (.deliver 0 1 rfl) (quiet_update _ 0 nofun)) ?_
    refine Transition.reach _ (.other _
      (.claim 0 1 (newAttempt 1 1 1 0) 1 sampleClaimed rfl rfl rfl) (quiet_update _ 0 nofun)) ?_
    refine Transition.reach _ (.execute 0 1 1 _ ((newAttempt 1 1 1 0).start 1)
      (buildRunnerRegistry (wargameRunner .nan) (.plain (fun _ => none) [])) rfl rfl rfl) ?_
    refine Transition.reach _ (.other _ (.persist 0 1 1 _ 2 _ rfl rfl)
      (quiet_update _ 0 nofun)) ?_
    exact Transition.reached ⟨_, List.mem_singleton.mpr rfl, rfl⟩
  obtain ⟨-, stored, -⟩ := results_recorded run
  exact ⟨journal, run, attempt, present, succeeded, stored attempt present (by rw [succeeded]; rfl)⟩

end Journal

end Evalynx
