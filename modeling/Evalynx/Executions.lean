import Evalynx.Schedules
import Evalynx.Terminal

/-! Which call stands behind the status of an attempt, and what a lost call leaves behind. -/

namespace Evalynx

open Relational Relation

theorem CallStep.owes_kept {accepts : TerminalValues → Bool} {db : Database} {locks : Locks}
    {phase phase' : CallPhase} (step : CallStep accepts db locks phase phase')
    {claim : Nat × Nat × Bool} (owes : phase.owes = some claim) : phase'.owes = some claim := by
  cases step with
  | unknown | select | claimAttempt | claimAttemptMissed => cases owes
  | claimRun | claimRunMissed => cases owes
  | claimRolledBack phase claiming => cases phase <;> cases claiming <;> cases owes
  | vanished | runnerMissing | leave | persistAttempt | persistAttemptMissed => exact owes
  | persistRun | persistRunMissed => exact owes
  | abandoned phase runId attemptId entered same => exact same.symm.trans owes

/-- The values of a call lead to SUCCEEDED only when it has entered `runner.execute`. -/
def CallPhase.Backed (entered : List Nat) : CallPhase → Prop
  | .executing _ attemptId => attemptId ∈ entered
  | .finished _ attemptId _ result => terminalStatus result = .succeeded → attemptId ∈ entered
  | .attemptPersisted _ attemptId _ _ row | .runPersisted _ attemptId _ row _ =>
      row.status = .succeeded → attemptId ∈ entered
  | _ => True

theorem CallPhase.Backed.mono {phase : CallPhase} {entered later : List Nat}
    (backed : phase.Backed entered) (more : ∀ id ∈ entered, id ∈ later) : phase.Backed later := by
  cases phase with
  | executing runId attemptId => exact more attemptId backed
  | finished runId attemptId _ result => exact fun success => more attemptId (backed success)
  | attemptPersisted runId attemptId _ values row =>
      exact fun success => more attemptId (backed success)
  | runPersisted runId attemptId _ row runRow =>
      exact fun success => more attemptId (backed success)
  | idle | selected | attemptClaimed | runMissed | runClaimed => trivial
  | claimed | abandoned | done => trivial

theorem CallStep.backed {accepts : TerminalValues → Bool} {db : Database} {locks : Locks}
    {phase phase' : CallPhase} (step : CallStep accepts db locks phase phase')
    {entered : List Nat} (backed : phase.Backed entered) : phase'.Backed entered := by
  cases step with
  | unknown | select | claimAttempt | claimAttemptMissed => trivial
  | claimRun | claimRunMissed | claimRolledBack => trivial
  | vanished | persistAttemptMissed | abandoned => trivial
  | runnerMissing runId attemptId run found =>
      intro success
      cases success
  | leave runId attemptId outcome => exact fun _ => backed
  | persistAttempt | persistRun | persistRunMissed => exact backed

theorem Holds.loadRun_effect {db db' : Database} {moved freshRun : Option Nat}
    {fresh : Option RunAttempt} (effect : Effect db db' moved freshRun fresh)
    (consistent : Consistent db) {runId attemptId : Nat} {attempt : RunAttempt} {run : Run}
    (holds : Holds db runId attemptId attempt run) (running : attempt.status = .running)
    (other : moved ≠ some attemptId) : loadRun db' runId = loadRun db runId := by
  have later := holds.effect effect consistent (by rw [running]; decide) other
  have same : run.status = .running := holds.status.trans running
  obtain rfl : run.id = runId := Table.get?_id holds.runFound
  have only : ∀ row ∈ db'.runs.rows, row.id = run.id → row = run := fun row present id =>
    Table.eq_of_mem later.runFound present id
  cases effect.run_change consistent (Table.get?_mem holds.runFound) with
  | untouched row attempts => exact loadRun_untouched consistent holds.runFound row attempts
  | advanced row present id pointer progress =>
      rw [only row present id, same] at progress
      rcases progress with ⟨queued, -⟩ | ⟨-, terminal⟩
      · cases queued
      · cases terminal
  | retried row current added present id queued =>
      rw [only row present id, same] at queued
      cases queued

namespace Sessions

variable {accepts : TerminalValues → Bool} {allowed : Schedule} {sessions sessions' : Sessions}

/-- Every RUNNING attempt is owed a persist by a call, every SUCCEEDED one was executed. -/
structure Accounted (sessions : Sessions) : Prop where
  running : ∀ attempt ∈ sessions.db.attempts.rows, attempt.status = .running →
    ∃ call entered, (sessions.calls call).owes = some (attempt.runId, attempt.id, entered)
  succeeded : ∀ attempt ∈ sessions.db.attempts.rows, attempt.status = .succeeded →
    attempt.id ∈ sessions.entered
  backed : ∀ call, (sessions.calls call).Backed sessions.entered

theorem accounted_empty : Accounted empty where
  running := by
    intro attempt row
    cases row
  succeeded := by
    intro attempt row
    cases row
  backed := fun _ => trivial

theorem Accounted.setCall (accounted : Accounted sessions) (call : Nat) {phase : CallPhase}
    {entered : List Nat} (more : ∀ id ∈ sessions.entered, id ∈ entered)
    (keeps : ∀ runId attemptId flag,
      (sessions.calls call).owes = some (runId, attemptId, flag) →
      ∃ later, phase.owes = some (runId, attemptId, later))
    (backed : phase.Backed entered) :
    Accounted { sessions.setCall call phase with entered := entered } where
  running := by
    intro attempt row running
    obtain ⟨holder, flag, owes⟩ := accounted.running attempt row running
    by_cases same : holder = call
    · subst same
      obtain ⟨later, owed⟩ := keeps _ _ flag owes
      exact ⟨holder, later, by simpa [Sessions.setCall] using owed⟩
    · exact ⟨holder, flag, by simpa [Sessions.setCall, same] using owes⟩
  succeeded := fun attempt row success => more _ (accounted.succeeded attempt row success)
  backed := by
    intro other
    by_cases same : other = call
    · subst same
      simpa [Sessions.setCall] using backed
    · simpa [Sessions.setCall, same] using (accounted.backed other).mono more

theorem Accounted.commitCall (accounted : Accounted sessions) (call : Nat) {phase : CallPhase}
    {runId attemptId : Nat} {db : Database} {row : RunAttempt}
    (owns : (sessions.calls call).owns = some (runId, attemptId))
    (rows : ∀ other, other ∈ db.attempts.rows ↔
      other = row ∨ (other ∈ sessions.db.attempts.rows ∧ other.id ≠ attemptId))
    (running : row.status = .running → ∃ flag, phase.owes = some (row.runId, row.id, flag))
    (succeeded : row.status = .succeeded → row.id ∈ sessions.entered)
    (backed : phase.Backed sessions.entered) :
    Accounted { sessions.setCall call phase with db := db } where
  running := by
    intro attempt member isRunning
    rcases (rows attempt).mp member with rfl | ⟨old, different⟩
    · obtain ⟨flag, owes⟩ := running isRunning
      exact ⟨call, flag, by simpa [Sessions.setCall] using owes⟩
    · obtain ⟨holder, flag, owes⟩ := accounted.running attempt old isRunning
      have other : holder ≠ call := by
        rintro rfl
        rw [CallPhase.owns_of_owes owes] at owns
        exact different (Prod.mk.inj (Option.some.inj owns)).2
      exact ⟨holder, flag, by simpa [Sessions.setCall, other] using owes⟩
  succeeded := by
    intro attempt member success
    rcases (rows attempt).mp member with rfl | ⟨old, _⟩
    · exact succeeded success
    · exact accounted.succeeded attempt old success
  backed := by
    intro other
    by_cases same : other = call
    · subst same
      simpa [Sessions.setCall] using backed
    · simpa [Sessions.setCall, same] using accounted.backed other

theorem Accounted.finishCall (accounted : Accounted sessions) (call : Nat) {runId : Nat}
    {attempt : RunAttempt} {values : TerminalValues} {db : Database}
    (owns : (sessions.calls call).owns = some (runId, attempt.id))
    (found : sessions.db.attempts.get? attempt.id = some attempt)
    (terminal : values.status.terminal = true)
    (attempts : db.attempts = sessions.db.attempts.put (attempt.finish values))
    (succeeded : values.status = .succeeded → attempt.id ∈ sessions.entered) :
    Accounted { sessions.setCall call .done with db := db } := by
  have rows (other : RunAttempt) : other ∈ db.attempts.rows ↔
      other = attempt.finish values ∨
        (other ∈ sessions.db.attempts.rows ∧ other.id ≠ attempt.id) := by
    rw [attempts]
    exact mem_putAttempt (attempt.finish values) found other
  refine accounted.commitCall call owns rows ?_ succeeded trivial
  intro running
  change values.status = .running at running
  rw [running] at terminal
  cases terminal

theorem accounted_callCommit (tracked : Tracked sessions) (accounted : Accounted sessions)
    (call : Nat) {phase : CallPhase} {db : Database}
    (committed : CallCommit sessions.db (sessions.calls call) phase db) :
    Accounted { sessions.setCall call phase with db := db } := by
  have tenure := tracked.tenure call
  have backed := accounted.backed call
  generalize before : sessions.calls call = held at committed tenure backed
  cases committed with
  | claim runId attemptId row runRow =>
      obtain ⟨attempt, found, owner, -, now, rfl⟩ := tenure.owned runId attemptId rfl
      obtain rfl : attempt.id = attemptId := Table.get?_id found
      have rows := mem_putAttempt (attempt.start now) found
      refine accounted.commitCall call (by rw [before]; rfl) rows ?_ nofun trivial
      intro _
      exact ⟨false, by rw [← owner]; rfl⟩
  | persist runId attemptId entered row | persistWithoutRun runId attemptId entered row =>
      obtain ⟨attempt, found, -, -, values, terminal, rfl⟩ := tenure.owned runId attemptId rfl
      obtain rfl : attempt.id = attemptId := Table.get?_id found
      exact accounted.finishCall call (by rw [before]; rfl) found terminal rfl backed

theorem Accounted.request (accounted : Accounted sessions) (caller : Nat) {phase : RequestPhase}
    {db : Database} (added : List RunAttempt)
    (rows : db.attempts.rows = sessions.db.attempts.rows ++ added)
    (queued : ∀ attempt ∈ added, attempt.status = .queued) :
    Accounted { sessions.setRequest caller phase with db := db } where
  running := by
    intro attempt member running
    change attempt ∈ db.attempts.rows at member
    rw [rows, List.mem_append] at member
    rcases member with old | new
    · exact accounted.running attempt old running
    · rw [queued attempt new] at running
      cases running
  succeeded := by
    intro attempt member success
    change attempt ∈ db.attempts.rows at member
    rw [rows, List.mem_append] at member
    rcases member with old | new
    · exact accounted.succeeded attempt old success
    · rw [queued attempt new] at success
      cases success
  backed := accounted.backed

theorem accounted_step (tracked : Tracked sessions) (accounted : Accounted sessions)
    (step : Step accepts allowed sessions sessions') : Accounted sessions' := by
  cases step with
  | createProject name description createdAt =>
      exact ⟨accounted.running, accounted.succeeded, accounted.backed⟩
  | call call phase moved =>
      refine accounted.setCall call (fun _ member => member) ?_
        (moved.backed (accounted.backed call))
      intro runId attemptId flag owes
      exact ⟨flag, moved.owes_kept owes⟩
  | enter call runId attemptId run attempt runner registry claimed =>
      refine accounted.setCall call (fun _ member => List.mem_cons_of_mem _ member) ?_
        List.mem_cons_self
      intro owedRun owedAttempt flag owes
      rw [claimed] at owes
      obtain ⟨rfl, rfl, rfl⟩ : runId = owedRun ∧ attemptId = owedAttempt ∧ false = flag := by
        simpa [CallPhase.owes] using owes
      exact ⟨true, rfl⟩
  | callCommit call phase db committed =>
      exact accounted_callCommit tracked accounted call committed
  | request caller statement phase db permitted moved =>
      refine accounted.request caller [] ?_ (List.forall_mem_nil _)
      rw [List.append_nil]
      exact moved.attempt_rows
  | requestCommit caller statement db permitted committed =>
      obtain ⟨fresh, queued, -, rows, -⟩ := committed.adopts (tracked.fresh caller)
      refine accounted.request caller [fresh] rows ?_
      intro attempt member
      rw [List.mem_singleton.mp member]
      exact queued

theorem accounted_reached (reached : ReflTransGen (Step accepts allowed) empty sessions) :
    Accounted sessions := by
  induction reached with
  | refl => exact accounted_empty
  | tail before last ih => exact accounted_step (tracked_reached before) ih last

/-- Under every order of the statements an attempt is RUNNING exactly while one call owes its
terminal persist, and one that is SUCCEEDED was executed exactly once. -/
theorem statuses_accounted (reached : ReflTransGen (Step accepts allowed) empty sessions)
    (attempt : RunAttempt) (row : attempt ∈ sessions.db.attempts.rows) :
    (attempt.status = .queued → sessions.entered.count attempt.id = 0) ∧
      (attempt.status = .running ↔ ∃! call, ∃ entered,
        (sessions.calls call).owes = some (attempt.runId, attempt.id, entered)) ∧
      (attempt.status = .succeeded → sessions.entered.count attempt.id = 1) ∧
      sessions.entered.count attempt.id ≤ 1 := by
  have tracked := tracked_reached reached
  have accounted := accounted_reached reached
  have found : sessions.db.attempts.get? attempt.id = some attempt := Table.get?_of_mem row
  have owned {call : Nat} {entered : Bool}
      (owes : (sessions.calls call).owes = some (attempt.runId, attempt.id, entered)) :
      (sessions.calls call).ownedAttempt = some attempt.id :=
    (CallPhase.ownedAttempt_iff _ _).mpr ⟨attempt.runId, CallPhase.owns_of_owes owes⟩
  refine ⟨?_, ⟨?_, ?_⟩, ?_, List.nodup_iff_count_le_one.mp tracked.entered attempt.id⟩
  · intro queued
    refine List.count_eq_zero.mpr ?_
    intro member
    obtain ⟨started, present, alive⟩ := tracked.started attempt.id member
    obtain rfl := Option.some.inj (found.symm.trans present)
    exact alive queued
  · intro running
    obtain ⟨call, entered, owes⟩ := accounted.running attempt row running
    refine ⟨call, ⟨entered, owes⟩, ?_⟩
    rintro other ⟨otherEntered, otherOwes⟩
    exact tracked.attempts other call attempt.id (owned otherOwes) (owned owes)
  · rintro ⟨call, ⟨entered, owes⟩, -⟩
    obtain ⟨held, heldFound, -, fact⟩ :=
      (tracked.tenure call).owned attempt.runId attempt.id (CallPhase.owns_of_owes owes)
    obtain rfl := Option.some.inj (found.symm.trans heldFound)
    exact fact.running owes
  · intro success
    exact List.count_eq_one_of_mem tracked.entered (accounted.succeeded attempt row success)

/-- A worker that dies in `runner.execute`. -/
theorem lost_reached : ∃ sessions,
    ReflTransGen (Step (fun _ => true) snapshotReads) empty sessions ∧ sessions.entered = [1] ∧
      sessions.calls 0 = .abandoned 1 1 true ∧ sessions.calls 1 = .idle ∧
      sessions.db.attempts.rows = [(newAttempt 1 1 1 0).start 1] := by
  refine Transition.reach _ (.createProject "evals" none 0) ?_
  refine Transition.reach _ (.request 0 .other _ _ ⟨nofun, nofun, nofun⟩
    (.insertRun sampleNew 0 ⟨1, "evals", none, 0⟩ rfl)) ?_
  refine Transition.reach _ (.request 0 .other _ _ ⟨nofun, nofun, nofun⟩ (.insertFirst _ 0)) ?_
  refine Transition.reach _ (.requestCommit 0 .other _ ⟨nofun, nofun, nofun⟩ (.createRun _ _)) ?_
  refine Transition.reach _ (.call 0 _ (.select (newAttempt 1 1 1 0) rfl)) ?_
  refine Transition.reach _ (.call 0 _ (.claimAttempt 1 1 1 _
    (attempt_unlocked nofun nofun) rfl rfl)) ?_
  refine Transition.reach _ (.call 0 _ (.claimRun 1 1 1 _ _
    (run_unlocked nofun nofun nofun nofun nofun nofun) rfl rfl)) ?_
  refine Transition.reach _ (.callCommit 0 _ _ (.claim 1 1 _ _)) ?_
  refine Transition.reach _ (.enter 0 1 1 _ _ sampleRunner [("stub", sampleRunner)] rfl rfl rfl
    rfl) ?_
  refine Transition.reach _ (.call 0 _ (.abandoned _ 1 1 true rfl)) ?_
  exact Transition.reached ⟨rfl, rfl, rfl, rfl⟩

theorem statuses_accounted_lost :
    ∃ sessions, ReflTransGen (Step (fun _ => true) snapshotReads) empty sessions ∧
      ∃! call, ∃ entered, (sessions.calls call).owes = some (1, 1, entered) := by
  obtain ⟨sessions, run, -, -, -, rows⟩ := lost_reached
  obtain ⟨-, running, -⟩ := statuses_accounted run
    ((newAttempt 1 1 1 0).start 1) (rows ▸ List.mem_singleton.mpr rfl)
  exact ⟨sessions, run, running.mp rfl⟩

theorem Valid.lost_step (valid : Valid sessions) (step : Step accepts allowed sessions sessions')
    {call runId attemptId : Nat} {entered : Bool}
    (lost : sessions.calls call = .abandoned runId attemptId entered) :
    sessions'.calls call = .abandoned runId attemptId entered ∧
      ∃ moved freshRun fresh, Effect sessions.db sessions'.db moved freshRun fresh ∧
        moved ≠ some attemptId := by
  cases step with
  | createProject name description createdAt =>
      exact ⟨lost, none, none, none,
        effect_insertProject sessions.db name description createdAt, nofun⟩
  | call other phase moved =>
      refine ⟨?_, none, none, none, .refl sessions.db, nofun⟩
      by_cases same : call = other
      · subst same
        rw [lost] at moved
        cases moved with
        | claimRolledBack _ claiming => cases claiming
        | abandoned _ runId attemptId entered owes =>
            cases owes
            simp [Sessions.setCall]
      · simpa [Sessions.setCall, same] using lost
  | enter other owedRun owedAttempt run attempt runner registry claimed =>
      refine ⟨?_, none, none, none, .refl sessions.db, nofun⟩
      have different : call ≠ other := by
        rintro rfl
        rw [lost] at claimed
        cases claimed
      simpa [Sessions.setCall, different] using lost
  | callCommit other phase db committed =>
      have different : call ≠ other := by
        rintro rfl
        rw [lost] at committed
        cases committed
      obtain ⟨ownedRun, owned, attempt, run, attemptSnapshot, runSnapshot, owns, holds, progress,
        together, rfl, -⟩ := (valid.calls other).committed committed
      refine ⟨by simpa [Sessions.setCall, different] using lost, some owned, none, none,
        effect_advance holds progress together, ?_⟩
      intro same
      have mine : (sessions.calls call).ownedAttempt = some attemptId := by
        rw [lost]
        rfl
      have others : (sessions.calls other).ownedAttempt = some attemptId := by
        rw [← same]
        exact (CallPhase.ownedAttempt_iff _ _).mpr ⟨ownedRun, owns⟩
      exact different (valid.attempts call other attemptId mine others)
  | request caller statement phase db permitted moved =>
      exact ⟨lost, none, none, none, request_step_effect moved, nofun⟩
  | requestCommit caller statement db permitted committed =>
      obtain ⟨freshRun, fresh, effect⟩ :=
        requestCommit_effect valid.consistent (valid.requests caller) committed
      exact ⟨lost, none, freshRun, fresh, effect, nofun⟩

/-- The call of an attempt is lost between its claim and its persist: from then on nothing that
any other call or request does, in any order of the statements, moves the attempt or its run. -/
theorem lost_call_freezes (settles : Settles allowed)
    (reached : ReflTransGen (Step accepts allowed) empty sessions) {call runId attemptId : Nat}
    {entered : Bool} (lost : sessions.calls call = .abandoned runId attemptId entered)
    {later : Sessions} (more : ReflTransGen (Step accepts allowed) sessions later) :
    Abandoned later.db attemptId runId ∧ loadRun later.db runId = loadRun sessions.db runId ∧
      (∀ env, (processAttempt env later.db attemptId).db = later.db) ∧
      ∀ env, (retryRun env later.db later.db runId).db = later.db := by
  have valid := valid_reached settles reached
  obtain ⟨attempt, run, holds, running⟩ :=
    (valid.calls call).owned runId attemptId (by rw [lost]; rfl)
  rw [lost] at running
  have kept : later.calls call = .abandoned runId attemptId entered ∧
      Holds later.db runId attemptId attempt run ∧
      loadRun later.db runId = loadRun sessions.db runId := by
    induction more with
    | refl => exact ⟨lost, holds, rfl⟩
    | tail before last ih =>
        obtain ⟨still, holding, shown⟩ := ih
        have validHere := valid_reached settles (reached.trans before)
        obtain ⟨stays, moved, freshRun, fresh, effect, other⟩ := validHere.lost_step last still
        exact ⟨stays, holding.effect effect validHere.consistent
          (by rw [show attempt.status = .running from running]; decide) other,
          (holding.loadRun_effect effect validHere.consistent running other).trans shown⟩
  obtain ⟨-, holding, shown⟩ := kept
  have abandoned : Abandoned later.db attemptId runId :=
    ⟨⟨attempt, holding.attemptFound, running⟩, run, holding.runFound,
      holding.status.trans running⟩
  exact ⟨abandoned, shown, abandoned_stays abandoned⟩

theorem lost_call_freezes_redelivered :
    ∃ sessions later, ReflTransGen (Step (fun _ => true) snapshotReads) sessions later ∧
      sessions.entered = [1] ∧ later.calls 1 = .done ∧ Abandoned later.db 1 1 := by
  obtain ⟨sessions, run, entered, lost, idle, rows⟩ := lost_reached
  have row : (newAttempt 1 1 1 0).start 1 ∈ sessions.db.attempts.rows :=
    rows ▸ List.mem_singleton.mpr rfl
  have found : sessions.db.attempts.get? 1 = some ((newAttempt 1 1 1 0).start 1) :=
    Table.get?_of_mem row
  obtain ⟨later, more, done⟩ : ∃ later,
      ReflTransGen (Step (fun _ => true) snapshotReads) sessions later ∧
        later.calls 1 = .done := by
    refine Transition.reach _ (.call 1 (.selected 1 1) ?_) ?_
    · rw [idle]
      exact .select ((newAttempt 1 1 1 0).start 1) found
    refine Transition.reach _ (.call 1 .done (.claimAttemptMissed 1 1 ?_)) ?_
    · intro attempt present
      obtain rfl := Option.some.inj (found.symm.trans present)
      rfl
    exact Transition.reached rfl
  exact ⟨sessions, later, more, entered, done,
    (lost_call_freezes settles_snapshotReads run lost more).1⟩

end Sessions

end Evalynx
