import Mathlib.Data.List.Range
import Mathlib.Logic.Function.Basic

/-! A pool of threads over one queue of jobs: where a submitted job can be. -/

namespace ThreadPool

variable {Job : Type}

/-- `submitted` and `done` are in the order of the calls and of the returns. -/
structure Pool (Job : Type) where
  submitted : List Job
  pending : List Job
  threads : Nat → Option Job
  done : List Job
  down : Bool

namespace Pool

def empty : Pool Job where
  submitted := []
  pending := []
  threads := fun _ => none
  done := []
  down := false

/-- After it no job is taken on; those that wait are still run. -/
def shutdown (pool : Pool Job) : Pool Job := { pool with down := true }

def running (size : Nat) (pool : Pool Job) : List Job :=
  (List.range size).filterMap pool.threads

/-- One of `size` threads takes the job at the head of the queue, or is done with its job. -/
inductive Step (size : Nat) (pool : Pool Job) : Pool Job → Prop where
  | submit (job : Job) (up : pool.down = false) :
      Step size pool { pool with
        submitted := pool.submitted ++ [job]
        pending := pool.pending ++ [job] }
  | start (thread : Nat) (job : Job) (rest : List Job) (inside : thread < size)
      (free : pool.threads thread = none) (next : pool.pending = job :: rest) :
      Step size pool { pool with
        pending := rest
        threads := Function.update pool.threads thread (some job) }
  | finish (thread : Nat) (job : Job) (busy : pool.threads thread = some job) :
      Step size pool { pool with
        threads := Function.update pool.threads thread none
        done := pool.done ++ [job] }

structure Returned (pool : Pool Job) : Prop where
  down : pool.down = true
  pending : pool.pending = []
  free : ∀ thread, pool.threads thread = none

theorem filterMap_of_notMem (threads : Nat → Option Job) {thread : Nat} (phase : Option Job)
    {parties : List Nat} (absent : thread ∉ parties) :
    parties.filterMap (Function.update threads thread phase) = parties.filterMap threads := by
  apply List.filterMap_congr
  intro party member
  apply Function.update_of_ne
  rintro rfl
  exact absent member

theorem filterMap_take {threads : Nat → Option Job} {thread : Nat} (job : Job)
    (free : threads thread = none) {parties : List Nat} (distinct : parties.Nodup)
    (member : thread ∈ parties) :
    (parties.filterMap (Function.update threads thread (some job))).Perm
      (job :: parties.filterMap threads) := by
  induction parties with
  | nil => cases member
  | cons party others ih =>
      rw [List.nodup_cons] at distinct
      rw [List.filterMap_cons, List.filterMap_cons]
      by_cases same : thread = party
      · subst same
        rw [Function.update_self, free, filterMap_of_notMem threads (some job) distinct.1]
      · have rest := ih distinct.2 ((List.mem_cons.mp member).resolve_left same)
        rw [Function.update_of_ne (Ne.symm same)]
        cases threads party with
        | none => exact rest
        | some other => exact (rest.cons other).trans (List.Perm.swap job other _)

variable {size : Nat} {pool next : Pool Job}

structure Sound (size : Nat) (pool : Pool Job) : Prop where
  conserved : pool.submitted.Perm (pool.done ++ (pool.running size ++ pool.pending))
  inside : ∀ thread job, pool.threads thread = some job → thread < size

theorem sound_empty (size : Nat) : Sound size (empty : Pool Job) where
  conserved := by
    have idle : running size (empty : Pool Job) = [] :=
      List.filterMap_eq_nil_iff.mpr (fun _ _ => rfl)
    rw [idle]
    exact List.Perm.refl []
  inside := by
    intro thread job busy
    cases busy

theorem running_start {thread : Nat} (job : Job) (inside : thread < size)
    (free : pool.threads thread = none) :
    ((List.range size).filterMap (Function.update pool.threads thread (some job))).Perm
      (job :: pool.running size) :=
  filterMap_take job free List.nodup_range (List.mem_range.mpr inside)

theorem running_finish {thread : Nat} {job : Job} (inside : thread < size)
    (busy : pool.threads thread = some job) :
    (pool.running size).Perm
      (job :: (List.range size).filterMap (Function.update pool.threads thread none)) := by
  have taken := filterMap_take job (Function.update_self thread none pool.threads)
    List.nodup_range (List.mem_range.mpr inside)
  rw [Function.update_idem, ← busy, Function.update_eq_self] at taken
  exact taken

theorem Sound.step (sound : Sound size pool) (step : Step size pool next) : Sound size next := by
  cases step with
  | submit job up =>
      refine ⟨?_, sound.inside⟩
      have more := sound.conserved.append_right [job]
      simp only [List.append_assoc] at more ⊢
      exact more
  | start thread job rest inside free queued =>
      constructor
      · refine sound.conserved.trans (List.Perm.append_left _ ?_)
        rw [queued]
        exact List.perm_middle.trans ((running_start job inside free).symm.append_right rest)
      · intro other held busy
        by_cases same : other = thread
        · exact same ▸ inside
        · exact sound.inside other held (by simpa [same] using busy)
  | finish thread job busy =>
      have inside := sound.inside thread job busy
      constructor
      · refine sound.conserved.trans ?_
        simp only [List.append_assoc]
        exact List.Perm.append_left _ ((running_finish inside busy).append_right pool.pending)
      · intro other held stillBusy
        by_cases same : other = thread
        · exact same ▸ inside
        · exact sound.inside other held (by simpa [same] using stillBusy)

theorem Sound.shutdown (sound : Sound size pool) : Sound size pool.shutdown :=
  ⟨sound.conserved, sound.inside⟩

theorem Sound.mem_running (sound : Sound size pool) (job : Job) :
    job ∈ pool.running size ↔ ∃ thread, pool.threads thread = some job := by
  simp only [running, List.mem_filterMap, List.mem_range]
  constructor
  · rintro ⟨thread, -, busy⟩
    exact ⟨thread, busy⟩
  · rintro ⟨thread, busy⟩
    exact ⟨thread, sound.inside thread job busy, busy⟩

theorem thread_unique {threads : Nat → Option Job} {parties : List Nat}
    (distinct : (parties.filterMap threads).Nodup) {thread other : Nat} {job : Job}
    (member : thread ∈ parties) (otherMember : other ∈ parties)
    (busy : threads thread = some job) (otherBusy : threads other = some job) : thread = other := by
  induction parties with
  | nil => cases member
  | cons party others ih =>
      rw [List.filterMap_cons] at distinct
      cases phase : threads party with
      | none =>
          rw [phase] at distinct
          have apart {any : Nat} (anyBusy : threads any = some job) : any ≠ party := by
            rintro rfl
            rw [phase] at anyBusy
            cases anyBusy
          exact ih distinct ((List.mem_cons.mp member).resolve_left (apart busy))
            ((List.mem_cons.mp otherMember).resolve_left (apart otherBusy))
      | some first =>
          rw [phase] at distinct
          obtain ⟨fresh, rest⟩ := List.nodup_cons.mp distinct
          have absent {any : Nat} (anyMember : any ∈ others) (anyBusy : threads any = some job) :
              first ≠ job := by
            rintro rfl
            exact fresh (List.mem_filterMap.mpr ⟨any, anyMember, anyBusy⟩)
          rcases List.mem_cons.mp member with rfl | inside
          · obtain rfl := Option.some.inj (phase.symm.trans busy)
            rcases List.mem_cons.mp otherMember with same | otherInside
            · exact same.symm
            · exact absurd rfl (absent otherInside otherBusy)
          · rcases List.mem_cons.mp otherMember with rfl | otherInside
            · obtain rfl := Option.some.inj (phase.symm.trans otherBusy)
              exact absurd rfl (absent inside busy)
            · exact ih rest inside otherInside

theorem Sound.thread_unique (sound : Sound size pool) (distinct : pool.submitted.Nodup)
    {thread other : Nat} {job : Job} (busy : pool.threads thread = some job)
    (otherBusy : pool.threads other = some job) : thread = other := by
  have once := (sound.conserved.nodup_iff).mp distinct
  have running := (List.nodup_append.mp (List.nodup_append.mp once).2.1).1
  exact Pool.thread_unique running (List.mem_range.mpr (sound.inside thread job busy))
    (List.mem_range.mpr (sound.inside other job otherBusy)) busy otherBusy

theorem running_length (size : Nat) (pool : Pool Job) : (pool.running size).length ≤ size := by
  have bound := List.length_filterMap_le pool.threads (List.range size)
  rwa [List.length_range] at bound

theorem Returned.submitted (returned : Returned pool) (sound : Sound size pool) :
    pool.submitted.Perm pool.done := by
  have idle : pool.running size = [] :=
    List.filterMap_eq_nil_iff.mpr (fun thread _ => returned.free thread)
  have conserved := sound.conserved
  rw [idle, returned.pending, List.append_nil, List.append_nil] at conserved
  exact conserved

theorem Returned.stays (returned : Returned pool) : ¬ Step size pool next := by
  intro step
  cases step with
  | submit job up =>
      rw [returned.down] at up
      cases up
  | start thread job rest inside free queued =>
      rw [returned.pending] at queued
      cases queued
  | finish thread job busy =>
      rw [returned.free thread] at busy
      cases busy

theorem Returned.shutdown (returned : Returned pool) : pool.shutdown = pool := by
  cases pool
  obtain rfl := returned.down
  rfl

theorem Step.submitted (step : Step size pool next) :
    (next.submitted = pool.submitted ∧ next.pending.length ≤ pool.pending.length) ∨
      ∃ job, next.submitted = pool.submitted ++ [job] ∧ next.pending = pool.pending ++ [job] := by
  cases step with
  | submit job up => exact Or.inr ⟨job, rfl, rfl⟩
  | start thread job rest inside free queued =>
      left
      rw [queued]
      exact ⟨rfl, Nat.le_succ rest.length⟩
  | finish thread job busy => exact Or.inl ⟨rfl, Nat.le_refl _⟩

theorem Step.down_kept (step : Step size pool next) (down : pool.down = true) :
    next.down = true ∧ next.submitted = pool.submitted := by
  cases step with
  | submit job up =>
      rw [down] at up
      cases up
  | start | finish => exact ⟨down, rfl⟩

theorem Step.done_kept (step : Step size pool next) {job : Job} (done : job ∈ pool.done) :
    job ∈ next.done := by
  cases step with
  | submit | start => exact done
  | finish => exact List.mem_append_left _ done

theorem Step.thread (step : Step size pool next) {thread : Nat} {job : Job}
    (busy : pool.threads thread = some job) :
    next.threads thread = some job ∨ (next.threads thread = none ∧ job ∈ next.done) := by
  cases step with
  | submit => exact Or.inl busy
  | start other taken rest inside free queued =>
      left
      have different : thread ≠ other := by
        rintro rfl
        rw [free] at busy
        cases busy
      simpa [different] using busy
  | finish other ended endedBusy =>
      by_cases same : thread = other
      · subst same
        rw [busy] at endedBusy
        obtain rfl := Option.some.inj endedBusy
        exact Or.inr ⟨Function.update_self _ _ _, by simp⟩
      · left
        simpa [same] using busy

end Pool

end ThreadPool
