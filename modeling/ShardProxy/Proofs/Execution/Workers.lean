/-
# Workers and tasks

A pool's idle workers and its running tasks add up to a number that no move changes
(`WorkerPool.Moves.staffed`): a start takes a worker, and a finish gives it back
however the run exited.  A turn of a submitted unit is a move of its task
(`Run.served_of_serve?`): what the turn does to the run, the move does to the task.
-/

import ShardProxy.Proofs.Execution.Steps

namespace ShardProxy

/-- Whether a task holds a worker. -/
def Phase.isRunning {ρ : Type} : Phase ρ → Bool
  | running => true
  | _ => false

namespace WorkerPool

variable {ρ : Type}

/-- The tasks that hold a worker. -/
def busy (pool : WorkerPool ρ) : Nat :=
  pool.tasks.countP Phase.isRunning

/-- The moves of a pool. -/
inductive Moves (pool : WorkerPool ρ) : Move ρ → WorkerPool ρ → Prop
  | start {k : Nat} (htask : pool.tasks[k]? = some .waiting) (hopen : pool.closed = false)
    (hidle : pool.idle ≠ 0) :
    Moves pool (.start k) { pool with idle := pool.idle - 1, tasks := pool.tasks.set k .running }
  | finish {k : Nat} {exit : Exit ρ} (htask : pool.tasks[k]? = some .running) :
    Moves pool (.finish k exit)
      { pool with idle := pool.idle + 1, tasks := pool.tasks.set k (.ended (.exited exit)) }
  | refuse {k : Nat} (htask : pool.tasks[k]? = some .waiting) (hclosed : pool.closed = true) :
    Moves pool (.refuse k) { pool with tasks := pool.tasks.set k (.ended .refused) }

/-- **A pool makes no other moves.** -/
theorem moves_of_perform? {pool after : WorkerPool ρ} {move : Move ρ}
    (h : pool.perform? move = some after) : pool.Moves move after := by
  cases move with
  | start k =>
    rw [perform?] at h
    split at h
    · next htask =>
      split at h
      · cases h
      · next hfree =>
        cases h
        rw [Bool.or_eq_true, beq_iff_eq, not_or, Bool.not_eq_true] at hfree
        exact .start htask hfree.1 hfree.2
    · cases h
  | finish k exit =>
    rw [perform?] at h
    split at h
    · next htask =>
      cases h
      exact .finish htask
    · cases h
  | refuse k =>
    rw [perform?] at h
    split at h
    · next htask =>
      split at h
      · next hclosed =>
        cases h
        exact .refuse htask hclosed
      · cases h
    · cases h

/-- The tasks that hold a worker after one task has changed. -/
theorem countP_set_add {tasks : List (Phase ρ)} {k : Nat} {before : Phase ρ} (phase : Phase ρ)
    (htask : tasks[k]? = some before) :
    (tasks.set k phase).countP Phase.isRunning + (if before.isRunning then 1 else 0) =
      tasks.countP Phase.isRunning + if phase.isRunning then 1 else 0 := by
  obtain ⟨hk, rfl⟩ := List.getElem?_eq_some_iff.1 htask
  have hle := List.boole_getElem_le_countP (p := Phase.isRunning) hk
  rw [List.countP_set hk]
  omega

/-- **No move changes the number of idle workers and running tasks.** -/
theorem Moves.staffed {pool after : WorkerPool ρ} {move : Move ρ} (h : pool.Moves move after) :
    after.idle + after.busy = pool.idle + pool.busy := by
  cases h with
  | start htask hopen hidle =>
    have hcount := countP_set_add .running htask
    simp only [Phase.isRunning, Bool.false_eq_true, if_false, if_true, busy] at hcount ⊢
    omega
  | @finish k exit htask =>
    have hcount := countP_set_add (.ended (.exited exit)) htask
    simp only [Phase.isRunning, Bool.false_eq_true, if_false, if_true, busy] at hcount ⊢
    omega
  | refuse htask hclosed =>
    have hcount := countP_set_add (.ended .refused) htask
    simp only [Phase.isRunning, Bool.false_eq_true, if_false, busy] at hcount ⊢
    omega

end WorkerPool

/-- Where the task of a submitted run is. -/
def Run.phase (run : Run) : Phase LaterAnswer :=
  match run.progress with
  | .unsent => .waiting
  | .waiting => .waiting
  | .refused => .ended .refused
  | .connecting => .running
  | .executing => .running
  | .exited conduct => .ended (.exited (run.job.exitLater conduct))

/-- How the pool serves a turn of the run of task `task`. -/
structure Run.Served (run : Run) (task : Nat) (pool : WorkerPool LaterAnswer) (turn : Turn)
    (progress : Progress) (after : WorkerPool LaterAnswer) : Prop where
  tasks : after.tasks = pool.tasks.set task (Run.phase { run with progress })
  staffed : after.idle + after.busy = pool.idle + pool.busy
  size : after.size = pool.size
  closed : after.closed = pool.closed
  refused : turn = .refuse → pool.closed = true

/-- Only submitted runs are served. -/
theorem Run.exists_task_of_serve? {run : Run} {pool after : WorkerPool LaterAnswer} {turn : Turn}
    (h : run.serve? pool turn = some after) : ∃ task, run.task = some task := by
  rw [serve?] at h
  split at h
  · cases h
  · next task htask => exact ⟨task, htask⟩

/-- **A turn of a submitted run does to its task what it does to the run.** -/
theorem Run.served_of_serve? {run : Run} {task : Nat} {pool after : WorkerPool LaterAnswer}
    {turn : Turn} {progress : Progress} (htask : run.task = some task)
    (hphase : pool.tasks[task]? = some run.phase) (hturn : run.progress.Turns turn progress)
    (h : run.serve? pool turn = some after) : run.Served task pool turn progress after := by
  obtain ⟨job, given, before⟩ := run
  cases htask
  rw [serve?] at h
  cases hturn with
  | start =>
    have hmove := WorkerPool.moves_of_perform? h
    have hstaffed := hmove.staffed
    cases hmove with
    | start => exact ⟨rfl, hstaffed, rfl, rfl, fun e => by cases e⟩
  | refuse =>
    have hmove := WorkerPool.moves_of_perform? h
    have hstaffed := hmove.staffed
    cases hmove with
    | refuse _ hclosed => exact ⟨rfl, hstaffed, rfl, rfl, fun _ => hclosed⟩
  | connect =>
    cases h
    obtain ⟨hk, hk'⟩ := List.getElem?_eq_some_iff.1 hphase
    refine ⟨?_, rfl, rfl, rfl, fun e => by cases e⟩
    rw [show Run.phase ⟨job, some task, .executing⟩ = pool.tasks[task] from hk'.symm,
      List.set_getElem_self]
  | fail exit =>
    have hmove := WorkerPool.moves_of_perform? h
    have hstaffed := hmove.staffed
    cases hmove with
    | finish => exact ⟨rfl, hstaffed, rfl, rfl, fun e => by cases e⟩
  | finish exit =>
    have hmove := WorkerPool.moves_of_perform? h
    have hstaffed := hmove.staffed
    cases hmove with
    | finish => exact ⟨rfl, hstaffed, rfl, rfl, fun e => by cases e⟩

end ShardProxy
