/-
# A bounded worker pool

A pool has a fixed number of workers, at least one and at most `maxSize`; to
start one with more is a crash.  A submitted task waits for a worker, runs while
it holds one, and gives it back however its run exits.  After the pool has shut
down no waiting task gets a worker: it is refused.  Tasks that run by then run
to their end.

| move | from | to | idle workers |
| --- | --- | --- | --- |
| `start` | waiting, pool open, a worker idle | running | one less |
| `finish` | running | exited | one more |
| `refuse` | waiting, pool shut down | refused | as before |

`settle` makes the moves that are due in the order of submission: whoever can
finish does, then the first waiting task starts or is refused.
-/

import ShardProxy.Execution.Backend

namespace ShardProxy

/-- How a task ends. -/
inductive Ending (ρ : Type) where
  | exited (exit : Exit ρ)
  /-- It never got a worker. -/
  | refused
  deriving DecidableEq

/-- Where a task is. -/
inductive Phase (ρ : Type) where
  | waiting
  | running
  | ended (ending : Ending ρ)
  deriving DecidableEq

/-- A step of one task, by its number. -/
inductive Move (ρ : Type) where
  | start (task : Nat)
  | finish (task : Nat) (exit : Exit ρ)
  | refuse (task : Nat)
  deriving DecidableEq

/-- A pool and the tasks ever submitted to it; a task's number is its position. -/
structure WorkerPool (ρ : Type) where
  /-- The number of workers. -/
  size : Nat
  /-- The workers that hold no task. -/
  idle : Nat
  /-- Whether the pool has shut down. -/
  closed : Bool
  tasks : List (Phase ρ)
  deriving DecidableEq

namespace WorkerPool

variable {ρ : Type}

/-- A pool of `n` workers, of one if `n` is zero. -/
def ofSize (n : Nat) : WorkerPool ρ :=
  ⟨max 1 n, max 1 n, false, []⟩

/-- The most workers that a pool can count: three bits of a 64-bit word are not its own. -/
def maxSize : Nat := 2305843009213693951

/-- The message of the crash when a pool is started with too many workers. -/
def tooManyWorkers : String :=
  s!"a semaphore may not have more than MAX_PERMITS permits ({maxSize})"

/-- Starts a pool of `n` workers. -/
def start (n : Nat) : Exit (WorkerPool ρ) :=
  if n ≤ maxSize then .returned (ofSize n) else .crashed tooManyWorkers

/-- Submits a task; its number is that of the tasks before it. -/
def submit (pool : WorkerPool ρ) : WorkerPool ρ :=
  { pool with tasks := pool.tasks ++ [.waiting] }

/-- Shuts the pool down. -/
def shutDown (pool : WorkerPool ρ) : WorkerPool ρ :=
  { pool with closed := true }

/-- Makes a move, if it is due. -/
def perform? (pool : WorkerPool ρ) : Move ρ → Option (WorkerPool ρ)
  | .start k =>
    match pool.tasks[k]? with
    | some .waiting =>
      if pool.closed || pool.idle == 0 then none
      else some { pool with idle := pool.idle - 1, tasks := pool.tasks.set k .running }
    | _ => none
  | .finish k exit =>
    match pool.tasks[k]? with
    | some .running =>
      some { pool with
        idle := pool.idle + 1, tasks := pool.tasks.set k (.ended (.exited exit)) }
    | _ => none
  | .refuse k =>
    match pool.tasks[k]? with
    | some .waiting =>
      if pool.closed then some { pool with tasks := pool.tasks.set k (.ended .refused) } else none
    | _ => none

/-- The first running task whose exit is known. -/
def nextFinish? (exit? : Nat → Option (Exit ρ)) (pool : WorkerPool ρ) : Option (Move ρ) :=
  pool.tasks.zipIdx.findSome? fun
    | (.running, k) => (exit? k).map (.finish k)
    | _ => none

/-- What is due for the first waiting task. -/
def nextStart? (pool : WorkerPool ρ) : Option (Move ρ) :=
  pool.tasks.zipIdx.findSome? fun
    | (.waiting, k) =>
      if pool.closed then some (.refuse k)
      else if pool.idle = 0 then none else some (.start k)
    | _ => none

/-- The move that is due next, when the exits of some tasks are known. -/
def next? (exit? : Nat → Option (Exit ρ)) (pool : WorkerPool ρ) : Option (Move ρ) :=
  match pool.nextFinish? exit? with
  | some move => some move
  | none => pool.nextStart?

/-- Makes at most `fuel` of the moves that are due. -/
def settleWithin (exit? : Nat → Option (Exit ρ)) :
    Nat → WorkerPool ρ → List (Move ρ) × WorkerPool ρ
  | 0, pool => ([], pool)
  | fuel + 1, pool =>
    match pool.next? exit? with
    | none => ([], pool)
    | some move =>
      match pool.perform? move with
      | none => ([], pool)
      | some pool =>
        let (moves, pool) := settleWithin exit? fuel pool
        (move :: moves, pool)

/-- Makes all moves that are due; each task makes two at most. -/
def settle (exit? : Nat → Option (Exit ρ)) (pool : WorkerPool ρ) :
    List (Move ρ) × WorkerPool ρ :=
  pool.settleWithin exit? (2 * pool.tasks.length)

/-- How a task has ended, if it has. -/
def ending? (pool : WorkerPool ρ) (task : Nat) : Option (Ending ρ) :=
  match pool.tasks[task]? with
  | some (.ended ending) => some ending
  | _ => none

end WorkerPool

end ShardProxy
