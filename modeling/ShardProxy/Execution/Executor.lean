/-
# Executing statements

An `Executor` is everything that is under way: the worker pool, the statements that
have arrived, and the log of what has been asked of backends.  `perform?` lets one
thing happen, in whatever order the world chooses; `execute` runs one
statement to its end, one unit after the other.
-/

import ShardProxy.Execution.Dispatch

namespace ShardProxy

/-- Where a statement stands for its caller, with errors of type `ε`. -/
inductive Verdict (ε : Type) where
  /-- The caller still waits. -/
  | pending
  | answered (response : Except ε Response)
  /-- The first unit's run crashed on the caller. -/
  | crashed (message : String)

/-- The verdict with its error seen from further out. -/
def Verdict.mapError {ε ε' : Type} (f : ε → ε') : Verdict ε → Verdict ε'
  | pending => .pending
  | answered response => .answered (response.mapError f)
  | crashed message => .crashed message

/-- What the caller of a statement has. -/
def Caller.verdict : Caller → Verdict ExecutionError
  | returned response => .answered response
  | crashed message => .crashed message
  | _ => .pending

/-- Everything that is under way. -/
structure Executor where
  pool : WorkerPool LaterAnswer
  statements : List Dispatch
  log : List Event

namespace Executor

/-- Something that happens to an executor. -/
inductive Action where
  /-- A statement arrives; its number is that of the statements before it. -/
  | arrive (first : ExecutionUnit) (later : List ExecutionUnit) (keys : Bool)
  /-- A statement takes a step. -/
  | act (statement : Nat) (act : Act)
  /-- The pool is shut down. -/
  | shutDown

/-- An executor over a pool to which nothing has been submitted. -/
def ofPool (pool : WorkerPool LaterAnswer) : Executor :=
  ⟨pool, [], []⟩

/-- Starts an executor over a pool of `n` workers. -/
def start (n : Nat) : Exit Executor :=
  (WorkerPool.start n).map ofPool

/-- Shuts the pool down. -/
def shutDown (executor : Executor) : Executor :=
  { executor with pool := executor.pool.shutDown }

/-- Lets something happen, if it can. -/
def perform? (executor : Executor) : Action → Option Executor
  | .arrive first later keys =>
    some { executor with statements := executor.statements ++ [.ofUnits first later keys] }
  | .act n act =>
    match executor.statements[n]? with
    | none => none
    | some dispatch =>
      match dispatch.advance? executor.pool.tasks.length act,
        dispatch.serve? executor.pool act with
      | some next, some pool =>
        some ⟨pool, executor.statements.set n next, executor.log ++ dispatch.events n act⟩
      | _, _ => none
  | .shutDown => some executor.shutDown

/-- Lets things happen one after the other, if they all can. -/
def performAll? (executor : Executor) : List Action → Option Executor
  | [] => some executor
  | action :: actions =>
    match executor.perform? action with
    | none => none
    | some executor => executor.performAll? actions

/-- Lets those of some things happen that can. -/
def performEach (executor : Executor) : List Action → Executor
  | [] => executor
  | action :: actions => ((executor.perform? action).getD executor).performEach actions

/-- Where a statement stands. -/
def verdict (executor : Executor) (statement : Nat) : Verdict ExecutionError :=
  match executor.statements[statement]? with
  | none => .pending
  | some dispatch => dispatch.caller.verdict

/-- Executes a statement while nothing else happens. -/
def execute (executor : Executor) (backends : Backends) (units : List ExecutionUnit)
    (keys : Bool) : Verdict ExecutionError × Executor :=
  match units with
  | [] => (.answered (.error .noUnit), executor)
  | first :: later =>
    let number := executor.statements.length
    let acts := (Dispatch.ofUnits first later keys).schedule backends executor.pool.closed
    let final := executor.performEach (.arrive first later keys :: acts.map (.act number))
    (final.verdict number, final)

/-- The jobs that have run on a connection, in order. -/
def runs (events : List Event) : List Job :=
  events.filterMap fun
    | .run _ job => some job
    | _ => none

/-- How many runs have returned. -/
def completed (events : List Event) : Nat :=
  (events.filter fun
    | .complete .. => true
    | _ => false).length

end Executor

end ShardProxy
