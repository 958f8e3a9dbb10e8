/-
# The run of one unit

A unit is run under options of its own.  Its run asks for a connection and, once
it has one, runs the unit's text there; it exits with an answer or an error of
its backend, or in a crash.  A first unit runs when its caller gets to it; a later one
is submitted, waits for a worker, and may be refused one:

| turn | from | to |
| --- | --- | --- |
| `start` | waiting | connecting |
| `refuse` | waiting | refused |
| `connect` | connecting | executing |
| `fail` | connecting | exited |
| `finish` | executing | exited |

How the backends treat a unit is its `Conduct`.
-/

import ShardProxy.Execution.Merge
import ShardProxy.Execution.Unit
import ShardProxy.Execution.WorkerPool

namespace ShardProxy

/-- A unit and the options it runs under. -/
structure Job where
  unit : ExecutionUnit
  options : Options
  deriving Repr, DecidableEq

/-- A unit of a statement under way: the number of the statement and the unit's position in it. -/
structure Slot where
  statement : Nat
  position : Nat
  deriving Repr, DecidableEq

/-- What happens at the backends for a unit. -/
inductive Event where
  /-- A connection is asked for. -/
  | ask (slot : Slot) (dataSource : String)
  /-- The connection is there. -/
  | connect (slot : Slot)
  /-- A text starts to run on the connection. -/
  | run (slot : Slot) (job : Job)
  /-- The run returns, with an outcome or an error. -/
  | complete (slot : Slot) (job : Job)
  deriving Repr, DecidableEq

/-- The unit that an event belongs to. -/
def Event.slot : Event → Slot
  | ask slot _ => slot
  | connect slot => slot
  | run slot _ => slot
  | complete slot _ => slot

/-- How the backends treat a unit. -/
inductive Conduct where
  /-- It gets no connection: asking for one fails or crashes. -/
  | unconnected (exit : Exit BackendError)
  /-- Its text runs and exits. -/
  | connected (exit : Exit (Except BackendError Outcome))

/-- How a unit exits. -/
def Conduct.exit : Conduct → Exit (Except BackendError Outcome)
  | unconnected exit => exit.map .error
  | connected exit => exit

namespace Job

/-- How backends treat a job when their answers do not change. -/
def conduct (job : Job) (backends : Backends) : Conduct :=
  match backends job.unit.dataSource with
  | .error e => .unconnected (.returned e)
  | .ok connection => .connected (connection.run job.unit.sql job.options)

/-- The answer of a first unit, an error tagged with the data source. -/
def firstAnswer (job : Job) : Except BackendError Outcome → Except ExecutionError FirstResult
  | .error e => .error (.unit job.unit.dataSource e)
  | .ok outcome => .ok (.ofOutcome job.unit.dataSource outcome)

/-- The answer of a later unit, an error tagged with the data source. -/
def laterAnswer (job : Job) : Except BackendError Outcome → LaterAnswer
  | .error e => .error (.unit job.unit.dataSource e)
  | .ok outcome => .ok (.ofOutcome job.unit.dataSource outcome)

/-- How the task of a later unit exits. -/
def exitLater (job : Job) (conduct : Conduct) : Exit LaterAnswer :=
  conduct.exit.map job.laterAnswer

end Job

/-- How far a run has come. -/
inductive Progress where
  /-- A later unit that has not been submitted. -/
  | unsent
  /-- It waits, a later unit for a worker, a first unit for its caller. -/
  | waiting
  /-- The pool was shut down before it had a worker. -/
  | refused
  /-- It has asked for a connection. -/
  | connecting
  /-- Its text runs. -/
  | executing
  | exited (conduct : Conduct)

/-- A step of a run. -/
inductive Turn where
  /-- It gets its worker or its caller, and asks for a connection. -/
  | start
  /-- It learns that it will never get a worker. -/
  | refuse
  /-- It gets the connection, and its text starts to run. -/
  | connect
  /-- It gets no connection. -/
  | fail (exit : Exit BackendError)
  /-- Its text ends. -/
  | finish (exit : Exit (Except BackendError Outcome))

/-- Where a turn leads, if it can be taken. -/
def Progress.turn? : Progress → Turn → Option Progress
  | waiting, .start => some connecting
  | waiting, .refuse => some refused
  | connecting, .connect => some executing
  | connecting, .fail exit => some (exited (.unconnected exit))
  | executing, .finish exit => some (exited (.connected exit))
  | _, _ => none

/-- What the backends see of a turn. -/
def Turn.events (slot : Slot) (job : Job) : Turn → List Event
  | start => [.ask slot job.unit.dataSource]
  | refuse => []
  | connect => [.connect slot, .run slot job]
  | fail _ => []
  | finish (.returned _) => [.complete slot job]
  | finish (.crashed _) => []

/-- The turns of a run that has started, when the backends treat it in a given way. -/
def Conduct.turns : Conduct → List Turn
  | unconnected exit => [.fail exit]
  | connected exit => [.connect, .finish exit]

/-- The run of a unit. -/
structure Run where
  job : Job
  /-- Its task in the pool, once a later unit has been submitted. -/
  task : Option Nat
  progress : Progress

namespace Run

/-- What the caller gets for a later unit whose task has ended. -/
def answer? (run : Run) : Option LaterAnswer :=
  match run.progress with
  | .refused => some (.error (.lost run.job.unit.dataSource .poolClosed))
  | .exited conduct =>
    match run.job.exitLater conduct with
    | .returned answer => some answer
    | .crashed message => some (.error (.lost run.job.unit.dataSource (.crashed message)))
  | _ => none

/-- What a turn of a later unit asks of the pool: a worker is taken at the start and given back
at the end. -/
def serve? (run : Run) (pool : WorkerPool LaterAnswer) (turn : Turn) :
    Option (WorkerPool LaterAnswer) :=
  match run.task with
  | none => none
  | some task =>
    match turn with
    | .start => pool.perform? (.start task)
    | .refuse => pool.perform? (.refuse task)
    | .connect => some pool
    | .fail exit => pool.perform? (.finish task (run.job.exitLater (.unconnected exit)))
    | .finish exit => pool.perform? (.finish task (run.job.exitLater (.connected exit)))

end Run

end ShardProxy
