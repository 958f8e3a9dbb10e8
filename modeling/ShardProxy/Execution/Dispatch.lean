/-
# A statement under way

The caller of a statement submits the later units one by one, runs the first
unit itself, then waits for each later unit in order, also when an earlier one
has failed, and returns one response.  An error of the first unit goes before all
others.  The first unit asks for column metadata, the later ones do not.

A `Dispatch` is the caller and the runs of the units.  `advance?` takes one step,
of the caller or of any run; who comes when is not for the statement to say.
-/

import ShardProxy.Execution.Run

namespace ShardProxy

/-- Where the caller of a statement is. -/
inductive Caller where
  /-- It has submitted the later units before a position. -/
  | submitting (next : Nat)
  /-- It runs the first unit. -/
  | running
  /-- It has the first unit's answer and those of the next units, and waits for one more. -/
  | collecting (first : Except ExecutionError FirstResult) (rest : List LaterAnswer)
  | returned (response : Except ExecutionError Response)
  /-- The run of the first unit crashed. -/
  | crashed (message : String)

/-- The response to a statement: an error of the first unit goes before all others. -/
def conclude (first : Except ExecutionError FirstResult) (rest : List LaterAnswer) :
    Except ExecutionError Response :=
  match first with
  | .error e => .error e
  | .ok first => merge first rest

namespace Caller

/-- Where the caller is after its first unit. -/
def afterFirst (job : Job) (conduct : Conduct) : Caller :=
  match conduct.exit with
  | .returned answer => .collecting (job.firstAnswer answer) []
  | .crashed message => .crashed message

/-- What a turn of the first of `units` units means for the caller: it starts once all later units
have been submitted, and it needs no worker. -/
def lead? (caller : Caller) (job : Job) (units : Nat) : Turn → Option Caller
  | .start =>
    match caller with
    | .submitting next => if next = units then some .running else none
    | _ => none
  | .refuse => none
  | .connect => some caller
  | .fail exit => some (afterFirst job (.unconnected exit))
  | .finish exit => some (afterFirst job (.connected exit))

end Caller

/-- A step of a statement. -/
inductive Act where
  /-- The next later unit is submitted. -/
  | submit
  /-- The run of a unit takes a turn. -/
  | turn (position : Nat) (turn : Turn)
  /-- The caller takes the result of the next later unit. -/
  | collect
  /-- The caller, which has all results, returns. -/
  | reply

/-- A statement under way. -/
structure Dispatch where
  /-- The runs of its units, in order. -/
  runs : List Run
  caller : Caller

namespace Dispatch

/-- A statement that has just arrived. -/
def ofUnits (first : ExecutionUnit) (later : List ExecutionUnit) (keys : Bool) : Dispatch where
  runs := ⟨⟨first, .streaming keys true⟩, none, .waiting⟩ ::
    later.map fun unit => ⟨⟨unit, .streaming keys false⟩, none, .unsent⟩
  caller := .submitting 1

/-- The caller after a turn of a unit: only the first unit is its own. -/
def callerAfter? (dispatch : Dispatch) (position : Nat) (job : Job) (turn : Turn) :
    Option Caller :=
  if position = 0 then dispatch.caller.lead? job dispatch.runs.length turn
  else some dispatch.caller

/-- Takes a step, if it can be taken; `task` is the number of a task that is submitted. -/
def advance? (dispatch : Dispatch) (task : Nat) : Act → Option Dispatch
  | .submit =>
    match dispatch.caller with
    | .submitting next =>
      match dispatch.runs[next]? with
      | none => none
      | some run =>
        some ⟨dispatch.runs.set next { run with task := some task, progress := .waiting },
          .submitting (next + 1)⟩
    | _ => none
  | .turn position turn =>
    match dispatch.runs[position]? with
    | none => none
    | some run =>
      match run.progress.turn? turn, dispatch.callerAfter? position run.job turn with
      | some progress, some caller =>
        some ⟨dispatch.runs.set position { run with progress }, caller⟩
      | _, _ => none
  | .collect =>
    match dispatch.caller with
    | .collecting first rest =>
      match dispatch.runs[rest.length + 1]?.bind Run.answer? with
      | none => none
      | some answer => some { dispatch with caller := .collecting first (rest ++ [answer]) }
    | _ => none
  | .reply =>
    match dispatch.caller with
    | .collecting first rest =>
      if rest.length + 1 = dispatch.runs.length then
        some { dispatch with caller := .returned (conclude first rest) }
      else none
    | _ => none

/-- What a step asks of the pool. -/
def serve? (dispatch : Dispatch) (pool : WorkerPool LaterAnswer) :
    Act → Option (WorkerPool LaterAnswer)
  | .submit => some pool.submit
  | .turn position turn =>
    if position = 0 then some pool
    else dispatch.runs[position]?.bind (·.serve? pool turn)
  | .collect => some pool
  | .reply => some pool

/-- What the backends see of a step of a statement with a given number. -/
def events (dispatch : Dispatch) (number : Nat) : Act → List Event
  | .turn position turn =>
    match dispatch.runs[position]? with
    | none => []
    | some run => turn.events ⟨number, position⟩ run.job
  | _ => []

/-- The steps of a statement that has the workers for itself: one unit after the other. -/
def schedule (dispatch : Dispatch) (backends : Backends) (closed : Bool) : List Act :=
  let submits := dispatch.runs.tail.map fun _ => Act.submit
  let turns := dispatch.runs.zipIdx.flatMap fun (run, position) =>
    if closed && position != 0 then [Act.turn position .refuse]
    else (Turn.start :: (run.job.conduct backends).turns).map (Act.turn position)
  let collects := dispatch.runs.tail.map fun _ => Act.collect
  submits ++ turns ++ collects ++ [.reply]

end Dispatch

end ShardProxy
