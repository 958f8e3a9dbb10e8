/-
# Why an execution fails

An execution error names the data source of the unit that failed, if a unit was
run at all.
-/

import ShardProxy.Execution.Response

namespace ShardProxy

/-- Why the result of a later unit never came. -/
inductive LostResult where
  /-- The pool was shut down before the unit had a worker. -/
  | poolClosed
  /-- The unit's run crashed. -/
  | crashed (message : String)
  /-- Any other reason, in words. -/
  | other (reason : String)
  deriving Repr, DecidableEq

/-- The wording of a loss; the number of the task is not told. -/
def LostResult.message : LostResult → String
  | .poolClosed => "Worker pool is shut down"
  | .crashed message => s!"task N panicked with message {Text.quoted message}"
  | .other reason => reason

/-- Why a statement's execution fails. -/
inductive ExecutionError where
  /-- There was no unit to run. -/
  | noUnit
  /-- A unit failed on its backend. -/
  | unit (dataSource : String) (cause : BackendError)
  /-- The result of a later unit was lost. -/
  | lost (dataSource : String) (cause : LostResult)
  /-- A later unit's result is of the other variant than the first's. -/
  | mismatch (dataSource : String) (expected actual : ResponseKind)
  deriving Repr, DecidableEq

namespace ExecutionError

/-- The data source of the unit that failed. -/
def dataSource? : ExecutionError → Option String
  | noUnit => none
  | unit dataSource _ => some dataSource
  | lost dataSource _ => some dataSource
  | mismatch dataSource _ _ => some dataSource

/-- The wording of an execution error. -/
def message : ExecutionError → String
  | noUnit => "No execution unit to run"
  | unit dataSource cause => s!"Execution on `{dataSource}` failed: {cause.message}"
  | lost dataSource cause =>
    s!"Result of `{dataSource}` could not be collected: {cause.message}"
  | mismatch dataSource expected actual =>
    s!"`{dataSource}` returned a {actual.name} response, expected {expected.name}"

end ExecutionError

end ShardProxy
