/-
# The proxy

A proxy routes a statement, turns its plan into execution units and executes
them.  A preview stops before the execution.  What lasts from one statement to
the next is the `Proxy.State`: the schema, the balance of the load balancers and
the executor.
-/

import ShardProxy.Execution.Executor
import ShardProxy.Routing.Router
import ShardProxy.Schema

namespace ShardProxy

/-- Why a statement fails. -/
inductive ProxyError where
  | routing (cause : RoutingError)
  | execution (cause : ExecutionError)
  deriving Repr, DecidableEq

/-- The wording of a proxy error. -/
def ProxyError.message : ProxyError → String
  | .routing cause => s!"Routing failed: {cause.message}"
  | .execution cause => s!"Execution failed: {cause.message}"

/-- What of a proxy never changes. -/
structure Proxy where
  name : String
  router : Pipeline Balance
  resolver : Resolver

namespace Proxy

/-- What statements leave behind. -/
structure State where
  schema : Schema
  balance : Balance
  executor : Executor

/-- Starts a proxy over a set of rules, in its state before any statement.  The rules are
readied first, then the executor is started. -/
def start (name : String) (workers : Nat) (rules : Rules) (schema : Schema)
    (resolver : Resolver) (dice : Dice) : Exit (Except ProxyError (Proxy × State)) :=
  match rules.router dice with
  | .error e => .returned (.error (.routing e))
  | .ok router =>
    (Executor.start workers).map fun executor =>
      .ok (⟨name, router, resolver⟩, ⟨schema, .initial, executor⟩)

variable (proxy : Proxy)

/-- Routes a statement. -/
def route (statement : Statement) (state : State) : Except ProxyError Plan × State :=
  let (plan, balance) := proxy.router.route statement state.schema.owner? state.balance
  (plan.mapError .routing, { state with balance })

/-- The execution units of a statement. -/
def preview (statement : Statement) (state : State) :
    Except ProxyError (List ExecutionUnit) × State :=
  let (plan, state) := proxy.route statement state
  (plan.map (·.units proxy.resolver), state)

/-- Routes and executes a statement. -/
def execute (backends : Backends) (statement : Statement) (keys : Bool) (state : State) :
    Verdict ProxyError × State :=
  match proxy.preview statement state with
  | (.error e, state) => (.answered (.error e), state)
  | (.ok units, state) =>
    let (verdict, executor) := state.executor.execute backends units keys
    (verdict.mapError .execution, { state with executor })

/-- No later unit gets a worker any more. -/
def State.shutDown (state : State) : State :=
  { state with executor := state.executor.shutDown }

/-- The proxy in words, as far as they do not change. -/
def describe : String :=
  "Proxy \x7b proxy_id: " ++ Text.quoted proxy.name ++ ", route_engine: " ++
    proxy.router.describe

/-- A proxy that has been started routes by its rules, and nothing has been picked. -/
theorem start_eq_ok {name : String} {workers : Nat} {rules : Rules} {schema : Schema}
    {resolver : Resolver} {dice : Dice} {state : State}
    (h : start name workers rules schema resolver dice = .returned (.ok (proxy, state))) :
    rules.router dice = .ok proxy.router ∧ ∃ executor, state = ⟨schema, .initial, executor⟩ := by
  rw [start] at h
  split at h
  · cases h
  · next router hrouter =>
    rcases hexecutor : Executor.start workers with executor | message
    · rw [hexecutor] at h
      cases h
      exact ⟨hrouter, executor, rfl⟩
    · rw [hexecutor] at h
      cases h

/-- **A statement without a route reaches no backend.** -/
theorem execute_of_preview_error {backends : Backends} {statement : Statement} {keys : Bool}
    {state state' : State} {e : ProxyError}
    (h : proxy.preview statement state = (.error e, state')) :
    proxy.execute backends statement keys state = (.answered (.error e), state') := by
  rw [execute, h]

end Proxy

end ShardProxy
