/-
# Routing stages

A stage has a place in an order and either creates a plan or decorates one that
an earlier stage made.  Creating and decorating may fail and may change a state
of type `σ`; a decoration that fails still shows the plan as it left it.
Stages find the owner of an index by an `OwnerLookup`.
-/

import ShardProxy.Route.Plan
import ShardProxy.Routing.Error

namespace ShardProxy

/-- Finds the table that owns an index. -/
abbrev OwnerLookup := String → Option String

/-- What decorating a plan leaves behind. -/
structure Decoration (σ : Type) where
  /-- The plan afterwards, decorated in part when there is a failure. -/
  plan : Plan
  /-- Why it stopped early, if it did. -/
  failure : Option RoutingError
  state : σ
  deriving DecidableEq

/-- A step of routing. -/
structure Stage (σ : Type) where
  name : String
  /-- Its place: lower runs first. -/
  order : Int
  /-- Whether it takes part in routing a statement. -/
  applies : Statement → Bool
  /-- Makes a plan. -/
  create : Statement → OwnerLookup → σ → Except RoutingError Plan × σ
  /-- Changes a plan that an earlier stage made. -/
  decorate : Plan → Statement → OwnerLookup → σ → Decoration σ

end ShardProxy
