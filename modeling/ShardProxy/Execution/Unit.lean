/-
# Execution units

An execution unit is one SQL text bound to one actual data source.  A plan
becomes one unit per target, in order; the text comes from a resolver, which
knows how a statement reads once its tables are the actual ones.
-/

import ShardProxy.Route.Plan

namespace ShardProxy

/-- One SQL text for one data source. -/
structure ExecutionUnit where
  dataSource : String
  sql : String
  deriving Repr, DecidableEq

/-- Gives the SQL text for a target. -/
abbrev Resolver := Target → String

/-- The unit of a target. -/
def Target.toUnit (resolver : Resolver) (target : Target) : ExecutionUnit :=
  ⟨target.dataSource.actual, resolver target⟩

/-- The units of a plan. -/
def Plan.units (plan : Plan) (resolver : Resolver) : List ExecutionUnit :=
  plan.targets.map (Target.toUnit resolver)

/-- A query for all columns of the actual tables, or for a constant when there is no
table. -/
def selectAll : Resolver := fun target =>
  if target.tables = [] then "SELECT 1"
  else "SELECT * FROM " ++ String.intercalate ", " (target.tables.map Mapping.actual)

end ShardProxy
