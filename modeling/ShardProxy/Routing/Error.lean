/-
# Why a statement has no route

Every cause here ends a statement before any of its targets is built into an
execution unit, or refuses a configuration when it is read.
-/

import ShardProxy.Rule.Error
import ShardProxy.Statement

namespace ShardProxy

/-- A configuration that cannot be used. -/
inductive ConfigFault where
  /-- Neither sharding nor read-write splitting is configured. -/
  | noRules
  /-- A group whose pool is empty. -/
  | noReads (group : String)
  /-- A group that names a balancer which is not configured. -/
  | unknownBalancer (group balancer : String)
  /-- A weight that is no number. -/
  | weightNotNumber (dataSource raw : String)
  /-- A weight that is zero, negative or not finite. -/
  | weightNotPositive (dataSource raw : String)
  /-- Weights whose sum is not finite. -/
  | weightsOverflow
  /-- A pool whose total weight is not finite or not positive. -/
  | unusableTotal (group total : String)
  /-- A stage that refuses, in its own words. -/
  | refused (reason : String)
  deriving Repr, DecidableEq

/-- The wording of a configuration fault. -/
def ConfigFault.message : ConfigFault → String
  | .noRules => "no sharding or read-write splitting rule configured"
  | .noReads group => s!"read-write splitting group `{group}` has no read datasource"
  | .unknownBalancer group balancer =>
    s!"group `{group}` references unknown load balancer `{balancer}`"
  | .weightNotNumber dataSource raw => s!"weight of `{dataSource}` is not a number: {raw}"
  | .weightNotPositive dataSource raw => s!"weight of `{dataSource}` must be positive, got {raw}"
  | .weightsOverflow => "sum of weights overflows: inf"
  | .unusableTotal group total => s!"group `{group}` has an unusable total weight: {total}"
  | .refused reason => reason

/-- Why routing fails. -/
inductive RoutingError where
  /-- A table that is neither sharded nor broadcast. -/
  | noTableRule (table : String)
  /-- A group without a read data source to choose from. -/
  | noReadDataSource (group : String)
  /-- Groups routing alone, when there is not exactly one of them. -/
  | ambiguousGroups (count : Nat)
  /-- No stage applies to a statement of this kind. -/
  | noStage (kind : StatementKind)
  | invalidConfig (fault : ConfigFault)
  | rule (fault : RuleError)
  deriving Repr, DecidableEq

/-- The wording of a routing error. -/
def RoutingError.message : RoutingError → String
  | .noTableRule table =>
    s!"Cannot find table rule or broadcast entry for logic table `{table}`"
  | .noReadDataSource group =>
    s!"No read datasource available in read-write splitting group `{group}`"
  | .ambiguousGroups count =>
    s!"Read-write splitting can route alone only with one datasource group, found {count}"
  | .noStage kind => s!"No routing stage applies to {kind.sql} statement"
  | .invalidConfig fault => s!"Invalid configuration: {fault.message}"
  | .rule fault => fault.message

end ShardProxy
