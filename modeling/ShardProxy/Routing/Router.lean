/-
# The router of a set of rules

Sharding and read-write splitting become the stages of one pipeline.  A fault of
the sharding rule is found before one of the splitting rule, and with neither
rule there is nothing to route by.
-/

import ShardProxy.Routing.Pipeline
import ShardProxy.Routing.Repointing
import ShardProxy.Routing.Seeding
import ShardProxy.Rule.Rules

namespace ShardProxy

/-- The sharding stage of a rule, if there is one. -/
def shardingStages : Option ShardingConfig → Except RoutingError (List (Stage Balance))
  | none => .ok []
  | some config =>
    match Sharding.ofConfig config with
    | .error e => .error (.rule e)
    | .ok sharding => .ok [sharding.stage]

/-- The read-write splitting stage of a rule, if there is one. -/
def splittingStages (dice : Dice) :
    Option SplittingConfig → Except RoutingError (List (Stage Balance))
  | none => .ok []
  | some config =>
    match Splitting.ofConfig 0 config with
    | .error e => .error (.invalidConfig e)
    | .ok splitting => .ok [splitting.stage dice]

/-- The pipeline of a set of rules. -/
def Rules.router (rules : Rules) (dice : Dice) : Except RoutingError (Pipeline Balance) :=
  match shardingStages rules.sharding with
  | .error e => .error e
  | .ok first =>
    match splittingStages dice rules.splitting with
    | .error e => .error e
    | .ok second =>
      if first ++ second = [] then .error (.invalidConfig .noRules)
      else .ok (Pipeline.ofStages (first ++ second))

end ShardProxy
