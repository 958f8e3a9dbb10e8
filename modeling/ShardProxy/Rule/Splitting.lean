/-
# Read-write splitting rules

A group stands for one logical data source: statements that must see the latest
data go to its write data source, the others to one of its reads.  The reads of
a group form its pool: first occurrences only, and never the write data source.
Groups may name a configured load balancer; those that name none share one.
-/

import ShardProxy.Distinct

namespace ShardProxy

/-- How a balancer chooses. -/
inductive BalancerKind where
  /-- The reads in turn. -/
  | rotation
  /-- Any read, all equally likely. -/
  | random
  /-- Any read, as likely as its weight. -/
  | weighted
  deriving Repr, DecidableEq

/-- The kind as configurations spell it. -/
def BalancerKind.keyword : BalancerKind → String
  | .rotation => "ROUND_ROBIN"
  | .random => "RANDOM"
  | .weighted => "WEIGHT"

/-- The kind that a configuration spells, if any. -/
def BalancerKind.ofKeyword? (word : String) : Option BalancerKind :=
  [rotation, random, weighted].find? (·.keyword == word)

/-- The name of a kind in descriptions. -/
def BalancerKind.title : BalancerKind → String
  | .rotation => "RoundRobin"
  | .random => "Random"
  | .weighted => "Weight"

/-- **Every kind is spelled so that it is read back.** -/
theorem BalancerKind.ofKeyword?_keyword (kind : BalancerKind) :
    ofKeyword? kind.keyword = some kind := by
  cases kind <;> decide

/-- A balancer as configured. -/
structure BalancerConfig where
  /-- How it chooses. -/
  kind : BalancerKind
  /-- Its properties; a weighted balancer reads one weight per data source. -/
  props : List (String × String)
  deriving Repr, DecidableEq

/-- Sets a property, in place when it is there already. -/
def BalancerConfig.withProp (config : BalancerConfig) (key value : String) : BalancerConfig :=
  { config with
    props :=
      if config.props.any (·.1 == key) then
        config.props.map fun p => if p.1 == key then (key, value) else p
      else config.props ++ [(key, value)] }

/-- A group as configured. -/
structure GroupConfig where
  /-- The logical data source that the group stands for. -/
  name : String
  /-- Where statements go that must see the latest data. -/
  write : String
  /-- Where the others may go, as written. -/
  reads : List String
  /-- The balancer it uses; with none it uses the shared default. -/
  balancer : Option String
  deriving Repr, DecidableEq

/-- The read pool of a group: its reads once each, without the write data source. -/
def GroupConfig.pool (config : GroupConfig) : List String :=
  distinct (config.reads.filter fun read => read != config.write)

/-- A read is in the pool when it is configured and is not the write data source. -/
theorem GroupConfig.mem_pool {config : GroupConfig} {read : String} :
    read ∈ config.pool ↔ read ∈ config.reads ∧ read ≠ config.write := by
  simp [pool]

/-- No read is in the pool twice. -/
theorem GroupConfig.nodup_pool (config : GroupConfig) : config.pool.Nodup :=
  nodup_distinct _

/-- The pool keeps the order of the reads as written. -/
theorem GroupConfig.pool_sublist (config : GroupConfig) :
    List.Sublist config.pool config.reads :=
  (distinctBy_sublist _ _).trans List.filter_sublist

/-- A read-write splitting rule as written. -/
structure SplittingConfig where
  /-- The groups, in order. -/
  groups : List GroupConfig
  /-- The balancers by name. -/
  balancers : List (String × BalancerConfig)
  deriving Repr, DecidableEq

/-- The balancer of a name. -/
def SplittingConfig.balancer? (config : SplittingConfig) (name : String) : Option BalancerConfig :=
  config.balancers.lookup name

end ShardProxy
