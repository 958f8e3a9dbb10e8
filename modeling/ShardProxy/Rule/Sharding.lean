/-
# Sharding rules

A sharding rule lists data sources, the tables that are spread over them and
the tables that every data source holds a copy of.  A list is accepted when it
has no `fault?`:

| order | cause |
| --- | --- |
| first | there is no data source at all |
| then, per table rule in order | it has no node |
| | one of its data sources is not listed (names compare exactly) |
| | its table is also broadcast (the case of ASCII letters aside) |

`Sharding` is a list that has been accepted; its look-ups ignore the case of
ASCII letters and take the first match.
-/

import ShardProxy.Rule.TableRule
import ShardProxy.Text.Letters

namespace ShardProxy

open Text

/-- A sharding rule as written. -/
structure ShardingConfig where
  /-- The logical data sources. -/
  dataSources : List String
  /-- The tables that are spread over them. -/
  tables : List TableRule
  /-- The tables that each data source holds in full. -/
  broadcast : List String
  deriving Repr, DecidableEq

namespace ShardingConfig

/-- Whether a table is kept in full on every data source. -/
def isBroadcast (config : ShardingConfig) (table : String) : Bool :=
  config.broadcast.any (alike · table)

/-- The first rule for a table. -/
def findRule? (config : ShardingConfig) (table : String) : Option TableRule :=
  config.tables.find? (alike ·.table table)

/-- The first data source of a table rule that is not listed. -/
def unknownDataSource? (config : ShardingConfig) (rule : TableRule) : Option String :=
  rule.dataSources.find? fun d => !config.dataSources.contains d

/-- What is wrong with one table rule, if anything is. -/
def ruleFault? (config : ShardingConfig) (rule : TableRule) : Option RuleError :=
  if rule.nodes = [] then some (.emptyTableRule rule.table)
  else match config.unknownDataSource? rule with
    | some d => some (.unknownDataSource rule.table d)
    | none => if config.isBroadcast rule.table then some (.broadcastSharded rule.table) else none

/-- What is wrong with a sharding rule, if anything is. -/
def fault? (config : ShardingConfig) : Option RuleError :=
  if config.dataSources = [] then some .noDataSource
  else config.tables.findSome? config.ruleFault?

/-- Alike names are both broadcast or both not. -/
theorem isBroadcast_congr {config : ShardingConfig} {a b : String} (h : alike a b = true) :
    config.isBroadcast a = config.isBroadcast b := by
  rw [isBroadcast, isBroadcast, funext fun table => alike_congr_right h table]

/-- Alike names have the same rule. -/
theorem findRule?_congr {config : ShardingConfig} {a b : String} (h : alike a b = true) :
    config.findRule? a = config.findRule? b := by
  rw [findRule?, findRule?, funext fun rule : TableRule => alike_congr_right h rule.table]

/-- No data source of a table rule is unknown when all of them are listed. -/
theorem unknownDataSource?_eq_none_iff {config : ShardingConfig} {rule : TableRule} :
    config.unknownDataSource? rule = none ↔
      ∀ node ∈ rule.nodes, node.dataSource ∈ config.dataSources := by
  simp [unknownDataSource?, List.find?_eq_none]

/-- **A table rule passes when** it has nodes, all on listed data sources, and its
table is not broadcast. -/
theorem ruleFault?_eq_none_iff {config : ShardingConfig} {rule : TableRule} :
    config.ruleFault? rule = none ↔
      rule.nodes ≠ [] ∧ (∀ node ∈ rule.nodes, node.dataSource ∈ config.dataSources) ∧
        config.isBroadcast rule.table = false := by
  rw [ruleFault?, ← unknownDataSource?_eq_none_iff]
  by_cases hn : rule.nodes = []
  · simp [hn]
  · cases config.unknownDataSource? rule with
    | none => cases config.isBroadcast rule.table <;> simp [hn]
    | some d => simp [hn]

/-- **A sharding rule passes when** it lists a data source and every table rule
passes. -/
theorem fault?_eq_none_iff {config : ShardingConfig} :
    config.fault? = none ↔
      config.dataSources ≠ [] ∧ ∀ rule ∈ config.tables, config.ruleFault? rule = none := by
  rw [fault?]
  split <;> simp_all

end ShardingConfig

/-- A sharding rule that has been accepted. -/
structure Sharding where
  /-- The rule as written. -/
  config : ShardingConfig
  /-- It has no fault. -/
  accepted : config.fault? = none
  deriving DecidableEq

namespace Sharding

/-- Accepts a rule, or names its first fault. -/
def ofConfig (config : ShardingConfig) : Except RuleError Sharding :=
  match h : config.fault? with
  | some e => .error e
  | none => .ok ⟨config, h⟩

/-- An accepted rule is the rule as written. -/
theorem ofConfig_eq_ok_iff {config : ShardingConfig} {sharding : Sharding} :
    ofConfig config = .ok sharding ↔ sharding.config = config := by
  constructor
  · intro h
    rw [ofConfig] at h
    split at h
    · cases h
    · cases h
      rfl
  · rintro rfl
    rw [ofConfig]
    split
    · next e h => simp [sharding.accepted] at h
    · rfl

/-- A rule is refused for its first fault. -/
theorem ofConfig_eq_error_iff {config : ShardingConfig} {e : RuleError} :
    ofConfig config = .error e ↔ config.fault? = some e := by
  rw [ofConfig]
  split
  · next e' h => simp [h]
  · next h => simp [h]

/-- An accepted rule lists a data source. -/
theorem dataSources_ne_nil (sharding : Sharding) : sharding.config.dataSources ≠ [] :=
  (ShardingConfig.fault?_eq_none_iff.1 sharding.accepted).1

/-- A table with a rule is not broadcast. -/
theorem isBroadcast_of_findRule? {sharding : Sharding} {table : String} {rule : TableRule}
    (h : sharding.config.findRule? table = some rule) :
    sharding.config.isBroadcast table = false := by
  have hfind : sharding.config.tables.find? (alike ·.table table) = some rule := h
  have halike : alike rule.table table = true := by simpa using List.find?_some hfind
  have hmem : rule ∈ sharding.config.tables := List.mem_of_find?_eq_some hfind
  have hpasses := (ShardingConfig.fault?_eq_none_iff.1 sharding.accepted).2 rule hmem
  rw [← ShardingConfig.isBroadcast_congr halike]
  exact (ShardingConfig.ruleFault?_eq_none_iff.1 hpasses).2.2

end Sharding

end ShardProxy
