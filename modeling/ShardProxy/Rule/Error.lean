/-
# Why a rule is refused

A sharding rule is checked when it is read.  Each cause names what was wrong
with which table or data source; the wording is in `RuleError.message` alone.
-/

namespace ShardProxy

/-- A fault in a data node's text or in a sharding rule. -/
inductive RuleError where
  /-- A text that is not of the form `<datasource>.<table>`. -/
  | invalidNode (text : String)
  /-- A rule without any data source. -/
  | noDataSource
  /-- A sharded table without any data node. -/
  | emptyTableRule (table : String)
  /-- A data node on a data source that the rule does not list. -/
  | unknownDataSource (table dataSource : String)
  /-- A table that is both broadcast and sharded. -/
  | broadcastSharded (table : String)
  deriving Repr, DecidableEq

/-- The wording of a rule fault. -/
def RuleError.message : RuleError → String
  | .invalidNode text => s!"Invalid data node: `{text}` (expected `<datasource>.<table>`)"
  | .noDataSource => "Sharding rule declares no datasource"
  | .emptyTableRule table => s!"Table rule `{table}` has no actual data node"
  | .unknownDataSource table dataSource =>
    s!"Table rule `{table}` references unknown datasource `{dataSource}`"
  | .broadcastSharded table => s!"Table `{table}` is declared both broadcast and sharded"

end ShardProxy
