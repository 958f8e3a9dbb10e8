/-
# Table rules

A table rule lists the data nodes that together hold one logical table.  Its
inline form is a text with the nodes between commas: `ds0.t_0, ds1.t_1`.  Blank
segments are skipped, so leading, trailing and doubled commas do no harm, and
the first segment that is no node refuses the whole text.
-/

import ShardProxy.Distinct
import ShardProxy.Rule.Node

namespace ShardProxy

open Text

/-- The data nodes of one logical table. -/
structure TableRule where
  /-- The name that statements use. -/
  table : String
  /-- Where the rows are, in the order of the rule. -/
  nodes : List Node
  deriving Repr, DecidableEq

namespace TableRule

/-- The segments of an inline text that are not blank. -/
def segments (text : String) : List (List Char) :=
  (text.toList.splitOn ',').filter fun segment => !segment.all isBlank

/-- Reads segments in order; the first that is no node is the error. -/
def readNodes : List (List Char) → Except RuleError (List Node)
  | [] => .ok []
  | segment :: rest =>
    match Node.ofChars segment with
    | .error e => .error e
    | .ok node =>
      match readNodes rest with
      | .error e => .error e
      | .ok nodes => .ok (node :: nodes)

/-- Reads a table rule from its inline form. -/
def ofInline (table text : String) : Except RuleError TableRule :=
  match readNodes (segments text) with
  | .error e => .error e
  | .ok nodes => .ok ⟨table, nodes⟩

/-- The data sources of a table, in order of first occurrence. -/
def dataSources (rule : TableRule) : List String :=
  distinct (rule.nodes.map Node.dataSource)

/-- A data source holds a part of the table when one of its nodes is there. -/
@[simp] theorem mem_dataSources {rule : TableRule} {d : String} :
    d ∈ rule.dataSources ↔ ∃ node ∈ rule.nodes, node.dataSource = d := by
  simp [dataSources]

end TableRule

end ShardProxy
