/-
# Descriptions of outcomes and results

One-line descriptions for people: the name of the constructor and its fields.
Rows are not described, since that would fetch them; two points stand for them.
-/

import ShardProxy.Execution.Response

namespace ShardProxy

open Text

/-- Fields between braces after a name. -/
def braced (name : String) (fields : List String) : String :=
  name ++ " \x7b " ++ String.intercalate ", " fields ++ " \x7d"

/-- A value that may be absent. -/
def describeOption : Option String → String
  | none => "None"
  | some text => "Some(" ++ text ++ ")"

/-- A column in words. -/
def Column.describe (column : Column) : String :=
  braced "ColumnMetadata"
    ["name: " ++ quoted column.name,
     "data_type: " ++ quoted column.dataType,
     "table: " ++ describeOption (column.table.map quoted),
     "nullable: " ++ if column.nullable then "true" else "false"]

/-- Update counters in words. -/
def UpdateCounts.describe (counts : UpdateCounts) : String :=
  braced "UpdateResult"
    ["affected_rows: " ++ toString counts.affectedRows.toNat,
     "last_insert_id: " ++ describeOption (counts.lastInsertId.map fun id => toString id.toNat),
     "generated_keys: " ++ bracketed (counts.generatedKeys.map fun key => toString key.toNat)]

/-- An outcome in words. -/
def Outcome.describe : Outcome → String
  | .query columns _ =>
    braced "Query" ["columns: " ++ bracketed (columns.map Column.describe), ".."]
  | .update counts => "Update(" ++ counts.describe ++ ")"

/-- A result set in words. -/
def ResultSet.describe (set : ResultSet) : String :=
  braced "QueryResult" ["data_source: " ++ quoted set.dataSource, ".."]

/-- An update packet in words. -/
def UpdatePacket.describe (packet : UpdatePacket) : String :=
  braced "UpdatePacket"
    ["data_source: " ++ quoted packet.dataSource, "result: " ++ packet.counts.describe]

/-- The first unit's result in words. -/
def FirstResult.describe : FirstResult → String
  | .query columns set =>
    braced "Query"
      ["columns: " ++ bracketed (columns.map Column.describe), "result: " ++ set.describe]
  | .update packet => "Update(" ++ packet.describe ++ ")"

end ShardProxy
