/-
# Configurations in JSON

Each record lists its fields in the order in which an array gives them.  Lists,
dictionaries and whole rules may be left out; a nullable field may also be null.
-/

import ShardProxy.Config.Basic
import ShardProxy.Json.Decode
import ShardProxy.Json.Reader

namespace ShardProxy.Config.Decode

open Json

/-- A data node. -/
def node : Decoder Node := fun v =>
  match slots ["data_source_name", "table_name"] v with
  | some [dataSource, table] => do
    return ⟨← required text dataSource, ← required text table⟩
  | _ => none

/-- A table rule. -/
def tableRule : Decoder TableRule := fun v =>
  match slots ["logic_table", "actual_data_nodes"] v with
  | some [table, nodes] => do
    return ⟨← required text table, ← required (list node) nodes⟩
  | _ => none

/-- A sharding rule. -/
def sharding : Decoder ShardingConfig := fun v =>
  match slots ["data_source_names", "tables", "broadcast_tables"] v with
  | some [dataSources, tables, broadcast] => do
    return ⟨← orElse [] (list text) dataSources, ← orElse [] (list tableRule) tables,
      ← orElse [] (list text) broadcast⟩
  | _ => none

/-- A balancer's kind: its keyword, or an object whose only field is the keyword, with
null as value. -/
def balancerKind : Decoder BalancerKind
  | .string (some word) => BalancerKind.ofKeyword? word
  | .object [(some word, .null)] => BalancerKind.ofKeyword? word
  | _ => none

/-- A balancer. -/
def balancer : Decoder BalancerConfig := fun v =>
  match slots ["type", "props"] v with
  | some [kind, props] => do
    return ⟨← required balancerKind kind, ← orElse [] (dictionary text) props⟩
  | _ => none

/-- A group. -/
def group : Decoder GroupConfig := fun v =>
  match slots ["name", "write_data_source_name", "read_data_source_names",
      "load_balancer_name"] v with
  | some [name, write, reads, balancer] => do
    return ⟨← required text name, ← required text write, ← required (list text) reads,
      ← orElse none (nullable text) balancer⟩
  | _ => none

/-- A read-write splitting rule. -/
def splitting : Decoder SplittingConfig := fun v =>
  match slots ["data_sources", "load_balancers"] v with
  | some [groups, balancers] => do
    return ⟨← orElse [] (list group) groups, ← orElse [] (dictionary balancer) balancers⟩
  | _ => none

/-- The rules. -/
def rules : Decoder Rules := fun v =>
  match slots ["sharding", "readwrite_splitting"] v with
  | some [shardingSlot, splittingSlot] => do
    return ⟨← orElse none (nullable sharding) shardingSlot,
      ← orElse none (nullable splitting) splittingSlot⟩
  | _ => none

/-- The indexes of a table. -/
def tableIndexes : Decoder (List String) := fun v =>
  match slots ["indexes"] v with
  | some [indexes] => orElse [] (list text) indexes
  | _ => none

/-- A schema. -/
def schema : Decoder Schema := fun v =>
  match slots ["tables"] v with
  | some [tables] => (orElse [] (dictionary tableIndexes) tables).map Schema.ofList
  | _ => none

/-- The number of workers. -/
def workers : Decoder Nat := fun v =>
  match slots ["max_workers"] v with
  | some [n] => required word n
  | _ => none

/-- A configuration. -/
def config : Decoder Config := fun v =>
  match slots ["proxy_id", "executor", "rules", "schema"] v with
  | some [name, executor, rulesSlot, schemaSlot] => do
    return ⟨← orElse none (fun v => (text v).map some) name,
      ← orElse none (fun v => (workers v).map some) executor,
      ← orElse ⟨none, none⟩ rules rulesSlot, ← orElse .empty schema schemaSlot⟩
  | _ => none

end ShardProxy.Config.Decode

namespace ShardProxy.Config

/-- Reads a configuration from its JSON text. -/
def ofJson? (json : String) : Option Config :=
  (Json.read? json).bind Decode.config

end ShardProxy.Config
