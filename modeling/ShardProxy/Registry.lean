/-
# The schema registry

The schema of a proxy that runs is kept in a registry, where clients register tables, drop them and
take snapshots.  A snapshot is a copy of the schema at that time, and who takes it keeps it:
the registry only ever adds to the `snapshots`.
-/

import ShardProxy.Schema

namespace ShardProxy

/-- A live schema and the snapshots that have been taken of it. -/
structure Registry where
  /-- The registered tables. -/
  schema : Schema
  /-- The snapshots, oldest first. -/
  snapshots : List Schema
  deriving DecidableEq

namespace Registry

/-- What clients do with a registry. -/
inductive Call where
  /-- Registers a table, or replaces its indexes. -/
  | register (table : String) (indexes : List String)
  /-- Drops a table. -/
  | unregister (table : String)
  /-- Takes a copy of the schema. -/
  | snapshot
  deriving Repr, DecidableEq

/-- The registry of a schema, before any call. -/
def ofSchema (schema : Schema) : Registry :=
  ⟨schema, []⟩

/-- What a call makes of a registry. -/
def perform (registry : Registry) : Call → Registry
  | .register table indexes => { registry with schema := registry.schema.register table indexes }
  | .unregister table => { registry with schema := registry.schema.unregister table }
  | .snapshot => { registry with snapshots := registry.snapshots ++ [registry.schema] }

/-- What calls make of a registry, one after the other. -/
def performAll (registry : Registry) (calls : List Call) : Registry :=
  calls.foldl perform registry

/-- The last call acts on what the others have made. -/
theorem performAll_concat (registry : Registry) (calls : List Call) (call : Call) :
    registry.performAll (calls ++ [call]) = (registry.performAll calls).perform call := by
  rw [performAll, List.foldl_append]
  rfl

end Registry

end ShardProxy
