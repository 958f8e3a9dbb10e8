/-
# Seeding a plan from a sharding rule

The tables of a statement are those it names or, when it names none, the owners
of its indexes; of names that are alike the first spelling stays.  A statement
without any table gets one target per data source, without tables.  Otherwise
each table in turn adds its placements:

| table | placements |
| --- | --- |
| broadcast | itself on every data source |
| sharded | one actual table per data node |
| neither | an error, after the tables before it have been placed |
-/

import ShardProxy.Routing.Stage
import ShardProxy.Rule.Sharding

namespace ShardProxy

open Text

namespace Statement

/-- The tables named by a statement, or else the owners of its indexes that have one. -/
def namedTables (statement : Statement) (owner : OwnerLookup) : List String :=
  if statement.tables = [] then statement.indexes.filterMap owner else statement.tables

/-- The tables that a statement touches, the first of several alike spellings. -/
def touchedTables (statement : Statement) (owner : OwnerLookup) : List String :=
  distinctBy alike (statement.namedTables owner)

/-- No two of the tables that a statement touches are alike. -/
theorem pairwise_touchedTables (statement : Statement) (owner : OwnerLookup) :
    (statement.touchedTables owner).Pairwise fun a b => alike a b = false :=
  pairwise_distinctBy alike _

/-- A name in a list is alike to one that stays when alike names are dropped. -/
theorem exists_alike_of_mem {table : String} {tables : List String} (h : table ∈ tables) :
    ∃ name ∈ distinctBy alike tables, alike name table = true := by
  induction tables with
  | nil => cases h
  | cons first tables ih =>
    rw [distinctBy]
    by_cases hfirst : alike first table = true
    · exact ⟨first, List.mem_cons_self, hfirst⟩
    · have hne : table ≠ first := by
        rintro rfl
        exact hfirst (alike_refl table)
      obtain ⟨name, hname, halike⟩ := ih ((List.mem_cons.1 h).resolve_left hne)
      refine ⟨name, List.mem_cons_of_mem _ (List.mem_filter.2 ⟨hname, ?_⟩), halike⟩
      -- A name that `first` is alike to would hand its likeness on.
      simpa using fun hdropped => hfirst (alike_trans hdropped halike)

/-- A statement touches the tables that it names, alike spellings aside. -/
theorem exists_touched {statement : Statement} {table : String} (h : table ∈ statement.tables)
    (owner : OwnerLookup) : ∃ name ∈ statement.touchedTables owner, alike name table = true := by
  rw [touchedTables, namedTables, if_neg (List.ne_nil_of_mem h)]
  exact exists_alike_of_mem h

end Statement

namespace Sharding

variable (sharding : Sharding)

/-- A broadcast table on each data source. -/
def broadcastTargets (table : String) : List Target :=
  sharding.config.dataSources.map fun d => ⟨Mapping.identity d, [Mapping.identity table]⟩

/-- A sharded table on each of its nodes. -/
def shardTargets (table : String) (rule : TableRule) : List Target :=
  rule.nodes.map fun node => ⟨Mapping.identity node.dataSource, [⟨table, node.table⟩]⟩

/-- All placements of a table, if it is known. -/
def targets? (table : String) : Option (List Target) :=
  if sharding.config.isBroadcast table then some (sharding.broadcastTargets table)
  else (sharding.config.findRule? table).map (shardTargets table)

/-- The first of some tables that is not known. -/
def unknown? (tables : List String) : Option String :=
  tables.find? fun table => (sharding.targets? table).isNone

/-- One target per data source for a statement that touches no table. -/
def untargeted : List Target :=
  sharding.config.dataSources.map fun d => ⟨Mapping.identity d, []⟩

/-- Adds the placements of tables in turn, up to the first that is not known. -/
def placeTables : List String → Plan → Plan × Option RoutingError
  | [], plan => (plan, none)
  | table :: tables, plan =>
    match sharding.targets? table with
    | none => (plan, some (.noTableRule table))
    | some targets => placeTables tables (plan.putAll targets)

/-- Adds what a statement touches to a plan. -/
def place (plan : Plan) (statement : Statement) (owner : OwnerLookup) :
    Plan × Option RoutingError :=
  match statement.touchedTables owner with
  | [] => (plan.pushAll sharding.untargeted, none)
  | tables => sharding.placeTables tables plan

/-- The plan of a statement. -/
def plan (statement : Statement) (owner : OwnerLookup) : Except RoutingError Plan :=
  match sharding.place Plan.empty statement owner with
  | (plan, none) => .ok plan
  | (_, some e) => .error e

/-- The sharding stage: it comes first, and has nothing to decorate. -/
def stage {σ : Type} : Stage σ where
  name := "Sharding"
  order := 0
  applies _ := true
  create statement owner state := (sharding.plan statement owner, state)
  decorate plan _ _ state := ⟨plan, none, state⟩

/-- A table is known when it is broadcast or has a rule. -/
theorem isSome_targets?_iff {sharding : Sharding} {table : String} :
    (sharding.targets? table).isSome ↔
      sharding.config.isBroadcast table = true ∨ (sharding.config.findRule? table).isSome := by
  rw [targets?]
  split
  · next hbroadcast => simp [hbroadcast]
  · next hbroadcast => simp [hbroadcast]

/-- **A plan depends on the touched tables only.** -/
theorem plan_congr {sharding : Sharding} {statement named : Statement} {owner lookup : OwnerLookup}
    (h : statement.touchedTables owner = named.touchedTables lookup) :
    sharding.plan statement owner = sharding.plan named lookup := by
  rw [Sharding.plan, Sharding.plan, place, place, h]

/-- Alike tables are both known or both not. -/
theorem isNone_targets?_congr {sharding : Sharding} {a b : String} (h : alike a b = true) :
    (sharding.targets? a).isNone = (sharding.targets? b).isNone := by
  rw [targets?, targets?, ShardingConfig.isBroadcast_congr h, ShardingConfig.findRule?_congr h]
  split
  · rfl
  · rw [Option.isNone_map, Option.isNone_map]

/-- **Placing tables fails at the first that is not known,** and only there. -/
theorem snd_placeTables (tables : List String) (plan : Plan) :
    (sharding.placeTables tables plan).2 = (sharding.unknown? tables).map .noTableRule := by
  induction tables generalizing plan with
  | nil => rfl
  | cons table tables ih =>
    rw [placeTables, unknown?, List.find?_cons]
    cases sharding.targets? table with
    | none => rfl
    | some targets => exact ih _

/-- **A statement that touches tables fails at the first that is not known,** and else gets what
they place. -/
theorem plan_eq_of_touched {statement : Statement} {owner : OwnerLookup}
    (h : statement.touchedTables owner ≠ []) :
    sharding.plan statement owner =
      match sharding.unknown? (statement.touchedTables owner) with
      | some table => .error (.noTableRule table)
      | none => .ok (sharding.placeTables (statement.touchedTables owner) Plan.empty).1 := by
  have hplace : sharding.place Plan.empty statement owner =
      sharding.placeTables (statement.touchedTables owner) Plan.empty := by
    rw [place]
    split
    · next hnil => exact absurd hnil h
    · rfl
  have hfailure := sharding.snd_placeTables (statement.touchedTables owner) Plan.empty
  rw [Sharding.plan, hplace]
  revert hfailure
  rcases sharding.placeTables (statement.touchedTables owner) Plan.empty with ⟨made, failure⟩
  rintro (rfl : failure = _)
  cases sharding.unknown? (statement.touchedTables owner) with
  | none => rfl
  | some table => rfl

/-- The first of some tables that is not known stays when alike names are dropped. -/
theorem unknown?_distinctBy (tables : List String) :
    sharding.unknown? (distinctBy alike tables) = sharding.unknown? tables :=
  find?_distinctBy (fun _ _ h => isNone_targets?_congr h) tables

end Sharding

end ShardProxy
