/-
# Which targets join a sharded table with a broadcast one

The targets of a seeded plan are found by position: the target at position `k` of its data source
answers for each touched table with what the table's column has at `k`
(`Sharding.exists_position_of_plan`), and there is one as long as some column reaches so far
(`Sharding.exists_target_of_position`).

A broadcast table has one mapping in its column, a sharded one as many as it has nodes on the data
source.  So the broadcast table stands in the first target of each data source only.  A target that
maps a sharded table maps the broadcast table too if it has the first of the sharded
table's nodes there, and not otherwise (`Sharding.joined_of_plan`): with a second node on a
data source there is a target that cannot be joined (`Sharding.not_joined_depot`).
-/

import ShardProxy.Proofs.Routing.Coverage
import ShardProxy.Proofs.Routing.TableOrder

namespace ShardProxy

open Text

/-- The first node of a rule on a data source. -/
def TableRule.firstOn? (rule : TableRule) (dataSource : String) : Option Node :=
  rule.nodes.find? (·.dataSource == dataSource)

namespace Sharding

variable {sharding : Sharding} {statement : Statement} {owner : OwnerLookup} {plan : Plan}
  {table d : String} {rule : TableRule}

/-- **A statement that names known tables has a plan.** -/
theorem exists_plan_of_known (hne : statement.tables ≠ [])
    (hknown : ∀ table ∈ statement.tables,
      sharding.config.isBroadcast table = true ∨ (sharding.config.findRule? table).isSome)
    (owner : OwnerLookup) : ∃ plan, sharding.plan statement owner = .ok plan := by
  refine sharding.exists_plan_iff.2 fun table htable => isSome_targets?_iff.2 (hknown table ?_)
  rw [Statement.touchedTables, Statement.namedTables, if_neg hne] at htable
  exact mem_of_mem_distinctBy htable

/-! ### Targets by position -/

/-- Mappings of tables that are not alike have no answer. -/
theorem find?_flatMap_of_unlike {d : Mapping} {tables : List String}
    (h : ∀ other ∈ tables, alike other table = false) (k : Nat) :
    (tables.flatMap fun other => (sharding.column d other)[k]?.toList).find?
      (alike ·.logic table) = none := by
  refine List.find?_eq_none.2 fun m hm => ?_
  obtain ⟨other, hother, hm⟩ := List.mem_flatMap.1 hm
  have hlogic : m.logic = other :=
    sharding.logic_of_mem_column (List.mem_of_getElem? (Option.mem_toList.1 hm))
  simp [hlogic, h other hother]

/-- **The layer at a position answers with what the columns have there.** -/
theorem find?_layering (sharding : Sharding) {d : Mapping} {tables : List String}
    (htables : tables.Pairwise fun a b => alike a b = false) (h : table ∈ tables) (k : Nat) :
    ((sharding.layering d tables)[k]?.getD []).find? (alike ·.logic table) =
      (sharding.column d table)[k]? := by
  obtain ⟨before, after, rfl⟩ := List.append_of_mem h
  obtain ⟨-, hrest, hcross⟩ := List.pairwise_append.1 htables
  have hbefore : ∀ other ∈ before, alike other table = false :=
    fun other hother => hcross other hother table List.mem_cons_self
  have hafter : ∀ other ∈ after, alike other table = false := fun other hother => by
    rw [alike_comm]
    exact (List.pairwise_cons.1 hrest).1 other hother
  have hself : (sharding.column d table)[k]?.toList.find? (alike ·.logic table) =
      (sharding.column d table)[k]? := by
    rcases hm : (sharding.column d table)[k]? with - | m
    · rfl
    · have hlogic : m.logic = table := sharding.logic_of_mem_column (List.mem_of_getElem? hm)
      simp [hlogic]
  rw [getD_layering, List.flatMap_append, List.flatMap_cons, List.find?_append,
    List.find?_append, find?_flatMap_of_unlike hbefore, find?_flatMap_of_unlike hafter, hself,
    Option.none_or, Option.or_none]

/-- A target whose mappings are the layer at a position answers with what the columns have there. -/
theorem find?_of_layer {target : Target} {d : Mapping} {k : Nat}
    (hk : k < (sharding.layering d (statement.touchedTables owner)).length)
    (hlayer : target.tables = (sharding.layering d (statement.touchedTables owner))[k])
    (htable : table ∈ statement.touchedTables owner) :
    target.find? table = (sharding.column d table)[k]? := by
  rw [← sharding.find?_layering (statement.pairwise_touchedTables owner) htable k,
    List.getElem?_eq_getElem hk, Option.getD_some, ← hlayer]
  rfl

/-- **Each target has a position,** and answers with what the columns have there. -/
theorem exists_position_of_plan (h : sharding.plan statement owner = .ok plan)
    (hne : statement.touchedTables owner ≠ []) {target : Target} (ht : target ∈ plan.targets) :
    ∃ k : Nat, ∀ table ∈ statement.touchedTables owner,
      target.find? table = (sharding.column target.dataSource table)[k]? := by
  have hlayer : target.tables ∈ layersOn target.dataSource plan.targets :=
    List.mem_map.2 ⟨target, List.mem_filter.2 ⟨ht, by simp⟩, rfl⟩
  rw [sharding.layersOn_plan h hne] at hlayer
  obtain ⟨k, hk, htables⟩ := List.mem_iff_getElem.1 hlayer
  exact ⟨k, fun table htable => find?_of_layer hk htables.symm htable⟩

/-- **Each position of a column has a target.** -/
theorem exists_target_of_position (h : sharding.plan statement owner = .ok plan)
    {d m : Mapping} {k : Nat} (htable : table ∈ statement.touchedTables owner)
    (hm : (sharding.column d table)[k]? = some m) :
    ∃ target ∈ plan.targets, target.dataSource = d ∧
      ∀ other ∈ statement.touchedTables owner,
        target.find? other = (sharding.column d other)[k]? := by
  obtain ⟨hlt, -⟩ := List.getElem?_eq_some_iff.1 hm
  have hk : k < (sharding.layering d (statement.touchedTables owner)).length :=
    sharding.lt_length_layering.2 ⟨table, htable, hlt⟩
  have hlayer : (sharding.layering d (statement.touchedTables owner))[k] ∈
      layersOn d plan.targets := by
    rw [sharding.layersOn_plan h (List.ne_nil_of_mem htable)]
    exact List.getElem_mem hk
  obtain ⟨target, htarget, htables⟩ := List.mem_map.1 hlayer
  obtain ⟨ht, hd⟩ := List.mem_filter.1 htarget
  exact ⟨target, ht, by simpa using hd, fun other hother => find?_of_layer hk htables hother⟩

/-! ### The columns of broadcast and of sharded tables -/

/-- **A broadcast table has one mapping on each data source:** to itself. -/
theorem column_of_isBroadcast (hd : d ∈ sharding.config.dataSources)
    (h : sharding.config.isBroadcast table = true) :
    sharding.column (Mapping.identity d) table = [Mapping.identity table] := by
  have hmem : ∀ m, m ∈ sharding.column (Mapping.identity d) table ↔
      m ∈ [Mapping.identity table] := by
    rintro ⟨logic, actual⟩
    rw [mem_column_iff, ShardingConfig.placements, if_pos h]
    simp only [List.mem_map, mem_distinct, Placement.mk.injEq, List.mem_singleton,
      Mapping.identity, Mapping.mk.injEq]
    constructor
    · rintro ⟨-, -, -, rfl, rfl⟩
      exact ⟨rfl, rfl⟩
    · rintro ⟨rfl, rfl⟩
      exact ⟨d, hd, rfl, rfl, rfl⟩
  exact List.perm_singleton.1
    ((List.perm_ext_iff_of_nodup (nodup_distinct _) (List.nodup_singleton _)).2 hmem)

/-- A mapping of a sharded table on a data source is one of the nodes there. -/
theorem mem_column_iff_of_findRule? (h : sharding.config.findRule? table = some rule)
    {m : Mapping} : m ∈ sharding.column (Mapping.identity d) table ↔
      m.logic = table ∧ ⟨d, m.actual⟩ ∈ rule.nodes := by
  obtain ⟨logic, actual⟩ := m
  rw [mem_column_iff, ShardingConfig.placements, isBroadcast_of_findRule? h, h]
  simp only [Bool.false_eq_true, if_false, List.mem_map, mem_distinct, Placement.mk.injEq]
  constructor
  · rintro ⟨node, hnode, rfl, rfl, rfl⟩
    exact ⟨rfl, hnode⟩
  · rintro ⟨rfl, hnode⟩
    exact ⟨_, hnode, rfl, rfl, rfl⟩

/-- **The first mapping of a sharded table on a data source is its first node there.** -/
theorem column_zero_of_findRule? (h : sharding.config.findRule? table = some rule) (d : String) :
    (sharding.column (Mapping.identity d) table)[0]? =
      (rule.firstOn? d).map fun node => ⟨table, node.table⟩ := by
  have hlayers : (layersOn (Mapping.identity d) (sharding.seeds table)).flatten =
      (rule.nodes.filter (·.dataSource == d)).map fun node => ⟨table, node.table⟩ := by
    rw [seeds, targets?, isBroadcast_of_findRule? h, h]
    simp only [Bool.false_eq_true, if_false, Option.map_some, Option.getD_some, shardTargets]
    induction rule.nodes with
    | nil => rfl
    | cons node nodes ih =>
      by_cases hd : node.dataSource = d
      · simpa [layersOn, hd] using ih
      · simpa [layersOn, hd, Mapping.identity] using ih
  have hhead : ∀ ms : List Mapping, (distinct ms)[0]? = ms[0]? := fun ms => by
    cases ms <;> simp [distinct, distinctBy]
  rw [column, hhead, hlayers, ← List.head?_eq_getElem?, List.head?_map, List.head?_filter,
    TableRule.firstOn?]

/-- A mapping of a sharded table is at position zero when it is the first node there. -/
theorem position_eq_zero_iff (h : sharding.config.findRule? table = some rule) {m : Mapping}
    {k : Nat} (hm : (sharding.column (Mapping.identity d) table)[k]? = some m) :
    k = 0 ↔ rule.firstOn? d = some ⟨d, m.actual⟩ := by
  constructor
  · rintro rfl
    rw [column_zero_of_findRule? h] at hm
    obtain ⟨node, hnode, rfl⟩ := Option.map_eq_some_iff.1 hm
    have hd : node.dataSource = d := by
      rw [TableRule.firstOn?] at hnode
      simpa using List.find?_some hnode
    rw [hnode, ← hd]
  · intro hfirst
    have hlogic : m.logic = table := sharding.logic_of_mem_column (List.mem_of_getElem? hm)
    have hzero : (sharding.column (Mapping.identity d) table)[0]? = some m := by
      rw [column_zero_of_findRule? h, hfirst, Option.map_some, ← hlogic]
    obtain ⟨hlt, -⟩ := List.getElem?_eq_some_iff.1 hm
    exact (List.getElem?_inj hlt (nodup_distinct _)).1 (hm.trans hzero.symm)

/-- The first node on a data source is a node, and there. -/
theorem firstOn?_of_mem {node : Node} (h : node ∈ rule.nodes) :
    ∃ first ∈ rule.nodes, first.dataSource = node.dataSource ∧
      rule.firstOn? node.dataSource = some first := by
  rw [TableRule.firstOn?]
  cases hfind : rule.nodes.find? (·.dataSource == node.dataSource) with
  | none => exact absurd (List.find?_eq_none.1 hfind node h) (by simp)
  | some first =>
    exact ⟨first, List.mem_of_find?_eq_some hfind, by simpa using List.find?_some hfind, rfl⟩

/-- **Each node of a touched table has a target.** -/
theorem exists_target_of_node (h : sharding.plan statement owner = .ok plan)
    (htable : table ∈ statement.touchedTables owner)
    (hrule : sharding.config.findRule? table = some rule) {node : Node}
    (hnode : node ∈ rule.nodes) :
    ∃ target ∈ plan.targets, target.dataSource = Mapping.identity node.dataSource ∧
      target.find? table = some ⟨table, node.table⟩ := by
  have hmem : (⟨table, node.table⟩ : Mapping) ∈
      sharding.column (Mapping.identity node.dataSource) table :=
    (mem_column_iff_of_findRule? hrule).2 ⟨rfl, hnode⟩
  obtain ⟨k, hk⟩ := List.getElem?_of_mem hmem
  obtain ⟨target, ht, hds, hfind⟩ := exists_target_of_position h htable hk
  exact ⟨target, ht, hds, (hfind table htable).trans hk⟩

/-- **Each target of a touched table has a node.** -/
theorem node_of_find? (h : sharding.plan statement owner = .ok plan)
    (htable : table ∈ statement.touchedTables owner)
    (hrule : sharding.config.findRule? table = some rule) {target : Target}
    (ht : target ∈ plan.targets) {m : Mapping} (hm : target.find? table = some m) :
    ⟨target.dataSource.logic, m.actual⟩ ∈ rule.nodes := by
  obtain ⟨k, hk⟩ := exists_position_of_plan h (List.ne_nil_of_mem htable) ht
  obtain ⟨d, -, hds⟩ := sharding.exists_dataSource_of_plan h ht
  rw [hk table htable, hds] at hm
  rw [hds]
  exact ((mem_column_iff_of_findRule? hrule).1 (List.mem_of_getElem? hm)).2

/-! ### Joins -/

section Joins

variable {broadcast sharded : String}

/-- **A target of a sharded table maps a broadcast table** if it has the first node on its data
source. -/
theorem find?_of_isBroadcast (h : sharding.plan statement owner = .ok plan)
    (hbroadcast : broadcast ∈ statement.touchedTables owner)
    (hsharded : sharded ∈ statement.touchedTables owner)
    (hcopied : sharding.config.isBroadcast broadcast = true)
    (hrule : sharding.config.findRule? sharded = some rule) {target : Target}
    (ht : target ∈ plan.targets) {m : Mapping} (hm : target.find? sharded = some m) :
    target.find? broadcast =
      if rule.firstOn? target.dataSource.logic = some ⟨target.dataSource.logic, m.actual⟩
      then some (Mapping.identity broadcast) else none := by
  obtain ⟨k, hk⟩ := exists_position_of_plan h (List.ne_nil_of_mem hsharded) ht
  obtain ⟨d, hd, hds⟩ := sharding.exists_dataSource_of_plan h ht
  rw [hk sharded hsharded, hds] at hm
  have hzero : target.find? broadcast =
      if k = 0 then some (Mapping.identity broadcast) else none := by
    rw [hk broadcast hbroadcast, hds, column_of_isBroadcast hd hcopied]
    cases k <;> rfl
  rw [hzero, hds]
  exact if_congr (position_eq_zero_iff hrule hm) rfl rfl

/-- **All targets of a sharded table can be joined** if and only if it has one node on each data
source. -/
theorem joined_iff (h : sharding.plan statement owner = .ok plan)
    (hbroadcast : broadcast ∈ statement.touchedTables owner)
    (hsharded : sharded ∈ statement.touchedTables owner)
    (hcopied : sharding.config.isBroadcast broadcast = true)
    (hrule : sharding.config.findRule? sharded = some rule) :
    (∀ target ∈ plan.targets, (target.find? sharded).isSome → (target.find? broadcast).isSome) ↔
      ∀ node ∈ rule.nodes, ∀ other ∈ rule.nodes,
        node.dataSource = other.dataSource → node = other := by
  constructor
  · intro hall
    -- Each node has a target; that it is joined makes it the first of its data source.
    have hfirst : ∀ node ∈ rule.nodes, rule.firstOn? node.dataSource = some node := by
      intro node hnode
      obtain ⟨target, ht, hds, hm⟩ := exists_target_of_node h hsharded hrule hnode
      have hjoined := hall target ht (by rw [hm]; rfl)
      rw [find?_of_isBroadcast h hbroadcast hsharded hcopied hrule ht hm, hds] at hjoined
      split at hjoined
      · next hfirst => exact hfirst
      · cases hjoined
    intro node hnode other hother hd
    have hsame := (hfirst node hnode).symm.trans (hd ▸ hfirst other hother)
    exact Option.some.inj hsame
  · intro hone target ht hsome
    obtain ⟨m, hm⟩ := Option.isSome_iff_exists.1 hsome
    have hnode := node_of_find? h hsharded hrule ht hm
    obtain ⟨first, hmem, hd, hfirst⟩ := firstOn?_of_mem hnode
    rw [hone first hmem _ hnode hd] at hfirst
    rw [find?_of_isBroadcast h hbroadcast hsharded hcopied hrule ht hm, if_pos hfirst]
    rfl

/-- **A broadcast table is joined with the first node of a sharded table on each data source,** and
with no other.  Whatever known tables a statement names besides, in whatever order: it has a
plan; a target that maps the sharded table to its first node on the target's data source maps the
broadcast table to itself; a target that maps the sharded table to another node does not map the
broadcast table; so all targets of the sharded table can be joined if and only if it has only one
node on each data source. -/
theorem joined_of_plan (hbroadcast : broadcast ∈ statement.tables)
    (hsharded : sharded ∈ statement.tables)
    (hcopied : sharding.config.isBroadcast broadcast = true)
    (hrule : sharding.config.findRule? sharded = some rule)
    (hknown : ∀ table ∈ statement.tables,
      sharding.config.isBroadcast table = true ∨ (sharding.config.findRule? table).isSome)
    (owner : OwnerLookup) :
    ∃ plan, sharding.plan statement owner = .ok plan ∧
      (∀ target ∈ plan.targets, ∀ actual, target.actualTable? sharded = some actual →
        (rule.firstOn? target.dataSource.logic = some ⟨target.dataSource.logic, actual⟩ →
          ∃ name, target.find? broadcast = some (Mapping.identity name)) ∧
        (rule.firstOn? target.dataSource.logic ≠ some ⟨target.dataSource.logic, actual⟩ →
          target.find? broadcast = none)) ∧
      ((∀ target ∈ plan.targets, (target.find? sharded).isSome →
          (target.find? broadcast).isSome) ↔
        ∀ node ∈ rule.nodes, ∀ other ∈ rule.nodes,
          node.dataSource = other.dataSource → node = other) := by
  obtain ⟨plan, hplan⟩ := exists_plan_of_known (List.ne_nil_of_mem hsharded) hknown owner
  -- The targets map both tables under the spellings that come first in the statement.
  obtain ⟨copy, hcopy, hcopyAlike⟩ := statement.exists_touched hbroadcast owner
  obtain ⟨shard, hshard, hshardAlike⟩ := statement.exists_touched hsharded owner
  have hcopyBroadcast : sharding.config.isBroadcast copy = true := by
    rwa [ShardingConfig.isBroadcast_congr hcopyAlike]
  have hshardRule : sharding.config.findRule? shard = some rule := by
    rwa [ShardingConfig.findRule?_congr hshardAlike]
  refine ⟨plan, hplan, fun target ht actual hactual => ?_, ?_⟩
  · rw [Target.actualTable?, ← Target.find?_congr hshardAlike] at hactual
    obtain ⟨m, hm, rfl⟩ := Option.map_eq_some_iff.1 hactual
    rw [← Target.find?_congr hcopyAlike,
      find?_of_isBroadcast hplan hcopy hshard hcopyBroadcast hshardRule ht hm]
    exact ⟨fun hfirst => ⟨copy, if_pos hfirst⟩, fun hother => if_neg hother⟩
  · rw [← joined_iff hplan hcopy hshard hcopyBroadcast hshardRule]
    simp only [Target.find?_congr hcopyAlike, Target.find?_congr hshardAlike]

/-- Orders in two tables on `main` and one on `archive`, and a broadcast table of countries. -/
def depotSharding : ShardingConfig where
  dataSources := ["main", "archive"]
  tables := [⟨"t_order", [⟨"main", "t_0"⟩, ⟨"main", "t_1"⟩, ⟨"archive", "t_2"⟩]⟩]
  broadcast := ["country"]

/-- The rule of the depot is accepted. -/
theorem fault?_depotSharding : depotSharding.fault? = none := rfl

/-- The sharding of the depot. -/
def depot : Sharding := ⟨depotSharding, fault?_depotSharding⟩

/-- Where orders and countries go in the depot. -/
def depotPlan : Plan :=
  ⟨[⟨Mapping.identity "main", [⟨"T_Order", "t_0"⟩, Mapping.identity "country"]⟩,
    ⟨Mapping.identity "main", [⟨"T_Order", "t_1"⟩]⟩,
    ⟨Mapping.identity "archive", [⟨"T_Order", "t_2"⟩, Mapping.identity "country"]⟩]⟩

/-- Orders and countries are routed by this plan. -/
theorem plan_depot :
    depot.plan (.select ["T_Order", "country"]) (fun _ => none) = .ok depotPlan := by
  decide

/-- In the depot countries are joined with `t_0` and with `t_2`, and not with `t_1`. -/
theorem joined_of_plan_depot :
    depot.plan (.select ["T_Order", "country"]) (fun _ => none) = .ok depotPlan ∧
      (∀ target ∈ depotPlan.targets, target.actualTable? "T_Order" = some "t_2" →
        ∃ name, target.find? "country" = some (Mapping.identity name)) ∧
      (∀ target ∈ depotPlan.targets, target.actualTable? "T_Order" = some "t_1" →
        target.find? "country" = none) ∧
      ¬ ∀ target ∈ depotPlan.targets, (target.find? "T_Order").isSome →
        (target.find? "country").isSome := by
  obtain ⟨plan, hplan, hjoin, hall⟩ := @joined_of_plan depot (.select ["T_Order", "country"]) _
    "country" "T_Order" (by decide) (by decide) rfl rfl (by decide) fun _ => none
  cases hplan.symm.trans plan_depot
  have hsources : ∀ target ∈ depotPlan.targets,
      (target.actualTable? "T_Order" = some "t_2" → target.dataSource.logic = "archive") ∧
        (target.actualTable? "T_Order" = some "t_1" → target.dataSource.logic = "main") := by
    decide
  refine ⟨plan_depot, fun target ht hactual => ?_, fun target ht hactual => ?_, ?_⟩
  · refine (hjoin target ht _ hactual).1 ?_
    rw [(hsources target ht).1 hactual]
    rfl
  · refine (hjoin target ht _ hactual).2 ?_
    rw [(hsources target ht).2 hactual]
    decide
  · rw [hall]
    decide

/-- **Not every target of a sharded table can be joined:** in the depot the target of `t_1` maps
orders and no countries. -/
theorem not_joined_depot :
    depot.config.isBroadcast "country" = true ∧ (depot.config.findRule? "t_order").isSome ∧
      ¬ ∀ plan, depot.plan (.select ["t_order", "country"]) (fun _ => none) = .ok plan →
        ∀ target ∈ plan.targets, (target.find? "t_order").isSome →
          ∃ name, target.find? "country" = some (Mapping.identity name) := by
  refine ⟨rfl, rfl, fun hall => ?_⟩
  obtain ⟨name, hname⟩ := hall _ rfl ⟨Mapping.identity "main", [⟨"t_order", "t_1"⟩]⟩
    (by decide) rfl
  cases hname

end Joins

end Sharding

end ShardProxy
