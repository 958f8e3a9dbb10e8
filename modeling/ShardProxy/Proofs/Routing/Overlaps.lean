/-
# What an accepted rule may say twice

An accepted sharding rule may list a data source twice, and it may have two table rules for one
table, the case of ASCII letters aside.  Both leave their mark on the plans.

First fit joins equal targets, so a statement over tables has no target twice, however often a data
source is listed.  A statement that touches no table gets a target for each entry of the list, so
it runs twice on a data source that is listed twice (`Sharding.nodup_targets_iff`).

A table is placed by the first rule that is alike.  The nodes of a later rule are
reached only if the first one has them as well (`Sharding.reached_iff`).
-/

import ShardProxy.Proofs.Routing.Joins

namespace ShardProxy

open Text

namespace Sharding

variable {sharding : Sharding} {statement : Statement} {owner : OwnerLookup} {plan : Plan}

/-! ### Data sources that are listed twice -/

/-- **A statement over tables has no target twice:** a repeated target would repeat its
placements. -/
theorem nodup_targets_of_touched (h : sharding.plan statement owner = .ok plan)
    (hne : statement.touchedTables owner ≠ []) : plan.targets.Nodup := by
  obtain ⟨hnodup, -⟩ := placements_of_plan h hne
  rw [Plan.placements, List.nodup_flatMap] at hnodup
  refine hnodup.2.imp_of_mem fun {a b} ha _ hdisjoint => ?_
  rintro rfl
  obtain ⟨m, hm⟩ := List.exists_mem_of_ne_nil _ (tables_of_plan h hne ha).1
  have hp : ⟨a.dataSource.logic, m.logic, m.actual⟩ ∈ a.placements :=
    List.mem_map.2 ⟨m, hm, rfl⟩
  exact hdisjoint hp hp

/-- The target without tables tells its data source. -/
theorem injective_bare : Function.Injective fun d => (⟨Mapping.identity d, []⟩ : Target) := by
  intro d d' h
  exact (Mapping.mk.inj (Target.mk.inj h).1).1

/-- **No target comes twice but for a data source that is listed twice.**  The targets of a plan
are distinct if the statement touches a table or no data source is listed twice, and only
then.  A statement that touches no table has a plan: as many targets without tables on a data
source as the data source is listed, and no other targets. -/
theorem nodup_targets_iff (sharding : Sharding) (statement : Statement) (owner : OwnerLookup) :
    (∀ plan, sharding.plan statement owner = .ok plan →
      (plan.targets.Nodup ↔
        (statement.touchedTables owner = [] → sharding.config.dataSources.Nodup))) ∧
    (statement.touchedTables owner = [] →
      ∃ plan, sharding.plan statement owner = .ok plan ∧
        (∀ d, plan.targets.count ⟨Mapping.identity d, []⟩ =
          sharding.config.dataSources.count d) ∧
        ∀ target ∈ plan.targets, ∃ d ∈ sharding.config.dataSources,
          target = ⟨Mapping.identity d, []⟩) := by
  constructor
  · intro plan h
    by_cases hnil : statement.touchedTables owner = []
    · obtain rfl := Except.ok.inj (h.symm.trans (plan_eq_untargeted_iff.2 hnil))
      rw [untargeted, List.nodup_map_iff injective_bare]
      exact ⟨fun hnodup _ => hnodup, fun hnodup => hnodup hnil⟩
    · exact iff_of_true (nodup_targets_of_touched h hnil) fun hbare => absurd hbare hnil
  · intro hnil
    refine ⟨_, plan_eq_untargeted_iff.2 hnil, fun d => ?_, fun target htarget => ?_⟩
    · exact List.count_map_of_injective _ _ injective_bare d
    · obtain ⟨d, hd, rfl⟩ := List.mem_map.1 htarget
      exact ⟨d, hd, rfl⟩

/-- In the shop, which lists `main` twice, a query of orders and countries has no target twice,
but the removal of an index that no table has runs twice on `main`. -/
theorem nodup_targets_iff_shop :
    (∃ plan, shop.plan (.select ["t_order", "country"]) (fun _ => none) = .ok plan ∧
      plan.targets.Nodup) ∧
    ∃ plan, shop.plan (.dropIndex ["by_day"]) (fun _ => none) = .ok plan ∧
      ¬ plan.targets.Nodup ∧ plan.targets.count ⟨Mapping.identity "main", []⟩ = 2 := by
  constructor
  · obtain ⟨hnodup, -⟩ :=
      nodup_targets_iff shop (.select ["t_order", "country"]) fun _ => none
    exact ⟨_, rfl, (hnodup _ rfl).2 fun hnil => by cases hnil⟩
  · obtain ⟨hnodup, hbare⟩ := nodup_targets_iff shop (.dropIndex ["by_day"]) fun _ => none
    obtain ⟨plan, hplan, hcount, -⟩ := hbare rfl
    refine ⟨plan, hplan, fun h => ?_, hcount "main"⟩
    have hlisted : shop.config.dataSources.Nodup := (hnodup plan hplan).1 h rfl
    revert hlisted
    decide

/-- **A target may come twice:** a statement of no table and no index has two equal ones in the
shop. -/
theorem not_nodup_targets_shop :
    ¬ ∀ plan, shop.plan { kind := .other } (fun _ => none) = .ok plan →
      plan.targets.Nodup ∧
        ∀ d ∈ shop.config.dataSources, plan.targets.count ⟨Mapping.identity d, []⟩ = 1 := by
  intro hall
  obtain ⟨hnodup, -⟩ := hall _ rfl
  revert hnodup
  decide

/-! ### Tables that have two rules -/

/-- A table that has a rule has a first one. -/
theorem exists_findRule? {rule : TableRule} (h : rule ∈ sharding.config.tables) :
    ∃ first, sharding.config.findRule? rule.table = some first := by
  rw [← Option.isSome_iff_exists, ShardingConfig.findRule?, List.find?_isSome]
  exact ⟨rule, h, by simp⟩

/-- **A data node is reached if the first rule for its table has it,** and not otherwise.  A
statement that names the table of a rule, and else known tables only, has a plan; some target of it
maps the table to a given node if and only if the node is in the first rule for an alike table. -/
theorem reached_iff {rule : TableRule} (hrule : rule ∈ sharding.config.tables)
    (hnamed : rule.table ∈ statement.tables)
    (hknown : ∀ table ∈ statement.tables,
      sharding.config.isBroadcast table = true ∨ (sharding.config.findRule? table).isSome)
    (owner : OwnerLookup) :
    ∃ first plan, sharding.config.findRule? rule.table = some first ∧
      sharding.plan statement owner = .ok plan ∧
      ∀ node : Node,
        (∃ target ∈ plan.targets, target.dataSource = Mapping.identity node.dataSource ∧
          target.actualTable? rule.table = some node.table) ↔ node ∈ first.nodes := by
  obtain ⟨plan, hplan⟩ := exists_plan_of_known (List.ne_nil_of_mem hnamed) hknown owner
  obtain ⟨first, hfirst⟩ := exists_findRule? hrule
  obtain ⟨name, hname, halike⟩ := statement.exists_touched hnamed owner
  have hfind : sharding.config.findRule? name = some first := by
    rwa [ShardingConfig.findRule?_congr halike]
  refine ⟨first, plan, hfirst, hplan, fun node => ⟨?_, fun hnode => ?_⟩⟩
  · rintro ⟨target, ht, hds, hactual⟩
    rw [Target.actualTable?, ← Target.find?_congr halike] at hactual
    obtain ⟨m, hm, htable⟩ := Option.map_eq_some_iff.1 hactual
    have hmem := node_of_find? hplan hname hfind ht hm
    rwa [hds, htable] at hmem
  · obtain ⟨target, ht, hds, hm⟩ := exists_target_of_node hplan hname hfind hnode
    refine ⟨target, ht, hds, ?_⟩
    rw [Target.actualTable?, ← Target.find?_congr halike, hm]
    rfl

/-- Orders on `main`, by two rules whose names differ in case: the second one adds `t_1`. -/
def twinSharding : ShardingConfig where
  dataSources := ["main"]
  tables := [⟨"t_order", [⟨"main", "t_0"⟩]⟩, ⟨"T_Order", [⟨"main", "t_0"⟩, ⟨"main", "t_1"⟩]⟩]
  broadcast := []

/-- Two rules whose names differ in case are accepted. -/
theorem fault?_twinSharding : twinSharding.fault? = none := rfl

/-- The sharding with two rules for orders. -/
def twin : Sharding := ⟨twinSharding, fault?_twinSharding⟩

/-- With two rules for orders `T_Order` is placed by the rule of `t_order`: `t_0` is reached, which
both have, and `t_1` is not. -/
theorem reached_iff_twin :
    twin.config.findRule? "T_Order" = some ⟨"t_order", [⟨"main", "t_0"⟩]⟩ ∧
      ∃ plan, twin.plan (.select ["T_Order"]) (fun _ => none) = .ok plan ∧
        (∃ target ∈ plan.targets, target.dataSource = Mapping.identity "main" ∧
          target.actualTable? "T_Order" = some "t_0") ∧
        ¬ ∃ target ∈ plan.targets, target.dataSource = Mapping.identity "main" ∧
          target.actualTable? "T_Order" = some "t_1" := by
  obtain ⟨first, plan, hfirst, hplan, hreached⟩ := @reached_iff twin (.select ["T_Order"])
    ⟨"T_Order", [⟨"main", "t_0"⟩, ⟨"main", "t_1"⟩]⟩ (by decide) (by decide) (by decide)
    fun _ => none
  have hfind : twin.config.findRule? "T_Order" = some ⟨"t_order", [⟨"main", "t_0"⟩]⟩ := by decide
  cases hfind.symm.trans hfirst
  refine ⟨hfind, plan, hplan, (hreached ⟨"main", "t_0"⟩).2 (by decide), fun hnode => ?_⟩
  have hmem := (hreached ⟨"main", "t_1"⟩).1 hnode
  revert hmem
  decide

/-- **A data node may be out of reach:** no target maps orders to `t_1`, which the second rule for
them has. -/
theorem not_reached_twin :
    ¬ ∀ rule ∈ twin.config.tables, ∀ node ∈ rule.nodes, ∀ plan,
      twin.plan (.select [rule.table]) (fun _ => none) = .ok plan →
        ∃ target ∈ plan.targets, target.dataSource = Mapping.identity node.dataSource ∧
          target.actualTable? rule.table = some node.table := by
  intro hall
  obtain ⟨target, ht, -, hactual⟩ := hall ⟨"T_Order", [⟨"main", "t_0"⟩, ⟨"main", "t_1"⟩]⟩
    (by decide) ⟨"main", "t_1"⟩ (by decide) _ rfl
  cases List.mem_singleton.1 ht
  revert hactual
  decide

end Sharding

end ShardProxy
