/-
# A plan covers every placement once

A statement over tables has to reach each physical table behind them, and none
of them twice: a placement that is lost hides rows, one that is repeated counts
them double.  `ShardingConfig.placements` lists what a sharding rule says about a
table, `Plan.placements` what a plan reaches.  Whatever the targets look like that first
fit makes, the two agree (`placements_of_route`), and re-pointing a plan at other
actual data sources changes neither.
-/

import ShardProxy.Proofs.Routing.Seeded
import ShardProxy.Proofs.Routing.Stages
import Mathlib.Data.List.Count
import Mathlib.Data.List.Nodup

namespace ShardProxy

open Text

/-- A physical table that stands for a logical one on a data source. -/
structure Placement where
  /-- The logical data source. -/
  dataSource : String
  /-- The table as the statement names it. -/
  table : String
  /-- The table behind it. -/
  actual : String
  deriving Repr, DecidableEq

/-- The placements that a target reaches. -/
def Target.placements (target : Target) : List Placement :=
  target.tables.map fun m => ⟨target.dataSource.logic, m.logic, m.actual⟩

/-- The placements that a plan reaches, target by target. -/
def Plan.placements (plan : Plan) : List Placement :=
  plan.targets.flatMap Target.placements

/-- The placements of a table: a broadcast table is itself on every data source, any other is at
the nodes of its rule. -/
def ShardingConfig.placements (config : ShardingConfig) (table : String) : List Placement :=
  if config.isBroadcast table then (distinct config.dataSources).map fun d => ⟨d, table, table⟩
  else match config.findRule? table with
    | none => []
    | some rule => (distinct rule.nodes).map fun node => ⟨node.dataSource, table, node.table⟩

/-- The placements of a table name that table. -/
theorem ShardingConfig.table_of_mem_placements {config : ShardingConfig} {table : String}
    {p : Placement} (h : p ∈ config.placements table) : p.table = table := by
  rw [placements] at h
  split at h
  · obtain ⟨d, -, rfl⟩ := List.mem_map.1 h
    rfl
  · split at h
    · cases h
    · obtain ⟨node, -, rfl⟩ := List.mem_map.1 h
      rfl

/-- No placement of a table is listed twice. -/
theorem ShardingConfig.nodup_placements (config : ShardingConfig) (table : String) :
    (config.placements table).Nodup := by
  rw [placements]
  split
  · refine (nodup_distinct _).map fun d e h => ?_
    exact (Placement.mk.inj h).1
  · split
    · exact List.nodup_nil
    · refine (nodup_distinct _).map fun n m h => ?_
      obtain ⟨hd, -, ht⟩ := Placement.mk.inj h
      obtain ⟨d, t⟩ := n
      exact congrArg₂ Node.mk hd ht

/-- Lists that belong to tables which are not alike do not meet. -/
theorem nodup_flatMap_of_named {α : Type} {name : α → String} {f : String → List α}
    {tables : List String} (htables : tables.Pairwise fun a b => alike a b = false)
    (hname : ∀ table x, x ∈ f table → name x = table) (hf : ∀ table, (f table).Nodup) :
    (tables.flatMap f).Nodup := by
  refine List.nodup_flatMap.2 ⟨fun table _ => hf table, htables.imp fun {a b} hab => ?_⟩
  intro x hxa hxb
  have hname : a = b := (hname a x hxa).symm.trans (hname b x hxb)
  simp [hname] at hab

namespace Sharding

variable {sharding : Sharding}

/-- **A column is what the rule says** about a table on that data source. -/
theorem mem_column_iff {d table : String} {m : Mapping} :
    m ∈ sharding.column (Mapping.identity d) table ↔
      ⟨d, m.logic, m.actual⟩ ∈ sharding.config.placements table := by
  obtain ⟨logic, actual⟩ := m
  have hlayers : ∀ ts, (⟨logic, actual⟩ : Mapping) ∈ (layersOn (Mapping.identity d) ts).flatten ↔
      ∃ t ∈ ts, t.dataSource = Mapping.identity d ∧ ⟨logic, actual⟩ ∈ t.tables := by
    intro ts
    simp [layersOn, and_assoc]
  rw [column, mem_distinct, hlayers, seeds, targets?, ShardingConfig.placements]
  split
  · simp only [Option.getD_some, broadcastTargets, List.mem_map, mem_distinct]
    constructor
    · rintro ⟨-, ⟨e, he, rfl⟩, hd, hm⟩
      obtain ⟨rfl, -⟩ := Mapping.mk.inj hd
      obtain ⟨rfl, rfl⟩ := Mapping.mk.inj (List.mem_singleton.1 hm)
      exact ⟨e, he, rfl⟩
    · rintro ⟨e, he, h⟩
      obtain ⟨rfl, rfl, rfl⟩ := Placement.mk.inj h
      exact ⟨_, ⟨e, he, rfl⟩, rfl, by simp [Mapping.identity]⟩
  · cases sharding.config.findRule? table with
    | none => simp
    | some rule =>
      simp only [Option.map_some, Option.getD_some, shardTargets, List.mem_map, mem_distinct]
      constructor
      · rintro ⟨-, ⟨node, hn, rfl⟩, hd, hm⟩
        obtain ⟨rfl, -⟩ := Mapping.mk.inj hd
        obtain ⟨rfl, rfl⟩ := Mapping.mk.inj (List.mem_singleton.1 hm)
        exact ⟨node, hn, rfl⟩
      · rintro ⟨node, hn, h⟩
        obtain ⟨rfl, rfl, rfl⟩ := Placement.mk.inj h
        exact ⟨_, ⟨node, hn, rfl⟩, rfl, by simp⟩

/-- The placements of targets under their data sources' own names, counted in the layers. -/
theorem count_placements {targets : List Target}
    (hid : ∀ t ∈ targets, ∃ d, t.dataSource = Mapping.identity d) (p : Placement) :
    (targets.flatMap Target.placements).count p =
      (layersOn (Mapping.identity p.dataSource) targets).flatten.count ⟨p.table, p.actual⟩ := by
  induction targets with
  | nil => rfl
  | cons t targets ih =>
    obtain ⟨d, hd⟩ := hid t List.mem_cons_self
    have ih := ih fun u hu => hid u (List.mem_cons_of_mem _ hu)
    obtain ⟨ds, tables⟩ := t
    obtain rfl : ds = Mapping.identity d := hd
    rw [List.flatMap_cons, List.count_append, ih]
    by_cases hdp : d = p.dataSource
    · subst hdp
      have hinj : Function.Injective fun m : Mapping =>
          (⟨p.dataSource, m.logic, m.actual⟩ : Placement) := fun a b h => by
          obtain ⟨-, hl, ha⟩ := Placement.mk.inj h
          exact congrArg₂ Mapping.mk hl ha
      have hhead : (Target.placements ⟨Mapping.identity p.dataSource, tables⟩).count p =
          tables.count ⟨p.table, p.actual⟩ :=
        List.count_map_of_injective tables _ hinj ⟨p.table, p.actual⟩
      rw [hhead]
      simp [layersOn]
    · have hhead : (Target.placements ⟨Mapping.identity d, tables⟩).count p = 0 := by
        refine List.count_eq_zero.2 fun hmem => ?_
        obtain ⟨m, -, rfl⟩ := List.mem_map.1 hmem
        exact hdp rfl
      have hne : Mapping.identity d ≠ Mapping.identity p.dataSource := fun h =>
        hdp (Mapping.mk.inj h).1
      rw [hhead]
      simp [layersOn, hne]

/-- **A seeded plan reaches the placements of the touched tables,** each of them once. -/
theorem placements_of_plan {statement : Statement} {owner : OwnerLookup} {plan : Plan}
    (h : sharding.plan statement owner = .ok plan) (hne : statement.touchedTables owner ≠ []) :
    plan.placements.Nodup ∧
      plan.placements.Perm
        ((statement.touchedTables owner).flatMap sharding.config.placements) := by
  have htables : (statement.touchedTables owner).Pairwise fun a b => alike a b = false :=
    pairwise_distinctBy alike _
  have hid : ∀ t ∈ plan.targets, ∃ d, t.dataSource = Mapping.identity d := fun t ht => by
    obtain ⟨d, -, hd⟩ := sharding.exists_dataSource_of_plan h ht
    exact ⟨d, hd⟩
  have hcount : ∀ p, plan.placements.count p =
      ((statement.touchedTables owner).flatMap
        (sharding.column (Mapping.identity p.dataSource))).count ⟨p.table, p.actual⟩ := fun p => by
    rw [Plan.placements, count_placements hid, sharding.layersOn_plan h hne]
    exact (sharding.flatten_layering_perm _ _).count_eq _
  have hcolumns : ∀ d, ((statement.touchedTables owner).flatMap (sharding.column d)).Nodup :=
    fun d => nodup_flatMap_of_named htables (fun _ _ hm => sharding.logic_of_mem_column hm)
      fun _ => nodup_distinct _
  have hnodup : plan.placements.Nodup := List.nodup_iff_count_le_one.2 fun p => by
    rw [hcount]
    exact List.nodup_iff_count_le_one.1 (hcolumns _) _
  refine ⟨hnodup, (List.perm_ext_iff_of_nodup hnodup ?_).2 fun p => ?_⟩
  · exact nodup_flatMap_of_named htables
      (fun _ _ hp => ShardingConfig.table_of_mem_placements hp)
      fun _ => sharding.config.nodup_placements _
  · have hpos : p ∈ plan.placements ↔ ⟨p.table, p.actual⟩ ∈ (statement.touchedTables owner).flatMap
        (sharding.column (Mapping.identity p.dataSource)) := by
      rw [← List.count_pos_iff, hcount, List.count_pos_iff]
    rw [hpos, List.mem_flatMap, List.mem_flatMap]
    exact exists_congr fun table => and_congr_right fun _ => mem_column_iff

/-- No target of a seeded plan is bare or maps a table twice. -/
theorem tables_of_plan {statement : Statement} {owner : OwnerLookup} {plan : Plan}
    (h : sharding.plan statement owner = .ok plan) (hne : statement.touchedTables owner ≠ [])
    {t : Target} (ht : t ∈ plan.targets) :
    t.tables ≠ [] ∧ t.tables.Pairwise fun a b => alike a.logic b.logic = false := by
  have hlayer : t.tables ∈ layersOn t.dataSource plan.targets :=
    List.mem_map.2 ⟨t, List.mem_filter.2 ⟨ht, by simp⟩, rfl⟩
  rw [sharding.layersOn_plan h hne] at hlayer
  obtain ⟨hbare, hpair, -⟩ := sharding.mem_layering (pairwise_distinctBy alike _) hlayer
  exact ⟨hbare, hpair⟩

/-- **A statement is untargeted exactly when it touches no table:** else its targets have
tables. -/
theorem plan_eq_untargeted_iff {statement : Statement} {owner : OwnerLookup} :
    sharding.plan statement owner = .ok ⟨sharding.untargeted⟩ ↔
      statement.touchedTables owner = [] := by
  constructor
  · intro h
    refine Decidable.byContradiction fun hne => ?_
    obtain ⟨d, hd⟩ := List.exists_mem_of_ne_nil _ sharding.dataSources_ne_nil
    have hbare : (⟨Mapping.identity d, []⟩ : Target) ∈ sharding.untargeted :=
      List.mem_map.2 ⟨d, hd, rfl⟩
    exact (tables_of_plan h hne hbare).1 rfl
  · intro h
    rw [Sharding.plan, place, h]
    rfl

end Sharding

/-! ### Through the whole pipeline -/

/-- **A routed plan is a seeded one** but for its actual data sources. -/
theorem exists_plan_of_route {rules : Rules} {config : ShardingConfig} {dice : Dice}
    {router : Pipeline Balance} (hs : rules.sharding = some config)
    (hr : rules.router dice = .ok router) :
    ∃ sharding : Sharding, sharding.config = config ∧
      ∀ (statement : Statement) (owner : OwnerLookup) (balance : Balance) (plan : Plan),
        (router.route statement owner balance).1 = .ok plan →
          ∃ seeded, sharding.plan statement owner = .ok seeded ∧
            plan.targets.map (fun t => (t.dataSource.logic, t.tables)) =
              seeded.targets.map fun t => (t.dataSource.logic, t.tables) := by
  obtain ⟨sharding, hconfig, ⟨-, rfl⟩ | ⟨split, splitting, -, -, rfl⟩⟩ := router_eq hs hr
  · refine ⟨sharding, hconfig, fun statement owner balance plan h => ⟨plan, ?_, rfl⟩⟩
    rwa [route_sharding] at h
  · refine ⟨sharding, hconfig, fun statement owner balance plan h => ?_⟩
    rw [route_sharding_splitting] at h
    split at h
    · cases h
    · next seeded hseeded =>
      refine ⟨seeded, hseeded, ?_⟩
      dsimp only at h
      split at h
      · cases h
      · cases h
        exact splitting.map_repoint dice statement seeded.targets balance

/-- **A statement over tables reaches every placement of them exactly once.**  Whatever the groups
and the balance, a route over the tables of a statement, of several alike spellings the first,
reaches each broadcast table on each data source and each other table at each node of its
rule, and that is all it reaches; no target is bare or maps a table twice. -/
theorem placements_of_route {rules : Rules} {config : ShardingConfig} {dice : Dice}
    {router : Pipeline Balance} {statement : Statement} {owner : OwnerLookup} {balance : Balance}
    {plan : Plan} (hs : rules.sharding = some config) (hr : rules.router dice = .ok router)
    (htables : statement.tables ≠ [])
    (hp : (router.route statement owner balance).1 = .ok plan) :
    plan.placements.Nodup ∧
      plan.placements.Perm ((distinctBy alike statement.tables).flatMap config.placements) ∧
      (∀ table ∈ distinctBy alike statement.tables,
        config.isBroadcast table = true ∨ (config.findRule? table).isSome) ∧
      ∀ t ∈ plan.targets,
        t.tables ≠ [] ∧ t.tables.Pairwise fun a b => alike a.logic b.logic = false := by
  obtain ⟨sharding, rfl, hroute⟩ := exists_plan_of_route hs hr
  obtain ⟨seeded, hseeded, hmap⟩ := hroute statement owner balance plan hp
  have htouched : statement.touchedTables owner = distinctBy alike statement.tables := by
    rw [Statement.touchedTables, Statement.namedTables, if_neg htables]
  have hne : statement.touchedTables owner ≠ [] := by
    rw [htouched, Ne, distinctBy_eq_nil_iff]
    exact htables
  -- Placements and tables of targets are read off what re-pointing leaves alone.
  have hplacements : plan.placements = seeded.placements := by
    have hread : ∀ p : Plan, p.placements =
        (p.targets.map fun t => (t.dataSource.logic, t.tables)).flatMap fun t =>
          t.2.map fun m => ⟨t.1, m.logic, m.actual⟩ := fun p => by
      rw [Plan.placements, List.flatMap_map]
      rfl
    rw [hread, hread, hmap]
  obtain ⟨hnodup, hperm⟩ := Sharding.placements_of_plan hseeded hne
  rw [hplacements, ← htouched]
  refine ⟨hnodup, hperm, fun table htable => ?_, fun t ht => ?_⟩
  · obtain ⟨hnil, -⟩ | ⟨-, hknown, -⟩ := sharding.plan_eq_ok hseeded
    · exact absurd hnil hne
    · have hsome := hknown table htable
      rw [Sharding.targets?] at hsome
      split at hsome
      · next hb => exact Or.inl hb
      · exact Or.inr (by simpa using hsome)
  · have hmem : (t.dataSource.logic, t.tables) ∈
        seeded.targets.map fun t => (t.dataSource.logic, t.tables) := by
      rw [← hmap]
      exact List.mem_map.2 ⟨t, ht, rfl⟩
    obtain ⟨u, hu, hut⟩ := List.mem_map.1 hmem
    have htu : u.tables = t.tables := (Prod.mk.inj hut).2
    rw [← htu]
    exact Sharding.tables_of_plan hseeded hne hu

/-- In the shop a broadcast table and a sharded one, the former named twice, are five placements,
although `main` is listed twice and one of its nodes is given twice. -/
theorem placements_of_route_shop :
    ∃ plan, ((shopRouter fun _ => 0).route (.select ["COUNTRY", "T_Order", "country"])
        (fun _ => none) .initial).1 = .ok plan ∧
      plan.placements.Nodup ∧
      plan.placements.Perm
        [⟨"main", "COUNTRY", "COUNTRY"⟩, ⟨"archive", "COUNTRY", "COUNTRY"⟩,
          ⟨"main", "T_Order", "t_0"⟩, ⟨"main", "T_Order", "t_1"⟩,
          ⟨"archive", "T_Order", "t_2"⟩] := by
  have hr : shopRules.router (fun _ => 0) = .ok (shopRouter fun _ => 0) := router_shopRules _
  have h := @placements_of_route shopRules shopSharding (fun _ => 0) _
    (.select ["COUNTRY", "T_Order", "country"]) (fun _ => none) .initial _ rfl hr (by decide) rfl
  exact ⟨_, rfl, h.1, h.2.1⟩

end ShardProxy
