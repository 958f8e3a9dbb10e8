/-
# What a sharding rule seeds

A plan that a sharding rule seeds from tables is known layer by layer: on each
data source it stacks, table after table, the table's *column*, which is the list
of its distinct mappings there (`layersOn_plan`).  So the plan holds each
mapping of each column once (`flatten_layering_perm`), and no target of it maps
a table twice or maps none (`mem_layering`).  A statement that touches no table
gets a target without tables per data source; in either case every target stands
on a configured data source under the data source's own name
(`exists_dataSource_of_plan`).
-/

import ShardProxy.Proofs.Routing.Layers
import ShardProxy.Routing.Seeding

namespace ShardProxy

open Text

/-! ### Data sources of a plan -/

/-- First fit brings in no data source but that of the new target. -/
theorem dataSource_of_mem_putTarget {target t : Target} {ts : List Target}
    (h : t ∈ putTarget target ts) :
    t.dataSource = target.dataSource ∨ ∃ u ∈ ts, u.dataSource = t.dataSource := by
  induction ts with
  | nil =>
    rw [putTarget, List.mem_singleton] at h
    exact Or.inl (congrArg Target.dataSource h)
  | cons u ts ih =>
    rw [putTarget] at h
    split at h
    · rcases List.mem_cons.1 h with rfl | h
      · exact Or.inr ⟨u, List.mem_cons_self, rfl⟩
      · exact Or.inr ⟨t, List.mem_cons_of_mem _ h, rfl⟩
    · rcases List.mem_cons.1 h with rfl | h
      · exact Or.inr ⟨t, List.mem_cons_self, rfl⟩
      · obtain h | ⟨v, hv, h⟩ := ih h
        · exact Or.inl h
        · exact Or.inr ⟨v, List.mem_cons_of_mem _ hv, h⟩

/-- Putting targets brings no data source but theirs. -/
theorem dataSource_of_mem_putAll {ts : List Target} {plan : Plan} {t : Target}
    (h : t ∈ (plan.putAll ts).targets) :
    ∃ u ∈ plan.targets ++ ts, u.dataSource = t.dataSource := by
  induction ts generalizing plan with
  | nil => exact ⟨t, by simpa using h, rfl⟩
  | cons a ts ih =>
    rw [Plan.putAll_cons] at h
    obtain ⟨u, hu, hd⟩ := ih h
    rcases List.mem_append.1 hu with hu | hu
    · obtain ha | ⟨v, hv, hvu⟩ := dataSource_of_mem_putTarget hu
      · exact ⟨a, by simp, ha ▸ hd⟩
      · exact ⟨v, List.mem_append_left _ hv, hvu.trans hd⟩
    · exact ⟨u, by simp [hu], hd⟩

namespace Sharding

variable (sharding : Sharding)

/-! ### Seeds and columns -/

/-- The targets that a table seeds, none if it is not known. -/
def seeds (table : String) : List Target :=
  (sharding.targets? table).getD []

/-- The distinct mappings of a table on a data source. -/
def column (d : Mapping) (table : String) : List Mapping :=
  distinct (layersOn d (sharding.seeds table)).flatten

/-- The columns of tables stacked one after the other. -/
def layering (d : Mapping) (tables : List String) : List (List Mapping) :=
  tables.foldl (fun layers table => stack layers (sharding.column d table)) []

/-- One more table is stacked on top. -/
theorem layering_concat (d : Mapping) (tables : List String) (table : String) :
    sharding.layering d (tables ++ [table]) =
      stack (sharding.layering d tables) (sharding.column d table) := by
  simp [layering]

/-- The targets that a table seeds place that table alone. -/
theorem places_seeds (table : String) : Places table (sharding.seeds table) := by
  intro t ht
  rw [seeds, targets?] at ht
  split at ht
  · obtain ⟨d, -, rfl⟩ := List.mem_map.1 ht
    exact ⟨table, rfl⟩
  · cases hr : sharding.config.findRule? table with
    | none => simp [hr] at ht
    | some rule =>
      rw [hr, Option.map_some, Option.getD_some] at ht
      obtain ⟨node, -, rfl⟩ := List.mem_map.1 ht
      exact ⟨node.table, rfl⟩

/-- The column of a table maps that table alone. -/
theorem logic_of_mem_column {d m : Mapping} {table : String} (h : m ∈ sharding.column d table) :
    m.logic = table :=
  logic_of_mem_layersOn (sharding.places_seeds table) (mem_distinct.1 h)

/-- A configured table rule names configured data sources only. -/
theorem dataSource_of_findRule? {table : String} {rule : TableRule}
    (h : sharding.config.findRule? table = some rule) {node : Node} (hn : node ∈ rule.nodes) :
    node.dataSource ∈ sharding.config.dataSources := by
  have hrule : rule ∈ sharding.config.tables := List.mem_of_find?_eq_some h
  have hall := (ShardingConfig.fault?_eq_none_iff.1 sharding.accepted).2 rule hrule
  exact (ShardingConfig.ruleFault?_eq_none_iff.1 hall).2.1 node hn

/-- What a table seeds stands on configured data sources, under their own names. -/
theorem exists_dataSource_of_seeds {table : String} {t : Target} (h : t ∈ sharding.seeds table) :
    ∃ d ∈ sharding.config.dataSources, t.dataSource = Mapping.identity d := by
  rw [seeds, targets?] at h
  split at h
  · obtain ⟨d, hd, rfl⟩ := List.mem_map.1 h
    exact ⟨d, hd, rfl⟩
  · cases hr : sharding.config.findRule? table with
    | none => simp [hr] at h
    | some rule =>
      rw [hr, Option.map_some, Option.getD_some] at h
      obtain ⟨node, hn, rfl⟩ := List.mem_map.1 h
      exact ⟨node.dataSource, sharding.dataSource_of_findRule? hr hn, rfl⟩

/-! ### Placing tables -/

/-- **Placing tables succeeds when all are known** and puts their seeds in order. -/
theorem placeTables_eq_ok {tables : List String} {plan plan' : Plan}
    (h : sharding.placeTables tables plan = (plan', none)) :
    (∀ table ∈ tables, (sharding.targets? table).isSome) ∧
      plan' = plan.putAll (tables.flatMap sharding.seeds) := by
  induction tables generalizing plan with
  | nil =>
    cases h
    exact ⟨by simp, rfl⟩
  | cons table tables ih =>
    rw [placeTables] at h
    cases ht : sharding.targets? table with
    | none =>
      rw [ht] at h
      cases h
    | some targets =>
      rw [ht] at h
      obtain ⟨hall, hplan⟩ := ih h
      have hseeds : sharding.seeds table = targets := by rw [seeds, ht, Option.getD_some]
      refine ⟨fun u hu => ?_, ?_⟩
      · rcases List.mem_cons.1 hu with rfl | hu
        · simp [ht]
        · exact hall u hu
      · rw [hplan, List.flatMap_cons, Plan.putAll_append, hseeds]

/-- **The plan of a statement** has a bare target per data source when no table is touched,
and else the seeds of the touched tables, all of which are known. -/
theorem plan_eq_ok {statement : Statement} {owner : OwnerLookup} {plan : Plan}
    (h : sharding.plan statement owner = .ok plan) :
    statement.touchedTables owner = [] ∧ plan = ⟨sharding.untargeted⟩ ∨
      statement.touchedTables owner ≠ [] ∧
        (∀ table ∈ statement.touchedTables owner, (sharding.targets? table).isSome) ∧
        plan = Plan.empty.putAll ((statement.touchedTables owner).flatMap sharding.seeds) := by
  rw [Sharding.plan, place] at h
  cases htables : statement.touchedTables owner with
  | nil =>
    rw [htables] at h
    cases h
    exact Or.inl ⟨rfl, rfl⟩
  | cons table tables =>
    rw [htables] at h
    dsimp only at h
    split at h
    · next plan' hplace =>
      cases h
      obtain ⟨hall, hplan⟩ := sharding.placeTables_eq_ok hplace
      exact Or.inr ⟨by simp, hall, hplan⟩
    · cases h

/-- **Every seeded target stands on a configured data source under its own name.** -/
theorem exists_dataSource_of_plan {statement : Statement} {owner : OwnerLookup} {plan : Plan}
    (h : sharding.plan statement owner = .ok plan) {t : Target} (ht : t ∈ plan.targets) :
    ∃ d ∈ sharding.config.dataSources, t.dataSource = Mapping.identity d := by
  obtain ⟨-, rfl⟩ | ⟨-, -, rfl⟩ := sharding.plan_eq_ok h
  · obtain ⟨d, hd, rfl⟩ := List.mem_map.1 ht
    exact ⟨d, hd, rfl⟩
  · obtain ⟨u, hu, hd⟩ := dataSource_of_mem_putAll ht
    have hu : u ∈ (statement.touchedTables owner).flatMap sharding.seeds := by
      simpa [Plan.empty] using hu
    obtain ⟨table, -, hu⟩ := List.mem_flatMap.1 hu
    rw [← hd]
    exact sharding.exists_dataSource_of_seeds hu

/-! ### Layers of a seeded plan -/

/-- Stacking the column of a table leaves layers free of the tables that are not alike to it. -/
theorem free_of_mem_stack_column {d : Mapping} {table other : String}
    {layers : List (List Mapping)} (hne : alike table other = false)
    (hfree : ∀ layer ∈ layers, Free other layer) {layer : List Mapping}
    (h : layer ∈ stack layers (sharding.column d table)) : Free other layer := by
  have hcol : ∀ m ∈ sharding.column d table, alike m.logic other = false := fun m hm => by
    rw [sharding.logic_of_mem_column hm, hne]
  intro x hx
  obtain h | ⟨m, hm, rfl | ⟨old, hold, rfl⟩⟩ := mem_stack h
  · exact hfree layer h x hx
  · rw [List.mem_singleton.1 hx]
    exact hcol m hm
  · rcases List.mem_append.1 hx with hx | hx
    · exact hfree old hold x hx
    · rw [List.mem_singleton.1 hx]
      exact hcol m hm

/-- Tables that are not alike are stacked one after the other. -/
theorem layersOn_putAll_seeds {d : Mapping} {tables : List String} {plan : Plan}
    (htables : tables.Pairwise fun a b => alike a b = false)
    (hfree : ∀ table ∈ tables, ∀ layer ∈ layersOn d plan.targets, Free table layer) :
    layersOn d (plan.putAll (tables.flatMap sharding.seeds)).targets =
      tables.foldl (fun layers table => stack layers (sharding.column d table))
        (layersOn d plan.targets) := by
  induction tables generalizing plan with
  | nil => rfl
  | cons table tables ih =>
    obtain ⟨hhead, htail⟩ := List.pairwise_cons.1 htables
    have hstep : layersOn d (plan.putAll (sharding.seeds table)).targets =
        stack (layersOn d plan.targets) (sharding.column d table) :=
      layersOn_putAll (hfree table List.mem_cons_self) (sharding.places_seeds table)
    rw [List.flatMap_cons, Plan.putAll_append, List.foldl_cons, ← hstep]
    refine ih htail fun other hother layer hlayer => ?_
    rw [hstep] at hlayer
    exact sharding.free_of_mem_stack_column (hhead other hother)
      (hfree other (List.mem_cons_of_mem _ hother)) hlayer

/-- **The layers of a seeded plan** are the columns of the touched tables, stacked. -/
theorem layersOn_plan {statement : Statement} {owner : OwnerLookup} {plan : Plan}
    (h : sharding.plan statement owner = .ok plan) (hne : statement.touchedTables owner ≠ [])
    (d : Mapping) :
    layersOn d plan.targets = sharding.layering d (statement.touchedTables owner) := by
  obtain ⟨hnil, -⟩ | ⟨-, -, rfl⟩ := sharding.plan_eq_ok h
  · exact absurd hnil hne
  · exact sharding.layersOn_putAll_seeds (pairwise_distinctBy alike _)
      (by simp [Plan.empty, layersOn])

/-- **A layering holds each mapping of each column once.** -/
theorem flatten_layering_perm (d : Mapping) (tables : List String) :
    (sharding.layering d tables).flatten.Perm (tables.flatMap (sharding.column d)) := by
  induction tables using List.reverseRecOn with
  | nil => simp [layering]
  | append_singleton tables table ih =>
    rw [layering_concat, List.flatMap_append, List.flatMap_singleton]
    exact (flatten_stack_perm _ _).trans (ih.append_right _)

/-- **A layer maps a table and none twice.** -/
theorem mem_layering {d : Mapping} {tables : List String} {layer : List Mapping}
    (htables : tables.Pairwise fun a b => alike a b = false)
    (h : layer ∈ sharding.layering d tables) :
    layer ≠ [] ∧ layer.Pairwise (fun a b => alike a.logic b.logic = false) ∧
      ∀ m ∈ layer, m.logic ∈ tables := by
  induction tables using List.reverseRecOn generalizing layer with
  | nil => cases h
  | append_singleton tables table ih =>
    obtain ⟨hinit, -, hlast⟩ := List.pairwise_append.1 htables
    rw [layering_concat] at h
    obtain h | ⟨m, hm, rfl | ⟨old, hold, rfl⟩⟩ := mem_stack h
    · obtain ⟨hne, hpair, hlogic⟩ := ih hinit h
      exact ⟨hne, hpair, fun m hm => List.mem_append_left _ (hlogic m hm)⟩
    · have hlogic : m.logic = table := sharding.logic_of_mem_column hm
      exact ⟨by simp, List.pairwise_singleton _ _, by simp [hlogic]⟩
    · have hlogic : m.logic = table := sharding.logic_of_mem_column hm
      obtain ⟨-, hpair, hold⟩ := ih hinit hold
      refine ⟨by simp, List.pairwise_append.2 ⟨hpair, List.pairwise_singleton _ _, ?_⟩, ?_⟩
      · intro x hx y hy
        rw [List.mem_singleton.1 hy, hlogic]
        exact hlast _ (hold x hx) table (by simp)
      · intro x hx
        rcases List.mem_append.1 hx with hx | hx
        · exact List.mem_append_left _ (hold x hx)
        · rw [List.mem_singleton.1 hx, hlogic]
          simp

end Sharding

end ShardProxy
