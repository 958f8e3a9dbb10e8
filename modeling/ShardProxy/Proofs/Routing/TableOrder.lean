/-
# The order of tables does not matter

First fit depends on the order of what it is given, but not here.  On each data source the layer at
a position is made of the mappings that the columns of the tables have at that position
(`Sharding.getD_layering`), whatever order the columns are stacked in.  So two statements that name
the same tables in different orders are grouped alike (`Sharding.grouping_of_perm`): their plans
have the same targets up to the order of the targets and of the tables in each.

Without a table it is the indexes that count, and they may differ
(`Sharding.grouping_ne_of_indexes`).
-/

import ShardProxy.Proofs.Routing.Stages
import ShardProxy.Proofs.Routing.Seeded
import ShardProxy.Schema
import Mathlib.Data.Finset.Dedup
import Mathlib.Data.Multiset.Count

namespace ShardProxy

open Text

/-! ### Layers by position -/

/-- A stack is as high as the higher of its parts. -/
theorem length_stack (layers : List (List Mapping)) (ms : List Mapping) :
    (stack layers ms).length = max layers.length ms.length := by
  induction ms generalizing layers with
  | nil => simp
  | cons m ms ih =>
    cases layers with
    | nil => simp [stack, ih]
    | cons layer layers => simp [stack, ih, Nat.succ_max_succ]

/-- **A mapping is stacked on the layer of its position.** -/
theorem getD_stack (layers : List (List Mapping)) (ms : List Mapping) (k : Nat) :
    (stack layers ms)[k]?.getD [] = layers[k]?.getD [] ++ ms[k]?.toList := by
  induction ms generalizing layers k with
  | nil => simp
  | cons m ms ih =>
    cases layers with
    | nil =>
      cases k with
      | zero => rfl
      | succ k => simpa [stack] using ih [] k
    | cons layer layers =>
      cases k with
      | zero => rfl
      | succ k => simpa [stack] using ih layers k

/-! ### Plans up to order -/

/-- The data source and the set of mappings of each target, in no order. -/
def Plan.grouping (plan : Plan) : Multiset (Mapping × Finset Mapping) :=
  plan.targets.map fun t => (t.dataSource, t.tables.toFinset)

/-- **A group is found in the layers of its data source.** -/
theorem Plan.count_grouping (plan : Plan) (d : Mapping) (group : Finset Mapping) :
    plan.grouping.count (d, group) =
      ((layersOn d plan.targets).map List.toFinset).count group := by
  rw [grouping, Multiset.coe_count, layersOn, List.map_map]
  simp only [List.count, List.countP_map, List.countP_filter]
  refine List.countP_congr fun t _ => ?_
  simp [and_comm]

/-- Plans whose layers hold the same mappings are grouped alike. -/
theorem Plan.grouping_eq {plan plan' : Plan}
    (h : ∀ d, (layersOn d plan.targets).map List.toFinset =
      (layersOn d plan'.targets).map List.toFinset) : plan.grouping = plan'.grouping := by
  refine Multiset.ext.2 fun ⟨d, group⟩ => ?_
  rw [count_grouping, count_grouping, h]

namespace Sharding

variable (sharding : Sharding)

/-- **The layer at a position is made of what the columns have there.** -/
theorem getD_layering (d : Mapping) (tables : List String) (k : Nat) :
    (sharding.layering d tables)[k]?.getD [] =
      tables.flatMap fun table => (sharding.column d table)[k]?.toList := by
  induction tables using List.reverseRecOn with
  | nil => rfl
  | append_singleton tables table ih =>
    rw [layering_concat, getD_stack, ih, List.flatMap_append, List.flatMap_singleton]

/-- A layering is as high as its highest column. -/
theorem lt_length_layering {d : Mapping} {tables : List String} {k : Nat} :
    k < (sharding.layering d tables).length ↔
      ∃ table ∈ tables, k < (sharding.column d table).length := by
  induction tables using List.reverseRecOn with
  | nil => simp [layering]
  | append_singleton tables table ih =>
    rw [layering_concat, length_stack, lt_max_iff, ih]
    simp [or_and_right, exists_or]

/-- **The layers of tables do not depend on their order,** but for the order in each. -/
theorem map_toFinset_layering {tables tables' : List String} (h : tables.Perm tables')
    (d : Mapping) :
    (sharding.layering d tables).map List.toFinset =
      (sharding.layering d tables').map List.toFinset := by
  have hlt : ∀ k, k < (sharding.layering d tables).length ↔
      k < (sharding.layering d tables').length := fun k => by
    rw [lt_length_layering, lt_length_layering]
    exact exists_congr fun table => and_congr_left fun _ => h.mem_iff
  have hlen : (sharding.layering d tables).length = (sharding.layering d tables').length := by
    have h₁ := hlt (sharding.layering d tables).length
    have h₂ := hlt (sharding.layering d tables').length
    omega
  refine List.ext_getElem (by simpa using hlen) fun k hk hk' => ?_
  rw [List.length_map] at hk hk'
  have hperm : ((sharding.layering d tables)[k]?.getD []).Perm
      ((sharding.layering d tables')[k]?.getD []) := by
    rw [getD_layering, getD_layering]
    exact h.flatMap_right _
  rw [List.getElem?_eq_getElem hk, List.getElem?_eq_getElem hk', Option.getD_some,
    Option.getD_some] at hperm
  rw [List.getElem_map, List.getElem_map]
  exact List.toFinset_eq_of_perm _ _ hperm

/-! ### Which statements have a plan -/

/-- **A statement has a plan exactly when all the tables that it touches are known.** -/
theorem exists_plan_iff {statement : Statement} {owner : OwnerLookup} :
    (∃ plan, sharding.plan statement owner = .ok plan) ↔
      ∀ table ∈ statement.touchedTables owner, (sharding.targets? table).isSome := by
  constructor
  · rintro ⟨plan, hplan⟩
    obtain ⟨hnil, -⟩ | ⟨-, hknown, -⟩ := sharding.plan_eq_ok hplan
    · simp [hnil]
    · exact hknown
  · intro h
    by_cases hnil : statement.touchedTables owner = []
    · rw [Sharding.plan, place, hnil]
      exact ⟨_, rfl⟩
    · have hknown : sharding.unknown? (statement.touchedTables owner) = none := by
        simpa [unknown?, List.find?_eq_none, Option.isSome_iff_ne_none] using h
      rw [sharding.plan_eq_of_touched hnil, hknown]
      exact ⟨_, rfl⟩

/-- Statements that touch the same tables in some order are grouped alike. -/
theorem grouping_of_touchedTables {statement statement' : Statement} {owner : OwnerLookup}
    {plan plan' : Plan}
    (h : (statement.touchedTables owner).Perm (statement'.touchedTables owner))
    (hplan : sharding.plan statement owner = .ok plan)
    (hplan' : sharding.plan statement' owner = .ok plan') : plan.grouping = plan'.grouping := by
  by_cases hnil : statement.touchedTables owner = []
  · -- A statement that touches no table has only one plan.
    have hnil' : statement'.touchedTables owner = [] := by
      rw [hnil] at h
      exact List.nil_perm.1 h
    rw [Sharding.plan, place, hnil] at hplan
    rw [Sharding.plan, place, hnil'] at hplan'
    cases hplan
    cases hplan'
    rfl
  · have hne' : statement'.touchedTables owner ≠ [] := fun hnil' => by
      rw [hnil'] at h
      exact hnil (List.perm_nil.1 h)
    refine Plan.grouping_eq fun d => ?_
    rw [sharding.layersOn_plan hplan hnil, sharding.layersOn_plan hplan' hne']
    exact sharding.map_toFinset_layering h d

end Sharding

/-- Statements that name the same tables in some order touch the same, if they name the same
indexes when there is no table. -/
theorem Statement.touchedTables_perm {statement statement' : Statement}
    (h : statement.tables.Perm statement'.tables)
    (hdistinct : statement.tables.Pairwise fun a b => alike a b = false)
    (hindexes : statement.tables = [] → statement.indexes = statement'.indexes)
    (owner : OwnerLookup) :
    (statement.touchedTables owner).Perm (statement'.touchedTables owner) := by
  rw [touchedTables, touchedTables, namedTables, namedTables]
  by_cases hnil : statement.tables = []
  · have hnil' : statement'.tables = [] := by
      rw [hnil] at h
      exact List.nil_perm.1 h
    rw [if_pos hnil, if_pos hnil', hindexes hnil]
  · have hne' : statement'.tables ≠ [] := fun hnil' => by
      rw [hnil'] at h
      exact hnil (List.perm_nil.1 h)
    have hdistinct' : statement'.tables.Pairwise fun a b => alike a b = false :=
      h.pairwise hdistinct fun hab => by rwa [alike_comm]
    rw [if_neg hnil, if_neg hne', distinctBy_eq_self hdistinct, distinctBy_eq_self hdistinct']
    exact h

namespace Sharding

/-- **The order of tables does not matter.**  Two statements that name the same tables in some
order, no two of them alike, and the same indexes if they name no table, both have no plan, or
both have one: then each group of mappings on a data source is in the one plan as often as in the
other. -/
theorem grouping_of_perm (sharding : Sharding) (owner : OwnerLookup)
    {statement statement' : Statement} (h : statement.tables.Perm statement'.tables)
    (hdistinct : statement.tables.Pairwise fun a b => alike a b = false)
    (hindexes : statement.tables = [] → statement.indexes = statement'.indexes) :
    match sharding.plan statement owner, sharding.plan statement' owner with
    | .error _, .error _ => True
    | .ok plan, .ok plan' => plan.grouping = plan'.grouping
    | _, _ => False := by
  have htouched := Statement.touchedTables_perm h hdistinct hindexes owner
  have hknown : (∃ plan, sharding.plan statement owner = .ok plan) ↔
      ∃ plan, sharding.plan statement' owner = .ok plan := by
    rw [exists_plan_iff, exists_plan_iff]
    exact forall_congr' fun table => by rw [htouched.mem_iff]
  rcases hplan : sharding.plan statement owner with e | plan <;>
    rcases hplan' : sharding.plan statement' owner with e' | plan'
  · trivial
  · obtain ⟨plan, hok⟩ := hknown.2 ⟨plan', hplan'⟩
    cases hplan.symm.trans hok
  · obtain ⟨plan', hok⟩ := hknown.1 ⟨plan, hplan⟩
    cases hplan'.symm.trans hok
  · exact sharding.grouping_of_touchedTables htouched hplan hplan'

/-- The rule of the shop is accepted. -/
theorem fault?_shopSharding : shopSharding.fault? = none := rfl

/-- The sharding of the shop. -/
def shop : Sharding := ⟨shopSharding, fault?_shopSharding⟩

/-- In the shop orders and countries give the same three groups as countries and orders, though
their plans differ. -/
theorem grouping_of_perm_shop :
    ["t_order", "country"].Perm ["country", "t_order"] ∧
      (["t_order", "country"].Pairwise fun a b => alike a b = false) ∧
      ∃ plan plan', shop.plan (.select ["t_order", "country"]) (fun _ => none) = .ok plan ∧
        shop.plan (.select ["country", "t_order"]) (fun _ => none) = .ok plan' ∧
        plan ≠ plan' ∧ plan.targets.length = 3 ∧ plan.grouping = plan'.grouping := by
  have hperm : ["t_order", "country"].Perm ["country", "t_order"] := List.Perm.swap ..
  have hdistinct : ["t_order", "country"].Pairwise fun a b => alike a b = false := by decide
  have h := @grouping_of_perm shop (fun _ => none) (.select ["t_order", "country"])
    (.select ["country", "t_order"]) hperm hdistinct fun hnil => by cases hnil
  exact ⟨hperm, hdistinct, _, _, rfl, rfl, by decide, rfl, h⟩

/-- **Without a table the order says nothing:** of two statements that name no table, and so the
same tables, the one with an index of orders goes to the orders, the one without any index
everywhere. -/
theorem grouping_ne_of_indexes :
    let owner := (Schema.ofList [("t_order", ["by_day"])]).owner?
    let indexed := Statement.dropIndex ["by_day"]
    let bare := Statement.dropIndex []
    indexed.tables.Perm bare.tables ∧
      (indexed.tables.Pairwise fun a b => alike a b = false) ∧
      ¬ match shop.plan indexed owner, shop.plan bare owner with
        | .error _, .error _ => True
        | .ok plan, .ok plan' => plan.grouping = plan'.grouping
        | _, _ => False := by
  intro owner indexed bare
  refine ⟨List.Perm.nil, List.Pairwise.nil, ?_⟩
  have hindexed : shop.plan indexed owner =
      .ok ⟨[⟨Mapping.identity "main", [⟨"t_order", "t_0"⟩]⟩,
        ⟨Mapping.identity "main", [⟨"t_order", "t_1"⟩]⟩,
        ⟨Mapping.identity "archive", [⟨"t_order", "t_2"⟩]⟩]⟩ := by decide
  have hbare : shop.plan bare owner = .ok ⟨shop.untargeted⟩ := rfl
  rw [hindexed, hbare]
  decide

end Sharding

end ShardProxy
