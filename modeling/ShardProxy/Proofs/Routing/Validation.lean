/-
# Which sharding rules are accepted, and what they guarantee

A sharding rule is refused for its first fault.  `ShardingConfig.Refused` lists the faults by what
the rule says, without a check that finds them: the list of data sources is empty, or some table
rule `Offends` while the table rules before it fit.  A table rule offends in one way only, since
each cause presupposes that those before it are absent:

| cause | the table rule |
| --- | --- |
| empty | has no node |
| unknown | has a node on a data source that is not listed; the first one is named |
| broadcast | has nodes, all on listed data sources, and its table is also broadcast |

A rule that is accepted keeps every statement on its data sources, and the only way in which a
statement can fail is to touch a table that the rule does not know
(`Sharding.guarantee_of_accepted`).
-/

import ShardProxy.Proofs.Routing.Coverage

namespace ShardProxy

open Text

namespace ShardingConfig

/-- A table rule has nodes, all of them on listed data sources, and its table is not broadcast. -/
def Fits (config : ShardingConfig) (rule : TableRule) : Prop :=
  rule.nodes ≠ [] ∧ (∀ node ∈ rule.nodes, node.dataSource ∈ config.dataSources) ∧
    ∀ name ∈ config.broadcast, alike name rule.table = false

instance (config : ShardingConfig) (rule : TableRule) : Decidable (config.Fits rule) :=
  inferInstanceAs (Decidable (_ ∧ _ ∧ _))

/-- What is wrong with a table rule. -/
inductive Offends (config : ShardingConfig) (rule : TableRule) : RuleError → Prop where
  | empty (hnodes : rule.nodes = []) : Offends config rule (.emptyTableRule rule.table)
  | unknown {before after : List Node} {node : Node} (hnodes : rule.nodes = before ++ node :: after)
    (hbefore : ∀ n ∈ before, n.dataSource ∈ config.dataSources)
    (hnode : node.dataSource ∉ config.dataSources) :
    Offends config rule (.unknownDataSource rule.table node.dataSource)
  | broadcast {name : String} (hnodes : rule.nodes ≠ [])
    (hlisted : ∀ node ∈ rule.nodes, node.dataSource ∈ config.dataSources)
    (hname : name ∈ config.broadcast) (halike : alike name rule.table = true) :
    Offends config rule (.broadcastSharded rule.table)

/-- Why a sharding rule is refused. -/
inductive Refused (config : ShardingConfig) : RuleError → Prop where
  | noDataSource (h : config.dataSources = []) : Refused config .noDataSource
  /-- The first table rule that does not fit. -/
  | rule {before after : List TableRule} {rule : TableRule} {e : RuleError}
    (hlisted : config.dataSources ≠ []) (htables : config.tables = before ++ rule :: after)
    (hbefore : ∀ r ∈ before, config.Fits r) (hoffends : config.Offends rule e) : Refused config e

/-- A table is broadcast or has a rule, the case of ASCII letters aside. -/
def Knows (config : ShardingConfig) (table : String) : Prop :=
  (∃ name ∈ config.broadcast, alike name table = true) ∨
    ∃ rule ∈ config.tables, alike rule.table table = true

instance (config : ShardingConfig) (table : String) : Decidable (config.Knows table) :=
  inferInstanceAs (Decidable (_ ∨ _))

variable {config : ShardingConfig} {rule : TableRule} {e : RuleError}

/-- A table is not broadcast when no listed name is alike to it. -/
theorem isBroadcast_eq_false_iff {table : String} :
    config.isBroadcast table = false ↔ ∀ name ∈ config.broadcast, alike name table = false := by
  simp [isBroadcast]

/-- A table is broadcast when a listed name is alike to it. -/
theorem isBroadcast_eq_true_iff {table : String} :
    config.isBroadcast table = true ↔ ∃ name ∈ config.broadcast, alike name table = true := by
  simp [isBroadcast]

/-- **A table rule passes its check when it fits.** -/
theorem ruleFault?_eq_none_iff_fits : config.ruleFault? rule = none ↔ config.Fits rule := by
  rw [ruleFault?_eq_none_iff, isBroadcast_eq_false_iff, Fits]

/-- The unknown data source that is named is that of the first node on one. -/
theorem unknownDataSource?_eq_some_iff {d : String} :
    config.unknownDataSource? rule = some d ↔
      ∃ before node after, rule.nodes = before ++ node :: after ∧
        (∀ n ∈ before, n.dataSource ∈ config.dataSources) ∧
        node.dataSource ∉ config.dataSources ∧ node.dataSource = d := by
  have hfirst : config.unknownDataSource? rule =
      (rule.nodes.find? fun node => !config.dataSources.contains node.dataSource).map
        Node.dataSource := by
    rw [unknownDataSource?, TableRule.dataSources, distinct, find?_distinctBy (by simp_all),
      List.find?_map]
    rfl
  rw [hfirst, Option.map_eq_some_iff]
  simp only [List.find?_eq_some_iff_append]
  constructor
  · rintro ⟨node, ⟨hnode, before, after, hnodes, hbefore⟩, rfl⟩
    exact ⟨before, node, after, hnodes, by simpa using hbefore, by simpa using hnode, rfl⟩
  · rintro ⟨before, node, after, hnodes, hbefore, hnode, rfl⟩
    exact ⟨node, ⟨by simpa using hnode, before, after, hnodes, by simpa using hbefore⟩, rfl⟩

/-- **A table rule fails its check with what is wrong with it.** -/
theorem ruleFault?_eq_some_iff : config.ruleFault? rule = some e ↔ config.Offends rule e := by
  constructor
  · intro h
    rw [ruleFault?] at h
    split at h
    · next hnodes =>
      cases h
      exact .empty hnodes
    · next hnodes =>
      split at h
      · next d hd =>
        obtain ⟨before, node, after, hsplit, hbefore, hnode, rfl⟩ :=
          unknownDataSource?_eq_some_iff.1 hd
        cases h
        exact .unknown hsplit hbefore hnode
      · next hlisted =>
        split at h
        · next hbroadcast =>
          obtain ⟨name, hname, halike⟩ := isBroadcast_eq_true_iff.1 hbroadcast
          cases h
          exact .broadcast hnodes (unknownDataSource?_eq_none_iff.1 hlisted) hname halike
        · cases h
  · intro h
    rw [ruleFault?]
    cases h with
    | empty hnodes => rw [if_pos hnodes]
    | @unknown before after node hsplit hbefore hnode =>
      have hd : config.unknownDataSource? rule = some node.dataSource :=
        unknownDataSource?_eq_some_iff.2 ⟨before, node, after, hsplit, hbefore, hnode, rfl⟩
      rw [if_neg (by simp [hsplit]), hd]
    | broadcast hnodes hlisted hname halike =>
      rw [if_neg hnodes, unknownDataSource?_eq_none_iff.2 hlisted]
      exact if_pos (isBroadcast_eq_true_iff.2 ⟨_, hname, halike⟩)

/-- **The fault of a sharding rule is the first one there is.** -/
theorem fault?_eq_some_iff : config.fault? = some e ↔ config.Refused e := by
  rw [fault?]
  constructor
  · intro h
    split at h
    · next hnil =>
      cases h
      exact .noDataSource hnil
    · next hlisted =>
      obtain ⟨before, rule, after, htables, hrule, hbefore⟩ := List.findSome?_eq_some_iff.1 h
      exact .rule hlisted htables (fun r hr => ruleFault?_eq_none_iff_fits.1 (hbefore r hr))
        (ruleFault?_eq_some_iff.1 hrule)
  · intro h
    cases h with
    | noDataSource hnil => rw [if_pos hnil]
    | rule hlisted htables hbefore hoffends =>
      rw [if_neg hlisted]
      exact List.findSome?_eq_some_iff.2 ⟨_, _, _, htables, ruleFault?_eq_some_iff.2 hoffends,
        fun r hr => ruleFault?_eq_none_iff_fits.2 (hbefore r hr)⟩

/-- A table that is broadcast and has two nodes on unlisted data sources is refused for the first
of these. -/
example : fault? ⟨["main"], [⟨"country", [⟨"main", "c"⟩, ⟨"spare", "c"⟩, ⟨"old", "c"⟩]⟩],
    ["Country"]⟩ = some (.unknownDataSource "country" "spare") := by
  decide

end ShardingConfig

namespace Sharding

variable {sharding : Sharding} {statement : Statement} {owner : OwnerLookup}

/-- A table has placements when the rule knows it. -/
theorem isSome_targets?_iff_knows {table : String} :
    (sharding.targets? table).isSome ↔ sharding.config.Knows table := by
  rw [isSome_targets?_iff, ShardingConfig.isBroadcast_eq_true_iff, ShardingConfig.findRule?,
    List.find?_isSome, ShardingConfig.Knows]

/-- **The table that is not known** comes after tables that all are. -/
theorem unknown?_eq_some_iff {tables : List String} {table : String} :
    sharding.unknown? tables = some table ↔
      ∃ before after, tables = before ++ table :: after ∧
        (∀ t ∈ before, sharding.config.Knows t) ∧ ¬ sharding.config.Knows table := by
  rw [unknown?, List.find?_eq_some_iff_append]
  simp only [← isSome_targets?_iff_knows]
  constructor
  · rintro ⟨htable, before, after, htables, hbefore⟩
    exact ⟨before, after, htables, by simpa using hbefore, by simpa using htable⟩
  · rintro ⟨before, after, htables, hbefore, htable⟩
    exact ⟨by simpa using htable, before, after, htables, by simpa using hbefore⟩

/-- **A statement has no plan exactly when it touches a table that the rule does not know.** -/
theorem plan_eq_error_iff {e : RoutingError} :
    sharding.plan statement owner = .error e ↔
      ∃ table, sharding.unknown? (statement.touchedTables owner) = some table ∧
        e = .noTableRule table := by
  by_cases hnil : statement.touchedTables owner = []
  · rw [plan_eq_untargeted_iff.2 hnil, hnil]
    simp [unknown?]
  · rw [plan_eq_of_touched sharding hnil]
    cases sharding.unknown? (statement.touchedTables owner) <;> simp [eq_comm]

/-- **What it takes to be accepted, and what that guarantees.**  A sharding rule is accepted exactly
when it lists a data source and all of its table rules fit; else it is refused for its first fault.
The plans of an accepted rule stay on the listed data sources, each under its own name, whatever the
statement and the owners of its indexes; and a statement fails only at the first table that it
touches and the rule does not know. -/
theorem guarantee_of_accepted (config : ShardingConfig) :
    ((∃ sharding, ofConfig config = .ok sharding) ↔
      config.dataSources ≠ [] ∧ ∀ rule ∈ config.tables, config.Fits rule) ∧
    (∀ e, ofConfig config = .error e ↔ config.Refused e) ∧
    ∀ sharding, ofConfig config = .ok sharding →
      ∀ (statement : Statement) (owner : OwnerLookup),
        (∀ plan, sharding.plan statement owner = .ok plan → ∀ target ∈ plan.targets,
          ∃ d ∈ config.dataSources, target.dataSource = Mapping.identity d) ∧
        ∀ e, sharding.plan statement owner = .error e ↔
          ∃ before table after, statement.touchedTables owner = before ++ table :: after ∧
            (∀ t ∈ before, config.Knows t) ∧ ¬ config.Knows table ∧ e = .noTableRule table := by
  refine ⟨?_, fun e => ofConfig_eq_error_iff.trans ShardingConfig.fault?_eq_some_iff, ?_⟩
  · have hfits : config.fault? = none ↔
        config.dataSources ≠ [] ∧ ∀ rule ∈ config.tables, config.Fits rule := by
      simp only [ShardingConfig.fault?_eq_none_iff, ShardingConfig.ruleFault?_eq_none_iff_fits]
    rw [← hfits]
    constructor
    · rintro ⟨sharding, hsharding⟩
      obtain rfl := ofConfig_eq_ok_iff.1 hsharding
      exact sharding.accepted
    · intro haccepted
      exact ⟨⟨config, haccepted⟩, ofConfig_eq_ok_iff.2 rfl⟩
  · intro sharding hsharding statement owner
    obtain rfl := ofConfig_eq_ok_iff.1 hsharding
    refine ⟨fun plan hplan target htarget => sharding.exists_dataSource_of_plan hplan htarget,
      fun e => ?_⟩
    rw [plan_eq_error_iff]
    simp only [unknown?_eq_some_iff]
    constructor
    · rintro ⟨table, ⟨before, after, htables, hbefore, htable⟩, rfl⟩
      exact ⟨before, table, after, htables, hbefore, htable, rfl⟩
    · rintro ⟨before, table, after, htables, hbefore, htable, rfl⟩
      exact ⟨table, ⟨before, after, htables, hbefore, htable⟩, rfl⟩

/-- The rule of the shop is accepted.  The removal of an index of the orders stays on the data
sources of the shop, and a query of countries, items and users fails at the items. -/
theorem guarantee_of_accepted_shop :
    ∃ sharding, ofConfig shopSharding = .ok sharding ∧
      (∃ plan, sharding.plan (.dropIndex ["by_day"]) (fun _ => some "T_Order") = .ok plan ∧
        ∀ target ∈ plan.targets,
          ∃ d ∈ ["main", "archive", "main"], target.dataSource = Mapping.identity d) ∧
      sharding.plan (.select ["Country", "t_item", "COUNTRY", "t_user"]) (fun _ => none) =
        .error (.noTableRule "t_item") := by
  obtain ⟨haccepted, -, hplans⟩ := guarantee_of_accepted shopSharding
  obtain ⟨sharding, hsharding⟩ := haccepted.2 (by decide)
  obtain rfl : sharding = ⟨shopSharding, rfl⟩ :=
    Except.ok.inj (hsharding.symm.trans (ofConfig_eq_ok_iff.2 rfl))
  refine ⟨_, hsharding, ⟨_, rfl, ?_⟩, ?_⟩
  · exact (hplans _ hsharding (.dropIndex ["by_day"]) fun _ => some "T_Order").1 _ rfl
  · have hfails := (hplans _ hsharding (.select ["Country", "t_item", "COUNTRY", "t_user"])
      fun _ => none).2 (.noTableRule "t_item")
    exact hfails.2 ⟨["Country"], "t_item", ["t_user"], by decide, by decide, by decide, rfl⟩

end Sharding

end ShardProxy
