/-
# Reads and writes are kept apart

With read-write splitting in force a routed statement is the statement that sharding
alone routes, sent elsewhere: the same targets in the same order, over the same
tables, or the same failure (`route_separates`).  A target whose data source is a
group goes to a configured read other than the write data source when the statement
is a query without lock, write hint or transaction, and else to the group's write
data source (`GroupConfig.Answers`); the first group of a name counts, and a target
of no group stays where it is.

The statement leans on three facts.  A seeded target carries its data source's
own name, so no group takes it for one that has been sent already
(`pending?_of_identity`).  The pool of an accepted group is never empty and never
holds the write data source.  And a balancer that does not weigh its reads has
always an answer (`exists_select`).
-/

import ShardProxy.Proofs.Routing.Seeded
import ShardProxy.Proofs.Routing.Stages
import ShardProxy.Proofs.Traversal

namespace ShardProxy

open Text

/-! ### Groups that always have an answer -/

/-- **A balancer without weights picks a read** whenever there is one. -/
theorem Balancer.exists_select {balancer : Balancer} (hkind : balancer.kind ≠ .weighted)
    {reads : List String} (hne : reads ≠ []) (dice : Dice) (key : BalancerKey) (group : String)
    (balance : Balance) :
    ∃ read, (balancer.select dice key group reads balance).1 = .ok read := by
  rw [select, dif_neg hne]
  split
  · next e after h =>
    cases balancer with
    | rotation => cases h
    | random => cases h
    | weighted weights => exact absurd rfl hkind
  · exact ⟨_, rfl⟩

/-- The answers that a group may give to a statement.  A query without lock, write hint or
transaction goes to a configured read that is not the write data source, and any other statement to
the write data source. -/
def GroupConfig.Answers (config : GroupConfig) (statement : Statement) (actual : String) : Prop :=
  if statement.kind = .select ∧ statement.locks = false ∧ statement.writeHint = false ∧
      statement.inTransaction = false then
    actual ∈ config.reads ∧ actual ≠ config.write
  else actual = config.write

/-- Primary statements are answered by the write data source, the others by a read. -/
theorem GroupConfig.answers_iff {config : GroupConfig} {statement : Statement} {actual : String} :
    config.Answers statement actual ↔
      if statement.isPrimary = false then actual ∈ config.reads ∧ actual ≠ config.write
      else actual = config.write := by
  unfold GroupConfig.Answers
  simp only [Statement.isPrimary_eq_false_iff]

/-- **A group without weights answers every statement.** -/
theorem Group.exists_route {group : Group} (hkind : group.balancer.kind ≠ .weighted) (dice : Dice)
    (statement : Statement) (balance : Balance) :
    ∃ actual after, group.route dice statement balance = (.ok actual, after) ∧
      group.config.Answers statement actual := by
  cases hprimary : statement.isPrimary with
  | true =>
    refine ⟨_, _, route_of_isPrimary hprimary, GroupConfig.answers_iff.2 ?_⟩
    rw [if_neg (by simp [hprimary])]
  | false =>
    obtain ⟨read, hread⟩ := Balancer.exists_select hkind group.pool_ne_nil dice group.key
      group.config.name balance
    have hroute : (group.route dice statement balance).1 = .ok read := by
      rw [route, if_neg (by simp [hprimary]), hread]
    refine ⟨read, (group.route dice statement balance).2, Prod.ext hroute rfl, ?_⟩
    have hpool : read ∈ group.config.pool := mem_pool_of_route hprimary hroute
    refine GroupConfig.answers_iff.2 ?_
    rw [if_pos hprimary]
    exact GroupConfig.mem_pool.1 hpool

/-- No group of a rule asks for a weighted balancer. -/
def SplittingConfig.Unweighted (rule : SplittingConfig) : Prop :=
  ∀ config ∈ rule.groups, ∀ name, config.balancer = some name →
    ∀ balancer, rule.balancer? name = some balancer → balancer.kind ≠ .weighted

/-- The first group of a name, as configured. -/
def SplittingConfig.group? (rule : SplittingConfig) (name : String) : Option GroupConfig :=
  rule.groups.find? (alike ·.name name)

/-- A balancer is readied as the kind that is configured. -/
theorem Balancer.kind_of_ofConfig {config : BalancerConfig} {balancer : Balancer}
    (h : ofConfig config = .ok balancer) : balancer.kind = config.kind := by
  rw [ofConfig] at h
  split at h
  · next hk => cases h; exact hk.symm
  · next hk => cases h; exact hk.symm
  · next hk =>
    split at h
    · cases h
    · cases h
      exact hk.symm

/-- The kind of balancer that a group asks for: a rotation if it names none. -/
def SplittingConfig.kind? (rule : SplittingConfig) (group : GroupConfig) : Option BalancerKind :=
  match group.balancer with
  | none => some .rotation
  | some name => (rule.balancer? name).map BalancerConfig.kind

/-- **A group gets the kind of balancer that it asks for.** -/
theorem Group.kind?_of_ofConfig {number : Nat} {rule : SplittingConfig} {config : GroupConfig}
    {group : Group} (h : Group.ofConfig number rule config = .ok group) :
    rule.kind? config = some group.balancer.kind := by
  obtain ⟨-, -, hb⟩ := ofConfig_eq_ok h
  rw [balancerOf] at hb
  split at hb
  · next hnone =>
    have hrotation : Balancer.rotation = group.balancer := Except.ok.inj hb
    rw [SplittingConfig.kind?, hnone, ← hrotation]
    rfl
  · next name hname =>
    split at hb
    · cases hb
    · next bconfig hbconfig =>
      rw [SplittingConfig.kind?, hname, Balancer.kind_of_ofConfig hb]
      exact Option.map_eq_some_iff.2 ⟨bconfig, hbconfig, rfl⟩

namespace Splitting

/-- Groups are readied one after the other. -/
theorem readyGroups_eq_mapM (number : Nat) (rule : SplittingConfig) (configs : List GroupConfig) :
    readyGroups number rule configs = configs.mapM (Group.ofConfig number rule) := by
  induction configs with
  | nil => rfl
  | cons config configs ih =>
    rw [readyGroups, List.mapM_cons, ← ih]
    rcases Group.ofConfig number rule config with e | group
    · rfl
    · rcases readyGroups number rule configs with e | groups <;> rfl

/-- Each group that was readied comes from one of the configured groups. -/
theorem exists_config_of_readyGroups {number : Nat} {rule : SplittingConfig}
    {configs : List GroupConfig} {groups : List Group}
    (h : readyGroups number rule configs = .ok groups) {group : Group} (hg : group ∈ groups) :
    ∃ config ∈ configs, Group.ofConfig number rule config = .ok group := by
  rw [readyGroups_eq_mapM] at h
  exact exists_mem_of_mapM h hg

/-- The groups of an accepted rule have all been readied. -/
theorem readyGroups_of_ofConfig {number : Nat} {rule : SplittingConfig} {splitting : Splitting}
    (h : ofConfig number rule = .ok splitting) :
    readyGroups number rule rule.groups = .ok splitting.groups := by
  rw [ofConfig] at h
  split at h
  · cases h
  · next groups hgroups =>
    cases h
    exact hgroups

/-- **Groups of an accepted rule are found as configured.** -/
theorem map_config_find? {number : Nat} {rule : SplittingConfig} {splitting : Splitting}
    (h : ofConfig number rule = .ok splitting) (name : String) :
    (splitting.find? name).map Group.config = rule.group? name := by
  have hmap : splitting.groups.map Group.config = rule.groups :=
    map_config_of_readyGroups (readyGroups_of_ofConfig h)
  rw [SplittingConfig.group?, ← hmap, List.find?_map]
  rfl

/-- A group of an accepted rule is one that the rule configures, and readied from that. -/
theorem ofConfig_of_mem {number : Nat} {rule : SplittingConfig} {splitting : Splitting}
    (h : ofConfig number rule = .ok splitting) {group : Group} (hg : group ∈ splitting.groups) :
    group.config ∈ rule.groups ∧ Group.ofConfig number rule group.config = .ok group := by
  obtain ⟨config, hmem, hok⟩ := exists_config_of_readyGroups (readyGroups_of_ofConfig h) hg
  rw [(Group.ofConfig_eq_ok hok).1]
  exact ⟨hmem, hok⟩

/-- No group of an accepted rule weighs its reads if the rule asks for no weights. -/
theorem kind_ne_weighted {number : Nat} {rule : SplittingConfig} {splitting : Splitting}
    (h : ofConfig number rule = .ok splitting) (hu : rule.Unweighted) {group : Group}
    (hg : group ∈ splitting.groups) : group.balancer.kind ≠ .weighted := by
  obtain ⟨hmem, hok⟩ := ofConfig_of_mem h hg
  have hkind := Group.kind?_of_ofConfig hok
  intro hweighted
  rw [SplittingConfig.kind?, hweighted] at hkind
  split at hkind
  · cases hkind
  · next name hname =>
    obtain ⟨balancer, hbalancer, hweighs⟩ := Option.map_eq_some_iff.1 hkind
    exact hu group.config hmem name hname balancer hbalancer hweighs

/-! ### Re-pointing -/

/-- A target is pending for a group of the rule. -/
theorem mem_groups_of_pending? {splitting : Splitting} {target : Target} {group : Group}
    (h : splitting.pending? target = some group) : group ∈ splitting.groups := by
  rw [pending?] at h
  split at h
  · cases h
  · next found hfound =>
    split at h
    · cases h
      exact List.mem_of_find?_eq_some hfound
    · cases h

/-- A target under its data source's own name has not been sent anywhere yet. -/
theorem pending?_of_identity {splitting : Splitting} {target : Target} {d : String}
    (h : target.dataSource = Mapping.identity d) :
    splitting.pending? target = splitting.find? d := by
  rw [pending?, h]
  dsimp only [Mapping.identity]
  cases hfind : splitting.find? d with
  | none => rfl
  | some group =>
    have hfound : splitting.groups.find? (alike ·.config.name d) = some group := hfind
    have halike := List.find?_some hfound
    exact if_pos halike

/-- Where re-pointing leaves a target: a pending one at an answer of its group, any other one
where it was. -/
def Repoints (splitting : Splitting) (statement : Statement) (target sent : Target) : Prop :=
  match splitting.pending? target with
  | none => sent = target
  | some group => ∃ actual, group.config.Answers statement actual ∧ sent = target.repoint actual

/-- **Without weights re-pointing never fails** and sends every pending target to an answer of
its group. -/
theorem forall₂_repoint {splitting : Splitting}
    (hkind : ∀ group ∈ splitting.groups, group.balancer.kind ≠ .weighted) (dice : Dice)
    (statement : Statement) (targets : List Target) (balance : Balance) :
    (splitting.repoint dice statement targets balance).failure = none ∧
      List.Forall₂ (splitting.Repoints statement) targets
        (splitting.repoint dice statement targets balance).targets := by
  induction targets generalizing balance with
  | nil => exact ⟨rfl, List.Forall₂.nil⟩
  | cons target targets ih =>
    rw [repoint]
    cases hp : splitting.pending? target with
    | none =>
      obtain ⟨hfail, hrest⟩ := ih balance
      exact ⟨hfail, List.Forall₂.cons (by simp [Repoints, hp]) hrest⟩
    | some group =>
      obtain ⟨actual, after, hroute, hanswer⟩ :=
        Group.exists_route (hkind group (mem_groups_of_pending? hp)) dice statement balance
      obtain ⟨hfail, hrest⟩ := ih after
      dsimp only
      rw [hroute]
      refine ⟨hfail, List.Forall₂.cons ?_ hrest⟩
      rw [Repoints, hp]
      exact ⟨actual, hanswer, rfl⟩

end Splitting

/-! ### As the configuration says -/

/-- The configured group that has still to send a target somewhere: the first of the target's
logical data source, if it has the name of the actual one. -/
def SplittingConfig.pending? (rule : SplittingConfig) (target : Target) : Option GroupConfig :=
  (rule.group? target.dataSource.logic).filter (alike ·.name target.dataSource.actual)

/-- Pending is what the configuration says. -/
theorem Splitting.map_config_pending? {number : Nat} {rule : SplittingConfig}
    {splitting : Splitting} (h : ofConfig number rule = .ok splitting) (target : Target) :
    (splitting.pending? target).map Group.config = rule.pending? target := by
  rw [SplittingConfig.pending?, ← map_config_find? h, pending?]
  cases splitting.find? target.dataSource.logic with
  | none => rfl
  | some group =>
    by_cases halike : alike group.config.name target.dataSource.actual = true
    · simp [Option.filter, halike]
    · simp [Option.filter, halike]

/-- What becomes of a target when a plan is sent on: its tables and its logical data source stay,
and its actual one stays too unless the target is pending. -/
structure SplittingConfig.SendsOn (rule : SplittingConfig) (statement : Statement)
    (target sent : Target) : Prop where
  logic : sent.dataSource.logic = target.dataSource.logic
  tables : sent.tables = target.tables
  actual : match rule.pending? target with
    | none => sent.dataSource.actual = target.dataSource.actual
    | some group => group.Answers statement sent.dataSource.actual

/-- A target that is re-pointed is sent on. -/
theorem Splitting.sendsOn_of_repoints {number : Nat} {rule : SplittingConfig}
    {splitting : Splitting} (h : ofConfig number rule = .ok splitting) {statement : Statement}
    {target sent : Target} (hsent : splitting.Repoints statement target sent) :
    rule.SendsOn statement target sent := by
  have hpending := map_config_pending? h target
  rw [Repoints] at hsent
  cases hgroup : splitting.pending? target with
  | none =>
    rw [hgroup] at hsent hpending
    obtain rfl : sent = target := hsent
    exact ⟨rfl, rfl, by rw [← hpending]; rfl⟩
  | some group =>
    rw [hgroup] at hsent hpending
    obtain ⟨actual, hanswer, rfl⟩ := hsent
    exact ⟨rfl, rfl, by rw [← hpending]; exact hanswer⟩

/-! ### Through the whole pipeline -/

/-- How a rule sends a target that sharding has made: its tables and its logical data source stay,
and its actual data source is one that the first group of that name may answer. -/
structure SplittingConfig.Sends (rule : SplittingConfig) (statement : Statement)
    (target sent : Target) : Prop where
  logic : sent.dataSource.logic = target.dataSource.logic
  tables : sent.tables = target.tables
  actual : match rule.group? target.dataSource.logic with
    | none => sent.dataSource.actual = target.dataSource.actual
    | some group => group.Answers statement sent.dataSource.actual

/-- A target under its data source's own name is sent as the configuration says. -/
theorem Splitting.sends_of_repoints {number : Nat} {rule : SplittingConfig} {splitting : Splitting}
    (h : ofConfig number rule = .ok splitting) {statement : Statement} {target sent : Target}
    {d : String} (hd : target.dataSource = Mapping.identity d)
    (hsent : splitting.Repoints statement target sent) : rule.Sends statement target sent := by
  obtain ⟨hlogic, htables, hactual⟩ := sendsOn_of_repoints h hsent
  have hpending : rule.pending? target = rule.group? target.dataSource.logic := by
    rw [← map_config_pending? h, ← map_config_find? h, pending?_of_identity hd, hd]
    rfl
  rw [hpending] at hactual
  exact ⟨hlogic, htables, hactual⟩

/-- **Splitting sends what sharding routes, and nothing else.**  Rules whose groups do not weigh
their reads give sharding alone a pipeline of its own, and for every statement, every owner of its
indexes, every state of the balancers and every random word the two pipelines fail together, for
one reason, or route together: to as many targets, of which each is sent as the configuration
says. -/
theorem route_separates {rules : Rules} {config : ShardingConfig} {split : SplittingConfig}
    {dice : Dice} {router : Pipeline Balance} (hs : rules.sharding = some config)
    (hsplit : rules.splitting = some split) (hu : split.Unweighted)
    (hr : rules.router dice = .ok router) :
    ∃ alone, Rules.router { rules with splitting := none } dice = .ok alone ∧
      ∀ (statement : Statement) (owner : OwnerLookup) (balance balance' : Balance),
        match (alone.route statement owner balance').1 with
        | .error e => (router.route statement owner balance).1 = .error e
        | .ok seeded => ∃ plan, (router.route statement owner balance).1 = .ok plan ∧
            plan.targets.length = seeded.targets.length ∧
            List.Forall₂ (split.Sends statement) seeded.targets plan.targets := by
  obtain ⟨sharding, rfl, ⟨hnone, -⟩ | ⟨split', splitting, hsome, hok, rfl⟩⟩ := router_eq hs hr
  · rw [hsplit] at hnone
    cases hnone
  · obtain rfl : split = split' := Option.some.inj (hsplit.symm.trans hsome)
    have hsharding : Sharding.ofConfig sharding.config = .ok sharding :=
      Sharding.ofConfig_eq_ok_iff.2 rfl
    have halone : Rules.router { rules with splitting := none } dice = .ok ⟨[sharding.stage]⟩ := by
      simp [Rules.router, hs, shardingStages, hsharding, splittingStages, Pipeline.ofStages]
    refine ⟨_, halone, fun statement owner balance balance' => ?_⟩
    rw [route_sharding, route_sharding_splitting]
    cases hplan : sharding.plan statement owner with
    | error e => rfl
    | ok seeded =>
      have hkind : ∀ group ∈ splitting.groups, group.balancer.kind ≠ .weighted :=
        fun group hg => Splitting.kind_ne_weighted hok hu hg
      obtain ⟨hfail, hsent⟩ :=
        Splitting.forall₂_repoint hkind dice statement seeded.targets balance
      dsimp only
      rw [hfail]
      refine ⟨_, rfl, splitting.length_repoint dice statement seeded.targets balance, ?_⟩
      refine (List.forall₂_iff_zip.2 ⟨hsent.length_eq, fun {t u} htu => ?_⟩)
      obtain ⟨d, -, hd⟩ := sharding.exists_dataSource_of_plan hplan (List.of_mem_zip htu).1
      exact Splitting.sends_of_repoints hok hd ((List.forall₂_iff_zip.1 hsent).2 htu)

/-- In the shop a query over orders is sent to the replica where the group stands for the data
source, and stays on the archive.  With a lock, a write hint or a transaction it is sent to the
write data source, and so is an insertion. -/
theorem route_separates_shop :
    let query := Statement.select ["t_order"]
    shopRules.splitting = some ⟨[shopGroup], []⟩ ∧ SplittingConfig.Unweighted ⟨[shopGroup], []⟩ ∧
      ∃ alone, Rules.router { shopRules with splitting := none } (fun _ => 0) = .ok alone ∧
        ∀ sent ∈ [(query, "replica"), ({ query with locks := true }, "primary"),
            ({ query with writeHint := true }, "primary"),
            ({ query with inTransaction := true }, "primary"), (.insert "t_order", "primary")],
          ∃ seeded plan,
            (alone.route sent.1 (fun _ => none) .initial).1 = .ok seeded ∧
            ((shopRouter fun _ => 0).route sent.1 (fun _ => none) .initial).1 = .ok plan ∧
            plan.dataSources = [sent.2, "archive"] ∧
            List.Forall₂ (SplittingConfig.Sends ⟨[shopGroup], []⟩ sent.1)
              seeded.targets plan.targets := by
  intro query
  have hu : SplittingConfig.Unweighted ⟨[shopGroup], []⟩ := by
    simp [SplittingConfig.Unweighted, shopGroup]
  have hr : shopRules.router (fun _ => 0) = .ok (shopRouter fun _ => 0) := router_shopRules _
  obtain ⟨alone, halone, hroute⟩ := route_separates rfl rfl hu hr
  refine ⟨rfl, hu, alone, halone, fun sent hsent => ?_⟩
  obtain ⟨plan, hplan, hnames⟩ : ∃ plan,
      ((shopRouter fun _ => 0).route sent.1 (fun _ => none) .initial).1 = .ok plan ∧
        plan.dataSources = [sent.2, "archive"] := by
    simp only [List.mem_cons, List.not_mem_nil, or_false] at hsent
    rcases hsent with rfl | rfl | rfl | rfl | rfl <;> exact ⟨_, rfl, by decide⟩
  have hmatch := hroute sent.1 (fun _ => none) .initial .initial
  cases hseeded : (alone.route sent.1 (fun _ => none) .initial).1 with
  | error e =>
    rw [hseeded] at hmatch
    cases hplan.symm.trans hmatch
  | ok seeded =>
    rw [hseeded] at hmatch
    obtain ⟨routed, hrouted, -, hsends⟩ := hmatch
    obtain rfl : plan = routed := Except.ok.inj (hplan.symm.trans hrouted)
    exact ⟨seeded, plan, rfl, hplan, hnames, hsends⟩

end ShardProxy
