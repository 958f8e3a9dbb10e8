/-
# What splitting is given, and what it does with it

Whether sharding comes before it or not, read-write splitting does the same: it is given a plan, and
sends its targets on one after the other.  Sharding gives it a plan of its own; without
sharding it gets one bare target that stands for the only group (`Rules.seeded`).  So every router
with a splitting part is `Splitting.send` after `Rules.seeded` (`route_eq_send`), and every target
that is sent still carries its data source's own name.  A router without a splitting part answers
with the plan as it is (`route_eq_seeded`).
-/

import ShardProxy.Proofs.Routing.Separation

namespace ShardProxy

open Text

/-- The plan of a rule that splits alone, before it is sent on: a bare target for its only group. -/
def SplittingConfig.seeded (rule : SplittingConfig) : Except RoutingError Plan :=
  match rule.groups with
  | [group] => .ok ⟨[⟨Mapping.identity group.name, []⟩]⟩
  | groups => .error (.ambiguousGroups groups.length)

/-- The plan of a statement before splitting sends it on. -/
def Rules.seeded (rules : Rules) (statement : Statement) (owner : OwnerLookup) :
    Except RoutingError Plan :=
  match rules.sharding, rules.splitting with
  | some config, _ =>
    match Sharding.ofConfig config with
    | .error e => .error (.rule e)
    | .ok sharding => sharding.plan statement owner
  | none, some rule => rule.seeded
  | none, none => .error (.invalidConfig .noRules)

/-- With sharding the plan is that of sharding. -/
theorem Rules.seeded_of_sharding {rules : Rules} {sharding : Sharding}
    (h : rules.sharding = some sharding.config) (statement : Statement) (owner : OwnerLookup) :
    rules.seeded statement owner = sharding.plan statement owner := by
  have hsharding : Sharding.ofConfig sharding.config = .ok sharding :=
    Sharding.ofConfig_eq_ok_iff.2 rfl
  rw [seeded, h]
  dsimp only
  rw [hsharding]

/-- **What sharding alone routes** is what splitting is given. -/
theorem Rules.seeded_of_alone {rules : Rules} {dice : Dice} {alone : Pipeline Balance}
    (h : Rules.router { rules with splitting := none } dice = .ok alone) (statement : Statement)
    (owner : OwnerLookup) (balance : Balance) :
    rules.seeded statement owner = (alone.route statement owner balance).1 := by
  cases hs : rules.sharding with
  | none =>
    simp [router, hs, shardingStages, splittingStages] at h
  | some config =>
    obtain ⟨sharding, rfl, ⟨-, rfl⟩ | ⟨_, _, hnone, -⟩⟩ := router_eq (by exact hs) h
    · rw [route_sharding, seeded_of_sharding hs]
    · cases hnone

/-- Sends the targets of a plan on, if there is one. -/
def Splitting.send (splitting : Splitting) (dice : Dice) (statement : Statement)
    (seeded : Except RoutingError Plan) (balance : Balance) :
    Except RoutingError Plan × Balance :=
  match seeded with
  | .error e => (.error e, balance)
  | .ok plan =>
    let repointed := splitting.repoint dice statement plan.targets balance
    match repointed.failure with
    | some e => (.error e, repointed.balance)
    | none => (.ok ⟨repointed.targets⟩, repointed.balance)

/-- A plan that has been sent on is one whose targets have all been re-pointed. -/
theorem Splitting.exists_repoint_of_send {splitting : Splitting} {dice : Dice}
    {statement : Statement} {seeded : Except RoutingError Plan} {balance : Balance} {plan : Plan}
    (h : (splitting.send dice statement seeded balance).1 = .ok plan) :
    ∃ given, seeded = .ok given ∧
      (splitting.repoint dice statement given.targets balance).failure = none ∧
      plan.targets = (splitting.repoint dice statement given.targets balance).targets := by
  rcases seeded with e | given
  · cases h
  · rw [send] at h
    split at h
    · cases h
    · next hsent =>
      cases h
      exact ⟨given, rfl, hsent, rfl⟩

/-- Sending a plan on leaves the balance that re-pointing its targets leaves. -/
theorem Splitting.balance_of_send (splitting : Splitting) (dice : Dice) (statement : Statement)
    (plan : Plan) (balance : Balance) :
    (splitting.send dice statement (.ok plan) balance).2 =
      (splitting.repoint dice statement plan.targets balance).balance := by
  rw [send]
  split <;> rfl

/-- **A target that has yet to be sent carries its data source's own name.** -/
theorem Rules.exists_dataSource_of_seeded {rules : Rules} {statement : Statement}
    {owner : OwnerLookup} {plan : Plan} (h : rules.seeded statement owner = .ok plan) {t : Target}
    (ht : t ∈ plan.targets) : ∃ d, t.dataSource = Mapping.identity d := by
  rw [seeded] at h
  split at h
  · split at h
    · cases h
    · next sharding _ =>
      obtain ⟨d, -, hd⟩ := sharding.exists_dataSource_of_plan h ht
      exact ⟨d, hd⟩
  · rw [SplittingConfig.seeded] at h
    split at h
    · next group _ =>
      cases h
      rw [List.mem_singleton.1 ht]
      exact ⟨group.name, rfl⟩
    · cases h
  · cases h

/-- The pipeline of rules that only split. -/
theorem router_of_splitting {rules : Rules} {rule : SplittingConfig} {dice : Dice}
    {router : Pipeline Balance} (hnone : rules.sharding = none)
    (hsplit : rules.splitting = some rule) (hr : rules.router dice = .ok router) :
    ∃ splitting, Splitting.ofConfig 0 rule = .ok splitting ∧ router = ⟨[splitting.stage dice]⟩ := by
  rw [Rules.router, hnone, shardingStages, hsplit] at hr
  dsimp only at hr
  cases hstages : splittingStages dice (some rule) with
  | error e =>
    rw [hstages] at hr
    cases hr
  | ok stages =>
    rw [hstages] at hr
    obtain ⟨hrule, -⟩ | ⟨rule', splitting, hrule, hok, rfl⟩ := splittingStages_eq_ok hstages
    · cases hrule
    · cases hrule
      dsimp only at hr
      rw [List.nil_append, if_neg (List.cons_ne_nil _ _)] at hr
      cases hr
      exact ⟨splitting, hok, by simp [Pipeline.ofStages]⟩

/-- **Splitting alone** sends the only group's target on. -/
theorem route_splitting {rule : SplittingConfig} {splitting : Splitting}
    (h : Splitting.ofConfig 0 rule = .ok splitting) (dice : Dice) (statement : Statement)
    (owner : OwnerLookup) (balance : Balance) :
    (⟨[splitting.stage dice]⟩ : Pipeline Balance).route statement owner balance =
      splitting.send dice statement rule.seeded balance := by
  have happlies : (splitting.stage dice).applies statement = true := rfl
  have hmap : splitting.groups.map Group.config = rule.groups :=
    Splitting.map_config_of_readyGroups (Splitting.readyGroups_of_ofConfig h)
  rw [Pipeline.route, Pipeline.run_cons_of_applies happlies, Pipeline.runStage]
  dsimp only [Splitting.stage]
  rw [Splitting.plan, Splitting.single]
  obtain ⟨groups⟩ := splitting
  rcases groups with - | ⟨group, - | ⟨other, rest⟩⟩
  · rw [SplittingConfig.seeded, ← hmap]
    rfl
  · have hseeded : rule.seeded = .ok ⟨[⟨Mapping.identity group.config.name, []⟩]⟩ := by
      rw [SplittingConfig.seeded, ← hmap]
      rfl
    have hpending : Splitting.pending? ⟨[group]⟩ ⟨Mapping.identity group.config.name, []⟩ =
        some group := by
      rw [Splitting.pending?_of_identity rfl, Splitting.find?, List.find?_cons_of_pos]
      exact alike_refl _
    rw [hseeded, Splitting.send]
    dsimp only
    rw [Splitting.repoint, hpending]
    dsimp only
    rcases group.route dice statement balance with ⟨e | actual, after⟩ <;> rfl
  · rw [SplittingConfig.seeded, ← hmap]
    simp [Splitting.send]

/-- **Every router that splits** sends on what it is given. -/
theorem route_eq_send {rules : Rules} {rule : SplittingConfig} {dice : Dice}
    {router : Pipeline Balance} (hsplit : rules.splitting = some rule)
    (hr : rules.router dice = .ok router) :
    ∃ splitting, Splitting.ofConfig 0 rule = .ok splitting ∧
      ∀ (statement : Statement) (owner : OwnerLookup) (balance : Balance),
        router.route statement owner balance =
          splitting.send dice statement (rules.seeded statement owner) balance := by
  cases hs : rules.sharding with
  | none =>
    obtain ⟨splitting, hok, rfl⟩ := router_of_splitting hs hsplit hr
    refine ⟨splitting, hok, fun statement owner balance => ?_⟩
    rw [route_splitting hok, Rules.seeded, hs, hsplit]
  | some config =>
    obtain ⟨sharding, rfl, ⟨hnone, -⟩ | ⟨rule', splitting, hsome, hok, rfl⟩⟩ := router_eq hs hr
    · rw [hsplit] at hnone
      cases hnone
    · cases hsplit.symm.trans hsome
      refine ⟨splitting, hok, fun statement owner balance => ?_⟩
      rw [route_sharding_splitting, Rules.seeded_of_sharding hs]
      rfl

/-- **A router that does not split** answers with what sharding plans, and leaves the balance. -/
theorem route_eq_seeded {rules : Rules} {dice : Dice} {router : Pipeline Balance}
    (hnone : rules.splitting = none) (hr : rules.router dice = .ok router) (statement : Statement)
    (owner : OwnerLookup) (balance : Balance) :
    router.route statement owner balance = (rules.seeded statement owner, balance) := by
  cases hs : rules.sharding with
  | none => simp [Rules.router, hs, hnone, shardingStages, splittingStages] at hr
  | some config =>
    obtain ⟨sharding, rfl, ⟨-, rfl⟩ | ⟨_, _, hsome, -⟩⟩ := router_eq hs hr
    · rw [route_sharding, Rules.seeded_of_sharding hs]
    · cases hnone.symm.trans hsome

end ShardProxy
