/-
# The stages that rules bring about

Rules with a sharding part give a pipeline of one stage or, when reads and writes
are split as well, of two (`router_eq`).  Alone the sharding stage
answers with its plan and touches no state; with a second stage the
plan is re-pointed, and a statement without a plan ends before that.
-/

import ShardProxy.Routing.Router

namespace ShardProxy

/-- Reads and writes are split by one stage, of an accepted rule, or by none. -/
theorem splittingStages_eq_ok {dice : Dice} {config? : Option SplittingConfig}
    {stages : List (Stage Balance)} (h : splittingStages dice config? = .ok stages) :
    config? = none ∧ stages = [] ∨
      ∃ config splitting, config? = some config ∧ Splitting.ofConfig 0 config = .ok splitting ∧
        stages = [splitting.stage dice] := by
  cases config? with
  | none =>
    cases h
    exact Or.inl ⟨rfl, rfl⟩
  | some config =>
    rw [splittingStages] at h
    split at h
    · cases h
    · next splitting hs =>
      cases h
      exact Or.inr ⟨config, splitting, rfl, hs, rfl⟩

/-- The sharding stage stays before the splitting stage. -/
theorem ofStages_sharding_splitting (sharding : Sharding) (splitting : Splitting) (dice : Dice) :
    Pipeline.ofStages [sharding.stage, splitting.stage dice] =
      ⟨[sharding.stage, splitting.stage dice]⟩ := by
  have hsorted : [sharding.stage, splitting.stage dice].Pairwise
      fun a b => decide (a.order ≤ b.order) = true := by
    simp [Sharding.stage, Splitting.stage]
  rw [Pipeline.ofStages, List.mergeSort_of_pairwise hsorted]

/-- **The pipeline of rules with a sharding part.** -/
theorem router_eq {rules : Rules} {config : ShardingConfig} {dice : Dice}
    {router : Pipeline Balance} (hs : rules.sharding = some config)
    (hr : rules.router dice = .ok router) :
    ∃ sharding : Sharding, sharding.config = config ∧
      (rules.splitting = none ∧ router = ⟨[sharding.stage]⟩ ∨
        ∃ split splitting, rules.splitting = some split ∧
          Splitting.ofConfig 0 split = .ok splitting ∧
          router = ⟨[sharding.stage, splitting.stage dice]⟩) := by
  rw [Rules.router, hs, shardingStages] at hr
  cases hsharding : Sharding.ofConfig config with
  | error e =>
    rw [hsharding] at hr
    cases hr
  | ok sharding =>
    rw [hsharding] at hr
    dsimp only at hr
    refine ⟨sharding, Sharding.ofConfig_eq_ok_iff.1 hsharding, ?_⟩
    cases hsplitting : splittingStages dice rules.splitting with
    | error e =>
      rw [hsplitting] at hr
      cases hr
    | ok second =>
      rw [hsplitting] at hr
      dsimp only at hr
      rw [if_neg (by simp)] at hr
      obtain ⟨hnone, rfl⟩ | ⟨split, splitting, hsome, hok, rfl⟩ := splittingStages_eq_ok hsplitting
      · cases hr
        exact Or.inl ⟨hnone, by simp [Pipeline.ofStages]⟩
      · cases hr
        exact Or.inr ⟨split, splitting, hsome, hok, ofStages_sharding_splitting ..⟩

/-- Rules with both parts give a pipeline of two stages. -/
theorem router_of_stages {rules : Rules} {config : ShardingConfig} {rule : SplittingConfig}
    {sharding : Sharding} {splitting : Splitting} (hs : rules.sharding = some config)
    (hsharding : Sharding.ofConfig config = .ok sharding) (hsplit : rules.splitting = some rule)
    (hsplitting : Splitting.ofConfig 0 rule = .ok splitting) (dice : Dice) :
    rules.router dice = .ok ⟨[sharding.stage, splitting.stage dice]⟩ := by
  simp [Rules.router, hs, shardingStages, hsharding, hsplit, splittingStages, hsplitting,
    ofStages_sharding_splitting]

variable (sharding : Sharding) (statement : Statement) (owner : OwnerLookup) (balance : Balance)

/-- **Sharding alone** answers with its plan. -/
theorem route_sharding :
    (⟨[sharding.stage]⟩ : Pipeline Balance).route statement owner balance =
      (sharding.plan statement owner, balance) := by
  have happlies : (sharding.stage : Stage Balance).applies statement = true := rfl
  rw [Pipeline.route, Pipeline.run_cons_of_applies happlies, Pipeline.runStage]
  dsimp only [Sharding.stage]
  cases sharding.plan statement owner <;> rfl

/-- **With both stages** the plan of the first is re-pointed by the second. -/
theorem route_sharding_splitting (splitting : Splitting) (dice : Dice) :
    (⟨[sharding.stage, splitting.stage dice]⟩ : Pipeline Balance).route statement owner balance =
      match sharding.plan statement owner with
      | .error e => (.error e, balance)
      | .ok plan =>
        let repointed := splitting.repoint dice statement plan.targets balance
        match repointed.failure with
        | some e => (.error e, repointed.balance)
        | none => (.ok ⟨repointed.targets⟩, repointed.balance) := by
  have happlies : (sharding.stage : Stage Balance).applies statement = true := rfl
  rw [Pipeline.route, Pipeline.run_cons_of_applies happlies, Pipeline.runStage]
  dsimp only [Sharding.stage]
  cases sharding.plan statement owner with
  | error e => rfl
  | ok plan =>
    have happlies : (splitting.stage dice).applies statement = true := rfl
    dsimp only
    rw [Pipeline.run_cons_of_applies happlies, Pipeline.runStage]
    dsimp only [Splitting.stage]
    cases (splitting.repoint dice statement plan.targets balance).failure <;> rfl

/-! ### Rules of a shop -/

/-- Orders on two data sources, most of them on `main`, which is listed twice, and a broadcast
table of countries. -/
def shopSharding : ShardingConfig where
  dataSources := ["main", "archive", "main"]
  tables := [⟨"t_order", [⟨"main", "t_0"⟩, ⟨"main", "t_1"⟩, ⟨"archive", "t_2"⟩, ⟨"main", "t_0"⟩]⟩]
  broadcast := ["country"]

/-- A group that stands for `main` under another spelling, with its write data source and a
repeated one among the reads. -/
def shopGroup : GroupConfig :=
  ⟨"Main", "primary", ["primary", "replica", "replica"], none⟩

/-- The rules of the shop: its sharding and its one group. -/
def shopRules : Rules :=
  ⟨some shopSharding, some ⟨[shopGroup], []⟩⟩

/-- The pipeline of the shop. -/
def shopRouter (dice : Dice) : Pipeline Balance :=
  ⟨[Sharding.stage ⟨shopSharding, by decide⟩,
    Splitting.stage ⟨[⟨shopGroup, ⟨0, none⟩, .rotation, by decide⟩]⟩ dice]⟩

/-- The rules of the shop give its pipeline. -/
theorem router_shopRules (dice : Dice) : shopRules.router dice = .ok (shopRouter dice) :=
  router_of_stages rfl rfl rfl rfl dice

end ShardProxy
