/-
# Stages that leave a plan with targets

A pipeline tells by whether a plan has been made yet which of its stages creates and which
decorate.  It could as well look at the plan: the stage that finds no target creates, any other
decorates (`Pipeline.routeByTargets`).  The two differ on a plan without targets only, so they agree
when no stage leaves one (`Stage.Fruitful`, `routeByTargets_eq_route`), and then no route is without
a target.

Both stages of a set of rules are fruitful.  A sharding rule has a data source and each of its table
rules a node, so whatever a statement touches seeds a target; sending targets on keeps
their number.  Both take part in every statement, too, and blame something of their own when they
fail (`Stage.Decisive`), so there is always a stage that makes the plan.
-/

import ShardProxy.Proofs.Routing.Sending

namespace ShardProxy

section Pipelines

variable {σ : Type}

/-- A stage that leaves no plan without targets. -/
structure Stage.Fruitful (stage : Stage σ) : Prop where
  create : ∀ {statement owner state plan},
    (stage.create statement owner state).1 = .ok plan → plan.targets ≠ []
  decorate : ∀ {plan} (statement owner state),
    plan.targets ≠ [] → (stage.decorate plan statement owner state).plan.targets ≠ []

/-- A stage that takes part in every statement and never says that there is no stage. -/
structure Stage.Decisive (stage : Stage σ) : Prop where
  applies : ∀ statement, stage.applies statement = true
  create : ∀ {statement owner state kind},
    (stage.create statement owner state).1 ≠ .error (.noStage kind)
  decorate : ∀ {plan statement owner state kind},
    (stage.decorate plan statement owner state).failure ≠ some (.noStage kind)

namespace Pipeline

/-- Runs stages over a plan, which a stage makes if it has no target and decorates otherwise. -/
def runByTargets (statement : Statement) (owner : OwnerLookup) :
    List (Stage σ) → Plan → σ → Except RoutingError Plan × σ
  | [], plan, state => (.ok plan, state)
  | stage :: stages, plan, state =>
    if stage.applies statement then
      let made := if plan.targets = [] then none else some plan
      match runStage stage statement owner made state with
      | (.error e, state) => (.error e, state)
      | (.ok plan, state) => runByTargets statement owner stages plan state
    else runByTargets statement owner stages plan state

/-- Routes a statement from a plan without targets, if there is a stage that applies. -/
def routeByTargets (pipeline : Pipeline σ) (statement : Statement) (owner : OwnerLookup)
    (state : σ) : Except RoutingError Plan × σ :=
  if pipeline.stages.any (·.applies statement) then
    runByTargets statement owner pipeline.stages Plan.empty state
  else (.error (.noStage statement.kind), state)

variable {stage : Stage σ} {stages : List (Stage σ)} {statement : Statement} {owner : OwnerLookup}
  {plan : Plan} {state after : σ}

/-! ### Fruitful stages -/

/-- A fruitful stage leaves targets, whether it creates or decorates. -/
theorem targets_of_runStage (h : stage.Fruitful) {made : Option Plan}
    (hmade : ∀ plan, made = some plan → plan.targets ≠ [])
    (hrun : runStage stage statement owner made state = (.ok plan, after)) : plan.targets ≠ [] := by
  cases made with
  | none => exact h.create (congrArg Prod.fst hrun)
  | some given =>
    rw [runStage] at hrun
    split at hrun <;> cases hrun
    exact h.decorate statement owner state (hmade given rfl)

/-- **A plan with targets is decorated either way,** and keeps some. -/
theorem runByTargets_eq_run (h : ∀ stage ∈ stages, stage.Fruitful) (hplan : plan.targets ≠ [])
    (state : σ) :
    runByTargets statement owner stages plan state = run statement owner stages (some plan) state ∧
      ∀ routed, (run statement owner stages (some plan) state).1 = .ok routed →
        routed.targets ≠ [] := by
  induction stages generalizing plan state with
  | nil =>
    refine ⟨rfl, fun routed hrouted => ?_⟩
    cases hrouted
    exact hplan
  | cons stage stages ih =>
    have hrest : ∀ s ∈ stages, s.Fruitful := fun s hs => h s (List.mem_cons_of_mem _ hs)
    have hmade : (if plan.targets = [] then none else some plan) = some plan := if_neg hplan
    rw [runByTargets, run, hmade]
    dsimp only
    split
    · rcases hrun : runStage stage statement owner (some plan) state with ⟨e | decorated, after⟩
      · exact ⟨rfl, fun routed hrouted => by cases hrouted⟩
      · have hdecorated : decorated.targets ≠ [] :=
          targets_of_runStage (h stage List.mem_cons_self) (by rintro _ ⟨⟩; exact hplan) hrun
        exact ih hrest hdecorated after
    · exact ih hrest hplan state

/-- **The first stage that applies creates either way.** -/
theorem runByTargets_empty (h : ∀ stage ∈ stages, stage.Fruitful)
    (hsome : stages.any (·.applies statement) = true) (state : σ) :
    runByTargets statement owner stages Plan.empty state =
      run statement owner stages none state := by
  induction stages with
  | nil => cases hsome
  | cons stage stages ih =>
    have hrest : ∀ s ∈ stages, s.Fruitful := fun s hs => h s (List.mem_cons_of_mem _ hs)
    have hmade : (if Plan.empty.targets = [] then none else some Plan.empty) = none := if_pos rfl
    rw [runByTargets, run, hmade]
    dsimp only
    split
    · rcases hrun : runStage stage statement owner none state with ⟨e | created, after⟩
      · rfl
      · have hcreated : created.targets ≠ [] :=
          targets_of_runStage (h stage List.mem_cons_self) (by rintro _ ⟨⟩) hrun
        exact (runByTargets_eq_run hrest hcreated after).1
    · next happlies =>
      rw [List.any_cons, Bool.eq_false_iff.2 happlies, Bool.false_or] at hsome
      exact ih hrest hsome

/-- Without a stage that applies there is no plan. -/
theorem run_of_not_any (hnone : stages.any (·.applies statement) = false) (state : σ) :
    run statement owner stages none state = (.error (.noStage statement.kind), state) := by
  induction stages with
  | nil => rfl
  | cons stage stages ih =>
    rw [List.any_cons, Bool.or_eq_false_iff] at hnone
    rw [run, if_neg (by simp [hnone.1])]
    exact ih hnone.2

/-- **What has been made and what has targets is the same** when all stages are fruitful. -/
theorem routeByTargets_eq_route {pipeline : Pipeline σ}
    (h : ∀ stage ∈ pipeline.stages, stage.Fruitful) (statement : Statement) (owner : OwnerLookup)
    (state : σ) :
    pipeline.routeByTargets statement owner state = pipeline.route statement owner state := by
  rw [routeByTargets, route]
  split
  · next hsome => exact runByTargets_empty h hsome state
  · next hnone => rw [run_of_not_any (Bool.eq_false_iff.2 hnone)]

/-- Fruitful stages make a plan with targets. -/
theorem targets_of_run (h : ∀ stage ∈ stages, stage.Fruitful)
    (hrun : (run statement owner stages none state).1 = .ok plan) : plan.targets ≠ [] := by
  induction stages generalizing state with
  | nil => cases hrun
  | cons stage stages ih =>
    have hrest : ∀ s ∈ stages, s.Fruitful := fun s hs => h s (List.mem_cons_of_mem _ hs)
    rw [run] at hrun
    split at hrun
    · rcases hcreate : runStage stage statement owner none state with ⟨e | created, after⟩
      · rw [hcreate] at hrun
        cases hrun
      · rw [hcreate] at hrun
        have hcreated : created.targets ≠ [] :=
          targets_of_runStage (h stage List.mem_cons_self) (by rintro _ ⟨⟩) hcreate
        exact (runByTargets_eq_run hrest hcreated after).2 plan hrun
    · exact ih hrest hrun

/-! ### Decisive stages -/

/-- Decisive stages never say that there is no stage, once there is a plan. -/
theorem run_some_ne_noStage (h : ∀ stage ∈ stages, stage.Decisive) (plan : Plan) (state : σ)
    (kind : StatementKind) :
    (run statement owner stages (some plan) state).1 ≠ .error (.noStage kind) := by
  induction stages generalizing plan state with
  | nil => exact fun herror => by cases herror
  | cons stage stages ih =>
    have hstage := h stage List.mem_cons_self
    rw [run_cons_of_applies (hstage.applies statement), runStage]
    split
    · next hfailure =>
      split at hfailure
      · next e hfailed =>
        cases hfailure
        exact fun herror => hstage.decorate (hfailed.trans (by cases herror; rfl))
      · cases hfailure
    · exact ih (fun s hs => h s (List.mem_cons_of_mem _ hs)) _ _

/-- **A pipeline of decisive stages never says that there is no stage,** unless it has none. -/
theorem route_ne_noStage {pipeline : Pipeline σ} (hne : pipeline.stages ≠ [])
    (h : ∀ stage ∈ pipeline.stages, stage.Decisive) (statement : Statement) (owner : OwnerLookup)
    (state : σ) (kind : StatementKind) :
    (pipeline.route statement owner state).1 ≠ .error (.noStage kind) := by
  obtain ⟨stages⟩ := pipeline
  cases stages with
  | nil => exact absurd rfl hne
  | cons stage stages =>
    have hstage := h stage List.mem_cons_self
    rw [route, run_cons_of_applies (hstage.applies statement), runStage]
    rcases hcreate : stage.create statement owner state with ⟨e | plan, after⟩
    · intro herror
      exact hstage.create ((congrArg Prod.fst hcreate).trans herror)
    · exact run_some_ne_noStage (fun s hs => h s (List.mem_cons_of_mem _ hs)) plan after kind

end Pipeline

end Pipelines

/-! ### The sharding stage -/

/-- Once something has been put, a plan has targets. -/
theorem Plan.targets_putAll_ne_nil {plan : Plan} {targets : List Target}
    (h : plan.targets ≠ [] ∨ targets ≠ []) : (plan.putAll targets).targets ≠ [] := by
  induction targets generalizing plan with
  | nil => exact h.resolve_right fun hne => hne rfl
  | cons t targets ih =>
    obtain ⟨u, hu, -⟩ := exists_mem_putTarget t plan.targets
    exact ih (Or.inl (List.ne_nil_of_mem hu))

namespace Sharding

/-- **A table that is known seeds a target.** -/
theorem seeds_ne_nil (sharding : Sharding) {table : String}
    (h : (sharding.targets? table).isSome) : sharding.seeds table ≠ [] := by
  rw [seeds, targets?]
  rw [targets?] at h
  split
  · simpa [broadcastTargets] using sharding.dataSources_ne_nil
  · next hbroadcast =>
    rw [if_neg hbroadcast, Option.isSome_map] at h
    obtain ⟨rule, hrule⟩ := Option.isSome_iff_exists.1 h
    have hmem : rule ∈ sharding.config.tables := List.mem_of_find?_eq_some hrule
    have hpasses := (ShardingConfig.fault?_eq_none_iff.1 sharding.accepted).2 rule hmem
    have hnodes := (ShardingConfig.ruleFault?_eq_none_iff.1 hpasses).1
    simpa [hrule, shardTargets] using hnodes

/-- **A seeded plan has a target.** -/
theorem targets_of_plan (sharding : Sharding) {statement : Statement} {owner : OwnerLookup}
    {plan : Plan} (h : sharding.plan statement owner = .ok plan) : plan.targets ≠ [] := by
  obtain ⟨-, rfl⟩ | ⟨hne, hknown, rfl⟩ := sharding.plan_eq_ok h
  · simpa [untargeted] using sharding.dataSources_ne_nil
  · obtain ⟨table, htable⟩ := List.exists_mem_of_ne_nil _ hne
    obtain ⟨t, ht⟩ := List.exists_mem_of_ne_nil _ (sharding.seeds_ne_nil (hknown table htable))
    refine Plan.targets_putAll_ne_nil (Or.inr (List.ne_nil_of_mem (a := t) ?_))
    exact List.mem_flatMap.2 ⟨table, htable, ht⟩

/-- **Seeding fails for want of a table rule only.** -/
theorem exists_noTableRule_of_plan (sharding : Sharding) {statement : Statement}
    {owner : OwnerLookup} {e : RoutingError} (h : sharding.plan statement owner = .error e) :
    ∃ table, e = .noTableRule table := by
  by_cases hnil : statement.touchedTables owner = []
  · rw [Sharding.plan, place, hnil] at h
    cases h
  · rw [sharding.plan_eq_of_touched hnil] at h
    split at h
    · next table _ =>
      cases h
      exact ⟨table, rfl⟩
    · cases h

variable {σ : Type}

/-- Sharding makes plans that have a target, and decorates by leaving them as they are. -/
theorem fruitful_stage (sharding : Sharding) : (sharding.stage : Stage σ).Fruitful where
  create h := sharding.targets_of_plan h
  decorate _ _ _ h := h

/-- Sharding takes part in every statement, and fails for want of a table rule only. -/
theorem decisive_stage (sharding : Sharding) : (sharding.stage : Stage σ).Decisive where
  applies _ := rfl
  create h := by
    obtain ⟨table, htable⟩ := sharding.exists_noTableRule_of_plan h
    cases htable
  decorate h := by cases h

end Sharding

/-! ### The splitting stage -/

/-- **A group fails only for the weights of its balancer.** -/
theorem Group.exists_invalidConfig_of_route {group : Group} {dice : Dice} {statement : Statement}
    {balance : Balance} {e : RoutingError} (h : (group.route dice statement balance).1 = .error e) :
    ∃ fault, e = .invalidConfig fault := by
  rw [Group.route] at h
  split at h
  · cases h
  · rw [Balancer.select, dif_neg group.pool_ne_nil] at h
    split at h
    · next e' after hposition =>
      cases h
      rcases hbalancer : group.balancer with - | - | weights <;> rw [hbalancer] at hposition
      · cases hposition
      · cases hposition
      · rw [Balancer.position] at hposition
        split at hposition <;> cases hposition
        exact ⟨_, rfl⟩
    · cases h

namespace Splitting

variable (splitting : Splitting) (dice : Dice)

/-- Re-pointing fails only for weights. -/
theorem exists_invalidConfig_of_repoint {splitting : Splitting} {dice : Dice}
    {statement : Statement} {targets : List Target} {balance : Balance} {e : RoutingError}
    (h : (splitting.repoint dice statement targets balance).failure = some e) :
    ∃ fault, e = .invalidConfig fault := by
  induction targets generalizing balance with
  | nil => cases h
  | cons target targets ih =>
    rw [repoint] at h
    split at h
    · exact ih h
    · split at h
      · next hroute =>
        cases h
        exact Group.exists_invalidConfig_of_route (congrArg Prod.fst hroute)
      · exact ih h

/-- Splitting makes plans of one target, and sends as many targets on as there are. -/
theorem fruitful_stage : (splitting.stage dice).Fruitful where
  create {statement owner state plan} h := by
    dsimp only [stage] at h
    rw [Splitting.plan] at h
    split at h
    · cases h
    · split at h <;> cases h
      exact List.cons_ne_nil _ _
  decorate {plan} statement owner state hplan := by
    intro hnil
    have hnone : (splitting.repoint dice statement plan.targets state).targets = [] := hnil
    have hlength := splitting.length_repoint dice statement plan.targets state
    rw [hnone] at hlength
    exact hplan (List.length_eq_zero_iff.1 hlength.symm)

/-- Splitting takes part in every statement, and blames its groups when it fails. -/
theorem decisive_stage : (splitting.stage dice).Decisive where
  applies _ := rfl
  create {statement owner state kind} h := by
    dsimp only [stage] at h
    rw [Splitting.plan] at h
    split at h
    · next e hsingle =>
      rw [single] at hsingle
      split at hsingle <;> cases hsingle
      cases h
    · split at h
      · next hroute =>
        obtain ⟨fault, rfl⟩ := Group.exists_invalidConfig_of_route (congrArg Prod.fst hroute)
        cases h
      · cases h
  decorate {plan statement owner state kind} h := by
    obtain ⟨fault, hfault⟩ := exists_invalidConfig_of_repoint h
    cases hfault

end Splitting

/-! ### The pipeline of a set of rules -/

/-- **A router has a stage, and only stages of sharding and splitting.** -/
theorem stages_of_router {rules : Rules} {dice : Dice} {router : Pipeline Balance}
    (hr : rules.router dice = .ok router) :
    router.stages ≠ [] ∧ ∀ stage ∈ router.stages,
      (∃ sharding : Sharding, stage = sharding.stage) ∨
        ∃ splitting : Splitting, stage = splitting.stage dice := by
  cases hs : rules.sharding with
  | some config =>
    obtain ⟨sharding, -, ⟨-, rfl⟩ | ⟨_, splitting, -, -, rfl⟩⟩ := router_eq hs hr
    · refine ⟨List.cons_ne_nil _ _, fun stage hstage => ?_⟩
      exact Or.inl ⟨sharding, List.mem_singleton.1 hstage⟩
    · refine ⟨List.cons_ne_nil _ _, fun stage hstage => ?_⟩
      rcases List.mem_cons.1 hstage with rfl | hstage
      · exact Or.inl ⟨sharding, rfl⟩
      · exact Or.inr ⟨splitting, List.mem_singleton.1 hstage⟩
  | none =>
    cases hsplit : rules.splitting with
    | some rule =>
      obtain ⟨splitting, -, rfl⟩ := router_of_splitting hs hsplit hr
      refine ⟨List.cons_ne_nil _ _, fun stage hstage => ?_⟩
      exact Or.inr ⟨splitting, List.mem_singleton.1 hstage⟩
    | none => simp [Rules.router, hs, hsplit, shardingStages, splittingStages] at hr

/-- **Each stage of a router makes plans that have a target.** -/
theorem fruitful_of_router {rules : Rules} {dice : Dice} {router : Pipeline Balance}
    (hr : rules.router dice = .ok router) : ∀ stage ∈ router.stages, stage.Fruitful := by
  intro stage hstage
  obtain ⟨sharding, rfl⟩ | ⟨splitting, rfl⟩ := (stages_of_router hr).2 stage hstage
  · exact sharding.fruitful_stage
  · exact splitting.fruitful_stage dice

/-- **Each stage of a router takes part in every statement,** and none says that there is no
stage. -/
theorem decisive_of_router {rules : Rules} {dice : Dice} {router : Pipeline Balance}
    (hr : rules.router dice = .ok router) : ∀ stage ∈ router.stages, stage.Decisive := by
  intro stage hstage
  obtain ⟨sharding, rfl⟩ | ⟨splitting, rfl⟩ := (stages_of_router hr).2 stage hstage
  · exact sharding.decisive_stage
  · exact splitting.decisive_stage dice

end ShardProxy
