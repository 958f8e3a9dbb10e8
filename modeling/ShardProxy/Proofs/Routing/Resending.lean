/-
# Plans that are sent on twice

Splitting may be given any plan: with targets that have yet to be sent, with some that have been
sent before and with some of data sources that no group stands for.  A target is *pending* if the
first group of its logical data source has the name of its actual one (`SplittingConfig.pending?`).
Only pending targets are sent somewhere, and only for them balancers take turns or draw words, one
for each (`SplittingConfig.Decorates`).

Where nothing is pending nothing happens.  So a plan that is sent on a second time changes where a
group has picked a data source of its own name, and there only; if no group has, the second time
leaves plan and balance as they are (`decorates_twice`).
-/

import ShardProxy.Proofs.Routing.Rotation

namespace ShardProxy

open Text

/-! ### What a rule does to a plan -/

/-- The groups that pick reads for targets, one for each that is pending, in order. -/
def SplittingConfig.readers (rule : SplittingConfig) (statement : Statement)
    (targets : List Target) : List GroupConfig :=
  if statement.isPrimary then [] else targets.filterMap rule.pending?

instance (rule : SplittingConfig) (group : GroupConfig) : Decidable (rule.Rotates group) :=
  decidable_of_iff _ SplittingConfig.rotates_iff.symm

/-- What a rule does to a plan: it never fails, sends the pending targets to answers of their
groups, and for each pending target that is read takes one turn of a rotation or draws one word. -/
structure SplittingConfig.Decorates (rule : SplittingConfig) (number : Nat) (statement : Statement)
    (plan : Plan) (balance : Balance) (decoration : Decoration Balance) : Prop where
  failure : decoration.failure = none
  targets : List.Forall₂ (rule.SendsOn statement) plan.targets decoration.plan.targets
  turns : ∀ key name, decoration.state.turn key name =
    balance.turn key name + UInt64.ofNat ((rule.readers statement plan.targets).countP fun group =>
      rule.Rotates group ∧ (⟨number, group.balancer⟩, group.name) = (key, name))
  draws : decoration.state.draws =
    balance.draws + (rule.readers statement plan.targets).countP fun group => ¬ rule.Rotates group

/-! ### What one group does -/

section Group

variable {number : Nat} {rule : SplittingConfig} {splitting : Splitting} {group : Group}
  {dice : Dice} {statement : Statement}

/-- A random balancer draws one word. -/
theorem Balancer.exists_select_random {key : BalancerKey} {name : String} {reads : List String}
    (hne : reads ≠ []) (balance : Balance) :
    ∃ read, random.select dice key name reads balance = (.ok read, balance.draw) := by
  rw [select, dif_neg hne]
  exact ⟨_, rfl⟩

/-- **A group that picks a read takes a turn of its rotation or draws a word,** and does no more. -/
theorem Splitting.exists_route_of_read (h : ofConfig number rule = .ok splitting)
    (hu : rule.Unweighted) (hg : group ∈ splitting.groups) (hprimary : statement.isPrimary = false)
    (balance : Balance) :
    ∃ read after, group.route dice statement balance = (.ok read, after) ∧
      (∀ key name, after.turn key name = balance.turn key name +
        if rule.Rotates group.config ∧
          (⟨number, group.config.balancer⟩, group.config.name) = (key, name) then 1 else 0) ∧
      after.draws = balance.draws + if rule.Rotates group.config then 0 else 1 := by
  have hrotates := balancer_eq_rotation_iff h hg
  rw [Group.route, if_neg (by simp [hprimary]), ← key_of_ofConfig h hg]
  cases hbalancer : group.balancer with
  | rotation =>
    obtain ⟨read, hselect, -⟩ := @Balancer.exists_select_rotation dice group.key
      group.config.name group.config.pool group.pool_ne_nil balance
    have htrue : rule.Rotates group.config := hrotates.1 hbalancer
    refine ⟨read, _, hselect, fun key name => ?_, by simp [htrue, Balance.takeTurn]⟩
    by_cases hkey : (group.key, group.config.name) = (key, name)
    · obtain ⟨rfl, rfl⟩ := Prod.mk.inj hkey
      rw [if_pos ⟨htrue, rfl⟩, Balance.turn_takeTurn_self]
    · rw [if_neg fun hboth => hkey hboth.2, Balance.turn_takeTurn_of_ne (Ne.symm hkey)]
      exact (UInt64.add_zero _).symm
  | random =>
    obtain ⟨read, hselect⟩ := @Balancer.exists_select_random dice group.key group.config.name
      group.config.pool group.pool_ne_nil balance
    have hfalse : ¬ rule.Rotates group.config := fun htrue => by
      rw [hrotates.2 htrue] at hbalancer
      cases hbalancer
    refine ⟨read, _, hselect, fun key name => ?_, by simp [hfalse, Balance.draw]⟩
    rw [if_neg fun hboth => hfalse hboth.1, Balance.turn_draw]
    exact (UInt64.add_zero _).symm
  | weighted weights => exact absurd (by rw [hbalancer]; rfl) (kind_ne_weighted h hu hg)

end Group

/-! ### What a whole plan shows -/

namespace Splitting

variable {number : Nat} {rule : SplittingConfig} {splitting : Splitting} {dice : Dice}
  {statement : Statement}

/-- The turn after one more, if it is taken. -/
theorem add_ite_add_ofNat (turn : UInt64) (p : Prop) [Decidable p] (n : Nat) :
    (turn + if p then 1 else 0) + UInt64.ofNat n =
      turn + UInt64.ofNat (n + if decide p = true then 1 else 0) := by
  by_cases hp : p
  · simp [hp, add_one_add_ofNat]
  · simp [hp]

/-- **Reads take one turn or one word for each pending target,** and nothing else moves. -/
theorem balance_repoint (h : ofConfig number rule = .ok splitting) (hu : rule.Unweighted)
    (hprimary : statement.isPrimary = false) (targets : List Target) (balance : Balance) :
    (∀ key name, (splitting.repoint dice statement targets balance).balance.turn key name =
      balance.turn key name + UInt64.ofNat ((targets.filterMap rule.pending?).countP fun group =>
        rule.Rotates group ∧ (⟨number, group.balancer⟩, group.name) = (key, name))) ∧
    (splitting.repoint dice statement targets balance).balance.draws =
      balance.draws + (targets.filterMap rule.pending?).countP fun group =>
        ¬ rule.Rotates group := by
  induction targets generalizing balance with
  | nil => exact ⟨fun key name => (UInt64.add_zero _).symm, rfl⟩
  | cons target targets ih =>
    have hpending := map_config_pending? h target
    rw [repoint]
    cases hgroup : splitting.pending? target with
    | none =>
      rw [hgroup] at hpending
      rw [List.filterMap_cons_none hpending.symm]
      exact ih balance
    | some group =>
      rw [hgroup] at hpending
      obtain ⟨read, after, hroute, hturn, hdraws⟩ := exists_route_of_read h hu
        (mem_groups_of_pending? hgroup) hprimary balance
      obtain ⟨hturns, hdrawn⟩ := ih after
      dsimp only
      rw [hroute, List.filterMap_cons_some hpending.symm]
      constructor
      · intro key name
        rw [hturns, hturn, List.countP_cons, add_ite_add_ofNat]
      · rw [hdrawn, hdraws, List.countP_cons]
        by_cases hrotates : rule.Rotates group.config
        · simp [hrotates]
        · simp [hrotates]
          omega

/-- Where nothing is pending nothing happens. -/
theorem repoint_of_not_pending {targets : List Target}
    (hnone : ∀ t ∈ targets, splitting.pending? t = none) (balance : Balance) :
    splitting.repoint dice statement targets balance = ⟨targets, none, balance⟩ := by
  induction targets with
  | nil => rfl
  | cons target targets ih =>
    rw [repoint, hnone target List.mem_cons_self]
    dsimp only
    rw [ih fun t ht => hnone t (List.mem_cons_of_mem _ ht)]

/-- **To decorate a plan is to send on what is pending.** -/
theorem decorates (h : ofConfig number rule = .ok splitting) (hu : rule.Unweighted) (dice : Dice)
    (statement : Statement) (owner : OwnerLookup) (plan : Plan) (balance : Balance) :
    rule.Decorates number statement plan balance
      ((splitting.stage dice).decorate plan statement owner balance) := by
  have hkind : ∀ group ∈ splitting.groups, group.balancer.kind ≠ .weighted :=
    fun group hg => kind_ne_weighted h hu hg
  obtain ⟨hfailure, hsent⟩ := forall₂_repoint hkind dice statement plan.targets balance
  have hstate : ((splitting.stage dice).decorate plan statement owner balance).state =
      (splitting.repoint dice statement plan.targets balance).balance := rfl
  refine ⟨hfailure, hsent.imp fun _ _ => sendsOn_of_repoints h, ?_, ?_⟩
  · intro key name
    rw [hstate, SplittingConfig.readers]
    cases hprimary : statement.isPrimary with
    | true =>
      rw [(picks_of_isPrimary hprimary plan.targets balance).2, if_pos rfl]
      exact (UInt64.add_zero _).symm
    | false =>
      rw [if_neg Bool.false_ne_true]
      exact (balance_repoint h hu hprimary plan.targets balance).1 key name
  · rw [hstate, SplittingConfig.readers]
    cases hprimary : statement.isPrimary with
    | true =>
      rw [(picks_of_isPrimary hprimary plan.targets balance).2, if_pos rfl]
      rfl
    | false =>
      rw [if_neg Bool.false_ne_true]
      exact (balance_repoint h hu hprimary plan.targets balance).2

end Splitting

/-! ### Twice -/

/-- A target that has been sent is pending no more, unless its group has picked its own name. -/
theorem SplittingConfig.SendsOn.pending?_eq_none {rule : SplittingConfig} {statement : Statement}
    {target sent : Target} (h : rule.SendsOn statement target sent)
    (hown : ∀ group, rule.pending? target = some group →
      alike group.name sent.dataSource.actual = false) : rule.pending? sent = none := by
  have hactual := h.actual
  cases hpending : rule.pending? target with
  | none =>
    rw [hpending] at hactual
    have hsame : sent.dataSource.actual = target.dataSource.actual := hactual
    rw [pending?, h.logic, hsame]
    exact hpending
  | some group =>
    have hother : alike group.name sent.dataSource.actual = false := hown group hpending
    rw [pending?] at hpending
    obtain ⟨hgroup, -⟩ := Option.filter_eq_some_iff.1 hpending
    rw [pending?, h.logic, hgroup]
    simp [Option.filter, hother]

/-- **Sending a plan on twice.**  A rule that does not weigh reads decorates every plan, from
every balance: it never fails, keeps the targets in number and order with their tables and logical
data sources, changes an actual data source only where the first group of the logical one has the
name of the actual one, and takes a turn or draws a word for those targets alone.  The second
time it does the same to what the first has left, so it sends those targets again whose actual data
source still has their group's name.  If no group has picked its own name the second time changes
neither the plan nor the balance. -/
theorem decorates_twice {number : Nat} {rule : SplittingConfig} {splitting : Splitting}
    (h : Splitting.ofConfig number rule = .ok splitting) (hu : rule.Unweighted) (dice : Dice)
    (statement : Statement) (owner : OwnerLookup) (plan : Plan) (balance : Balance) :
    let once := (splitting.stage dice).decorate plan statement owner balance
    let twice := (splitting.stage dice).decorate once.plan statement owner once.state
    rule.Decorates number statement plan balance once ∧
      rule.Decorates number statement once.plan once.state twice ∧
      ((∀ sent ∈ plan.targets.zip once.plan.targets, ∀ group, rule.pending? sent.1 = some group →
        alike group.name sent.2.dataSource.actual = false) → twice = once) := by
  intro once twice
  have honce : rule.Decorates number statement plan balance once :=
    Splitting.decorates h hu dice statement owner plan balance
  refine ⟨honce, Splitting.decorates h hu dice statement owner once.plan once.state, fun hown => ?_⟩
  obtain ⟨hlength, hsent⟩ := List.forall₂_iff_zip.1 honce.targets
  have hzip : (plan.targets.zip once.plan.targets).map Prod.snd = once.plan.targets :=
    List.map_snd_zip (Nat.le_of_eq hlength.symm)
  have hnone : ∀ u ∈ once.plan.targets, splitting.pending? u = none := by
    intro u hu
    rw [← hzip] at hu
    obtain ⟨⟨t, u⟩, htu, rfl⟩ := List.mem_map.1 hu
    have hpending := (hsent htu).pending?_eq_none (hown (t, u) htu)
    rw [← Splitting.map_config_pending? h] at hpending
    exact Option.map_eq_none_iff.1 hpending
  have hstays := @Splitting.repoint_of_not_pending splitting dice statement _ hnone once.state
  calc twice
      = ⟨⟨(splitting.repoint dice statement once.plan.targets once.state).targets⟩,
          (splitting.repoint dice statement once.plan.targets once.state).failure,
          (splitting.repoint dice statement once.plan.targets once.state).balance⟩ := rfl
    _ = ⟨once.plan, once.failure, once.state⟩ := by rw [hstays, honce.failure]
    _ = once := rfl

/-! ### A group that reads from a data source of its own name -/

/-- The group of the data source `main`, with a read that has the group's own name. -/
def echoMain : GroupConfig := ⟨"main", "primary", ["MAIN", "r1", "r2"], some "ring"⟩

/-- The group of the data source `archive`, which picks its reads at random. -/
def echoArchive : GroupConfig := ⟨"Archive", "vault", ["a1", "a2"], some "dice"⟩

/-- The two groups with their balancers. -/
def echoSplitting : SplittingConfig :=
  ⟨[echoMain, echoArchive], [("ring", ⟨.rotation, []⟩), ("dice", ⟨.random, []⟩)]⟩

/-- The two groups, ready to route. -/
def echoGroups : Splitting :=
  ⟨[⟨echoMain, ⟨0, some "ring"⟩, .rotation, by decide⟩,
    ⟨echoArchive, ⟨0, some "dice"⟩, .random, by decide⟩]⟩

/-- Targets that are pending, one that has been sent before and one of no group. -/
def echoPlan : Plan :=
  ⟨[⟨⟨"main", "main"⟩, [⟨"t_order", "t_order_0"⟩]⟩, ⟨⟨"main", "r1"⟩, []⟩,
    ⟨⟨"archive", "archive"⟩, []⟩, ⟨⟨"depot", "depot"⟩, []⟩, ⟨⟨"MAIN", "Main"⟩, []⟩]⟩

/-- The first read sends one target to `MAIN`, so a second one sends that target again and takes one
more turn.  An insertion picks no data source of a group's own name: there is nothing to send
twice. -/
theorem decorates_twice_echo :
    Splitting.ofConfig 0 echoSplitting = .ok echoGroups ∧ echoSplitting.Unweighted ∧
      (let stage := echoGroups.stage fun _ => 0
      let once := stage.decorate echoPlan (.select ["t_order"]) (fun _ => none) .initial
      let twice := stage.decorate once.plan (.select ["t_order"]) (fun _ => none) once.state
      echoSplitting.Decorates 0 (.select ["t_order"]) once.plan once.state twice ∧
        once.plan.targets.map (·.dataSource.actual) = ["MAIN", "r1", "a1", "depot", "r1"] ∧
        twice.plan.targets.map (·.dataSource.actual) = ["r2", "r1", "a1", "depot", "r1"] ∧
        (once.state.turn ⟨0, some "ring"⟩ "main", once.state.draws) = (2, 1) ∧
        (twice.state.turn ⟨0, some "ring"⟩ "main", twice.state.draws) = (3, 1)) ∧
      (let stage := echoGroups.stage fun _ => 0
      let once := stage.decorate echoPlan (.insert "t_order") (fun _ => none) .initial
      (∀ sent ∈ echoPlan.targets.zip once.plan.targets, ∀ group,
        echoSplitting.pending? sent.1 = some group →
          alike group.name sent.2.dataSource.actual = false) ∧
        stage.decorate once.plan (.insert "t_order") (fun _ => none) once.state = once) := by
  have h : Splitting.ofConfig 0 echoSplitting = .ok echoGroups := rfl
  have hu : echoSplitting.Unweighted := by
    simp [SplittingConfig.Unweighted, SplittingConfig.balancer?, echoSplitting, echoMain,
      echoArchive, List.lookup_cons]
  have hread := decorates_twice h hu (fun _ => 0) (.select ["t_order"]) (fun _ => none) echoPlan
    .initial
  have hwrite := decorates_twice h hu (fun _ => 0) (.insert "t_order") (fun _ => none) echoPlan
    .initial
  have hown : ∀ sent ∈ echoPlan.targets.zip ((echoGroups.stage fun _ => 0).decorate echoPlan
      (.insert "t_order") (fun _ => none) .initial).plan.targets, ∀ group,
      echoSplitting.pending? sent.1 = some group →
        alike group.name sent.2.dataSource.actual = false := by
    decide
  refine ⟨h, hu, ⟨hread.2.1, ?_, ?_, ?_, ?_⟩, hown, hwrite.2.2 hown⟩
  · decide
  · decide
  · decide
  · decide

end ShardProxy
