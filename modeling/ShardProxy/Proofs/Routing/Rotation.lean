/-
# Rotations over whole histories

The reads that groups pick are logged: `Splitting.picks` for the targets of one statement, in order,
and `Rules.history` for statements that are routed one after the other.  The log of a group that
rotates goes round its pool (`rotation_of_history`), whatever other groups share its balancer and
however their picks come in between.

The idea is that the log and the turns of a rotation move together (`Group.Turned`).  A group's
turns are kept under its exact name, a group is found by any spelling of its name; but only
the first group of a name is ever found, so two groups that pick have different names, and a
pick of the one leaves the turns of the other (`Splitting.turned_of_route`).
-/

import ShardProxy.Proofs.Routing.Sending

namespace ShardProxy

open Text

/-! ### What is picked -/

/-- A read that a group has picked. -/
structure Pick where
  group : GroupConfig
  read : String
  deriving DecidableEq

/-- The reads that a group has picked, in order. -/
def GroupConfig.readsIn (config : GroupConfig) (picks : List Pick) : List String :=
  (picks.filter (·.group = config)).map Pick.read

/-- The pick that a target shows when it has been sent: the first group of its logical data source
has picked its actual one. -/
def SplittingConfig.pick? (rule : SplittingConfig) (target : Target) : Option Pick :=
  (rule.group? target.dataSource.logic).map fun group => ⟨group, target.dataSource.actual⟩

/-- A statement with the owners of indexes when it is routed. -/
structure Request where
  statement : Statement
  owner : OwnerLookup

/-- The reads that groups pick for targets in order, up to the first group that fails. -/
def Splitting.picks (splitting : Splitting) (dice : Dice) (statement : Statement) :
    List Target → Balance → List Pick
  | [], _ => []
  | target :: targets, balance =>
    match splitting.pending? target with
    | none => picks splitting dice statement targets balance
    | some group =>
      match group.route dice statement balance with
      | (.error _, _) => []
      | (.ok actual, after) =>
        let rest := picks splitting dice statement targets after
        if statement.isPrimary then rest else ⟨group.config, actual⟩ :: rest

/-- The reads that are picked for a statement. -/
def Rules.picks (rules : Rules) (splitting : Splitting) (dice : Dice) (request : Request)
    (balance : Balance) : List Pick :=
  match rules.seeded request.statement request.owner with
  | .error _ => []
  | .ok plan => splitting.picks dice request.statement plan.targets balance

/-- The reads that are picked for statements that a router routes one after the other. -/
def Rules.history (rules : Rules) (splitting : Splitting) (dice : Dice)
    (router : Pipeline Balance) : List Request → Balance → List Pick
  | [], _ => []
  | request :: requests, balance =>
    let after := (router.route request.statement request.owner balance).2
    rules.picks splitting dice request balance ++
      history rules splitting dice router requests after

/-- The reads of a group in two lists of picks are those in the one and then those in the other. -/
theorem GroupConfig.readsIn_append (config : GroupConfig) (picks picks' : List Pick) :
    config.readsIn (picks ++ picks') = config.readsIn picks ++ config.readsIn picks' := by
  rw [readsIn, List.filter_append, List.map_append]
  rfl

/-- A pick for the group is a read of it. -/
theorem GroupConfig.readsIn_cons_self (config : GroupConfig) (read : String)
    (picks : List Pick) :
    config.readsIn (⟨config, read⟩ :: picks) = read :: config.readsIn picks := by
  simp [readsIn]

/-- A pick for another group is no read of it. -/
theorem GroupConfig.readsIn_cons_of_ne {config config' : GroupConfig} (h : config' ≠ config)
    (read : String) (picks : List Pick) :
    config.readsIn (⟨config', read⟩ :: picks) = config.readsIn picks := by
  simp [readsIn, h]

/-! ### Reads in turn -/

/-- Reads come round from a pool, the first of them at a turn. -/
def InTurn (pool : List String) : UInt64 → List String → Prop
  | _, [] => True
  | turn, read :: reads =>
    pool[turn.toNat % pool.length]? = some read ∧ InTurn pool (turn + 1) reads

/-- The turn after one more. -/
theorem add_one_add_ofNat (turn : UInt64) (n : Nat) :
    turn + 1 + UInt64.ofNat n = turn + UInt64.ofNat (n + 1) := by
  rw [UInt64.ofNat_add, UInt64.add_assoc, UInt64.add_comm 1]
  rfl

/-- Reads go on in turn where those before them have ended. -/
theorem InTurn.append {pool reads reads' : List String} {turn : UInt64}
    (h : InTurn pool turn reads) (h' : InTurn pool (turn + UInt64.ofNat reads.length) reads') :
    InTurn pool turn (reads ++ reads') := by
  induction reads generalizing turn with
  | nil =>
    rw [List.length_nil] at h'
    simpa using h'
  | cons read reads ih =>
    obtain ⟨hread, hreads⟩ := h
    refine ⟨hread, ih hreads ?_⟩
    rwa [add_one_add_ofNat]

/-- Where a read in turn stands in the pool. -/
theorem InTurn.getElem? {pool reads : List String} {turn : UInt64} (h : InTurn pool turn reads)
    {k : Nat} {read : String} (hk : reads[k]? = some read) :
    pool[(turn + UInt64.ofNat k).toNat % pool.length]? = some read := by
  induction reads generalizing turn k with
  | nil => cases hk
  | cons first reads ih =>
    obtain ⟨hfirst, hreads⟩ := h
    cases k with
    | zero =>
      cases hk
      simpa using hfirst
    | succ k =>
      rw [← add_one_add_ofNat]
      exact ih hreads hk

namespace Balancer

variable {dice : Dice} {key : BalancerKey} {group : String} {reads : List String}

/-- **A rotation picks the read whose turn it is,** and takes that turn. -/
theorem exists_select_rotation (hne : reads ≠ []) (balance : Balance) :
    ∃ read, rotation.select dice key group reads balance =
        (.ok read, balance.takeTurn key group) ∧
      reads[(balance.turn key group).toNat % reads.length]? = some read := by
  have hlt : (balance.turn key group).toNat % reads.length < reads.length :=
    Nat.mod_lt _ (List.length_pos_iff.2 hne)
  refine ⟨reads[(balance.turn key group).toNat % reads.length], ?_, List.getElem?_eq_getElem hlt⟩
  rw [select, dif_neg hne]
  rfl

/-- **A pick leaves every rotation but its own** where it was. -/
theorem turn_select {balancer : Balancer} {balance : Balance} {key' : BalancerKey} {group' : String}
    (h : (key', group') ≠ (key, group)) :
    (balancer.select dice key group reads balance).2.turn key' group' =
      balance.turn key' group' := by
  have hposition : (balancer.position dice key group reads balance).2.turn key' group' =
      balance.turn key' group' := by
    cases balancer with
    | rotation => exact Balance.turn_takeTurn_of_ne h
    | random => rfl
    | weighted weights =>
      rw [position]
      split <;> rfl
  rw [select]
  split
  · rfl
  · split <;> next heq => rw [heq] at hposition; exact hposition

end Balancer

/-- Between two balances a group has picked what the log says: reads in turn, and it has taken as
many turns. -/
structure Group.Turned (group : Group) (before : Balance) (picks : List Pick) (after : Balance) :
    Prop where
  inTurn : InTurn group.config.pool (before.turn group.key group.config.name)
    (group.config.readsIn picks)
  turn : after.turn group.key group.config.name =
    before.turn group.key group.config.name + UInt64.ofNat (group.config.readsIn picks).length

namespace Group.Turned

variable {group : Group} {before between after : Balance} {picks picks' : List Pick}

/-- A group that picks nothing takes no turn. -/
theorem of_readsIn_eq_nil (hpicks : group.config.readsIn picks = [])
    (h : after.turn group.key group.config.name = before.turn group.key group.config.name) :
    group.Turned before picks after := by
  constructor
  · rw [hpicks]
    trivial
  · rw [hpicks, h]
    exact (UInt64.add_zero _).symm

/-- A group that picks the read whose turn it is takes that turn. -/
theorem of_pick {read : String}
    (h : group.config.pool[(before.turn group.key group.config.name).toNat %
      group.config.pool.length]? = some read) :
    group.Turned before [⟨group.config, read⟩] (before.takeTurn group.key group.config.name) := by
  have hreads : group.config.readsIn [⟨group.config, read⟩] = [read] :=
    GroupConfig.readsIn_cons_self group.config read []
  constructor
  · rw [hreads]
    exact ⟨h, trivial⟩
  · rw [hreads]
    exact Balance.turn_takeTurn_self before group.key group.config.name

/-- One log after the other. -/
theorem append (h : group.Turned before picks between) (h' : group.Turned between picks' after) :
    group.Turned before (picks ++ picks') after := by
  have hinTurn := h'.inTurn
  rw [h.turn] at hinTurn
  constructor
  · rw [GroupConfig.readsIn_append]
    exact h.inTurn.append hinTurn
  · rw [GroupConfig.readsIn_append, List.length_append, UInt64.ofNat_add, ← UInt64.add_assoc,
      h'.turn, h.turn]

end Group.Turned

namespace Splitting

variable {splitting : Splitting} {group : Group} {dice : Dice} {statement : Statement}

/-- A group that is found is the first of its name. -/
theorem find?_name {name : String} (h : splitting.find? name = some group) :
    splitting.find? group.config.name = some group := by
  have hfound : splitting.groups.find? (alike ·.config.name name) = some group := h
  have halike := List.find?_some hfound
  rw [find?]
  simp only [alike_congr_right halike]
  exact hfound

/-- The group that sends a target is the first of its name. -/
theorem find?_of_pending? {target : Target} (h : splitting.pending? target = some group) :
    splitting.find? group.config.name = some group := by
  rw [pending?] at h
  split at h
  · cases h
  · next found hfound =>
    split at h <;> cases h
    exact find?_name hfound

/-- **A primary statement picks nothing** and leaves the balance as it was. -/
theorem picks_of_isPrimary (h : statement.isPrimary = true) (targets : List Target)
    (balance : Balance) :
    splitting.picks dice statement targets balance = [] ∧
      (splitting.repoint dice statement targets balance).balance = balance := by
  induction targets with
  | nil => exact ⟨rfl, rfl⟩
  | cons target targets ih =>
    rw [picks, repoint]
    rcases splitting.pending? target with - | other
    · exact ih
    · dsimp only
      rw [Group.route_of_isPrimary h]
      dsimp only
      rw [if_pos h]
      exact ih

/-- A pick of a group that is found takes a turn if it is the group's own, and else leaves it. -/
theorem turned_of_route (hfirst : splitting.find? group.config.name = some group)
    (hrotation : group.balancer = .rotation) {other : Group}
    (hother : splitting.find? other.config.name = some other)
    (hstatement : statement.isPrimary = false) {balance after : Balance}
    {answer : Except RoutingError String}
    (hroute : other.route dice statement balance = (answer, after)) :
    group.Turned balance (answer.toOption.map (Pick.mk other.config)).toList after := by
  rw [Group.route, if_neg (by simp [hstatement])] at hroute
  by_cases heq : other = group
  · subst heq
    obtain ⟨read, hselect, hread⟩ := @Balancer.exists_select_rotation dice other.key
      other.config.name other.config.pool other.pool_ne_nil balance
    rw [hrotation, hselect] at hroute
    cases hroute
    exact .of_pick hread
  · -- Two groups that are found and have one name are one group.
    have hname : other.config.name ≠ group.config.name := fun hname => by
      rw [hname, hfirst] at hother
      exact heq (Option.some.inj hother).symm
    have hconfig : other.config ≠ group.config := fun h => hname (congrArg GroupConfig.name h)
    refine .of_readsIn_eq_nil ?_ ?_
    · rcases answer with e | read
      · rfl
      · exact GroupConfig.readsIn_cons_of_ne hconfig read []
    · have hafter : after = (other.balancer.select dice other.key other.config.name
          other.config.pool balance).2 := by rw [hroute]
      rw [hafter]
      exact Balancer.turn_select fun h => hname (Prod.mk.inj h).2.symm

/-- **The picks of a group that rotates come in turn** while targets are re-pointed. -/
theorem turned_repoint (hfirst : splitting.find? group.config.name = some group)
    (hrotation : group.balancer = .rotation) (targets : List Target) (balance : Balance) :
    group.Turned balance (splitting.picks dice statement targets balance)
      (splitting.repoint dice statement targets balance).balance := by
  cases hprimary : statement.isPrimary with
  | true =>
    obtain ⟨hpicks, hbalance⟩ :=
      @picks_of_isPrimary splitting dice statement hprimary targets balance
    rw [hpicks, hbalance]
    exact .of_readsIn_eq_nil rfl rfl
  | false =>
    induction targets generalizing balance with
    | nil => exact .of_readsIn_eq_nil rfl rfl
    | cons target targets ih =>
      rw [picks, repoint]
      rcases hpending : splitting.pending? target with - | other
      · exact ih balance
      · dsimp only
        rcases hroute : other.route dice statement balance with ⟨e | read, after⟩
        · exact turned_of_route hfirst hrotation (find?_of_pending? hpending) hprimary hroute
        · dsimp only
          rw [if_neg (by simp [hprimary])]
          have hturned :=
            turned_of_route hfirst hrotation (find?_of_pending? hpending) hprimary hroute
          exact hturned.append (ih after)

/-- Only groups that are found pick. -/
theorem exists_group_of_mem_picks {targets : List Target} {balance : Balance} {pick : Pick}
    (h : pick ∈ splitting.picks dice statement targets balance) :
    ∃ group, splitting.find? group.config.name = some group ∧ group.config = pick.group := by
  induction targets generalizing balance with
  | nil => cases h
  | cons target targets ih =>
    rw [picks] at h
    rcases hpending : splitting.pending? target with - | group
    · rw [hpending] at h
      exact ih h
    · rw [hpending] at h
      dsimp only at h
      split at h
      · cases h
      · split at h
        · exact ih h
        · rcases List.mem_cons.1 h with rfl | h
          · exact ⟨group, find?_of_pending? hpending, rfl⟩
          · exact ih h

/-- **When all targets are sent** the picks are where the targets of groups go, in order. -/
theorem picks_eq_filterMap {number : Nat} {rule : SplittingConfig}
    (hrule : ofConfig number rule = .ok splitting) (hstatement : statement.isPrimary = false)
    {targets : List Target} (hid : ∀ t ∈ targets, ∃ d, t.dataSource = Mapping.identity d)
    (balance : Balance)
    (hsent : (splitting.repoint dice statement targets balance).failure = none) :
    splitting.picks dice statement targets balance =
      (splitting.repoint dice statement targets balance).targets.filterMap rule.pick? := by
  induction targets generalizing balance with
  | nil => rfl
  | cons target targets ih =>
    obtain ⟨d, hd⟩ := hid target List.mem_cons_self
    have ih := ih fun t ht => hid t (List.mem_cons_of_mem _ ht)
    have hpick : ∀ actual, rule.pick? ⟨⟨target.dataSource.logic, actual⟩, target.tables⟩ =
        (splitting.find? d).map fun group => ⟨group.config, actual⟩ := fun actual => by
      rw [SplittingConfig.pick?, hd, ← map_config_find? hrule, Option.map_map]
      rfl
    rw [repoint] at hsent ⊢
    rw [picks]
    rw [pending?_of_identity hd] at hsent ⊢
    rcases hfind : splitting.find? d with - | group
    · rw [hfind] at hsent hpick
      dsimp only at hsent ⊢
      rw [List.filterMap_cons_none (hpick target.dataSource.actual), ih balance hsent]
    · rw [hfind] at hsent hpick
      dsimp only at hsent ⊢
      rcases hroute : group.route dice statement balance with ⟨e | actual, after⟩
      · rw [hroute] at hsent
        cases hsent
      · rw [hroute] at hsent
        dsimp only at hsent ⊢
        rw [if_neg (by simp [hstatement]), ih after hsent]
        exact (List.filterMap_cons_some (hpick actual)).symm

/-- A group keeps its turns under the balancer that it names. -/
theorem key_of_ofConfig {number : Nat} {rule : SplittingConfig}
    (h : ofConfig number rule = .ok splitting) (hg : group ∈ splitting.groups) :
    group.key = ⟨number, group.config.balancer⟩ :=
  (Group.ofConfig_eq_ok (ofConfig_of_mem h hg).2).2.1

end Splitting

/-- A group rotates: it names no balancer, or one that takes the reads in turn. -/
def SplittingConfig.Rotates (rule : SplittingConfig) (group : GroupConfig) : Prop :=
  match group.balancer with
  | none => True
  | some name => (rule.balancer? name).map BalancerConfig.kind = some .rotation

/-- A group rotates when the kind of balancer that it asks for is the rotation. -/
theorem SplittingConfig.rotates_iff {rule : SplittingConfig} {group : GroupConfig} :
    rule.Rotates group ↔ rule.kind? group = some .rotation := by
  rw [Rotates, kind?]
  cases group.balancer with
  | none => simp
  | some name => rfl

/-- **A group has a rotation if and only if it is to rotate.** -/
theorem Splitting.balancer_eq_rotation_iff {number : Nat} {rule : SplittingConfig}
    {splitting : Splitting} (h : ofConfig number rule = .ok splitting) {group : Group}
    (hg : group ∈ splitting.groups) : group.balancer = .rotation ↔ rule.Rotates group.config := by
  rw [SplittingConfig.rotates_iff, Group.kind?_of_ofConfig (ofConfig_of_mem h hg).2,
    Option.some.injEq]
  cases group.balancer with
  | rotation => simp [Balancer.kind]
  | random => simp [Balancer.kind]
  | weighted weights => simp [Balancer.kind]

/-- A group that is to rotate has a rotation. -/
theorem Splitting.balancer_of_rotates {number : Nat} {rule : SplittingConfig}
    {splitting : Splitting} (h : ofConfig number rule = .ok splitting) {group : Group}
    (hg : group ∈ splitting.groups) (hrotates : rule.Rotates group.config) :
    group.balancer = .rotation :=
  (balancer_eq_rotation_iff h hg).2 hrotates

/-! ### Through whole histories -/

section History

variable {rules : Rules} {splitting : Splitting} {dice : Dice} {router : Pipeline Balance}
  {group : Group}

/-- **The picks for a statement come in turn.** -/
theorem Group.turned_route
    (hroute : ∀ statement owner balance, router.route statement owner balance =
      splitting.send dice statement (rules.seeded statement owner) balance)
    (hfirst : splitting.find? group.config.name = some group)
    (hrotation : group.balancer = .rotation) (request : Request) (balance : Balance) :
    group.Turned balance (rules.picks splitting dice request balance)
      (router.route request.statement request.owner balance).2 := by
  rw [hroute, Rules.picks]
  rcases rules.seeded request.statement request.owner with e | plan
  · exact .of_readsIn_eq_nil rfl rfl
  · rw [splitting.balance_of_send]
    exact Splitting.turned_repoint hfirst hrotation plan.targets balance

/-- **The picks of a history come in turn.** -/
theorem Group.exists_turned_history
    (hroute : ∀ statement owner balance, router.route statement owner balance =
      splitting.send dice statement (rules.seeded statement owner) balance)
    (hfirst : splitting.find? group.config.name = some group)
    (hrotation : group.balancer = .rotation) (requests : List Request) (balance : Balance) :
    ∃ after, group.Turned balance (rules.history splitting dice router requests balance) after := by
  induction requests generalizing balance with
  | nil => exact ⟨balance, .of_readsIn_eq_nil rfl rfl⟩
  | cons request requests ih =>
    obtain ⟨after, hrest⟩ := ih (router.route request.statement request.owner balance).2
    exact ⟨after, (turned_route hroute hfirst hrotation request balance).append hrest⟩

/-- **The picks for a statement that is not primary** are where the targets of groups go. -/
theorem Rules.picks_of_route {rule : SplittingConfig}
    (hrule : Splitting.ofConfig 0 rule = .ok splitting) {request : Request} {balance : Balance}
    {plan : Plan} (hstatement : request.statement.isPrimary = false)
    (h : (splitting.send dice request.statement (rules.seeded request.statement request.owner)
      balance).1 = .ok plan) :
    rules.picks splitting dice request balance = plan.targets.filterMap rule.pick? := by
  obtain ⟨given, hgiven, hsent, htargets⟩ := Splitting.exists_repoint_of_send h
  have hid : ∀ t ∈ given.targets, ∃ d, t.dataSource = Mapping.identity d :=
    fun t ht => exists_dataSource_of_seeded hgiven ht
  rw [picks, hgiven, htargets]
  exact Splitting.picks_eq_filterMap hrule hstatement hid balance hsent

/-- **A primary statement** picks nothing, and its route leaves the balance as it was. -/
theorem Rules.picks_of_isPrimary {request : Request} (h : request.statement.isPrimary = true)
    (balance : Balance) :
    rules.picks splitting dice request balance = [] ∧
      (splitting.send dice request.statement (rules.seeded request.statement request.owner)
        balance).2 = balance := by
  rw [picks]
  rcases rules.seeded request.statement request.owner with e | plan
  · exact ⟨rfl, rfl⟩
  · rw [splitting.balance_of_send]
    exact Splitting.picks_of_isPrimary h plan.targets balance

/-- Only groups that are found pick. -/
theorem Rules.exists_group_of_mem_history {requests : List Request} {balance : Balance}
    {pick : Pick} (h : pick ∈ rules.history splitting dice router requests balance) :
    ∃ group, splitting.find? group.config.name = some group ∧ group.config = pick.group := by
  induction requests generalizing balance with
  | nil => cases h
  | cons request requests ih =>
    rw [history] at h
    rcases List.mem_append.1 h with h | h
    · rw [picks] at h
      split at h
      · cases h
      · exact Splitting.exists_group_of_mem_picks h
    · exact ih h

/-- **Rotations go round over whole histories.**  Whatever statements a router with read-write
splitting routes one after the other, and whatever becomes of them: for each group that rotates the
`k`-th read that it picks is the one at `k` modulo the size of its pool, no matter which other
groups share its balancer and when they pick.  The picks of one statement are where its targets go,
in order, and the turns of a rotation are its picks; a primary statement and one that sharding
refuses pick nothing and leave all turns and draws as they were. -/
theorem rotation_of_history {rules : Rules} {split : SplittingConfig} {dice : Dice}
    {router : Pipeline Balance} (hsplit : rules.splitting = some split)
    (hr : rules.router dice = .ok router) :
    ∃ splitting, Splitting.ofConfig 0 split = .ok splitting ∧
      (∀ (requests : List Request), ∀ group ∈ split.groups, split.Rotates group →
        ∀ k read, k < UInt64.size →
          (group.readsIn (rules.history splitting dice router requests .initial))[k]? = some read →
            group.pool[k % group.pool.length]? = some read) ∧
      ∀ (request : Request) (balance : Balance),
        let picks := rules.picks splitting dice request balance
        let routed := router.route request.statement request.owner balance
        (request.statement.isPrimary = false → ∀ plan, routed.1 = .ok plan →
          picks = plan.targets.filterMap split.pick?) ∧
        (∀ group, split.group? group.name = some group → split.Rotates group →
          routed.2.turn ⟨0, group.balancer⟩ group.name =
            balance.turn ⟨0, group.balancer⟩ group.name +
              UInt64.ofNat (group.readsIn picks).length) ∧
        (request.statement.isPrimary = true → picks = [] ∧ routed.2 = balance) ∧
        ∀ alone e, Rules.router { rules with splitting := none } dice = .ok alone →
          (alone.route request.statement request.owner balance).1 = .error e →
            picks = [] ∧ routed = (.error e, balance) := by
  obtain ⟨splitting, hrule, hroute⟩ := route_eq_send hsplit hr
  have hmem : ∀ {group : Group}, splitting.find? group.config.name = some group →
      group ∈ splitting.groups := fun {group} h => by
    rw [Splitting.find?] at h
    exact List.mem_of_find?_eq_some h
  refine ⟨splitting, hrule, fun requests config _ hrotates k read hk hread => ?_,
    fun request balance => ⟨fun hstatement plan hplan => ?_, fun config hfound hrotates => ?_,
      fun hprimary => ?_, fun alone e halone he => ?_⟩⟩
  · -- The group has picked, so it is the first of its name.
    obtain ⟨pick, hpick, -⟩ := List.mem_map.1 (List.mem_of_getElem? hread)
    obtain ⟨hlogged, hconfig⟩ := List.mem_filter.1 hpick
    obtain ⟨group, hfirst, hgroup⟩ := Rules.exists_group_of_mem_history hlogged
    obtain rfl : group.config = config := hgroup.trans (of_decide_eq_true hconfig)
    have hrotation := Splitting.balancer_of_rotates hrule (hmem hfirst) hrotates
    obtain ⟨after, hturned⟩ :=
      Group.exists_turned_history hroute hfirst hrotation requests .initial
    have hget := hturned.inTurn.getElem? hread
    have hzero : Balance.initial.turn group.key group.config.name = 0 := rfl
    rwa [hzero, UInt64.zero_add, UInt64.toNat_ofNat_of_lt' hk] at hget
  · rw [hroute] at hplan
    exact Rules.picks_of_route hrule hstatement hplan
  · rw [← Splitting.map_config_find? hrule] at hfound
    obtain ⟨group, hfirst, rfl⟩ := Option.map_eq_some_iff.1 hfound
    have hrotation := Splitting.balancer_of_rotates hrule (hmem hfirst) hrotates
    have hturned := Group.turned_route hroute hfirst hrotation request balance
    rw [← Splitting.key_of_ofConfig hrule (hmem hfirst)]
    exact hturned.turn
  · rw [hroute]
    exact Rules.picks_of_isPrimary hprimary balance
  · rw [← Rules.seeded_of_alone halone] at he
    rw [hroute, Rules.picks, he]
    exact ⟨rfl, rfl⟩

end History

/-! ### A ring of two groups -/

/-- The group of the data source `main`, with two reads. -/
def ringMain : GroupConfig := ⟨"main", "primary", ["r1", "r2"], some "ring"⟩

/-- The group of the data source `archive`, with three reads and under another spelling. -/
def ringArchive : GroupConfig := ⟨"Archive", "vault", ["a1", "a2", "a3"], some "ring"⟩

/-- Two groups that share one balancer. -/
def ringSplitting : SplittingConfig :=
  ⟨[ringMain, ringArchive], [("ring", ⟨.rotation, []⟩)]⟩

/-- The groups of the ring, ready to route. -/
def ringGroups : Splitting :=
  ⟨[⟨ringMain, ⟨0, some "ring"⟩, .rotation, by decide⟩,
    ⟨ringArchive, ⟨0, some "ring"⟩, .rotation, by decide⟩]⟩

/-- The sharding of the shop with the two groups of the ring. -/
def ringRules : Rules :=
  ⟨some shopSharding, some ringSplitting⟩

/-- The pipeline of the ring. -/
def ringRouter (dice : Dice) : Pipeline Balance :=
  ⟨[Sharding.stage ⟨shopSharding, rfl⟩, ringGroups.stage dice]⟩

/-- The rules of the ring give its pipeline. -/
theorem router_ringRules (dice : Dice) : ringRules.router dice = .ok (ringRouter dice) :=
  router_of_stages rfl rfl rfl rfl dice

/-- A query of orders, an insertion, a query of a table that is not known, and two more queries. -/
def ringRequests : List Request :=
  [⟨.select ["t_order"], fun _ => none⟩, ⟨.insert "t_order", fun _ => none⟩,
    ⟨.select ["missing"], fun _ => none⟩, ⟨.select ["country"], fun _ => none⟩,
    ⟨.select ["t_order"], fun _ => none⟩]

/-- In the ring each group goes round its own pool, though the two share a balancer and pick in
turns: the fifth read of `main` is the first of two, the third of `archive` the last of three. -/
theorem rotation_of_history_ring :
    ringRules.router (fun _ => 0) = .ok (ringRouter fun _ => 0) ∧
      ∃ splitting, Splitting.ofConfig 0 ringSplitting = .ok splitting ∧
        ringMain.readsIn (ringRules.history splitting (fun _ => 0) (ringRouter fun _ => 0)
          ringRequests .initial) = ["r1", "r2", "r1", "r2", "r1"] ∧
        ringArchive.readsIn (ringRules.history splitting (fun _ => 0) (ringRouter fun _ => 0)
          ringRequests .initial) = ["a1", "a2", "a3"] ∧
        ringMain.pool[4 % ringMain.pool.length]? = some "r1" ∧
        ringArchive.pool[2 % ringArchive.pool.length]? = some "a3" := by
  have hr : ringRules.router (fun _ => 0) = .ok (ringRouter fun _ => 0) := router_ringRules _
  obtain ⟨splitting, hrule, hturn, -⟩ := @rotation_of_history ringRules ringSplitting _ _ rfl hr
  have hready : Splitting.ofConfig 0 ringSplitting = .ok ringGroups := rfl
  cases hready.symm.trans hrule
  have hmain : ringMain.readsIn (ringRules.history ringGroups (fun _ => 0)
      (ringRouter fun _ => 0) ringRequests .initial) = ["r1", "r2", "r1", "r2", "r1"] := by
    decide
  have harchive : ringArchive.readsIn (ringRules.history ringGroups (fun _ => 0)
      (ringRouter fun _ => 0) ringRequests .initial) = ["a1", "a2", "a3"] := by
    decide
  refine ⟨hr, ringGroups, hrule, hmain, harchive, ?_, ?_⟩
  · exact hturn ringRequests ringMain (by simp [ringSplitting]) rfl 4 "r1" (by decide)
      (by rw [hmain]; rfl)
  · exact hturn ringRequests ringArchive (by simp [ringSplitting]) rfl 2 "a3" (by decide)
      (by rw [harchive]; rfl)

end ShardProxy
