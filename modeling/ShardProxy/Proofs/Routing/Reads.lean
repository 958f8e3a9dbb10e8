/-
# How many reads a statement picks, and where they send it

When all groups rotate, a statement picks one read for each of its targets that stands for a
group, and how many that are does not depend on the balance (`Rules.reads`).  So a route moves each
rotation by a number that is known beforehand (`turnOf_route`).  Of two balances, one some turns
ahead of the other, both send a statement to the same targets exactly when the turns that one is
ahead make whole rounds of each pool that the statement reads from (`route_eq_iff`).
-/

import ShardProxy.Proofs.Routing.Rotation

namespace ShardProxy

open Text

/-- The first group of a name, if there are groups. -/
def Rules.group? (rules : Rules) (name : String) : Option GroupConfig :=
  rules.splitting.bind (·.group? name)

/-- All groups rotate. -/
def Rules.Rotates (rules : Rules) : Prop :=
  ∀ rule, rules.splitting = some rule → ∀ group ∈ rule.groups, rule.Rotates group

/-- How many reads of a group a statement picks: one for each target that stands for the group, but
none if it is primary or refused. -/
def Rules.reads (rules : Rules) (request : Request) (group : GroupConfig) : Nat :=
  if request.statement.isPrimary then 0
  else
    match rules.seeded request.statement request.owner with
    | .error _ => 0
    | .ok plan => plan.targets.countP fun t => rules.group? t.dataSource.logic = some group

/-- The turns that a group has taken. -/
def Balance.turnOf (balance : Balance) (group : GroupConfig) : UInt64 :=
  balance.turn ⟨0, group.balancer⟩ group.name

/-- A group that is found is the first of its name. -/
theorem Rules.group?_name {rules : Rules} {name : String} {group : GroupConfig}
    (h : rules.group? name = some group) : rules.group? group.name = some group := by
  obtain ⟨rule, hsplit, hfound⟩ := Option.bind_eq_some_iff.1 h
  have hname : rule.groups.find? (alike ·.name name) = some group := hfound
  have halike := List.find?_some hname
  rw [group?, hsplit, Option.bind_some, SplittingConfig.group?]
  simp only [alike_congr_right halike]
  exact hname

/-- A statement that reads from a group is no primary one, it is not refused, and one of its targets
stands for the group. -/
theorem Rules.exists_of_reads {rules : Rules} {request : Request} {group : GroupConfig}
    (h : 0 < rules.reads request group) :
    request.statement.isPrimary = false ∧
      (∃ plan, rules.seeded request.statement request.owner = .ok plan) ∧
      rules.group? group.name = some group := by
  unfold reads at h
  split at h
  · cases h
  · next hprimary =>
    refine ⟨Bool.eq_false_iff.2 hprimary, ?_⟩
    split at h
    · cases h
    · next plan hseeded =>
      obtain ⟨t, -, hfound⟩ := List.countP_pos_iff.1 h
      exact ⟨⟨plan, hseeded⟩, group?_name (of_decide_eq_true hfound)⟩

/-- The reads of a statement that is neither primary nor refused. -/
theorem Rules.reads_of_seeded {rules : Rules} {request : Request} {plan : Plan}
    (hprimary : request.statement.isPrimary = false)
    (hseeded : rules.seeded request.statement request.owner = .ok plan) (group : GroupConfig) :
    rules.reads request group =
      plan.targets.countP fun t => rules.group? t.dataSource.logic = some group := by
  rw [reads, if_neg (by simp [hprimary]), hseeded]

/-- A statement picks no more reads than it has targets. -/
theorem Rules.reads_le {rules : Rules} {request : Request} {plan : Plan}
    (hseeded : rules.seeded request.statement request.owner = .ok plan) (group : GroupConfig) :
    rules.reads request group ≤ plan.targets.length := by
  rw [reads, hseeded]
  split
  · exact Nat.zero_le _
  · exact List.countP_le_length

/-! ### Counting picks -/

/-- The reads of a group among the picks that targets show are as many as its targets. -/
theorem SplittingConfig.length_readsIn_filterMap (rule : SplittingConfig) (group : GroupConfig)
    (targets : List Target) :
    (group.readsIn (targets.filterMap rule.pick?)).length =
      targets.countP fun t => rule.group? t.dataSource.logic = some group := by
  induction targets with
  | nil => rfl
  | cons t targets ih =>
    rw [List.countP_cons, ← ih]
    rcases hfound : rule.group? t.dataSource.logic with - | other
    · have hpick : rule.pick? t = none := by rw [pick?, hfound, Option.map_none]
      rw [List.filterMap_cons_none hpick]
      simp
    · have hpick : rule.pick? t = some ⟨other, t.dataSource.actual⟩ := by
        rw [pick?, hfound, Option.map_some]
      rw [List.filterMap_cons_some hpick]
      by_cases heq : other = group
      · subst heq
        simp [GroupConfig.readsIn_cons_self]
      · simp [GroupConfig.readsIn_cons_of_ne heq, heq]

/-- Sending targets on leaves the groups that they stand for. -/
theorem Splitting.countP_repoint (splitting : Splitting) (dice : Dice) (statement : Statement)
    (targets : List Target) (balance : Balance) (p : String → Bool) :
    (splitting.repoint dice statement targets balance).targets.countP (p ·.dataSource.logic) =
      targets.countP (p ·.dataSource.logic) := by
  have hmap := congrArg (List.countP fun t => p t.1)
    (splitting.map_repoint dice statement targets balance)
  rw [List.countP_map, List.countP_map] at hmap
  exact hmap

/-! ### Routers that take turns -/

/-- A router with a splitting part all of whose groups rotate: it sends on what it is given. -/
structure Rules.TakesTurns (rules : Rules) (rule : SplittingConfig) (splitting : Splitting)
    (dice : Dice) (router : Pipeline Balance) : Prop where
  split : rules.splitting = some rule
  ready : Splitting.ofConfig 0 rule = .ok splitting
  rotation : ∀ group ∈ splitting.groups, group.balancer = .rotation
  route : ∀ statement owner balance, router.route statement owner balance =
    splitting.send dice statement (rules.seeded statement owner) balance

section Rotations

variable {rules : Rules} {rule : SplittingConfig} {splitting : Splitting} {dice : Dice}
  {router : Pipeline Balance} {request : Request} {taken ahead : GroupConfig → Nat}
  {balance balance' : Balance}

/-- Every router over groups that rotate takes turns, if it splits at all. -/
theorem Rules.Rotates.exists_takesTurns (h : rules.Rotates) (hsplit : rules.splitting = some rule)
    (hr : rules.router dice = .ok router) :
    ∃ splitting, rules.TakesTurns rule splitting dice router := by
  obtain ⟨splitting, hready, hroute⟩ := route_eq_send hsplit hr
  have hmap : splitting.groups.map Group.config = rule.groups :=
    Splitting.map_config_of_readyGroups (Splitting.readyGroups_of_ofConfig hready)
  refine ⟨splitting, hsplit, hready, fun group hg => ?_, hroute⟩
  have hconfig : group.config ∈ rule.groups := hmap ▸ List.mem_map_of_mem hg
  exact Splitting.balancer_of_rotates hready hg (h rule hsplit group.config hconfig)

/-- Rotations send every plan on. -/
theorem Splitting.send_eq_ok (hrotation : ∀ group ∈ splitting.groups, group.balancer = .rotation)
    (dice : Dice) (statement : Statement) (plan : Plan) (balance : Balance) :
    splitting.send dice statement (.ok plan) balance =
      (.ok ⟨(splitting.repoint dice statement plan.targets balance).targets⟩,
        (splitting.repoint dice statement plan.targets balance).balance) := by
  have hkind : ∀ group ∈ splitting.groups, group.balancer.kind ≠ .weighted := by
    intro group hg
    rw [hrotation group hg]
    exact fun h => by cases h
  rw [send, (forall₂_repoint hkind dice statement plan.targets balance).1]

namespace Rules.TakesTurns

/-- A group that the rules find is ready to route, and is the first of its name. -/
theorem exists_find? (h : rules.TakesTurns rule splitting dice router) {config : GroupConfig}
    (hfound : rules.group? config.name = some config) :
    ∃ group, splitting.find? config.name = some group ∧ group.config = config ∧
      group.balancer = .rotation ∧ group.key = ⟨0, config.balancer⟩ := by
  rw [group?, h.split, Option.bind_some, ← Splitting.map_config_find? h.ready] at hfound
  obtain ⟨group, hfind, rfl⟩ := Option.map_eq_some_iff.1 hfound
  have hg : group ∈ splitting.groups := by
    rw [Splitting.find?] at hfind
    exact List.mem_of_find?_eq_some hfind
  exact ⟨group, hfind, rfl, h.rotation group hg, Splitting.key_of_ofConfig h.ready hg⟩

/-- A route that is not refused sends on what sharding has planned. -/
theorem route_of_seeded (h : rules.TakesTurns rule splitting dice router) {statement : Statement}
    {owner : OwnerLookup} {plan : Plan} (hseeded : rules.seeded statement owner = .ok plan)
    (balance : Balance) :
    (router.route statement owner balance).1 =
      .ok ⟨(splitting.repoint dice statement plan.targets balance).targets⟩ := by
  rw [h.route, hseeded, splitting.send_eq_ok h.rotation]

/-- The picks of a statement that is not primary are where its targets go. -/
theorem picks_eq (h : rules.TakesTurns rule splitting dice router)
    (hprimary : request.statement.isPrimary = false) {plan : Plan}
    (hroute : (router.route request.statement request.owner balance).1 = .ok plan) :
    rules.picks splitting dice request balance = plan.targets.filterMap rule.pick? := by
  rw [h.route] at hroute
  exact picks_of_route h.ready hprimary hroute

/-- **A statement picks as many reads of a group as it has targets there,** from any balance. -/
theorem length_readsIn_picks (h : rules.TakesTurns rule splitting dice router) (request : Request)
    (balance : Balance) (group : GroupConfig) :
    (group.readsIn (rules.picks splitting dice request balance)).length =
      rules.reads request group := by
  cases hprimary : request.statement.isPrimary with
  | true =>
    rw [(picks_of_isPrimary hprimary balance).1, reads, if_pos hprimary]
    rfl
  | false =>
    rcases hseeded : rules.seeded request.statement request.owner with e | plan
    · rw [picks, reads, if_neg (by simp [hprimary]), hseeded]
      rfl
    · rw [h.picks_eq hprimary (h.route_of_seeded hseeded balance),
        reads_of_seeded hprimary hseeded, rule.length_readsIn_filterMap]
      simp only [group?, h.split, Option.bind_some]
      exact splitting.countP_repoint dice request.statement plan.targets balance
        fun name => rule.group? name = some group

end Rules.TakesTurns

/-- **A route moves a rotation by the reads that the statement picks,** from any balance. -/
theorem turnOf_route (hrotates : rules.Rotates) (hr : rules.router dice = .ok router)
    {config : GroupConfig} (hfound : rules.group? config.name = some config) (request : Request)
    (balance : Balance) :
    (router.route request.statement request.owner balance).2.turnOf config =
      balance.turnOf config + UInt64.ofNat (rules.reads request config) := by
  cases hsplit : rules.splitting with
  | none =>
    rw [Rules.group?, hsplit] at hfound
    cases hfound
  | some rule =>
    obtain ⟨splitting, h⟩ := hrotates.exists_takesTurns hsplit hr
    obtain ⟨group, hfirst, rfl, hrotation, hkey⟩ := h.exists_find? hfound
    have hturn := (Group.turned_route h.route hfirst hrotation request balance).turn
    rw [h.length_readsIn_picks, hkey] at hturn
    exact hturn

/-! ### Two balances -/

/-- Where the turns of two balances are at the same place of a pool, for as many turns as a group
has targets to send. -/
def Splitting.InStep (splitting : Splitting) (targets : List Target)
    (balance balance' : Balance) : Prop :=
  ∀ group, splitting.find? group.config.name = some group →
    ∀ k, k < targets.countP (fun t => (splitting.pending? t).map Group.config =
      some group.config) →
    (balance.turn group.key group.config.name + UInt64.ofNat k).toNat % group.config.pool.length =
      (balance'.turn group.key group.config.name + UInt64.ofNat k).toNat % group.config.pool.length

namespace Splitting.InStep

variable {target : Target} {targets : List Target} {group : Group}

/-- Balances that are in step are so for fewer targets. -/
theorem tail (h : splitting.InStep (target :: targets) balance balance') :
    splitting.InStep targets balance balance' := by
  intro group hgroup k hk
  refine h group hgroup k (Nat.lt_of_lt_of_le hk ?_)
  rw [List.countP_cons]
  exact Nat.le_add_right _ _

/-- Balances that are in step are at the same place of the pool of the next target. -/
theorem place (h : splitting.InStep (target :: targets) balance balance')
    (hpending : splitting.pending? target = some group) :
    (balance.turn group.key group.config.name).toNat % group.config.pool.length =
      (balance'.turn group.key group.config.name).toNat % group.config.pool.length := by
  have hcount : 0 < (target :: targets).countP (fun t =>
      (splitting.pending? t).map Group.config = some group.config) := by
    rw [List.countP_cons, if_pos (by simp [hpending])]
    exact Nat.succ_pos _
  have hzero : UInt64.ofNat 0 = 0 := rfl
  have hplace := h group (find?_of_pending? hpending) 0 hcount
  rwa [hzero, UInt64.add_zero, UInt64.add_zero] at hplace

/-- Balances that are in step are so after both have taken the turn of the next target. -/
theorem takeTurn (h : splitting.InStep (target :: targets) balance balance')
    (hpending : splitting.pending? target = some group) :
    splitting.InStep targets (balance.takeTurn group.key group.config.name)
      (balance'.takeTurn group.key group.config.name) := by
  have hgroup := find?_of_pending? hpending
  intro other hother k hk
  by_cases hname : other.config.name = group.config.name
  · -- Two groups that are found and have one name are one group.
    rw [hname, hgroup] at hother
    cases hother
    rw [Balance.turn_takeTurn_self, Balance.turn_takeTurn_self, add_one_add_ofNat,
      add_one_add_ofNat]
    refine h group hgroup (k + 1) ?_
    rw [List.countP_cons, if_pos (by simp [hpending])]
    exact Nat.succ_lt_succ hk
  · have hne : (other.key, other.config.name) ≠ (group.key, group.config.name) :=
      fun heq => hname (Prod.mk.inj heq).2
    rw [Balance.turn_takeTurn_of_ne hne, Balance.turn_takeTurn_of_ne hne]
    exact h.tail other hother k hk

end Splitting.InStep

/-- A rotation picks the same read from two balances whose turns are at the same place. -/
theorem Group.exists_route_of_place {group : Group} (hrotation : group.balancer = .rotation)
    {statement : Statement} (hprimary : statement.isPrimary = false)
    (hplace : (balance.turn group.key group.config.name).toNat % group.config.pool.length =
      (balance'.turn group.key group.config.name).toNat % group.config.pool.length) :
    ∃ read,
      group.route dice statement balance =
        (.ok read, balance.takeTurn group.key group.config.name) ∧
      group.route dice statement balance' =
        (.ok read, balance'.takeTurn group.key group.config.name) := by
  obtain ⟨read, hselect, hread⟩ := @Balancer.exists_select_rotation dice group.key
    group.config.name group.config.pool group.pool_ne_nil balance
  obtain ⟨read', hselect', hread'⟩ := @Balancer.exists_select_rotation dice group.key
    group.config.name group.config.pool group.pool_ne_nil balance'
  rw [hplace, hread'] at hread
  cases hread
  refine ⟨read, ?_, ?_⟩
  · rw [route, if_neg (by simp [hprimary]), hrotation, hselect]
  · rw [route, if_neg (by simp [hprimary]), hrotation, hselect']

/-- **Rotations that are in step send targets to the same places.** -/
theorem Splitting.targets_repoint_of_inStep
    (hrotation : ∀ group ∈ splitting.groups, group.balancer = .rotation) (dice : Dice)
    {statement : Statement} {targets : List Target}
    (h : statement.isPrimary = false → splitting.InStep targets balance balance') :
    (splitting.repoint dice statement targets balance).targets =
      (splitting.repoint dice statement targets balance').targets := by
  induction targets generalizing balance balance' with
  | nil => rfl
  | cons target targets ih =>
    rw [repoint, repoint]
    rcases hpending : splitting.pending? target with - | group
    · exact congrArg (List.cons target) (ih fun hprimary => (h hprimary).tail)
    · dsimp only
      cases hprimary : statement.isPrimary with
      | true =>
        rw [Group.route_of_isPrimary hprimary, Group.route_of_isPrimary hprimary]
        exact congrArg (List.cons _) (ih fun hfalse => (h hfalse).tail)
      | false =>
        obtain ⟨read, hroute, hroute'⟩ := @Group.exists_route_of_place dice _ _ group
          (hrotation group (mem_groups_of_pending? hpending)) statement hprimary
          ((h hprimary).place hpending)
        rw [hroute, hroute']
        exact congrArg (List.cons _) (ih fun _ => (h hprimary).takeTurn hpending)

/-- Two balances, of which the first is some turns of each group ahead of the second. -/
structure Rules.Ahead (rules : Rules) (taken ahead : GroupConfig → Nat)
    (balance balance' : Balance) : Prop where
  turn : ∀ group, rules.group? group.name = some group →
    balance.turnOf group = UInt64.ofNat (taken group + ahead group)
  turn' : ∀ group, rules.group? group.name = some group →
    balance'.turnOf group = UInt64.ofNat (taken group)

namespace Rules.TakesTurns

/-- **Balances that are whole rounds apart are in step** for the targets of a statement. -/
theorem inStep (h : rules.TakesTurns rule splitting dice router)
    (hahead : rules.Ahead taken ahead balance balance')
    (hsize : ∀ group, taken group + ahead group + rules.reads request group ≤ UInt64.size)
    (hrounds : ∀ group, 0 < rules.reads request group → group.pool.length ∣ ahead group)
    (hprimary : request.statement.isPrimary = false) {plan : Plan}
    (hseeded : rules.seeded request.statement request.owner = .ok plan) :
    splitting.InStep plan.targets balance balance' := by
  intro group hfirst k hk
  have hfound : rules.group? group.config.name = some group.config := by
    rw [group?, h.split, Option.bind_some, ← Splitting.map_config_find? h.ready, hfirst]
    rfl
  have hreads : k < rules.reads request group.config := by
    rw [reads_of_seeded hprimary hseeded]
    refine Nat.lt_of_lt_of_eq hk (List.countP_congr fun t ht => ?_)
    obtain ⟨d, hd⟩ := exists_dataSource_of_seeded hseeded ht
    rw [Splitting.pending?_of_identity hd, Splitting.map_config_find? h.ready, group?, h.split, hd]
    rfl
  have hkey : group.key = ⟨0, group.config.balancer⟩ := by
    obtain ⟨other, hother, -, -, hkey⟩ := h.exists_find? hfound
    cases hfirst.symm.trans hother
    exact hkey
  have hturn := hahead.turn group.config hfound
  have hturn' := hahead.turn' group.config hfound
  rw [Balance.turnOf, ← hkey] at hturn hturn'
  obtain ⟨rounds, hrounds⟩ := hrounds group.config (Nat.zero_lt_of_lt hreads)
  have hle := hsize group.config
  rw [hturn, hturn', ← UInt64.ofNat_add, ← UInt64.ofNat_add, UInt64.toNat_ofNat_of_lt' (by omega),
    UInt64.toNat_ofNat_of_lt' (by omega), hrounds, Nat.add_right_comm, Nat.add_mul_mod_self_left]

/-- The first read that a group picks is the one whose turn it is. -/
theorem getElem?_pool (h : rules.TakesTurns rule splitting dice router) {config : GroupConfig}
    (hreads : 0 < rules.reads request config) (balance : Balance) :
    config.pool[(balance.turnOf config).toNat % config.pool.length]? =
      (config.readsIn (rules.picks splitting dice request balance)).head? := by
  obtain ⟨-, -, hfound⟩ := exists_of_reads hreads
  obtain ⟨group, hfirst, rfl, hrotation, hkey⟩ := h.exists_find? hfound
  have hinTurn := (Group.turned_route h.route hfirst hrotation request balance).inTurn
  rw [← h.length_readsIn_picks request balance] at hreads
  rw [Balance.turnOf, ← hkey]
  rcases hlog : group.config.readsIn (rules.picks splitting dice request balance)
  · rw [hlog] at hreads
    cases hreads
  · rw [hlog] at hinTurn
    exact hinTurn.1

/-- **Balances that send a statement alike are whole rounds apart** in each pool that it reads
from: the first read of the pool that it picks is the same. -/
theorem dvd_of_route_eq (h : rules.TakesTurns rule splitting dice router)
    (hahead : rules.Ahead taken ahead balance balance')
    (hsize : ∀ group, taken group + ahead group + rules.reads request group ≤ UInt64.size)
    (heq : (router.route request.statement request.owner balance).1 =
      (router.route request.statement request.owner balance').1)
    {group : GroupConfig} (hreads : 0 < rules.reads request group) :
    group.pool.length ∣ ahead group := by
  obtain ⟨hprimary, ⟨plan, hseeded⟩, hfound⟩ := exists_of_reads hreads
  have hroute := h.route_of_seeded hseeded balance
  have hpicks : rules.picks splitting dice request balance =
      rules.picks splitting dice request balance' := by
    rw [h.picks_eq hprimary hroute, h.picks_eq hprimary (heq.symm.trans hroute)]
  have hfirst := h.getElem?_pool hreads balance
  rw [hpicks, ← h.getElem?_pool hreads balance', hahead.turn group hfound,
    hahead.turn' group hfound] at hfirst
  have hne : group.pool ≠ [] := by
    obtain ⟨ready, -, rfl, -⟩ := h.exists_find? hfound
    exact ready.pool_ne_nil
  have hlt := Nat.mod_lt (UInt64.ofNat (taken group + ahead group)).toNat
    (List.length_pos_iff.2 hne)
  have hplace := (List.getElem?_inj hlt group.nodup_pool).1 hfirst
  have hle := hsize group
  rw [UInt64.toNat_ofNat_of_lt' (by omega), UInt64.toNat_ofNat_of_lt' (by omega)] at hplace
  have hrounds := Nat.sub_mod_eq_zero_of_mod_eq hplace
  rw [Nat.add_sub_cancel_left] at hrounds
  exact Nat.dvd_of_mod_eq_zero hrounds

end Rules.TakesTurns

/-- **Two balances send a statement to the same targets exactly when** the turns that the one is
ahead of the other make whole rounds of each pool that the statement reads from. -/
theorem route_eq_iff (hrotates : rules.Rotates) (hr : rules.router dice = .ok router)
    (hahead : rules.Ahead taken ahead balance balance')
    (hsize : ∀ group, taken group + ahead group + rules.reads request group ≤ UInt64.size) :
    (router.route request.statement request.owner balance).1 =
        (router.route request.statement request.owner balance').1 ↔
      ∀ group, 0 < rules.reads request group → group.pool.length ∣ ahead group := by
  cases hsplit : rules.splitting with
  | none =>
    -- Without groups there is nothing to read from, and the balance has no part in a route.
    refine iff_of_true ?_ fun group hreads => ?_
    · rw [route_eq_seeded hsplit hr, route_eq_seeded hsplit hr]
    · obtain ⟨-, -, hfound⟩ := Rules.exists_of_reads hreads
      rw [Rules.group?, hsplit] at hfound
      cases hfound
  | some rule =>
    obtain ⟨splitting, h⟩ := hrotates.exists_takesTurns hsplit hr
    refine ⟨fun heq group hreads => h.dvd_of_route_eq hahead hsize heq hreads, fun hrounds => ?_⟩
    rcases hseeded : rules.seeded request.statement request.owner with e | plan
    · rw [h.route, h.route, hseeded]
      rfl
    · rw [h.route_of_seeded hseeded, h.route_of_seeded hseeded]
      have htargets := Splitting.targets_repoint_of_inStep h.rotation dice
        fun hprimary => h.inStep hahead hsize hrounds hprimary hseeded
      exact congrArg (fun targets => Except.ok (Plan.mk targets)) htargets

end Rotations

end ShardProxy
