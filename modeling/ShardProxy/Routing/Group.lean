/-
# Read-write splitting groups

A group ready to route: its pool is not empty and its balancer has been readied.
Groups are readied in order and the first fault refuses them all; for one group
a fault of its balancer comes before an empty pool.  Groups that name the same
balancer share it, as do those that name none: what they share are the turns
and draws under one `BalancerKey`.
-/

import ShardProxy.Routing.Balancer
import ShardProxy.Text.Letters

namespace ShardProxy

open Text

/-- A group ready to route. -/
structure Group where
  config : GroupConfig
  /-- Under which key its balancer keeps count. -/
  key : BalancerKey
  balancer : Balancer
  pool_ne_nil : config.pool ≠ []

namespace Group

/-- A group over a balancer that is ready. -/
def ofBalancer (config : GroupConfig) (key : BalancerKey) (balancer : Balancer) :
    Except ConfigFault Group :=
  if h : config.pool = [] then .error (.noReads config.name) else .ok ⟨config, key, balancer, h⟩

/-- The balancer that a group asks for: a rotation if it names none. -/
def balancerOf (rule : SplittingConfig) (config : GroupConfig) : Except ConfigFault Balancer :=
  match config.balancer with
  | none => .ok .rotation
  | some name =>
    match rule.balancer? name with
    | none => .error (.unknownBalancer config.name name)
    | some balancer => Balancer.ofConfig balancer

/-- Readies a group of a rule; `number` tells the rule from others. -/
def ofConfig (number : Nat) (rule : SplittingConfig) (config : GroupConfig) :
    Except ConfigFault Group :=
  match balancerOf rule config with
  | .error e => .error e
  | .ok balancer => ofBalancer config ⟨number, config.balancer⟩ balancer

/-- Where a statement goes: the write data source if it is primary, else a read. -/
def route (group : Group) (dice : Dice) (statement : Statement) (balance : Balance) :
    Except RoutingError String × Balance :=
  if statement.isPrimary then (.ok group.config.write, balance)
  else group.balancer.select dice group.key group.config.name group.config.pool balance

/-- A group over a balancer that is ready has that balancer, its key and its configuration. -/
theorem ofBalancer_eq_ok_iff {config : GroupConfig} {key : BalancerKey} {balancer : Balancer}
    {group : Group} :
    ofBalancer config key balancer = .ok group ↔
      group.config = config ∧ group.key = key ∧ group.balancer = balancer := by
  constructor
  · intro h
    rw [ofBalancer] at h
    split at h
    · cases h
    · cases h
      exact ⟨rfl, rfl, rfl⟩
  · rintro ⟨rfl, rfl, rfl⟩
    rw [ofBalancer, dif_neg group.pool_ne_nil]

/-- A group that is ready has its configuration, its key and the balancer that it asks for. -/
theorem ofConfig_eq_ok {number : Nat} {rule : SplittingConfig} {config : GroupConfig}
    {group : Group} (h : ofConfig number rule config = .ok group) :
    group.config = config ∧ group.key = ⟨number, config.balancer⟩ ∧
      balancerOf rule config = .ok group.balancer := by
  rw [ofConfig] at h
  split at h
  · cases h
  · next balancer hbalancer =>
    obtain ⟨hconfig, hkey, rfl⟩ := ofBalancer_eq_ok_iff.1 h
    exact ⟨hconfig, hkey, hbalancer⟩

/-- **A primary statement goes to the write data source** and leaves no trace. -/
theorem route_of_isPrimary {group : Group} {dice : Dice} {statement : Statement}
    {balance : Balance} (h : statement.isPrimary = true) :
    group.route dice statement balance = (.ok group.config.write, balance) := if_pos h

/-- **Any other statement goes to a read of the pool.** -/
theorem mem_pool_of_route {group : Group} {dice : Dice} {statement : Statement}
    {balance : Balance} {read : String} (h : statement.isPrimary = false)
    (hr : (group.route dice statement balance).1 = .ok read) : read ∈ group.config.pool := by
  rw [route, if_neg (by simp [h])] at hr
  exact Balancer.mem_of_select hr

end Group

/-- The groups of a read-write splitting rule. -/
structure Splitting where
  groups : List Group

namespace Splitting

/-- Readies groups in order. -/
def readyGroups (number : Nat) (rule : SplittingConfig) :
    List GroupConfig → Except ConfigFault (List Group)
  | [] => .ok []
  | config :: configs =>
    match Group.ofConfig number rule config with
    | .error e => .error e
    | .ok group =>
      match readyGroups number rule configs with
      | .error e => .error e
      | .ok groups => .ok (group :: groups)

/-- Readies a rule; `number` tells it from others. -/
def ofConfig (number : Nat) (rule : SplittingConfig) : Except ConfigFault Splitting :=
  match readyGroups number rule rule.groups with
  | .error e => .error e
  | .ok groups => .ok ⟨groups⟩

/-- The first group of a name. -/
def find? (splitting : Splitting) (name : String) : Option Group :=
  splitting.groups.find? (alike ·.config.name name)

/-- The only group. -/
def single (splitting : Splitting) : Except RoutingError Group :=
  match splitting.groups with
  | [group] => .ok group
  | groups => .error (.ambiguousGroups groups.length)

/-- The groups of an accepted rule are the configured ones, in order. -/
theorem map_config_of_readyGroups {number : Nat} {rule : SplittingConfig} :
    ∀ {configs : List GroupConfig} {groups : List Group},
      readyGroups number rule configs = .ok groups → groups.map Group.config = configs
  | [], _, h => by
    cases h
    rfl
  | config :: configs, groups, h => by
    rw [readyGroups] at h
    split at h
    · cases h
    · next group hg =>
      split at h
      · cases h
      · next rest hr =>
        cases h
        rw [List.map_cons, map_config_of_readyGroups hr, (Group.ofConfig_eq_ok hg).1]

end Splitting

end ShardProxy
