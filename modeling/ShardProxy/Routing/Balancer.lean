/-
# Load balancers

A balancer picks one read of a group's pool.  What earlier picks have left
behind is a `Balance`: how many turns each rotation has taken and how many
random words have been drawn.  A rotation belongs to a running balancer and the
exact name of a group, so groups that share a balancer do not disturb each
other; its turns are counted modulo `2 ^ 64`.

Random words come from `Dice`, the sequence of all words that will ever be
drawn.
-/

import ShardProxy.Routing.Weights
import ShardProxy.Rule.Splitting

namespace ShardProxy

/-- The random words, by the number of draws before. -/
abbrev Dice := Nat → UInt64

/-- A running balancer: the rule it belongs to and its name there, none for the shared
default. -/
structure BalancerKey where
  rule : Nat
  name : Option String
  deriving Repr, DecidableEq

/-- What picks have left behind. -/
structure Balance where
  /-- Turns taken, by running balancer and group. -/
  turns : List ((BalancerKey × String) × UInt64)
  /-- Random words drawn. -/
  draws : Nat
  deriving Repr, DecidableEq

namespace Balance

/-- Before any pick. -/
def initial : Balance := ⟨[], 0⟩

/-- How many turns a rotation has taken. -/
def turn (balance : Balance) (key : BalancerKey) (group : String) : UInt64 :=
  (balance.turns.lookup (key, group)).getD 0

/-- Takes one more turn. -/
def takeTurn (balance : Balance) (key : BalancerKey) (group : String) : Balance :=
  { balance with
    turns := ((key, group), balance.turn key group + 1) ::
      balance.turns.filter fun t => t.1 != (key, group) }

/-- Draws one more word. -/
def draw (balance : Balance) : Balance :=
  { balance with draws := balance.draws + 1 }

/-- A turn moves its own rotation by one. -/
@[simp] theorem turn_takeTurn_self (balance : Balance) (key : BalancerKey) (group : String) :
    (balance.takeTurn key group).turn key group = balance.turn key group + 1 := by
  simp [turn, takeTurn]

/-- Dropping one key's entries leaves the look-ups of the others. -/
theorem lookup_filter_of_ne {α β : Type} [BEq α] [LawfulBEq α] {a b : α} (h : a ≠ b) :
    ∀ ts : List (α × β), (ts.filter fun t => t.1 != b).lookup a = ts.lookup a
  | [] => rfl
  | (c, x) :: ts => by
    have ih := lookup_filter_of_ne h ts
    by_cases hc : c = b
    · have ha : (a == c) = false := beq_eq_false_iff_ne.2 (hc ▸ h)
      simp [List.lookup_cons, hc ▸ ha, hc, ih]
    · simp [List.lookup_cons, hc, ih]

/-- **A turn moves one rotation only.** -/
theorem turn_takeTurn_of_ne {balance : Balance} {key key' : BalancerKey} {group group' : String}
    (h : (key', group') ≠ (key, group)) :
    (balance.takeTurn key group).turn key' group' = balance.turn key' group' := by
  have hb : ((key', group') == (key, group)) = false := beq_eq_false_iff_ne.2 h
  simp only [turn, takeTurn, List.lookup_cons, hb, lookup_filter_of_ne h]

/-- A draw moves no rotation. -/
@[simp] theorem turn_draw (balance : Balance) (key : BalancerKey) (group : String) :
    balance.draw.turn key group = balance.turn key group := rfl

end Balance

/-- A balancer ready to pick. -/
inductive Balancer where
  | rotation
  | random
  | weighted (weights : Weights)
  deriving DecidableEq

namespace Balancer

/-- The kind of a balancer. -/
def kind : Balancer → BalancerKind
  | rotation => .rotation
  | random => .random
  | weighted _ => .weighted

/-- Readies a configured balancer. -/
def ofConfig (config : BalancerConfig) : Except ConfigFault Balancer :=
  match config.kind with
  | .rotation => .ok rotation
  | .random => .ok random
  | .weighted =>
    match Weights.ofProps config.props with
    | .error e => .error e
    | .ok weights => .ok (weighted weights)

/-- The share of a range that a word stands for, rounded down: below `range` always. -/
def spread (word : UInt64) (range : Nat) : Nat :=
  word.toNat * range / UInt64.size

/-- A share of a range is below it. -/
theorem spread_lt (word : UInt64) {range : Nat} (h : 0 < range) : spread word range < range := by
  rw [spread, Nat.div_lt_iff_lt_mul (by decide), Nat.mul_comm range]
  exact Nat.mul_lt_mul_of_pos_right word.toNat_lt_size h

/-- The point below `total` that a word stands for: its first 53 bits as a fraction. -/
def point (word : UInt64) (total : Float) : Float :=
  let x := (word >>> 11).toFloat / 9007199254740992.0 * total
  if x < total then x else 0.0

/-- Picks a read of a pool that is not empty: its position, and the balance after. -/
def position (balancer : Balancer) (dice : Dice) (key : BalancerKey) (group : String)
    (reads : List String) (balance : Balance) : Except RoutingError Nat × Balance :=
  match balancer with
  | rotation =>
    (.ok ((balance.turn key group).toNat % reads.length), balance.takeTurn key group)
  | random => (.ok (spread (dice balance.draws) reads.length), balance.draw)
  | weighted weights =>
    match weights.usableTotal group reads with
    | .error e => (.error (.invalidConfig e), balance)
    | .ok total => (.ok (weights.pick reads (point (dice balance.draws) total)), balance.draw)

/-- **A balancer picks a position in the pool.** -/
theorem position_lt {balancer : Balancer} {dice : Dice} {key : BalancerKey} {group : String}
    {reads : List String} {balance : Balance} {n : Nat} (hne : reads ≠ [])
    (h : (balancer.position dice key group reads balance).1 = .ok n) : n < reads.length := by
  have hpos : 0 < reads.length := List.length_pos_iff.2 hne
  cases balancer with
  | rotation =>
    cases h
    exact Nat.mod_lt _ hpos
  | random =>
    cases h
    exact spread_lt _ hpos
  | weighted weights =>
    simp only [position] at h
    split at h
    · cases h
    · cases h
      exact weights.pick_lt _ hne

/-- Picks a read of a pool. -/
def select (balancer : Balancer) (dice : Dice) (key : BalancerKey) (group : String)
    (reads : List String) (balance : Balance) : Except RoutingError String × Balance :=
  if hne : reads = [] then (.error (.noReadDataSource group), balance)
  else
    match h : balancer.position dice key group reads balance with
    | (.error e, balance) => (.error e, balance)
    | (.ok n, balance) => (.ok (reads.get ⟨n, position_lt hne (congrArg Prod.fst h)⟩), balance)

/-- **A pick is a member of the pool.** -/
theorem mem_of_select {balancer : Balancer} {dice : Dice} {key : BalancerKey} {group : String}
    {reads : List String} {balance : Balance} {read : String}
    (h : (balancer.select dice key group reads balance).1 = .ok read) : read ∈ reads := by
  rw [select] at h
  split at h
  · cases h
  · split at h
    · cases h
    · cases h
      exact List.get_mem _ _

end Balancer

end ShardProxy
