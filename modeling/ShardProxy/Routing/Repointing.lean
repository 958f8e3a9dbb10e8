/-
# Re-pointing a plan at write and read data sources

A target whose logical data source is a group and whose actual data source is
still that group's own name goes where the group sends the statement.  Targets
of no group, and those that have been re-pointed before, stay.  The targets are
visited in order, each pick changing the balance that the next one sees; the
number of targets never changes.  Alone, the stage makes a plan of one target
when there is exactly one group.
-/

import ShardProxy.Routing.Group
import ShardProxy.Routing.Stage

namespace ShardProxy

open Text

namespace Splitting

variable (splitting : Splitting) (dice : Dice)

/-- The group that has still to send a target somewhere. -/
def pending? (target : Target) : Option Group :=
  match splitting.find? target.dataSource.logic with
  | none => none
  | some group =>
    if alike group.config.name target.dataSource.actual then some group else none

/-- What re-pointing targets leaves behind. -/
structure Repointed where
  targets : List Target
  failure : Option RoutingError
  balance : Balance
  deriving DecidableEq

/-- Re-points targets in order, up to the first group that fails. -/
def repoint (statement : Statement) : List Target → Balance → Repointed
  | [], balance => ⟨[], none, balance⟩
  | target :: targets, balance =>
    match splitting.pending? target with
    | none =>
      let rest := repoint statement targets balance
      { rest with targets := target :: rest.targets }
    | some group =>
      match group.route dice statement balance with
      | (.error e, balance) => ⟨target :: targets, some e, balance⟩
      | (.ok actual, balance) =>
        let rest := repoint statement targets balance
        { rest with targets := target.repoint actual :: rest.targets }

/-- The plan of a statement that only read-write splitting routes. -/
def plan (statement : Statement) (balance : Balance) : Except RoutingError Plan × Balance :=
  match splitting.single with
  | .error e => (.error e, balance)
  | .ok group =>
    match group.route dice statement balance with
    | (.error e, balance) => (.error e, balance)
    | (.ok actual, balance) => (.ok ⟨[⟨⟨group.config.name, actual⟩, []⟩]⟩, balance)

/-- The read-write splitting stage: it comes after sharding. -/
def stage : Stage Balance where
  name := "ReadWriteSplitting"
  order := 10
  applies _ := true
  create statement _ balance := splitting.plan dice statement balance
  decorate plan statement _ balance :=
    let repointed := splitting.repoint dice statement plan.targets balance
    ⟨⟨repointed.targets⟩, repointed.failure, repointed.balance⟩

/-- **Re-pointing changes actual data sources only.** -/
theorem map_repoint (statement : Statement) :
    ∀ (targets : List Target) (balance : Balance),
      (splitting.repoint dice statement targets balance).targets.map
          (fun t => (t.dataSource.logic, t.tables)) =
        targets.map fun t => (t.dataSource.logic, t.tables)
  | [], _ => rfl
  | target :: targets, balance => by
    rw [repoint]
    split
    · simp [map_repoint statement targets]
    · split
      · rfl
      · simp [map_repoint statement targets, Target.repoint, Mapping.repoint]

/-- Re-pointing keeps the number of targets. -/
theorem length_repoint (statement : Statement) (targets : List Target) (balance : Balance) :
    (splitting.repoint dice statement targets balance).targets.length = targets.length := by
  simpa using congrArg List.length (splitting.map_repoint dice statement targets balance)

end Splitting

end ShardProxy
