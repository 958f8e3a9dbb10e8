/-
# Plans

A plan lists the targets of one statement.  Targets are added in one of two
ways: `push` appends, `put` lets the first target that accepts the new one
absorb it and appends only when none does.
-/

import ShardProxy.Distinct
import ShardProxy.Route.Target

namespace ShardProxy

/-- Puts a target into a list: the first that accepts it absorbs it. -/
def putTarget (target : Target) : List Target → List Target
  | [] => [target]
  | t :: ts => if t.accepts target then t.absorb target :: ts else t :: putTarget target ts

/-- Where a statement runs. -/
structure Plan where
  targets : List Target
  deriving Repr, DecidableEq

namespace Plan

/-- The plan without targets. -/
def empty : Plan := ⟨[]⟩

/-- Appends a target. -/
def push (plan : Plan) (target : Target) : Plan :=
  ⟨plan.targets ++ [target]⟩

/-- Adds a target, joined to the first that accepts it. -/
def put (plan : Plan) (target : Target) : Plan :=
  ⟨putTarget target plan.targets⟩

/-- Appends targets in order. -/
def pushAll (plan : Plan) (targets : List Target) : Plan :=
  ⟨plan.targets ++ targets⟩

/-- Adds targets in order. -/
def putAll (plan : Plan) (targets : List Target) : Plan :=
  targets.foldl put plan

/-- The actual data sources, in order of first occurrence. -/
def dataSources (plan : Plan) : List String :=
  distinct (plan.targets.map (·.dataSource.actual))

/-- Whether there is exactly one target. -/
def isSingle (plan : Plan) : Bool :=
  plan.targets.length == 1

/-- Putting no target leaves a plan as it is. -/
@[simp] theorem putAll_nil (plan : Plan) : plan.putAll [] = plan := rfl

/-- Targets are put one by one. -/
@[simp] theorem putAll_cons (plan : Plan) (t : Target) (ts : List Target) :
    plan.putAll (t :: ts) = (plan.put t).putAll ts := rfl

/-- Putting two lists of targets is putting the one and then the other. -/
theorem putAll_append (plan : Plan) (as bs : List Target) :
    plan.putAll (as ++ bs) = (plan.putAll as).putAll bs :=
  List.foldl_append

/-- **Putting a target leaves one that holds it:** some target on its data source maps
all of its tables. -/
theorem exists_mem_putTarget (target : Target) :
    ∀ ts : List Target, ∃ t ∈ putTarget target ts,
      t.dataSource = target.dataSource ∧ ∀ m ∈ target.tables, m ∈ t.tables
  | [] => ⟨target, List.mem_cons_self, rfl, fun _ h => h⟩
  | t :: ts => by
    rw [putTarget]
    split
    · next h =>
      exact ⟨t.absorb target, List.mem_cons_self, (Target.accepts_iff.1 h).1,
        fun m hm => Target.mem_join.2 (Or.inr hm)⟩
    · obtain ⟨u, hu, h⟩ := exists_mem_putTarget target ts
      exact ⟨u, List.mem_cons_of_mem _ hu, h⟩

end Plan

end ShardProxy
