/-
# The routing pipeline

A pipeline holds stages in ascending order, those of equal order as they came.
Of the stages that apply to a statement the first creates the plan and the
others decorate it, one after the other, until one fails.  When none applies
there is no plan.  What earlier stages did to the state stays, also after a
failure.
-/

import ShardProxy.Routing.Stage
import ShardProxy.Text.Quoted

namespace ShardProxy

/-- Stages in the order in which they run. -/
structure Pipeline (σ : Type) where
  stages : List (Stage σ)

namespace Pipeline

variable {σ : Type}

/-- Sorts stages by their order; equal ones stay as they came. -/
def ofStages (stages : List (Stage σ)) : Pipeline σ :=
  ⟨stages.mergeSort fun a b => a.order ≤ b.order⟩

/-- The names of the stages. -/
def stageNames (pipeline : Pipeline σ) : List String :=
  pipeline.stages.map Stage.name

/-- One stage's part: it makes the plan when there is none yet, and decorates it
otherwise. -/
def runStage (stage : Stage σ) (statement : Statement) (owner : OwnerLookup) :
    Option Plan → σ → Except RoutingError Plan × σ
  | none, state => stage.create statement owner state
  | some plan, state =>
    let decoration := stage.decorate plan statement owner state
    match decoration.failure with
    | some e => (.error e, decoration.state)
    | none => (.ok decoration.plan, decoration.state)

/-- Runs stages over the plan made so far. -/
def run (statement : Statement) (owner : OwnerLookup) :
    List (Stage σ) → Option Plan → σ → Except RoutingError Plan × σ
  | [], none, state => (.error (.noStage statement.kind), state)
  | [], some plan, state => (.ok plan, state)
  | stage :: stages, plan?, state =>
    if stage.applies statement then
      match runStage stage statement owner plan? state with
      | (.error e, state) => (.error e, state)
      | (.ok plan, state) => run statement owner stages (some plan) state
    else run statement owner stages plan? state

/-- Routes a statement. -/
def route (pipeline : Pipeline σ) (statement : Statement) (owner : OwnerLookup) (state : σ) :
    Except RoutingError Plan × σ :=
  run statement owner pipeline.stages none state

/-- The pipeline in words. -/
def describe (pipeline : Pipeline σ) : String :=
  "RouteEngine \x7b stages: " ++ Text.bracketed (pipeline.stageNames.map Text.quoted) ++ " \x7d"

/-- A stage that applies takes its part, and the rest goes on unless it fails. -/
theorem run_cons_of_applies {stage : Stage σ} {statement : Statement}
    (h : stage.applies statement = true) (owner : OwnerLookup) (stages : List (Stage σ))
    (plan? : Option Plan) (state : σ) :
    run statement owner (stage :: stages) plan? state =
      match runStage stage statement owner plan? state with
      | (.error e, state) => (.error e, state)
      | (.ok plan, state) => run statement owner stages (some plan) state := by
  rw [run, if_pos h]

/-- **Stages that do not apply are as good as absent.** -/
theorem run_filter (statement : Statement) (owner : OwnerLookup) :
    ∀ (stages : List (Stage σ)) (plan? : Option Plan) (state : σ),
      run statement owner (stages.filter fun stage => stage.applies statement) plan? state =
        run statement owner stages plan? state
  | [], _, _ => rfl
  | stage :: stages, plan?, state => by
    have ih := run_filter statement owner stages
    by_cases h : stage.applies statement = true
    · rw [List.filter_cons, if_pos h, run, run, if_pos h, if_pos h]
      split
      · rfl
      · exact ih _ _
    · rw [List.filter_cons, if_neg h, ih]
      conv => rhs; rw [run, if_neg h]

end Pipeline

end ShardProxy
