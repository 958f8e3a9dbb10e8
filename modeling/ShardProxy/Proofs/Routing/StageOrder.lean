/-
# The order of stages

A pipeline is made from any list of stages.  Two things are told here of what routing then does,
neither in the words of its loop.  The stages are *stably sorted*: there is just one list with the
same stages in ascending order where those of equal order stand as they came (`StablySorted`).  Of
that list the stages that apply are *followed*: the first creates a plan, the others decorate it,
each what the one before has made, and the first error ends it (`Pipeline.follow`).

That no other stage is called is a statement about calls, and the result does not show them.  So
stages are given a notebook (`Stage.noted`): it is kept in the state, nothing else changes, and at
the end it holds every call that was made.
-/

import ShardProxy.Routing.Pipeline
import Mathlib.Data.List.Perm.Basic
import Mathlib.Data.List.Nodup

namespace ShardProxy

variable {σ : Type}

/-! ### Sorting -/

/-- The stages of a list in ascending order, those of equal order as they came. -/
structure StablySorted (stages sorted : List (Stage σ)) : Prop where
  perm : sorted.Perm stages
  ascending : sorted.Pairwise fun a b => a.order ≤ b.order
  stable : ∀ order : Int, sorted.filter (·.order = order) = stages.filter (·.order = order)

/-- **A pipeline holds its stages stably sorted.** -/
theorem Pipeline.stablySorted_ofStages (stages : List (Stage σ)) :
    StablySorted stages (ofStages stages).stages := by
  have htrans : ∀ a b c : Stage σ, decide (a.order ≤ b.order) = true →
      decide (b.order ≤ c.order) = true → decide (a.order ≤ c.order) = true := by
    intro a b c hab hbc
    simp only [decide_eq_true_eq] at *
    omega
  have htotal : ∀ a b : Stage σ,
      (decide (a.order ≤ b.order) || decide (b.order ≤ a.order)) = true := by
    intro a b
    simp only [Bool.or_eq_true, decide_eq_true_eq]
    omega
  have hperm : (ofStages stages).stages.Perm stages := List.mergeSort_perm _ _
  refine ⟨hperm, ?_, fun order => ?_⟩
  · simpa [ofStages] using List.pairwise_mergeSort htrans htotal stages
  · -- The stages of one order are sorted as they are, so sorting keeps them as a sublist.
    have hequal : (stages.filter (·.order = order)).Pairwise
        fun a b => decide (a.order ≤ b.order) = true := by
      refine List.pairwise_of_forall_mem_list fun a ha b hb => ?_
      simp only [List.mem_filter, decide_eq_true_eq] at *
      omega
    have hkept : List.Sublist (stages.filter (·.order = order)) (ofStages stages).stages :=
      List.sublist_mergeSort htrans htotal hequal List.filter_sublist
    have hsub : List.Sublist (stages.filter (·.order = order))
        ((ofStages stages).stages.filter (·.order = order)) := by
      simpa using hkept.filter (·.order = order)
    exact (hsub.eq_of_length (hperm.filter _).length_eq.symm).symm

/-- Lists in ascending order are equal if they have the same stages of every order. -/
theorem eq_of_filter_order {xs ys : List (Stage σ)} (hperm : xs.Perm ys)
    (hxs : xs.Pairwise fun a b => a.order ≤ b.order)
    (hys : ys.Pairwise fun a b => a.order ≤ b.order)
    (hfilter : ∀ order : Int, xs.filter (·.order = order) = ys.filter (·.order = order)) :
    xs = ys := by
  induction xs generalizing ys with
  | nil => exact hperm.nil_eq
  | cons x xs ih =>
    cases ys with
    | nil => exact hperm.eq_nil
    | cons y ys =>
      rw [List.pairwise_cons] at hxs hys
      have hxy : x.order ≤ y.order := by
        rcases List.mem_cons.1 (hperm.mem_iff.2 (List.mem_cons_self (a := y))) with rfl | hy
        · exact Int.le_refl _
        · exact hxs.1 y hy
      have hyx : y.order ≤ x.order := by
        rcases List.mem_cons.1 (hperm.mem_iff.1 (List.mem_cons_self (a := x))) with rfl | hx
        · exact Int.le_refl _
        · exact hys.1 x hx
      have horder : y.order = x.order := Int.le_antisymm hyx hxy
      have hhead := hfilter x.order
      simp only [List.filter_cons, horder, decide_true, if_true, List.cons.injEq] at hhead
      obtain ⟨rfl, -⟩ := hhead
      have htails : xs = ys := by
        refine ih hperm.cons_inv hxs.2 hys.2 fun order => ?_
        have htail := hfilter order
        by_cases hx : x.order = order
        · simpa [List.filter_cons, hx] using htail
        · simpa [List.filter_cons, hx] using htail
      rw [htails]

/-- **There is one way to sort stably.** -/
theorem StablySorted.eq {stages sorted other : List (Stage σ)} (h : StablySorted stages sorted)
    (hother : StablySorted stages other) : other = sorted :=
  eq_of_filter_order (hother.perm.trans h.perm.symm) hother.ascending h.ascending fun order =>
    (hother.stable order).trans (h.stable order).symm

/-- **If no two stages have the same order it does not matter how they came.** -/
theorem Pipeline.ofStages_eq_of_perm {stages other : List (Stage σ)}
    (hdistinct : (stages.map Stage.order).Nodup) (hperm : other.Perm stages) :
    ofStages other = ofStages stages := by
  have h := stablySorted_ofStages stages
  have hother := stablySorted_ofStages other
  have heq : (ofStages other).stages = (ofStages stages).stages := by
    refine List.Perm.eq_of_pairwise (fun a b ha hb hab hba => ?_) hother.ascending h.ascending
      ((hother.perm.trans hperm).trans h.perm.symm)
    exact List.inj_on_of_nodup_map hdistinct ((hother.perm.trans hperm).mem_iff.1 ha)
      (h.perm.mem_iff.1 hb) (Int.le_antisymm hab hba)
  rw [← Pipeline.mk.injEq] at heq
  exact heq

/-! ### Following stages -/

/-- Creating as a step that may fail and that changes the state. -/
def Stage.creating (stage : Stage σ) (statement : Statement) (owner : OwnerLookup) :
    ExceptT RoutingError (StateM σ) Plan :=
  ExceptT.mk (stage.create statement owner)

/-- Decorating as such a step: what a decoration that fails has made is lost. -/
def Stage.decorating (stage : Stage σ) (statement : Statement) (owner : OwnerLookup)
    (plan : Plan) : ExceptT RoutingError (StateM σ) Plan := do
  let decoration ← modifyGet fun state =>
    let decoration := stage.decorate plan statement owner state
    (decoration, decoration.state)
  match decoration.failure with
  | some e => throw e
  | none => return decoration.plan

namespace Pipeline

/-- Stages one after the other: the first creates a plan, each of the others decorates the plan of
the one before, and with none there is no route. -/
def follow (statement : Statement) (owner : OwnerLookup) :
    List (Stage σ) → ExceptT RoutingError (StateM σ) Plan
  | [] => throw (.noStage statement.kind)
  | first :: rest => do
    let plan ← first.creating statement owner
    rest.foldlM (fun plan stage => stage.decorating statement owner plan) plan

/-- A step after another one starts in the state that the first leaves, unless that has failed. -/
theorem bind_eq {α β : Type} (step : ExceptT RoutingError (StateM σ) α)
    (next : α → ExceptT RoutingError (StateM σ) β) (state : σ) :
    (step >>= next) state =
      match step state with
      | (.error e, after) => (.error e, after)
      | (.ok a, after) => next a after := by
  change ExceptT.bindCont next (step state).1 (step state).2 = _
  rcases step state with ⟨_ | _, after⟩
  · rfl
  · rfl

/-- Creating is a stage's part when there is no plan. -/
theorem creating_eq_runStage (stage : Stage σ) (statement : Statement) (owner : OwnerLookup)
    (state : σ) :
    stage.creating statement owner state = runStage stage statement owner none state := rfl

/-- Decorating is its part when there is one. -/
theorem decorating_eq_runStage (stage : Stage σ) (statement : Statement) (owner : OwnerLookup)
    (plan : Plan) (state : σ) :
    stage.decorating statement owner plan state =
      runStage stage statement owner (some plan) state := by
  rw [Stage.decorating, bind_eq, runStage]
  change (match (stage.decorate plan statement owner state).failure with
    | some e => throw e
    | none => pure (stage.decorate plan statement owner state).plan :
      ExceptT RoutingError (StateM σ) Plan) (stage.decorate plan statement owner state).state = _
  cases (stage.decorate plan statement owner state).failure with
  | none => rfl
  | some e => rfl

variable {statement : Statement} {owner : OwnerLookup} {stages : List (Stage σ)}

/-- With a plan the stages that apply decorate it one after the other. -/
theorem run_some_eq_foldlM (happlies : ∀ stage ∈ stages, stage.applies statement = true)
    (plan : Plan) (state : σ) :
    run statement owner stages (some plan) state =
      stages.foldlM (fun plan stage => stage.decorating statement owner plan) plan state := by
  induction stages generalizing plan state with
  | nil => rfl
  | cons stage stages ih =>
    rw [run_cons_of_applies (happlies stage List.mem_cons_self), List.foldlM_cons, bind_eq,
      decorating_eq_runStage]
    rcases runStage stage statement owner (some plan) state with ⟨e | plan, after⟩
    · rfl
    · exact ih (fun s hs => happlies s (List.mem_cons_of_mem _ hs)) plan after

/-- **Stages that apply are followed.** -/
theorem run_eq_follow (happlies : ∀ stage ∈ stages, stage.applies statement = true) (state : σ) :
    run statement owner stages none state = follow statement owner stages state := by
  cases stages with
  | nil => rfl
  | cons first rest =>
    rw [run_cons_of_applies (happlies first List.mem_cons_self), follow, bind_eq,
      creating_eq_runStage]
    rcases runStage first statement owner none state with ⟨e | plan, after⟩
    · rfl
    · exact run_some_eq_foldlM (fun s hs => happlies s (List.mem_cons_of_mem _ hs)) plan after

/-- **To route is to follow the stages that apply.** -/
theorem route_eq_follow (pipeline : Pipeline σ) (statement : Statement) (owner : OwnerLookup)
    (state : σ) :
    pipeline.route statement owner state =
      follow statement owner (pipeline.stages.filter (·.applies statement)) state := by
  rw [route, ← run_filter]
  exact run_eq_follow (fun stage hs => (List.mem_filter.1 hs).2) state

end Pipeline

/-! ### Calls -/

/-- A call of a stage. -/
inductive Stage.Call (σ : Type) where
  | create (stage : Stage σ)
  | decorate (stage : Stage σ) (plan : Plan)

/-- A stage that notes its calls, with the plans that it is given, and is otherwise the same. -/
def Stage.noted (stage : Stage σ) : Stage (σ × List (Call σ)) where
  name := stage.name
  order := stage.order
  applies := stage.applies
  create statement owner := fun (state, calls) =>
    let (result, after) := stage.create statement owner state
    (result, after, calls ++ [.create stage])
  decorate plan statement owner := fun (state, calls) =>
    let decoration := stage.decorate plan statement owner state
    ⟨decoration.plan, decoration.failure, decoration.state, calls ++ [.decorate stage plan]⟩

/-- The call that a stage gets when there is a plan, or none. -/
def Stage.call (stage : Stage σ) : Option Plan → Call σ
  | none => .create stage
  | some plan => .decorate stage plan

/-- The call that a stage gets after others: it decorates their plan, and none gets it after an
error. -/
def Stage.callAfter? (stage : Stage σ) : Except RoutingError Plan → Option (Call σ)
  | .error _ => none
  | .ok plan => some (.decorate stage plan)

namespace Pipeline

variable {statement : Statement} {owner : OwnerLookup} {stages : List (Stage σ)}

/-- Notes do not change what a stage does. -/
theorem runStage_noted (stage : Stage σ) (plan? : Option Plan) (state : σ)
    (calls : List (Stage.Call σ)) :
    runStage stage.noted statement owner plan? (state, calls) =
      ((runStage stage statement owner plan? state).1,
        (runStage stage statement owner plan? state).2, calls ++ [stage.call plan?]) := by
  cases plan? with
  | none => rfl
  | some plan =>
    simp only [runStage, Stage.noted]
    cases (stage.decorate plan statement owner state).failure with
    | none => rfl
    | some e => rfl

/-- **What is noted in a run of stages that apply.**  The result is the same, and a stage is called
if there is none before it or those before it have made a plan. -/
theorem exists_run_noted (happlies : ∀ stage ∈ stages, stage.applies statement = true)
    (plan? : Option Plan) (state : σ) (calls : List (Stage.Call σ)) :
    ∃ log, run statement owner (stages.map Stage.noted) plan? (state, calls) =
        ((run statement owner stages plan? state).1,
          (run statement owner stages plan? state).2, calls ++ log) ∧
      ∀ i : Nat, log[i]? = stages[i]?.bind fun stage =>
        if i = 0 then some (stage.call plan?)
        else stage.callAfter? (run statement owner (stages.take i) plan? state).1 := by
  induction stages generalizing plan? state calls with
  | nil =>
    refine ⟨[], ?_, fun i => rfl⟩
    cases plan? with
    | none => rw [List.append_nil]; rfl
    | some plan => rw [List.append_nil]; rfl
  | cons stage stages ih =>
    have hstage : stage.applies statement = true := happlies stage List.mem_cons_self
    have hcons := fun rest => run_cons_of_applies hstage owner rest plan? state
    have hnoted : stage.noted.applies statement = true := hstage
    rw [List.map_cons, run_cons_of_applies hnoted, runStage_noted, hcons]
    rcases hran : runStage stage statement owner plan? state with ⟨e | plan, after⟩
    · refine ⟨[stage.call plan?], rfl, fun i => ?_⟩
      cases i with
      | zero => rfl
      | succ i =>
        rw [List.take_succ_cons, hcons, hran, List.getElem?_cons_succ, List.getElem?_cons_succ]
        cases stages[i]? with
        | none => rfl
        | some later => rfl
    · obtain ⟨log, hrun, hlog⟩ := ih (fun s hs => happlies s (List.mem_cons_of_mem _ hs))
        (some plan) after (calls ++ [stage.call plan?])
      refine ⟨stage.call plan? :: log, ?_, fun i => ?_⟩
      · rw [List.append_cons calls _ log]
        exact hrun
      · cases i with
        | zero => rfl
        | succ i =>
          rw [List.take_succ_cons, hcons, hran, List.getElem?_cons_succ, List.getElem?_cons_succ,
            hlog]
          cases i with
          | zero => rfl
          | succ i => rfl

/-- The stages that apply are noted when they are called, and no other stage is. -/
theorem exists_route_noted (stages : List (Stage σ)) (statement : Statement) (owner : OwnerLookup)
    (state : σ) :
    ∃ log, (ofStages (stages.map Stage.noted)).route statement owner (state, []) =
        (((ofStages stages).route statement owner state).1,
          ((ofStages stages).route statement owner state).2, log) ∧
      ∀ i : Nat, log[i]? = ((ofStages stages).stages.filter (·.applies statement))[i]?.bind
        fun stage => if i = 0 then some (.create stage) else stage.callAfter?
          (follow statement owner
            (((ofStages stages).stages.filter (·.applies statement)).take i) state).1 := by
  have hsorted : (ofStages (stages.map Stage.noted)).stages =
      (ofStages stages).stages.map Stage.noted :=
    (List.map_mergeSort (f := Stage.noted) fun _ _ _ _ => rfl).symm
  have hfilter : ((ofStages stages).stages.map Stage.noted).filter (·.applies statement) =
      ((ofStages stages).stages.filter (·.applies statement)).map Stage.noted :=
    List.filter_map
  have happlies : ∀ stage ∈ (ofStages stages).stages.filter (·.applies statement),
      stage.applies statement = true := fun stage hs => (List.mem_filter.1 hs).2
  obtain ⟨log, hrun, hlog⟩ := @exists_run_noted σ statement owner _ happlies none state []
  refine ⟨log, ?_, fun i => ?_⟩
  · rw [route, hsorted, ← run_filter, hfilter, hrun, run_filter]
    rfl
  · rw [hlog, run_eq_follow fun stage hs => happlies stage (List.mem_of_mem_take hs)]
    rfl

/-- **The order of stages.**  Of any stages a pipeline is made, and there is one list that sorts
them stably.  Routing follows the stages of that list that apply to the statement: with none there
is no route, else the first creates a plan and the others decorate it one after the other, up to the
first error.  The calls that are made are those: a stage that does not apply is not called, and
after an error no stage is.  If no two stages have the same order it does not matter how they
came. -/
theorem route_ofStages (stages : List (Stage σ)) (statement : Statement) (owner : OwnerLookup)
    (state : σ) :
    ∃ sorted, (∀ other, StablySorted stages other ↔ other = sorted) ∧
      (let applying := sorted.filter (·.applies statement)
      (ofStages stages).route statement owner state = follow statement owner applying state ∧
        ∃ log, (ofStages (stages.map Stage.noted)).route statement owner (state, []) =
            (((ofStages stages).route statement owner state).1,
              ((ofStages stages).route statement owner state).2, log) ∧
          ∀ i : Nat, log[i]? = applying[i]?.bind fun stage =>
            if i = 0 then some (.create stage)
            else stage.callAfter? (follow statement owner (applying.take i) state).1) ∧
      ((stages.map Stage.order).Nodup → ∀ other, other.Perm stages →
        ofStages other = ofStages stages) := by
  have hsorted := stablySorted_ofStages stages
  refine ⟨(ofStages stages).stages, fun other => ⟨hsorted.eq, fun h => h ▸ hsorted⟩,
    ⟨route_eq_follow _ statement owner state, exists_route_noted stages statement owner state⟩,
    fun hdistinct other hperm => ofStages_eq_of_perm hdistinct hperm⟩

/-! ### Stages that sign plans -/

/-- A stage that signs plans, perhaps of primary statements only. -/
def signing (name : String) (order : Int) (primary : Bool) : Stage Unit where
  name := name
  order := order
  applies statement := !primary || statement.isPrimary
  create _ _ state := (.ok ⟨[⟨⟨name, name⟩, []⟩]⟩, state)
  decorate plan _ _ state :=
    ⟨⟨plan.targets.map fun t => t.repoint (t.dataSource.actual ++ "+" ++ name)⟩, none, state⟩

/-- A stage that creates a plan without targets and refuses to decorate any. -/
def refusing (order : Int) : Stage Unit where
  name := "refusing"
  order := order
  applies _ := true
  create _ _ state := (.ok ⟨[]⟩, state)
  decorate plan _ _ state := ⟨plan, some (.noTableRule "refused"), state⟩

/-- Four stages, two of the same order and one for primary statements only. -/
def signings : List (Stage Unit) :=
  [signing "last" 10 false, signing "audit" (-1) true, signing "first" 0 false,
    signing "then" 0 false]

/-- The four stages sorted: the two of order zero stay as they came. -/
theorem stablySorted_signings :
    StablySorted signings
      [signing "audit" (-1) true, signing "first" 0 false, signing "then" 0 false,
        signing "last" 10 false] := by
  refine ⟨?_, ?_, fun order => ?_⟩
  · exact @List.perm_append_comm _ [signing "audit" (-1) true, signing "first" 0 false,
      signing "then" 0 false] [signing "last" 10 false]
  · simp [signing]
  · by_cases hlast : order = 10
    · rw [hlast]
      rfl
    · have hne : ¬ (10 : Int) = order := fun h => hlast h.symm
      simp [signings, signing, List.filter_cons, hne]

/-- Three stages of different orders, the second of which refuses. -/
def refusals : List (Stage Unit) :=
  [signing "first" 0 false, refusing 5, signing "last" 10 false]

/-- The three stages are sorted as they come. -/
theorem stablySorted_refusals : StablySorted refusals refusals :=
  ⟨.rfl, by simp [refusals, signing, refusing], fun _ => rfl⟩

/-- A query calls three of the four stages, each with what the ones before have signed.  Where a
stage refuses the query fails, however the stages came. -/
theorem route_ofStages_signings :
    (∃ log, (ofStages (signings.map Stage.noted)).route (.select ["t_order"]) (fun _ => none)
        ((), []) = (.ok ⟨[⟨⟨"first", "first+then+last"⟩, []⟩]⟩, (), log) ∧
      log[0]? = some (.create (signing "first" 0 false)) ∧
      log[1]? = some (.decorate (signing "then" 0 false) ⟨[⟨⟨"first", "first"⟩, []⟩]⟩) ∧
      log[3]? = none) ∧
    (refusals.map Stage.order).Nodup ∧
      ∀ other, other.Perm refusals →
        (ofStages other).route (.select ["t_order"]) (fun _ => none) () =
          (.error (.noTableRule "refused"), ()) := by
  obtain ⟨sorted, hsorted, ⟨hroute, log, hlog, hcalls⟩, -⟩ :=
    route_ofStages signings (.select ["t_order"]) (fun _ => none) ()
  obtain rfl := (hsorted _).1 stablySorted_signings
  have hresult : (ofStages signings).route (.select ["t_order"]) (fun _ => none) () =
      (.ok ⟨[⟨⟨"first", "first+then+last"⟩, []⟩]⟩, ()) := by
    rw [hroute]
    rfl
  rw [hresult] at hlog
  have hdistinct : (refusals.map Stage.order).Nodup := by decide
  refine ⟨⟨log, hlog, ?_, ?_, ?_⟩, hdistinct, fun other hother => ?_⟩
  · rw [hcalls]
    rfl
  · rw [hcalls]
    rfl
  · rw [hcalls]
    rfl
  · obtain ⟨sorted, hsorted, ⟨hroute, -⟩, hperm⟩ :=
      route_ofStages refusals (.select ["t_order"]) (fun _ => none) ()
    obtain rfl := (hsorted _).1 stablySorted_refusals
    rw [hperm hdistinct other hother, hroute]
    rfl

end Pipeline

end ShardProxy
