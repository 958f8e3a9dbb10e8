/-
# First fit, data source by data source

`Plan.put` gives a target to the first target of a plan that accepts it, and
only targets on one data source accept each other.  So each data source can be
looked at by itself: the tables of its targets, in the order of the plan, are its
*layers*, and to put a target is first fit into the layers of its data source
(`layersOn_putTarget`).

When a table is placed that no layer maps yet, its first node goes to the first
layer, its second node to the second, and so on, into new layers once the old
ones are used up: the nodes are *stacked* upon the layers.  A node that comes a
second time finds the layer that has it, because the layers which map the table
come before those which do not (`putLayer_stack`), so what counts are the
distinct nodes (`layersOn_putAll`).
-/

import ShardProxy.Route.Plan
import Mathlib.Data.List.Induction

namespace ShardProxy

open Text

/-- The tables of the targets on a data source, in the order of the plan. -/
def layersOn (d : Mapping) (targets : List Target) : List (List Mapping) :=
  (targets.filter fun t => t.dataSource = d).map Target.tables

/-- First fit into layers. -/
def putLayer (target : Target) : List (List Mapping) → List (List Mapping)
  | [] => [target.tables]
  | layer :: layers =>
    if target.tables.all (Target.agrees ⟨target.dataSource, layer⟩) then
      Target.join layer target.tables :: layers
    else layer :: putLayer target layers

/-- The mappings of one table on top of layers, one for each, in new layers at the end. -/
def stack : List (List Mapping) → List Mapping → List (List Mapping)
  | layers, [] => layers
  | [], m :: ms => [m] :: stack [] ms
  | layer :: layers, m :: ms => (layer ++ [m]) :: stack layers ms

/-- A layer that does not map a table. -/
def Free (table : String) (layer : List Mapping) : Prop :=
  ∀ m ∈ layer, alike m.logic table = false

/-- Without mappings the layers stay as they are. -/
@[simp] theorem stack_nil (layers : List (List Mapping)) : stack layers [] = layers := by
  cases layers <;> rfl

/-! ### One data source at a time -/

/-- **A target concerns its own data source,** where it is put by first fit. -/
theorem layersOn_putTarget_self (target : Target) (ts : List Target) :
    layersOn target.dataSource (putTarget target ts) =
      putLayer target (layersOn target.dataSource ts) := by
  induction ts with
  | nil => simp [putTarget, layersOn, putLayer]
  | cons t ts ih =>
    rw [putTarget]
    by_cases hd : t.dataSource = target.dataSource
    · have hacc : t.accepts target =
          target.tables.all (Target.agrees ⟨target.dataSource, t.tables⟩) := by
        rw [Target.accepts, beq_iff_eq.2 hd, Bool.true_and, ← hd]
      have hcons : layersOn target.dataSource (t :: ts) =
          t.tables :: layersOn target.dataSource ts := by simp [layersOn, hd]
      rw [hcons, putLayer, ← hacc]
      split
      · simp [layersOn, hd, Target.absorb]
      · rw [← ih]
        simp [layersOn, hd]
    · have hacc : t.accepts target = false := by simp [Target.accepts, hd]
      have hcons : ∀ us, layersOn target.dataSource (t :: us) = layersOn target.dataSource us :=
        fun us => by simp [layersOn, hd]
      rw [if_neg (by simp [hacc]), hcons, hcons, ih]

/-- **A target does not concern any other data source.** -/
theorem layersOn_putTarget_of_ne {d : Mapping} {target : Target} (h : target.dataSource ≠ d)
    (ts : List Target) : layersOn d (putTarget target ts) = layersOn d ts := by
  induction ts with
  | nil => simp [putTarget, layersOn, h]
  | cons t ts ih =>
    rw [putTarget]
    split
    · next hacc =>
      have ht : t.dataSource ≠ d := (Target.accepts_iff.1 hacc).1 ▸ h
      simp [layersOn, Target.absorb, ht]
    · by_cases ht : t.dataSource = d
      · simpa [layersOn, ht] using ih
      · simpa [layersOn, ht] using ih

/-! ### One table at a time -/

/-- A layer that does not map a table agrees with every mapping of it. -/
theorem agrees_of_free {d m : Mapping} {layer : List Mapping} (h : Free m.logic layer) :
    Target.agrees ⟨d, layer⟩ m = true := by
  have hnone : layer.find? (alike ·.logic m.logic) = none :=
    List.find?_eq_none.2 fun e he => by simp [h e he]
  simp [Target.agrees, Target.find?, hnone]

/-- A layer with a mapping of a table agrees with no other mapping of it. -/
theorem agrees_append {d m x : Mapping} {layer : List Mapping} (h : Free m.logic layer)
    (hx : x.logic = m.logic) : Target.agrees ⟨d, layer ++ [x]⟩ m = (x == m) := by
  have hnone : layer.find? (alike ·.logic m.logic) = none :=
    List.find?_eq_none.2 fun e he => by simp [h e he]
  simp [Target.agrees, Target.find?, List.find?_append, hnone, hx]

/-- A layer that does not map a table has no mapping of it. -/
theorem not_mem_of_free {m : Mapping} {layer : List Mapping} (h : Free m.logic layer) :
    m ∉ layer := fun hm => by simpa using h m hm

/-- **First fit finds a repeated mapping where it is and puts a new one on top:** the layers
which map the table come first. -/
theorem putLayer_stack {d m : Mapping} {layers : List (List Mapping)} {ms : List Mapping}
    (hfree : ∀ layer ∈ layers, Free m.logic layer) (hms : ∀ x ∈ ms, x.logic = m.logic) :
    putLayer ⟨d, [m]⟩ (stack layers ms) = stack layers (if m ∈ ms then ms else ms ++ [m]) := by
  induction ms generalizing layers with
  | nil =>
    cases layers with
    | nil => simp [putLayer, stack]
    | cons layer layers =>
      have hl : Free m.logic layer := hfree layer List.mem_cons_self
      simp [putLayer, stack, agrees_of_free hl, Target.join, not_mem_of_free hl]
  | cons x ms ih =>
    have hx : x.logic = m.logic := hms x List.mem_cons_self
    have hms' : ∀ y ∈ ms, y.logic = m.logic := fun y hy => hms y (List.mem_cons_of_mem _ hy)
    -- Both kinds of bottom layer end in `x` once `x` is stacked, so one step serves both.
    have key : ∀ layer rest, Free m.logic layer → (∀ l ∈ rest, Free m.logic l) →
        putLayer ⟨d, [m]⟩ ((layer ++ [x]) :: stack rest ms) =
          (layer ++ [x]) ::
            stack rest (if x = m then ms else if m ∈ ms then ms else ms ++ [m]) := by
      intro layer rest hl hrest
      rw [putLayer]
      simp only [List.all_cons, List.all_nil, Bool.and_true, agrees_append hl hx, beq_iff_eq]
      by_cases hxm : x = m
      · simp [hxm, Target.join]
      · simp only [if_neg hxm]
        rw [ih hrest hms']
    have hcases : (if m ∈ x :: ms then x :: ms else x :: ms ++ [m]) =
        x :: (if x = m then ms else if m ∈ ms then ms else ms ++ [m]) := by
      by_cases hxm : x = m
      · simp [hxm]
      · by_cases hm : m ∈ ms <;> simp [hm, hxm, Ne.symm hxm]
    rw [hcases]
    cases layers with
    | nil => exact key [] [] (by simp [Free]) (by simp)
    | cons layer layers =>
      exact key layer layers (hfree layer List.mem_cons_self)
        fun l hl => hfree l (List.mem_cons_of_mem _ hl)

/-- **The nodes of a table are stacked upon the layers,** each of them once. -/
theorem foldl_putLayer {d : Mapping} {table : String} {layers : List (List Mapping)}
    (hfree : ∀ layer ∈ layers, Free table layer) (ms : List Mapping)
    (hms : ∀ m ∈ ms, m.logic = table) :
    ms.foldl (fun ls m => putLayer ⟨d, [m]⟩ ls) layers = stack layers (distinct ms) := by
  induction ms using List.reverseRecOn with
  | nil => simp [distinct, distinctBy]
  | append_singleton ms m ih =>
    have hm : m.logic = table := hms m (by simp)
    have hms' : ∀ x ∈ ms, x.logic = table := fun x hx => hms x (List.mem_append_left _ hx)
    rw [List.foldl_append, List.foldl_cons, List.foldl_nil, ih hms', distinct_append_singleton]
    have hput : putLayer ⟨d, [m]⟩ (stack layers (distinct ms)) =
        stack layers (if m ∈ distinct ms then distinct ms else distinct ms ++ [m]) :=
      putLayer_stack (hm.symm ▸ hfree) fun x hx => (hms' x (mem_distinct.1 hx)).trans hm.symm
    simpa using hput

/-- Targets that each map one table, and that alone. -/
def Places (table : String) (targets : List Target) : Prop :=
  ∀ t ∈ targets, ∃ actual, t.tables = [⟨table, actual⟩]

/-- The layers of a data source take up its mappings one by one. -/
theorem layersOn_putAll_eq_foldl {d : Mapping} {table : String} {targets : List Target}
    (ht : Places table targets) (plan : Plan) :
    layersOn d (plan.putAll targets).targets =
      (layersOn d targets).flatten.foldl (fun ls m => putLayer ⟨d, [m]⟩ ls)
        (layersOn d plan.targets) := by
  induction targets generalizing plan with
  | nil => rfl
  | cons t targets ih =>
    obtain ⟨actual, hactual⟩ := ht t List.mem_cons_self
    have hrest : Places table targets := fun u hu => ht u (List.mem_cons_of_mem _ hu)
    rw [Plan.putAll_cons, ih hrest, Plan.put]
    by_cases hd : t.dataSource = d
    · subst hd
      have hcons : (layersOn t.dataSource (t :: targets)).flatten =
          ⟨table, actual⟩ :: (layersOn t.dataSource targets).flatten := by
        simp [layersOn, hactual]
      rw [layersOn_putTarget_self, hcons, List.foldl_cons, ← hactual]
    · have hcons : layersOn d (t :: targets) = layersOn d targets := by simp [layersOn, hd]
      rw [layersOn_putTarget_of_ne hd, hcons]

/-- Targets that place a table map no other table. -/
theorem logic_of_mem_layersOn {d m : Mapping} {table : String} {targets : List Target}
    (ht : Places table targets) (hm : m ∈ (layersOn d targets).flatten) : m.logic = table := by
  obtain ⟨layer, hlayer, hm⟩ := List.mem_flatten.1 hm
  obtain ⟨t, htd, rfl⟩ := List.mem_map.1 hlayer
  obtain ⟨actual, hactual⟩ := ht t (List.mem_filter.1 htd).1
  rw [hactual, List.mem_singleton] at hm
  rw [hm]

/-- **To place a table is to stack its distinct nodes,** on every data source by itself. -/
theorem layersOn_putAll {d : Mapping} {table : String} {targets : List Target} {plan : Plan}
    (hfree : ∀ layer ∈ layersOn d plan.targets, Free table layer) (ht : Places table targets) :
    layersOn d (plan.putAll targets).targets =
      stack (layersOn d plan.targets) (distinct (layersOn d targets).flatten) := by
  rw [layersOn_putAll_eq_foldl ht]
  exact foldl_putLayer hfree _ fun m hm => logic_of_mem_layersOn ht hm

/-! ### What a stack holds -/

/-- **Stacking loses nothing, adds nothing and repeats nothing.** -/
theorem flatten_stack_perm (layers : List (List Mapping)) (ms : List Mapping) :
    (stack layers ms).flatten.Perm (layers.flatten ++ ms) := by
  induction ms generalizing layers with
  | nil => simp
  | cons m ms ih =>
    cases layers with
    | nil => simpa [stack] using (ih []).cons m
    | cons layer layers =>
      have h : (stack layers ms).flatten.Perm (layers.flatten ++ ms) := ih layers
      simp only [stack, List.flatten_cons, List.append_assoc, List.singleton_append]
      refine List.Perm.append_left layer ?_
      exact (h.cons m).trans List.perm_middle.symm

/-- A layer of a stack is an old one, an old one with a new mapping on top, or a new one. -/
theorem mem_stack {layer : List Mapping} {layers : List (List Mapping)} {ms : List Mapping}
    (h : layer ∈ stack layers ms) :
    layer ∈ layers ∨ ∃ m ∈ ms, layer = [m] ∨ ∃ old ∈ layers, layer = old ++ [m] := by
  induction ms generalizing layers with
  | nil => exact Or.inl (by simpa using h)
  | cons m ms ih =>
    cases layers with
    | nil =>
      rcases List.mem_cons.1 h with rfl | h
      · exact Or.inr ⟨m, List.mem_cons_self, Or.inl rfl⟩
      · obtain h | ⟨x, hx, h⟩ := ih h
        · exact Or.inl h
        · exact Or.inr ⟨x, List.mem_cons_of_mem _ hx, h⟩
    | cons old layers =>
      rcases List.mem_cons.1 h with rfl | h
      · exact Or.inr ⟨m, List.mem_cons_self, Or.inr ⟨old, List.mem_cons_self, rfl⟩⟩
      · obtain h | ⟨x, hx, h | ⟨o, ho, h⟩⟩ := ih h
        · exact Or.inl (List.mem_cons_of_mem _ h)
        · exact Or.inr ⟨x, List.mem_cons_of_mem _ hx, Or.inl h⟩
        · exact Or.inr ⟨x, List.mem_cons_of_mem _ hx, Or.inr ⟨o, List.mem_cons_of_mem _ ho, h⟩⟩

end ShardProxy
