/-
# Targets that are put again

To put a target a second time changes nothing, whatever has been put since.  A target that has been
put is *settled* (`Plan.Settled`): some target of the plan holds all that it maps, and all targets
before that one refuse it.  Then first fit finds the target that holds it and has nothing to add
(`Plan.put_of_settled`).

It stays settled when the plan grows (`Plan.Settled.grows`).  A target that has an answer for a
table keeps the answer, so what is held goes on being held, and what is refused goes on being
refused: no target accepts more than it did before it grew (`Target.accepts_of_grown`).  The plan to
begin with may be any, but a target that is put must not map a table twice, for then not even the
target itself would accept it.
-/

import ShardProxy.Proofs.Routing.FirstFit
import Mathlib.Data.List.Pairwise

namespace ShardProxy

open Text

namespace Target

variable {target other larger : Target} {table : String} {m : Mapping}

/-- The target answers for the tables of another one on its data source as the other maps them. -/
def Holds (target other : Target) : Prop :=
  target.dataSource = other.dataSource ∧ ∀ m ∈ other.tables, target.find? m.logic = some m

/-- **A target does not accept more when it has grown.** -/
theorem accepts_of_grown (hd : larger.dataSource = target.dataSource)
    (h : List.IsPrefix target.tables larger.tables) (haccepts : larger.accepts other = true) :
    target.accepts other = true := by
  rw [accepts_iff] at haccepts ⊢
  refine ⟨hd ▸ haccepts.1, fun m hm => ?_⟩
  have hagrees := haccepts.2 m hm
  rw [agrees] at hagrees ⊢
  cases hfind : target.find? m.logic with
  | none => rfl
  | some existing =>
    rw [find?_of_grown h hfind] at hagrees
    exact hagrees

/-- A target goes on holding what it holds when it grows. -/
theorem Holds.grown (hholds : target.Holds other) (hd : larger.dataSource = target.dataSource)
    (h : List.IsPrefix target.tables larger.tables) : larger.Holds other :=
  ⟨hd.trans hholds.1, fun m hm => find?_of_grown h (hholds.2 m hm)⟩

/-- A target accepts what it holds. -/
theorem Holds.accepts (h : target.Holds other) : target.accepts other = true := by
  rw [accepts_iff]
  refine ⟨h.1, fun m hm => ?_⟩
  rw [agrees, h.2 m hm]
  exact beq_self_eq_true m

/-- Joining adds nothing that is there. -/
theorem join_eq_self {tables ms : List Mapping} (h : ∀ m ∈ ms, m ∈ tables) :
    join tables ms = tables := by
  induction ms with
  | nil => rfl
  | cons m ms ih =>
    rw [join, if_pos (h m List.mem_cons_self)]
    exact ih fun x hx => h x (List.mem_cons_of_mem _ hx)

/-- **To absorb what it holds leaves a target as it is.** -/
theorem Holds.absorb_eq (h : target.Holds other) : target.absorb other = target := by
  rw [absorb, join_eq_self fun m hm => (mem_of_find? (h.2 m hm)).1]

/-- A consistent target has one mapping for a table. -/
theorem Consistent.eq_of_alike (h : target.Consistent) {x : Mapping} (hx : x ∈ target.tables)
    (hm : m ∈ target.tables) (halike : alike x.logic m.logic = true) : x = m := by
  have hsymm : Std.Symm fun a b : Mapping => alike a.logic b.logic = false :=
    ⟨fun a b hab => by rwa [alike_comm]⟩
  by_contra hne
  have hunlike : alike x.logic m.logic = false := List.Pairwise.forall h hx hm hne
  rw [halike] at hunlike
  cases hunlike

/-- The only mapping for its table is the answer. -/
theorem find?_of_unique (hm : m ∈ target.tables)
    (h : ∀ x ∈ target.tables, alike x.logic m.logic = true → x = m) :
    target.find? m.logic = some m := by
  cases hfind : target.find? m.logic with
  | none =>
    have hunlike := find?_eq_none_iff.1 hfind m hm
    rw [alike_refl] at hunlike
    cases hunlike
  | some x =>
    obtain ⟨hx, halike⟩ := mem_of_find? hfind
    rw [h x hx halike]

/-- A consistent target holds itself. -/
theorem Consistent.holds_self (h : target.Consistent) : target.Holds target :=
  ⟨rfl, fun _ hm => find?_of_unique hm fun _ hx halike => h.eq_of_alike hx hm halike⟩

/-- **A target holds what it has absorbed,** if it has accepted it. -/
theorem Consistent.holds_absorb (h : other.Consistent) (haccepts : target.accepts other = true) :
    (target.absorb other).Holds other := by
  rw [accepts_iff] at haccepts
  refine ⟨haccepts.1, fun m hm => ?_⟩
  cases hfind : target.find? m.logic with
  | some existing =>
    have hagrees := haccepts.2 m hm
    rw [agrees, hfind] at hagrees
    rw [← beq_iff_eq.1 hagrees] at hfind ⊢
    exact find?_absorb hfind other
  | none =>
    -- The table is new, so its mappings come from the other target, which has only one.
    refine find?_of_unique (mem_join.2 (Or.inr hm)) fun x hx halike => ?_
    rcases mem_join.1 hx with hx | hx
    · rw [find?_eq_none_iff.1 hfind x hx] at halike
      cases halike
    · exact h.eq_of_alike hx hm halike

end Target

namespace Plan

variable {plan after : Plan} {target : Target} {targets : List Target}

/-- A target of the plan holds another one, which all targets before it refuse. -/
def Settled (plan : Plan) (target : Target) : Prop :=
  ∃ (i : Nat) (t : Target), plan.targets[i]? = some t ∧ t.Holds target ∧
    ∀ j < i, ∀ s, plan.targets[j]? = some s → s.accepts target = false

/-- **A target that is put settles.** -/
theorem settled_put (h : target.Consistent) (plan : Plan) : (plan.put target).Settled target := by
  obtain ⟨ts⟩ := plan
  unfold Settled put
  dsimp only
  induction ts with
  | nil => exact ⟨0, target, rfl, h.holds_self, fun j hj => by cases hj⟩
  | cons t ts ih =>
    rw [putTarget]
    split
    · next haccepts =>
      exact ⟨0, t.absorb target, rfl, h.holds_absorb haccepts, fun j hj => by cases hj⟩
    · next hrefuses =>
      obtain ⟨i, u, hu, hholds, hbefore⟩ := ih
      refine ⟨i + 1, u, hu, hholds, fun j hj s hs => ?_⟩
      cases j with
      | zero =>
        cases hs
        exact Bool.eq_false_iff.2 hrefuses
      | succ j => exact hbefore j (Nat.lt_of_succ_lt_succ hj) s hs

/-- **What is settled stays settled** when the plan grows. -/
theorem Settled.grows (h : plan.Settled target) (hgrows : plan.Grows after) :
    after.Settled target := by
  obtain ⟨i, t, ht, hholds, hbefore⟩ := h
  obtain ⟨u, hu, hd, htables⟩ := hgrows i t ht
  refine ⟨i, u, hu, hholds.grown hd htables, fun j hj s hs => ?_⟩
  -- What stands in front has stood there before.
  have hlt : j < plan.targets.length :=
    Nat.lt_trans hj (List.getElem?_eq_some_iff.1 ht).1
  obtain ⟨s', hs', hd', htables'⟩ := hgrows j _ (List.getElem?_eq_getElem hlt)
  obtain rfl : s' = s := Option.some.inj (hs'.symm.trans hs)
  refine Bool.eq_false_iff.2 fun haccepts => ?_
  have hrefused := hbefore j hj _ (List.getElem?_eq_getElem hlt)
  rw [Target.accepts_of_grown hd' htables' haccepts] at hrefused
  cases hrefused

/-- **Putting a settled target changes nothing.** -/
theorem put_of_settled (h : plan.Settled target) : plan.put target = plan := by
  obtain ⟨ts⟩ := plan
  obtain ⟨i, t, ht, hholds, hbefore⟩ := h
  refine congrArg Plan.mk ?_
  dsimp only at ht hbefore
  induction ts generalizing i with
  | nil => cases ht
  | cons s ts ih =>
    rw [putTarget]
    cases i with
    | zero =>
      cases ht
      rw [if_pos hholds.accepts, hholds.absorb_eq]
    | succ i =>
      have hrefuses : s.accepts target = false := hbefore 0 (Nat.succ_pos i) s rfl
      have hrest := ih i ht fun j hj s hs => hbefore (j + 1) (Nat.succ_lt_succ hj) s hs
      rw [if_neg (Bool.eq_false_iff.1 hrefuses), hrest]

/-- All targets that are put are settled in the end. -/
theorem settled_putAll (h : ∀ t ∈ targets, t.Consistent) (plan : Plan) :
    ∀ t ∈ targets, (plan.putAll targets).Settled t := by
  induction targets generalizing plan with
  | nil => exact fun t ht => by cases ht
  | cons first targets ih =>
    intro t ht
    rcases List.mem_cons.1 ht with rfl | ht
    · exact (settled_put (h t List.mem_cons_self) plan).grows (grows_putAll _ _)
    · exact ih (fun u hu => h u (List.mem_cons_of_mem _ hu)) _ t ht

/-- Putting settled targets changes nothing. -/
theorem putAll_of_settled (h : ∀ t ∈ targets, plan.Settled t) : plan.putAll targets = plan := by
  induction targets with
  | nil => rfl
  | cons first targets ih =>
    rw [putAll_cons, put_of_settled (h first List.mem_cons_self)]
    exact ih fun t ht => h t (List.mem_cons_of_mem _ ht)

/-- **Targets that are put again change nothing.**  To whatever plan targets are added that each map
no table twice: to add the same targets once more leaves the plan as it is, with the same targets
and the same mappings in the same order. -/
theorem putAll_putAll (h : ∀ t ∈ targets, t.Consistent) (plan : Plan) :
    (plan.putAll targets).putAll targets = plan.putAll targets :=
  putAll_of_settled (settled_putAll h plan)

/-- A plan with a target that maps orders twice.  The first target to be added goes to the one
behind it, the others let both grow; added again they all find what they have left. -/
theorem putAll_putAll_main :
    let main := Mapping.identity "main"
    let plan : Plan := ⟨[⟨main, [⟨"t_order", "t_0"⟩, ⟨"T_Order", "t_1"⟩]⟩, ⟨main, []⟩]⟩
    let targets : List Target :=
      [⟨main, [⟨"T_ORDER", "t_0"⟩]⟩, ⟨main, [⟨"item", "i_0"⟩]⟩,
        ⟨main, [⟨"t_order", "t_0"⟩, ⟨"stock", "s_0"⟩]⟩, ⟨main, [⟨"Item", "i_0"⟩]⟩]
    (∀ t ∈ targets, t.Consistent) ∧
      plan.putAll targets =
        ⟨[⟨main, [⟨"t_order", "t_0"⟩, ⟨"T_Order", "t_1"⟩, ⟨"item", "i_0"⟩, ⟨"stock", "s_0"⟩]⟩,
          ⟨main, [⟨"T_ORDER", "t_0"⟩, ⟨"Item", "i_0"⟩]⟩]⟩ ∧
      (plan.putAll targets).putAll targets = plan.putAll targets := by
  intro main plan targets
  have h : ∀ t ∈ targets, t.Consistent := by decide
  exact ⟨h, by decide, putAll_putAll h plan⟩

/-- A target that maps orders twice finds no place again: it does not even accept itself. -/
example :
    let target : Target := ⟨Mapping.identity "main", [⟨"t_order", "t_0"⟩, ⟨"T_Order", "t_1"⟩]⟩
    (empty.putAll [target]).targets.length = 1 ∧
      ((empty.putAll [target]).putAll [target]).targets.length = 2 := by decide

end Plan

end ShardProxy
