/-
# What first fit keeps

Targets are put into a plan one by one or several at a time.  A plan that was empty at first and
has been given only targets that map no table twice is *packed* (`Plan.Packed`): none of its
targets maps a table twice, no two of them on one data source could be one, and together they map
what has been put, no more and no less.  What a plan holds stays where it is and only gets
longer (`Plan.Grows`).

That two targets clash is decided when the later one is put, while both may still grow.  The clash
lasts because a target answers for a table as it did before once it has an answer
(`Target.find?_of_grown`).
-/

import ShardProxy.Route.Plan

namespace ShardProxy

open Text

namespace Target

variable {target other larger earlier later : Target} {table : String} {m : Mapping}

/-- No table is mapped twice, the case of ASCII letters aside. -/
def Consistent (target : Target) : Prop :=
  target.tables.Pairwise fun a b => alike a.logic b.logic = false

/-- The later target maps a table that the earlier one maps in another way. -/
def Clashes (earlier later : Target) : Prop :=
  ∃ m ∈ later.tables, ∃ existing, earlier.find? m.logic = some existing ∧ existing ≠ m

instance (target : Target) : Decidable target.Consistent :=
  inferInstanceAs (Decidable (target.tables.Pairwise _))

/-! ### Joining two targets -/

/-- A mapping disagrees with another one of its table. -/
theorem agrees_eq_false_iff :
    target.agrees m = false ↔ ∃ existing, target.find? m.logic = some existing ∧ existing ≠ m := by
  rw [agrees]
  cases target.find? m.logic with
  | none => simp
  | some existing => simp

/-- A mapping that agrees is there already, or its table is new. -/
theorem mem_or_new_of_agrees (h : target.agrees m = true) :
    m ∈ target.tables ∨ ∀ e ∈ target.tables, alike e.logic m.logic = false := by
  rw [agrees] at h
  split at h
  · next hnone => exact Or.inr (find?_eq_none_iff.1 hnone)
  · next existing hsome =>
    rw [← beq_iff_eq.1 h]
    exact Or.inl (mem_of_find? hsome).1

/-- A target on the same data source that is not accepted clashes. -/
theorem clashes_of_accepts_eq_false (hd : target.dataSource = other.dataSource)
    (h : target.accepts other = false) : target.Clashes other := by
  rw [accepts, beq_iff_eq.2 hd, Bool.true_and, List.all_eq_false] at h
  obtain ⟨m, hm, hdisagrees⟩ := h
  exact ⟨m, hm, agrees_eq_false_iff.1 (by simpa using hdisagrees)⟩

/-- **A target that has an answer for a table keeps it** when it grows. -/
theorem find?_of_grown (h : List.IsPrefix target.tables larger.tables)
    (hfind : target.find? table = some m) : larger.find? table = some m :=
  h.find?_eq_some hfind

/-- The answer stays when a target absorbs another one. -/
theorem find?_absorb (h : target.find? table = some m) (other : Target) :
    (target.absorb other).find? table = some m :=
  find?_of_grown (prefix_join target.tables other.tables) h

/-- A clash lasts when the earlier target grows. -/
theorem Clashes.absorb_left (h : earlier.Clashes later) (other : Target) :
    (earlier.absorb other).Clashes later := by
  obtain ⟨m, hm, existing, hfind, hne⟩ := h
  exact ⟨m, hm, existing, find?_absorb hfind other, hne⟩

/-- A clash lasts when the later target grows. -/
theorem Clashes.absorb_right (h : earlier.Clashes later) (other : Target) :
    earlier.Clashes (later.absorb other) := by
  obtain ⟨m, hm, existing, hfind, hne⟩ := h
  exact ⟨m, mem_join.2 (Or.inl hm), existing, hfind, hne⟩

/-- Mappings that agree are joined without mapping a table twice. -/
theorem pairwise_join {d : Mapping} {tables ms : List Mapping}
    (htables : tables.Pairwise fun a b => alike a.logic b.logic = false)
    (hms : ms.Pairwise fun a b => alike a.logic b.logic = false)
    (hagree : ∀ m ∈ ms, agrees ⟨d, tables⟩ m = true) :
    (join tables ms).Pairwise fun a b => alike a.logic b.logic = false := by
  induction ms generalizing tables with
  | nil => exact htables
  | cons x ms ih =>
    obtain ⟨hx, hms⟩ := List.pairwise_cons.1 hms
    have hagree' : ∀ m ∈ ms, agrees ⟨d, tables⟩ m = true :=
      fun m hm => hagree m (List.mem_cons_of_mem _ hm)
    rw [join]
    split
    · exact ih htables hms hagree'
    · next hnew =>
      have hfree : ∀ e ∈ tables, alike e.logic x.logic = false :=
        (mem_or_new_of_agrees (hagree x List.mem_cons_self)).resolve_left hnew
      refine ih (List.pairwise_append.2 ⟨htables, List.pairwise_singleton _ _, ?_⟩) hms ?_
      · intro e he y hy
        rw [List.mem_singleton.1 hy]
        exact hfree e he
      · -- The table of a later mapping is not that of `x`, so `x` has no say in it.
        intro m hm
        have hskip : [x].find? (alike ·.logic m.logic) = none := by simp [hx m hm]
        have hfind : find? ⟨d, tables ++ [x]⟩ m.logic = find? ⟨d, tables⟩ m.logic := by
          simp only [find?, List.find?_append, hskip, Option.or_none]
        have hm' := hagree' m hm
        rw [agrees] at hm' ⊢
        rwa [hfind]

/-- **A target that absorbs one which it accepts stays consistent.** -/
theorem Consistent.absorb (h : target.Consistent) (hother : other.Consistent)
    (haccepts : target.accepts other = true) : (target.absorb other).Consistent :=
  pairwise_join h hother (accepts_iff.1 haccepts).2

end Target

/-- **What putting a target does:** the first target that accepts it absorbs it, or none does and
it comes last. -/
theorem putTarget_cases (target : Target) (ts : List Target) :
    (∃ before t after, ts = before ++ t :: after ∧ t.accepts target = true ∧
      putTarget target ts = before ++ t.absorb target :: after) ∨
    (∀ t ∈ ts, t.accepts target = false) ∧ putTarget target ts = ts ++ [target] := by
  induction ts with
  | nil => exact Or.inr ⟨by simp, rfl⟩
  | cons t ts ih =>
    rw [putTarget]
    split
    · next haccepts => exact Or.inl ⟨[], t, ts, rfl, haccepts, rfl⟩
    · next hrefuses =>
      obtain ⟨before, u, after, rfl, haccepts, hput⟩ | ⟨hnone, hput⟩ := ih
      · exact Or.inl ⟨t :: before, u, after, rfl, haccepts, by rw [hput]; rfl⟩
      · refine Or.inr ⟨fun u hu => ?_, by rw [hput]; rfl⟩
        rcases List.mem_cons.1 hu with rfl | hu
        · simpa using hrefuses
        · exact hnone u hu

namespace Plan

/-! ### Packed plans -/

/-- What first fit makes of targets that have been put. -/
structure Packed (added : List Target) (plan : Plan) : Prop where
  /-- No target maps a table twice. -/
  consistent : ∀ t ∈ plan.targets, t.Consistent
  /-- Two targets on one data source clash. -/
  clashes : plan.targets.Pairwise fun a b => a.dataSource = b.dataSource → a.Clashes b
  /-- What has been put is mapped by one target. -/
  kept : ∀ u ∈ added, ∃ t ∈ plan.targets, t.dataSource = u.dataSource ∧ ∀ m ∈ u.tables, m ∈ t.tables
  /-- What is mapped has been put. -/
  origin : ∀ t ∈ plan.targets, ∀ m ∈ t.tables,
    ∃ u ∈ added, u.dataSource = t.dataSource ∧ m ∈ u.tables

/-- Each target of the one plan is in the same place of the other, on the same data source and
with the same tables in front. -/
def Grows (before after : Plan) : Prop :=
  ∀ (i : Nat) (t : Target), before.targets[i]? = some t → ∃ u, after.targets[i]? = some u ∧
    u.dataSource = t.dataSource ∧ List.IsPrefix t.tables u.tables

/-- A plan that stays as it is has grown. -/
theorem Grows.refl (plan : Plan) : plan.Grows plan :=
  fun _ t h => ⟨t, h, rfl, List.prefix_refl _⟩

/-- Growth on growth is growth. -/
theorem Grows.trans {plan plan' plan'' : Plan} (h : plan.Grows plan') (h' : plan'.Grows plan'') :
    plan.Grows plan'' := by
  intro i t ht
  obtain ⟨u, hu, hd, htables⟩ := h i t ht
  obtain ⟨v, hv, hd', htables'⟩ := h' i u hu
  exact ⟨v, hv, hd'.trans hd, htables.trans htables'⟩

section Put

variable {added : List Target} {plan : Plan} {target : Target}

/-- The empty plan is packed of no targets. -/
theorem packed_empty : Packed [] empty where
  consistent _ h := by cases h
  clashes := List.Pairwise.nil
  kept _ h := by cases h
  origin _ h := by cases h

/-- **Putting a target lets a plan grow.** -/
theorem grows_put (plan : Plan) (target : Target) : plan.Grows (plan.put target) := by
  intro i t ht
  rw [put]
  obtain ⟨before, u, after, hts, haccepts, hput⟩ | ⟨-, hput⟩ :=
    putTarget_cases target plan.targets
  · rw [hts] at ht
    rw [hput]
    rcases Nat.lt_trichotomy i before.length with hi | rfl | hi
    · rw [List.getElem?_append_left hi] at ht ⊢
      exact ⟨t, ht, rfl, List.prefix_refl _⟩
    · rw [List.getElem?_append_right (Nat.le_refl _), Nat.sub_self, List.getElem?_cons_zero] at ht ⊢
      obtain rfl := Option.some.inj ht
      exact ⟨_, rfl, rfl, Target.prefix_join _ _⟩
    · obtain ⟨k, hk⟩ := Nat.exists_eq_add_of_lt hi
      have hsub : i - before.length = k + 1 := by omega
      rw [List.getElem?_append_right (Nat.le_of_lt hi), hsub, List.getElem?_cons_succ] at ht ⊢
      exact ⟨t, ht, rfl, List.prefix_refl _⟩
  · rw [hput]
    obtain ⟨hi, -⟩ := List.getElem?_eq_some_iff.1 ht
    exact ⟨t, by rwa [List.getElem?_append_left hi], rfl, List.prefix_refl _⟩

/-- A target that none accepts comes last, and clashes with those of its data source. -/
theorem Packed.append (h : Packed added plan) (ht : target.Consistent)
    (hnone : ∀ t ∈ plan.targets, t.accepts target = false) :
    Packed (added ++ [target]) ⟨plan.targets ++ [target]⟩ where
  consistent t hmem := by
    rcases List.mem_append.1 hmem with hmem | hmem
    · exact h.consistent t hmem
    · rwa [List.mem_singleton.1 hmem]
  clashes := by
    refine List.pairwise_append.2 ⟨h.clashes, List.pairwise_singleton _ _, ?_⟩
    intro t hmem u hu hd
    rw [List.mem_singleton.1 hu] at hd ⊢
    exact Target.clashes_of_accepts_eq_false hd (hnone t hmem)
  kept u hu := by
    rcases List.mem_append.1 hu with hu | hu
    · obtain ⟨t, hmem, hkept⟩ := h.kept u hu
      exact ⟨t, List.mem_append_left _ hmem, hkept⟩
    · rw [List.mem_singleton.1 hu]
      exact ⟨target, by simp, rfl, fun _ hm => hm⟩
  origin t hmem m hm := by
    rcases List.mem_append.1 hmem with hmem | hmem
    · obtain ⟨u, hu, horigin⟩ := h.origin t hmem m hm
      exact ⟨u, List.mem_append_left _ hu, horigin⟩
    · rw [List.mem_singleton.1 hmem] at hm ⊢
      exact ⟨target, by simp, rfl, hm⟩

/-- A target that accepts another takes its place with what the other maps. -/
theorem Packed.absorb {before after : List Target} {t : Target}
    (h : Packed added ⟨before ++ t :: after⟩) (ht : target.Consistent)
    (haccepts : t.accepts target = true) :
    Packed (added ++ [target]) ⟨before ++ t.absorb target :: after⟩ := by
  have hd : t.dataSource = target.dataSource := (Target.accepts_iff.1 haccepts).1
  have hmid : t ∈ before ++ t :: after := by simp
  -- A target is the one that has grown, or was there.
  have hcases : ∀ u ∈ before ++ t.absorb target :: after,
      u = t.absorb target ∨ u ∈ before ++ t :: after := by
    intro u hu
    rcases List.mem_append.1 hu with hu | hu
    · exact Or.inr (List.mem_append_left _ hu)
    · rcases List.mem_cons.1 hu with rfl | hu
      · exact Or.inl rfl
      · exact Or.inr (List.mem_append_right _ (List.mem_cons_of_mem _ hu))
  constructor
  · intro u hu
    rcases hcases u hu with rfl | hu
    · exact (h.consistent t hmid).absorb ht haccepts
    · exact h.consistent u hu
  · obtain ⟨hbefore, hrest, hcross⟩ := List.pairwise_append.1 h.clashes
    obtain ⟨hhead, hafter⟩ := List.pairwise_cons.1 hrest
    refine List.pairwise_append.2 ⟨hbefore, List.pairwise_cons.2 ⟨?_, hafter⟩, ?_⟩
    · exact fun u hu hdu => (hhead u hu hdu).absorb_left target
    · intro u hu v hv hdv
      rcases List.mem_cons.1 hv with rfl | hv
      · exact (hcross u hu t List.mem_cons_self hdv).absorb_right target
      · exact hcross u hu v (List.mem_cons_of_mem _ hv) hdv
  · have hgrown : t.absorb target ∈ before ++ t.absorb target :: after := by simp
    intro u hu
    rcases List.mem_append.1 hu with hu | hu
    · obtain ⟨v, hv, hdv, htables⟩ := h.kept u hu
      rcases List.mem_append.1 hv with hv | hv
      · exact ⟨v, List.mem_append_left _ hv, hdv, htables⟩
      · rcases List.mem_cons.1 hv with rfl | hv
        · exact ⟨_, hgrown, hdv, fun m hm => Target.mem_join.2 (Or.inl (htables m hm))⟩
        · exact ⟨v, List.mem_append_right _ (List.mem_cons_of_mem _ hv), hdv, htables⟩
    · rw [List.mem_singleton.1 hu]
      exact ⟨_, hgrown, hd, fun m hm => Target.mem_join.2 (Or.inr hm)⟩
  · intro u hu m hm
    rcases hcases u hu with rfl | hu
    · rcases Target.mem_join.1 hm with hm | hm
      · obtain ⟨v, hv, horigin⟩ := h.origin t hmid m hm
        exact ⟨v, List.mem_append_left _ hv, horigin⟩
      · exact ⟨target, by simp, hd.symm, hm⟩
    · obtain ⟨v, hv, horigin⟩ := h.origin u hu m hm
      exact ⟨v, List.mem_append_left _ hv, horigin⟩

/-- **Putting a target keeps a plan packed.** -/
theorem Packed.put (h : Packed added plan) (ht : target.Consistent) :
    Packed (added ++ [target]) (plan.put target) := by
  obtain ⟨targets⟩ := plan
  rw [Plan.put]
  obtain ⟨before, t, after, rfl, haccepts, hput⟩ | ⟨hnone, hput⟩ := putTarget_cases target targets
  · rw [hput]
    exact h.absorb ht haccepts
  · rw [hput]
    exact h.append ht hnone

end Put

/-! ### Any sequence of additions -/

/-- What is added to a plan in one go. -/
inductive Addition where
  | put (target : Target)
  | extend (targets : List Target)

/-- The targets of an addition. -/
def Addition.targets : Addition → List Target
  | put target => [target]
  | extend targets => targets

/-- Adds to a plan. -/
def add (plan : Plan) : Addition → Plan
  | .put target => plan.put target
  | .extend targets => plan.putAll targets

/-- Adds to a plan again and again. -/
def addAll (plan : Plan) (additions : List Addition) : Plan :=
  additions.foldl add plan

/-- Several additions are one. -/
theorem addAll_eq_putAll (plan : Plan) (additions : List Addition) :
    plan.addAll additions = plan.putAll (additions.flatMap Addition.targets) := by
  induction additions generalizing plan with
  | nil => rfl
  | cons addition additions ih =>
    have hcons : plan.addAll (addition :: additions) = (plan.add addition).addAll additions := rfl
    rw [hcons, ih, List.flatMap_cons, putAll_append]
    cases addition <;> rfl

/-- **Putting targets one by one keeps a plan packed.** -/
theorem Packed.putAll {added targets : List Target} {plan : Plan} (h : Packed added plan)
    (ht : ∀ t ∈ targets, t.Consistent) : Packed (added ++ targets) (plan.putAll targets) := by
  induction targets generalizing added plan with
  | nil => simpa using h
  | cons t targets ih =>
    have hput : Packed (added ++ [t]) (plan.put t) := h.put (ht t List.mem_cons_self)
    have hrest := ih hput fun u hu => ht u (List.mem_cons_of_mem _ hu)
    rwa [List.append_assoc] at hrest

/-- **A plan only grows under the targets that are put.** -/
theorem grows_putAll (plan : Plan) (targets : List Target) : plan.Grows (plan.putAll targets) := by
  induction targets generalizing plan with
  | nil => exact .refl plan
  | cons t targets ih => exact (grows_put plan t).trans (ih _)

/-- **A plan to which only consistent targets have been added is packed, and grows.**  Whatever
the sequence of additions: none of its targets maps a table twice; of two on one data source the
later one maps a table that the earlier one maps in another way; every target that has been put
is contained in one on its data source, and every mapping comes from one on its data source; and
whatever is added next, the targets stay where they are and lose nothing. -/
theorem packed_of_additions {additions : List Addition}
    (h : ∀ addition ∈ additions, ∀ target ∈ addition.targets, target.Consistent) :
    Packed (additions.flatMap Addition.targets) (empty.addAll additions) ∧
      ∀ more, (empty.addAll additions).Grows ((empty.addAll additions).addAll more) := by
  constructor
  · have hall : ∀ t ∈ additions.flatMap Addition.targets, t.Consistent := by
      intro t ht
      obtain ⟨addition, ha, ht⟩ := List.mem_flatMap.1 ht
      exact h addition ha t ht
    rw [addAll_eq_putAll]
    simpa using packed_empty.putAll hall
  · intro more
    rw [addAll_eq_putAll _ more]
    exact grows_putAll _ _

/-- Orders of `main` that go apart because only the case of a logical name differs, and a target of
two tables that finds its place behind both. -/
theorem packed_of_additions_main :
    let main := Mapping.identity "main"
    let additions : List Addition :=
      [.put ⟨main, [⟨"t_order", "t_0"⟩]⟩,
        .extend [⟨main, [⟨"T_Order", "t_0"⟩]⟩, ⟨main, [⟨"item", "i_0"⟩]⟩],
        .put ⟨main, [⟨"T_ORDER", "t_0"⟩, ⟨"item", "i_1"⟩]⟩]
    (∀ addition ∈ additions, ∀ target ∈ addition.targets, target.Consistent) ∧
      empty.addAll additions =
        ⟨[⟨main, [⟨"t_order", "t_0"⟩, ⟨"item", "i_0"⟩]⟩, ⟨main, [⟨"T_Order", "t_0"⟩]⟩,
          ⟨main, [⟨"T_ORDER", "t_0"⟩, ⟨"item", "i_1"⟩]⟩]⟩ ∧
      Packed (additions.flatMap Addition.targets) (empty.addAll additions) := by
  intro main additions
  have h : ∀ addition ∈ additions, ∀ target ∈ addition.targets, target.Consistent := by decide
  exact ⟨h, by decide, (packed_of_additions h).1⟩

end Plan

end ShardProxy
