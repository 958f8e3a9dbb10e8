/-
# The spelling of tables does not matter

Two statements may name the same tables in different spellings.  Some steps of routing ask whether
names are alike, others whether mappings are equal, so to compare the two runs takes more than alike
names: what is equal in the one run must be equal in the other.  A *respelling* gives both.  It is
a permutation of all names that sends each name to an alike one.

Whatever first fit does commutes with a change of mappings that keeps equal ones equal and alike
ones alike (`Faithful.putTarget`), and a respelling is such a change (`Sharding.faithful_respell`).
Of several alike names a statement keeps the first.  So of two lists of names that are alike in
pairs the same places are kept, and what is left of the one is a respelling of what is left of the
other (`exists_respelling`).  The plans of the two statements show the same targets in the same
order, over alike tables, or both statements fail at the same place (`Sharding.plan_of_alike`).
-/

import ShardProxy.Proofs.Routing.TableOrder
import Mathlib.Data.List.Forall2
import Mathlib.Logic.Equiv.Basic

namespace ShardProxy

open Text

/-! ### First fit under a change of mappings -/

/-- A change of mappings that makes no two of them equal and leaves alike tables alike. -/
structure Faithful (change : Mapping → Mapping) : Prop where
  injective : Function.Injective change
  alike_logic : ∀ m n, alike (change m).logic (change n).logic = alike m.logic n.logic

/-- The target with other mappings. -/
def Target.mapTables (change : Mapping → Mapping) (target : Target) : Target :=
  { target with tables := target.tables.map change }

/-- The plan with other mappings. -/
def Plan.mapTables (change : Mapping → Mapping) (plan : Plan) : Plan :=
  ⟨plan.targets.map (Target.mapTables change)⟩

namespace Faithful

variable {change : Mapping → Mapping} (h : Faithful change)

include h

/-- A changed target finds the changed mapping. -/
theorem find? (target : Target) (m : Mapping) :
    (target.mapTables change).find? (change m).logic = (target.find? m.logic).map change := by
  have hsame : (alike ·.logic (change m).logic) ∘ change = (alike ·.logic m.logic) :=
    funext fun e => h.alike_logic e m
  rw [Target.find?, Target.mapTables, List.find?_map, hsame]
  rfl

/-- A changed target agrees with a changed mapping as before. -/
theorem agrees (target : Target) (m : Mapping) :
    (target.mapTables change).agrees (change m) = target.agrees m := by
  rw [Target.agrees, Target.agrees, h.find?]
  cases target.find? m.logic with
  | none => rfl
  | some existing =>
    show (change existing == change m) = (existing == m)
    rw [Bool.eq_iff_iff, beq_iff_eq, beq_iff_eq, h.injective.eq_iff]

/-- A changed target accepts a changed one as before. -/
theorem accepts (target other : Target) :
    (target.mapTables change).accepts (other.mapTables change) = target.accepts other := by
  have hall : (other.tables.map change).all (target.mapTables change).agrees =
      other.tables.all target.agrees := by
    rw [List.all_map]
    exact congrArg (other.tables.all ·) (funext fun m => h.agrees target m)
  rw [Target.accepts, Target.accepts, ← hall]
  rfl

/-- Changed mappings join as before. -/
theorem join (tables ms : List Mapping) :
    Target.join (tables.map change) (ms.map change) = (Target.join tables ms).map change := by
  induction ms generalizing tables with
  | nil => rfl
  | cons m ms ih =>
    have hmem : change m ∈ tables.map change ↔ m ∈ tables :=
      List.mem_map_of_injective h.injective
    rw [List.map_cons, Target.join, Target.join, ← ih]
    by_cases hm : m ∈ tables
    · rw [if_pos hm, if_pos (hmem.2 hm)]
    · rw [if_neg hm, if_neg (mt hmem.1 hm), List.map_append, List.map_singleton]

/-- A changed target absorbs a changed one as before. -/
theorem absorb (target other : Target) :
    (target.mapTables change).absorb (other.mapTables change) =
      (target.absorb other).mapTables change := by
  unfold Target.absorb Target.mapTables
  rw [h.join]

/-- **First fit commutes with a faithful change of mappings.** -/
theorem putTarget (target : Target) (ts : List Target) :
    putTarget (target.mapTables change) (ts.map (Target.mapTables change)) =
      (putTarget target ts).map (Target.mapTables change) := by
  induction ts with
  | nil => rfl
  | cons t ts ih =>
    rw [List.map_cons, ShardProxy.putTarget, ShardProxy.putTarget, h.accepts, h.absorb, ih]
    split <;> rfl

/-- **Putting targets one by one commutes with a faithful change** as well. -/
theorem putAll (plan : Plan) (ts : List Target) :
    (plan.mapTables change).putAll (ts.map (Target.mapTables change)) =
      (plan.putAll ts).mapTables change := by
  induction ts generalizing plan with
  | nil => rfl
  | cons t ts ih =>
    have hput : (plan.mapTables change).put (t.mapTables change) =
        (plan.put t).mapTables change := congrArg Plan.mk (h.putTarget t plan.targets)
    rw [List.map_cons, Plan.putAll_cons, Plan.putAll_cons, hput, ih]

end Faithful

/-! ### Respellings -/

/-- A permutation of names that sends each name to an alike one. -/
structure Respelling where
  perm : Equiv.Perm String
  alike_perm : ∀ name, alike (perm name) name = true

namespace Respelling

instance : CoeFun Respelling fun _ => String → String := ⟨fun σ => σ.perm⟩

/-- Every name as it is. -/
def refl : Respelling := ⟨Equiv.refl String, alike_refl⟩

/-- A respelling after which two alike names change places. -/
def andSwap (σ : Respelling) (a b : String) (hab : alike a b = true) : Respelling where
  perm := σ.perm.trans (Equiv.swap a b)
  alike_perm name := by
    have hname : alike (σ.perm name) name = true := σ.alike_perm name
    rw [Equiv.trans_apply, Equiv.swap_apply_def]
    split
    · next ha =>
      rw [ha] at hname
      exact alike_trans (by rwa [alike_comm]) hname
    · split
      · next hb =>
        rw [hb] at hname
        exact alike_trans hab hname
      · exact hname

/-- A respelt name is alike to the names that it was alike to. -/
theorem alike_left (σ : Respelling) (a b : String) : alike (σ a) b = alike a b :=
  alike_congr_left (σ.alike_perm a) b

/-- A name is alike to a respelt one when it is alike to that name as it was. -/
theorem alike_right (σ : Respelling) (a b : String) : alike a (σ b) = alike a b :=
  alike_congr_right (σ.alike_perm b) a

end Respelling

/-- **Lists that are alike in pairs are respellings of each other** when no two names of a list are
alike. -/
theorem exists_respelling {tables tables' : List String}
    (h : List.Forall₂ (fun a b => alike a b = true) tables tables')
    (htables : tables.Pairwise fun a b => alike a b = false) :
    ∃ σ : Respelling, tables' = tables.map σ := by
  induction h with
  | nil => exact ⟨.refl, rfl⟩
  | @cons a b tables tables' hab hrest ih =>
    obtain ⟨ha, htables⟩ := List.pairwise_cons.1 htables
    obtain ⟨σ, rfl⟩ := ih htables
    -- The rest is not alike to `a`, so what `a` is sent to can still be chosen.
    have hswap : alike (σ a) b = true := by rwa [σ.alike_left]
    refine ⟨σ.andSwap (σ a) b hswap, ?_⟩
    have hfirst : σ.andSwap (σ a) b hswap a = b := Equiv.swap_apply_left _ _
    have hothers : ∀ c ∈ tables, σ.andSwap (σ a) b hswap c = σ c := by
      intro c hc
      have hac : alike a c = false := ha c hc
      refine Equiv.swap_apply_of_ne_of_ne (fun hsame => ?_) (fun hsame => ?_)
      · rw [σ.perm.injective hsame, alike_refl] at hac
        cases hac
      · rw [← σ.alike_right, hsame, hab] at hac
        cases hac
    rw [List.map_cons, hfirst, List.map_congr_left hothers]

/-- **Names are dropped at the same places** of lists that are alike in pairs. -/
theorem forall₂_distinctBy {tables tables' : List String}
    (h : List.Forall₂ (fun a b => alike a b = true) tables tables') :
    List.Forall₂ (fun a b => alike a b = true) (distinctBy alike tables)
      (distinctBy alike tables') := by
  induction h with
  | nil => exact List.Forall₂.nil
  | @cons a b _ _ hab _ ih =>
    refine List.Forall₂.cons hab (List.rel_filter (fun c d hcd => ?_) ih)
    show (!alike a c) = true ↔ (!alike b d) = true
    rw [alike_congr_left hab, alike_congr_right hcd]

/-! ### What a sharding rule places -/

namespace Sharding

variable (sharding : Sharding)

/-- A mapping in another spelling: the actual name of a broadcast table is the name that the
statement uses, that of a sharded table the name that the rule gives. -/
def respell (σ : Respelling) (m : Mapping) : Mapping :=
  ⟨σ m.logic, if sharding.config.isBroadcast m.logic then σ m.actual else m.actual⟩

/-- **A respelling is a faithful change of mappings.** -/
theorem faithful_respell (σ : Respelling) : Faithful (sharding.respell σ) where
  injective m n h := by
    obtain ⟨logic, actual⟩ := m
    obtain ⟨logic', actual'⟩ := n
    obtain ⟨hlogic, hactual⟩ := Mapping.mk.inj h
    obtain rfl : logic = logic' := σ.perm.injective hlogic
    dsimp only at hactual
    split at hactual
    · rw [σ.perm.injective hactual]
    · rw [hactual]
  alike_logic m n := by
    show alike (σ m.logic) (σ n.logic) = alike m.logic n.logic
    rw [σ.alike_left, σ.alike_right]

/-- **A respelt table is placed where the table is.** -/
theorem targets?_respell (σ : Respelling) (table : String) :
    sharding.targets? (σ table) =
      (sharding.targets? table).map (List.map (Target.mapTables (sharding.respell σ))) := by
  have hbroadcast : sharding.config.isBroadcast (σ table) = sharding.config.isBroadcast table :=
    ShardingConfig.isBroadcast_congr (σ.alike_perm table)
  have hrule : sharding.config.findRule? (σ table) = sharding.config.findRule? table :=
    ShardingConfig.findRule?_congr (σ.alike_perm table)
  rw [targets?, targets?, hbroadcast, hrule]
  by_cases h : sharding.config.isBroadcast table = true
  · simp [h, broadcastTargets, Target.mapTables, respell, Mapping.identity]
  · cases sharding.config.findRule? table with
    | none => simp [h]
    | some rule => simp [h, shardTargets, Target.mapTables, respell]

/-- Respelt tables make the respelt plan. -/
theorem fst_placeTables_respell (σ : Respelling) (tables : List String) (plan : Plan) :
    (sharding.placeTables (tables.map σ) (plan.mapTables (sharding.respell σ))).1 =
      (sharding.placeTables tables plan).1.mapTables (sharding.respell σ) := by
  induction tables generalizing plan with
  | nil => rfl
  | cons table tables ih =>
    rw [List.map_cons, placeTables, placeTables, targets?_respell]
    cases sharding.targets? table with
    | none => rfl
    | some targets =>
      dsimp only [Option.map_some]
      rw [(sharding.faithful_respell σ).putAll, ih]

/-! ### Two statements -/

/-- How mappings of two plans correspond: the tables are alike, sharded ones stand for the same
actual table and broadcast ones for alike tables. -/
structure Corresponds (sharding : Sharding) (m m' : Mapping) : Prop where
  logic : alike m.logic m'.logic = true
  sharded : sharding.config.isBroadcast m.logic = false → m.actual = m'.actual
  broadcast : sharding.config.isBroadcast m.logic = true → alike m.actual m'.actual = true

/-- A mapping corresponds to itself in another spelling. -/
theorem corresponds_respell (σ : Respelling) (m : Mapping) :
    sharding.Corresponds m (sharding.respell σ m) where
  logic := by
    show alike m.logic (σ m.logic) = true
    rw [σ.alike_right, alike_refl]
  sharded h := by simp [respell, h]
  broadcast h := by
    show alike m.actual (if sharding.config.isBroadcast m.logic then σ m.actual
      else m.actual) = true
    rw [if_pos h, σ.alike_right, alike_refl]

/-- **Of two lists that are alike in pairs the same place is the first that is not known,** if there
is one. -/
theorem unknown?_of_alike {tables tables' : List String}
    (h : List.Forall₂ (fun a b => alike a b = true) tables tables') :
    (sharding.unknown? tables = none ∧ sharding.unknown? tables' = none) ∨
      ∃ (i : Nat) (a b : String), tables[i]? = some a ∧ tables'[i]? = some b ∧
        sharding.unknown? tables = some a ∧ sharding.unknown? tables' = some b ∧
        ∀ j < i, ∀ table, tables[j]? = some table ∨ tables'[j]? = some table →
          (sharding.targets? table).isSome := by
  induction h with
  | nil => exact Or.inl ⟨rfl, rfl⟩
  | @cons a b tables tables' hab _ ih =>
    have hknown : (sharding.targets? a).isNone = (sharding.targets? b).isNone :=
      isNone_targets?_congr hab
    simp only [unknown?, List.find?_cons] at ih ⊢
    rw [← hknown]
    cases ha : (sharding.targets? a).isNone with
    | true => exact Or.inr ⟨0, a, b, rfl, rfl, rfl, rfl, fun j hj => by cases hj⟩
    | false =>
      obtain hnone | ⟨i, c, d, hc, hd, hleft, hright, hbefore⟩ := ih
      · exact Or.inl hnone
      · refine Or.inr ⟨i + 1, c, d, hc, hd, hleft, hright, fun j hj table htable => ?_⟩
        cases j with
        | zero =>
          rcases htable with htable | htable <;> cases htable
          · exact Option.isNone_eq_false_iff.1 ha
          · exact Option.isNone_eq_false_iff.1 (hknown ▸ ha)
        | succ j => exact hbefore j (Nat.lt_of_succ_lt_succ hj) table htable

/-- A statement that names tables fails at the first that is not known, and else gets what the
first spellings place. -/
theorem plan_eq_of_tables {statement : Statement} (h : statement.tables ≠ [])
    (owner : OwnerLookup) :
    sharding.plan statement owner =
      match sharding.unknown? statement.tables with
      | some table => .error (.noTableRule table)
      | none => .ok (sharding.placeTables (distinctBy alike statement.tables) Plan.empty).1 := by
  have htouched : statement.touchedTables owner = distinctBy alike statement.tables := by
    rw [Statement.touchedTables, Statement.namedTables, if_neg h]
  have hne : statement.touchedTables owner ≠ [] := by
    rwa [htouched, ne_eq, distinctBy_eq_nil_iff]
  have hplan := sharding.plan_eq_of_touched hne
  rw [htouched, sharding.unknown?_distinctBy] at hplan
  exact hplan

/-- A plan corresponds to itself in another spelling. -/
theorem forall₂_respell (σ : Respelling) (plan : Plan) :
    List.Forall₂ (fun t t' => t.dataSource = t'.dataSource ∧
      List.Forall₂ sharding.Corresponds t.tables t'.tables) plan.targets
        (plan.mapTables (sharding.respell σ)).targets := by
  refine List.forall₂_map_right_iff.2 (List.forall₂_same.2 fun t _ => ⟨rfl, ?_⟩)
  exact List.forall₂_map_right_iff.2
    (List.forall₂_same.2 fun m _ => sharding.corresponds_respell σ m)

/-- **The spelling of tables does not matter.**  Of two statements that name tables which are alike
in pairs, whatever the owners of indexes are, both fail for want of a rule for the table at the
same place, the first that is not known; or both have a plan.  The plans then have the same
number of targets, and in order the targets are on the same data sources and their tables
correspond. -/
theorem plan_of_alike (sharding : Sharding) {statement statement' : Statement}
    (hne : statement.tables ≠ [])
    (h : List.Forall₂ (fun a b => alike a b = true) statement.tables statement'.tables)
    (owner owner' : OwnerLookup) :
    (∃ (i : Nat) (a b : String), statement.tables[i]? = some a ∧ statement'.tables[i]? = some b ∧
      sharding.plan statement owner = .error (.noTableRule a) ∧
      sharding.plan statement' owner' = .error (.noTableRule b) ∧
      ∀ j < i, ∀ table, statement.tables[j]? = some table ∨ statement'.tables[j]? = some table →
        (sharding.targets? table).isSome) ∨
    ∃ plan plan', sharding.plan statement owner = .ok plan ∧
      sharding.plan statement' owner' = .ok plan' ∧
      List.Forall₂ (fun t t' => t.dataSource = t'.dataSource ∧
        List.Forall₂ sharding.Corresponds t.tables t'.tables) plan.targets plan'.targets := by
  have hne' : statement'.tables ≠ [] := fun hnil => by
    rw [hnil] at h
    exact hne (List.forall₂_nil_right_iff.1 h)
  rw [sharding.plan_eq_of_tables hne, sharding.plan_eq_of_tables hne']
  obtain ⟨hnone, hnone'⟩ | ⟨i, a, b, ha, hb, hleft, hright, hbefore⟩ :=
    sharding.unknown?_of_alike h
  · obtain ⟨σ, hσ⟩ := exists_respelling (forall₂_distinctBy h) (pairwise_distinctBy alike _)
    rw [hnone, hnone', hσ]
    refine Or.inr ⟨_, _, rfl, rfl, ?_⟩
    have hrespelt : (sharding.placeTables ((distinctBy alike statement.tables).map σ)
        Plan.empty).1 = _ := sharding.fst_placeTables_respell σ _ Plan.empty
    rw [hrespelt]
    exact sharding.forall₂_respell σ _
  · rw [hleft, hright]
    exact Or.inl ⟨i, a, b, ha, hb, rfl, rfl, hbefore⟩

/-- In the shop orders and countries, the orders named twice, give corresponding targets in whatever
spelling; of two queries that add customers, for whom there is no rule, both fail at them. -/
theorem plan_of_alike_shop :
    let given := Statement.select ["t_order", "country", "T_ORDER"]
    let respelt := Statement.select ["T_Order", "COUNTRY", "t_order"]
    let refused := Statement.select ["t_order", "customer"]
    let refused' := Statement.select ["T_ORDER", "Customer"]
    (∃ plan plan', shop.plan given (fun _ => none) = .ok plan ∧
      shop.plan respelt (fun _ => none) = .ok plan' ∧ plan ≠ plan' ∧ plan.targets.length = 3 ∧
      List.Forall₂ (fun t t' => t.dataSource = t'.dataSource ∧
        List.Forall₂ shop.Corresponds t.tables t'.tables) plan.targets plan'.targets) ∧
    shop.plan refused (fun _ => none) = .error (.noTableRule "customer") ∧
    shop.plan refused' (fun _ => none) = .error (.noTableRule "Customer") := by
  intro given respelt refused refused'
  constructor
  · have halike : List.Forall₂ (fun a b => alike a b = true) given.tables respelt.tables := by
      decide
    have h := shop.plan_of_alike (by decide) halike (fun _ => none) fun _ => none
    obtain ⟨i, a, b, -, -, hfailed, -⟩ | ⟨plan, plan', hplan, hplan', hcorresponds⟩ := h
    · cases hfailed
    · refine ⟨plan, plan', hplan, hplan', ?_, ?_, hcorresponds⟩
      · cases hplan
        cases hplan'
        decide
      · cases hplan
        rfl
  · have halike : List.Forall₂ (fun a b => alike a b = true) refused.tables refused'.tables := by
      decide
    have h := shop.plan_of_alike (by decide) halike (fun _ => none) fun _ => none
    obtain ⟨i, a, b, ha, hb, hfailed, hfailed', -⟩ | ⟨plan, -, hplan, -⟩ := h
    · have hrefused : shop.plan refused (fun _ => none) = .error (.noTableRule "customer") := rfl
      cases hfailed.symm.trans hrefused
      rcases i with - | - | i
      · exact absurd ha (by decide)
      · cases hb
        exact ⟨hrefused, hfailed'⟩
      · cases ha
    · cases hplan

end Sharding

end ShardProxy
