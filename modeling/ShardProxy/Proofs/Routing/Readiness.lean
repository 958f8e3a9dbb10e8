/-
# Which splitting rules are readied, and what their groups guarantee

A read-write splitting rule is readied group by group, and refused for the first group that cannot
be.  `SplittingConfig.Offends` says what may be wrong with a group, by what the rule says:

| cause | the group |
| --- | --- |
| unknown | names a balancer that is not configured |
| rejected | names one that is configured and cannot be readied; the cause is the balancer's |
| no reads | has its balancer, but no read other than its write data source |

Groups that name the same balancer share it, and a balancer is readied from its configuration
alone: what is wrong with it is wrong for each of these groups, so the first of them is to blame.

The pool of a group that has been readied is told by positions: it lists the reads other than the
write data source, each once, in the order in which they first occur (`GroupConfig.Pools`).  It is
not empty, so no balancer ever finds itself without a read (`Splitting.pools_of_readied`).
-/

import ShardProxy.Proofs.Routing.Fruitful
import ShardProxy.Proofs.Traversal

namespace ShardProxy

/-! ### Pools -/

/-- First occurrences keep their order, also when entries that fail a test are left out. -/
theorem pairwise_idxOf_distinct {α : Type} [DecidableEq α] (p : α → Bool) (as : List α) :
    (distinct (as.filter p)).Pairwise fun a b => as.idxOf a < as.idxOf b := by
  induction as with
  | nil => exact List.Pairwise.nil
  | cons c as ih =>
    -- Entries other than the first stand one further on.
    have hshift : ∀ {l : List α}, (∀ a ∈ l, a ≠ c) →
        (l.Pairwise fun a b => as.idxOf a < as.idxOf b) →
        l.Pairwise fun a b => (c :: as).idxOf a < (c :: as).idxOf b := by
      intro l hne hl
      refine hl.imp_of_mem fun ha hb hlt => ?_
      rw [List.idxOf_cons_ne _ (hne _ ha).symm, List.idxOf_cons_ne _ (hne _ hb).symm]
      exact Nat.succ_lt_succ hlt
    by_cases hc : p c = true
    · have hcons : distinct ((c :: as).filter p) =
          c :: (distinct (as.filter p)).filter fun b => !decide (c = b) := by
        rw [List.filter_cons_of_pos hc]
        rfl
      rw [hcons, List.pairwise_cons]
      have hne : ∀ b ∈ (distinct (as.filter p)).filter fun b => !decide (c = b), b ≠ c := by
        intro b hb
        have hcb : c ≠ b := by simpa using (List.mem_filter.1 hb).2
        exact hcb.symm
      refine ⟨fun b hb => ?_, hshift hne (ih.sublist List.filter_sublist)⟩
      rw [List.idxOf_cons_self, List.idxOf_cons_ne _ (hne b hb).symm]
      exact Nat.succ_pos _
    · rw [List.filter_cons_of_neg hc]
      refine hshift (fun a ha => ?_) ih
      rintro rfl
      exact hc (List.mem_filter.1 (mem_distinct.1 ha)).2

/-- What makes a list the pool of a group: it holds the reads other than the write data source, at
least one, each once and in the order in which they first occur. -/
structure GroupConfig.Pools (config : GroupConfig) (pool : List String) : Prop where
  ne_nil : pool ≠ []
  nodup : pool.Nodup
  write_not_mem : config.write ∉ pool
  mem_iff : ∀ read, read ∈ pool ↔ read ∈ config.reads ∧ read ≠ config.write
  sublist : List.Sublist pool config.reads
  inOrder : pool.Pairwise fun a b => config.reads.idxOf a < config.reads.idxOf b

/-- The pool of a group is empty when every read is the write data source. -/
theorem GroupConfig.pool_eq_nil_iff {config : GroupConfig} :
    config.pool = [] ↔ ∀ read ∈ config.reads, read = config.write := by
  rw [List.eq_nil_iff_forall_not_mem]
  simp only [mem_pool, not_and, not_not]

/-- **A pool that is not empty lists the reads by their first occurrences.** -/
theorem GroupConfig.pools {config : GroupConfig} (h : config.pool ≠ []) :
    config.Pools config.pool where
  ne_nil := h
  nodup := config.nodup_pool
  write_not_mem hwrite := (mem_pool.1 hwrite).2 rfl
  mem_iff _ := mem_pool
  sublist := config.pool_sublist
  inOrder := pairwise_idxOf_distinct _ config.reads

/-! ### Groups -/

namespace SplittingConfig

/-- A group names no balancer, or a configured one that can be readied. -/
def Balances (rule : SplittingConfig) (group : GroupConfig) : Prop :=
  ∀ name, group.balancer = some name →
    ∃ config balancer, rule.balancer? name = some config ∧ Balancer.ofConfig config = .ok balancer

/-- A group has its balancer and a read other than its write data source. -/
def Fits (rule : SplittingConfig) (group : GroupConfig) : Prop :=
  rule.Balances group ∧ ∃ read ∈ group.reads, read ≠ group.write

/-- What is wrong with a group. -/
inductive Offends (rule : SplittingConfig) (group : GroupConfig) : ConfigFault → Prop where
  | unknown {name : String} (hname : group.balancer = some name)
    (hconfig : rule.balancer? name = none) :
    Offends rule group (.unknownBalancer group.name name)
  | rejected {name : String} {config : BalancerConfig} {e : ConfigFault}
    (hname : group.balancer = some name) (hconfig : rule.balancer? name = some config)
    (hbalancer : Balancer.ofConfig config = .error e) : Offends rule group e
  | noReads (hbalances : rule.Balances group) (hreads : ∀ read ∈ group.reads, read = group.write) :
    Offends rule group (.noReads group.name)

/-- Why a splitting rule is refused: for the first group that does not fit. -/
inductive Refused (rule : SplittingConfig) : ConfigFault → Prop where
  | group {before after : List GroupConfig} {group : GroupConfig} {e : ConfigFault}
    (hgroups : rule.groups = before ++ group :: after) (hbefore : ∀ g ∈ before, rule.Fits g)
    (hoffends : rule.Offends group e) : Refused rule e

end SplittingConfig

namespace Group

variable {number : Nat} {rule : SplittingConfig} {config : GroupConfig} {e : ConfigFault}

/-- A group is given a balancer when it names none, or one that can be readied. -/
theorem exists_balancerOf_iff :
    (∃ balancer, balancerOf rule config = .ok balancer) ↔ rule.Balances config := by
  unfold balancerOf SplittingConfig.Balances
  rcases config.balancer with - | name
  · simp
  · rcases hconfig : rule.balancer? name with - | bconfig <;> simp [hconfig]

/-- A group is given no balancer for the one that it names: there is no such one, or it cannot be
readied. -/
theorem balancerOf_eq_error_iff :
    balancerOf rule config = .error e ↔
      ∃ name, config.balancer = some name ∧
        (rule.balancer? name = none ∧ e = .unknownBalancer config.name name ∨
          ∃ found, rule.balancer? name = some found ∧ Balancer.ofConfig found = .error e) := by
  unfold balancerOf
  rcases config.balancer with - | name
  · simp
  · rcases hconfig : rule.balancer? name with - | bconfig <;> simp [hconfig, eq_comm]

/-- **A group can be readied when it fits.** -/
theorem exists_ofConfig_iff :
    (∃ group, ofConfig number rule config = .ok group) ↔ rule.Fits config := by
  unfold SplittingConfig.Fits
  rw [← exists_balancerOf_iff]
  unfold ofConfig ofBalancer
  rcases balancerOf rule config with e | balancer
  · simp
  · by_cases hpool : config.pool = []
    · have hreads := GroupConfig.pool_eq_nil_iff.1 hpool
      simpa [hpool] using hreads
    · have hreads := mt GroupConfig.pool_eq_nil_iff.2 hpool
      simpa [hpool] using hreads

/-- **A group that cannot be readied offends,** and in one way only. -/
theorem ofConfig_eq_error_iff : ofConfig number rule config = .error e ↔ rule.Offends config e := by
  unfold ofConfig
  constructor
  · intro h
    split at h
    · next e' he =>
      obtain rfl : e' = e := Except.error.inj h
      obtain ⟨name, hname, ⟨hconfig, rfl⟩ | ⟨bconfig, hconfig, hbalancer⟩⟩ :=
        balancerOf_eq_error_iff.1 he
      · exact .unknown hname hconfig
      · exact .rejected hname hconfig hbalancer
    · next balancer hbalancer =>
      unfold ofBalancer at h
      split at h
      · next hpool =>
        obtain rfl := Except.error.inj h
        exact .noReads (exists_balancerOf_iff.1 ⟨balancer, hbalancer⟩)
          (GroupConfig.pool_eq_nil_iff.1 hpool)
      · cases h
  · rintro (⟨hname, hconfig⟩ | ⟨hname, hconfig, hbalancer⟩ | ⟨hbalances, hreads⟩)
    · rw [balancerOf_eq_error_iff.2 ⟨_, hname, .inl ⟨hconfig, rfl⟩⟩]
    · rw [balancerOf_eq_error_iff.2 ⟨_, hname, .inr ⟨_, hconfig, hbalancer⟩⟩]
    · obtain ⟨balancer, hbalancer⟩ := exists_balancerOf_iff.2 hbalances
      rw [hbalancer]
      exact dif_pos (GroupConfig.pool_eq_nil_iff.2 hreads)

end Group

/-! ### Rules -/

namespace Splitting

variable {number : Nat} {rule : SplittingConfig} {e : ConfigFault}

/-- **A rule can be readied when all of its groups fit.** -/
theorem exists_ofConfig_iff :
    (∃ splitting, ofConfig number rule = .ok splitting) ↔
      ∀ group ∈ rule.groups, rule.Fits group := by
  simp only [← @Group.exists_ofConfig_iff number, ← exists_mapM_iff, ← readyGroups_eq_mapM]
  unfold ofConfig
  rcases readyGroups number rule rule.groups with e | groups <;> simp

/-- **A rule is refused for the first of its groups that does not fit.** -/
theorem ofConfig_eq_error_iff : ofConfig number rule = .error e ↔ rule.Refused e := by
  have hready : ofConfig number rule = .error e ↔
      readyGroups number rule rule.groups = .error e := by
    unfold ofConfig
    rcases readyGroups number rule rule.groups with e' | groups <;> simp
  rw [hready, readyGroups_eq_mapM, mapM_eq_error_iff]
  simp only [Group.exists_ofConfig_iff, Group.ofConfig_eq_error_iff]
  constructor
  · rintro ⟨before, group, after, hgroups, hbefore, hoffends⟩
    exact .group hgroups hbefore hoffends
  · rintro ⟨hgroups, hbefore, hoffends⟩
    exact ⟨_, _, _, hgroups, hbefore, hoffends⟩

/-- **What it takes to be readied, and what that guarantees.**  A splitting rule is readied exactly
when all of its groups fit: each has its balancer and a read other than its write data source.  Else
it is refused for its first group that does not, for the balancer before the reads.  The groups of
a rule that has been readied are the configured ones, in order; their pools list the reads by their
first occurrences, without the write data source; and whatever the statement, the state of the
balancers and the random words, none of them fails for want of a read. -/
theorem pools_of_readied (number : Nat) (rule : SplittingConfig) :
    ((∃ splitting, ofConfig number rule = .ok splitting) ↔
      ∀ group ∈ rule.groups, rule.Fits group) ∧
    (∀ e, ofConfig number rule = .error e ↔ rule.Refused e) ∧
    ∀ splitting, ofConfig number rule = .ok splitting →
      splitting.groups.map Group.config = rule.groups ∧
      ∀ group ∈ splitting.groups, group.config.Pools group.config.pool ∧
        ∀ (dice : Dice) (statement : Statement) (balance : Balance) (name : String),
          (group.route dice statement balance).1 ≠ .error (.noReadDataSource name) := by
  refine ⟨exists_ofConfig_iff, fun e => ofConfig_eq_error_iff, fun splitting h => ⟨?_, ?_⟩⟩
  · exact map_config_of_readyGroups (readyGroups_of_ofConfig h)
  · intro group hgroup
    refine ⟨GroupConfig.pools group.pool_ne_nil, fun dice statement balance name herror => ?_⟩
    obtain ⟨fault, hfault⟩ := Group.exists_invalidConfig_of_route herror
    cases hfault

/-! ### A group with weighted reads and one with a weight of zero -/

/-- A group whose write data source and one read twice are among its reads. -/
def tiltedMain : GroupConfig := ⟨"main", "primary", ["r2", "primary", "r1", "r2"], some "tilted"⟩

/-- A group without a read of its own, and with a balancer that cannot be readied. -/
def tiltedSpare : GroupConfig := ⟨"spare", "s1", ["s1"], some "level"⟩

/-- Weights for the reads of the first group, and a weight of zero for that of the second. -/
def tiltedBalancers : List (String × BalancerConfig) :=
  [("tilted", ⟨.weighted, [("r1", " 3 "), ("r2", "0.5")]⟩), ("level", ⟨.weighted, [("s1", "0")]⟩)]

/-- The first group fits, whatever groups stand beside it. -/
theorem fits_tiltedMain (groups : List GroupConfig) :
    SplittingConfig.Fits ⟨groups, tiltedBalancers⟩ tiltedMain := by
  refine ⟨fun name hname => ?_, "r2", by decide⟩
  obtain rfl : "tilted" = name := Option.some.inj hname
  exact ⟨_, _, rfl, rfl⟩

/-- The first group alone is readied, to a pool without its write data source; with the second the
rule is refused, for a weight and not for the missing read. -/
theorem pools_of_readied_tilted :
    (∃ splitting, ofConfig 0 ⟨[tiltedMain], tiltedBalancers⟩ = .ok splitting ∧
      splitting.groups.map (·.config.pool) = [["r2", "r1"]] ∧
      ∀ group ∈ splitting.groups, ∀ dice balance name,
        (group.route dice (.select ["t_order"]) balance).1 ≠ .error (.noReadDataSource name)) ∧
    ofConfig 0 ⟨[tiltedMain, tiltedSpare], tiltedBalancers⟩ =
      .error (.weightNotPositive "s1" "0") := by
  obtain ⟨hready, -, hpools⟩ := pools_of_readied 0 ⟨[tiltedMain], tiltedBalancers⟩
  obtain ⟨-, hrefused, -⟩ := pools_of_readied 0 ⟨[tiltedMain, tiltedSpare], tiltedBalancers⟩
  constructor
  · obtain ⟨splitting, h⟩ := hready.2 (List.forall_mem_singleton.2 (fits_tiltedMain _))
    obtain ⟨hconfigs, hgroups⟩ := hpools splitting h
    refine ⟨splitting, h, ?_, fun group hg dice balance => (hgroups group hg).2 dice _ balance⟩
    calc splitting.groups.map (·.config.pool)
        = (splitting.groups.map Group.config).map GroupConfig.pool := by rw [List.map_map]; rfl
      _ = [["r2", "r1"]] := by rw [hconfigs]; decide
  · have hbefore : ∀ g ∈ [tiltedMain],
        SplittingConfig.Fits ⟨[tiltedMain, tiltedSpare], tiltedBalancers⟩ g :=
      List.forall_mem_singleton.2 (fits_tiltedMain _)
    exact (hrefused _).2 (.group rfl hbefore (.rejected rfl rfl rfl))

end Splitting

end ShardProxy
