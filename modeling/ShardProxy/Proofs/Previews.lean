/-
# What previews leave behind

A preview asks no backend for anything, but it routes its statement, and a route takes turns.  So
previews are no dry runs: in a history of calls, an execution after a preview may send its units to
other reads than it would have without the preview (`sent_ne_withoutPreviews`).

How far they are from dry runs can be said exactly.  A history and the same history without its
previews keep two balances, one ahead of the other by the reads that the previews have picked
(`ahead_answer`), and a statement is sent alike from both if these make whole rounds of each
pool that it reads from.  So the previews of a history can be left out exactly when this is so at
each execution (`sent_withoutPreviews_iff`).
-/

import ShardProxy.Proofs.Failures
import ShardProxy.Proofs.Routing.Reads

namespace ShardProxy

/-- What one plan has been sent to is told apart by its units. -/
theorem Splitting.targets_repoint_of_units {splitting : Splitting} {dice : Dice}
    {resolver : Resolver} {statement : Statement} {targets : List Target}
    {balance balance' : Balance}
    (h : (splitting.repoint dice statement targets balance).targets.map (Target.toUnit resolver) =
      (splitting.repoint dice statement targets balance').targets.map (Target.toUnit resolver)) :
    (splitting.repoint dice statement targets balance).targets =
      (splitting.repoint dice statement targets balance').targets := by
  have hactual := congrArg (List.map ExecutionUnit.dataSource) h
  rw [List.map_map, List.map_map] at hactual
  have hrest := (splitting.map_repoint dice statement targets balance).trans
    (splitting.map_repoint dice statement targets balance').symm
  have hzip := congrArg₂ List.zip hactual hrest
  rw [List.zip_map', List.zip_map'] at hzip
  refine List.map_injective_iff.2 ?_ hzip
  rintro ⟨⟨logic, actual⟩, tables⟩ ⟨⟨logic', actual'⟩, tables'⟩ heq
  cases heq
  rfl

namespace Proxy

/-! ### What calls do -/

namespace Call

/-- Whether a call is a preview. -/
def isPreview : Call → Bool
  | preview _ => true
  | _ => false

/-- The statement that a call executes. -/
def executed? : Call → Option Statement
  | execute _ statement _ => some statement
  | _ => none

/-- A preview executes nothing. -/
theorem executed?_of_isPreview {call : Call} (h : call.isPreview = true) :
    call.executed? = none := by
  cases call <;> first | rfl | cases h

/-- What a call makes of the schema. -/
def alter : Call → Schema → Schema
  | register table indexes, schema => schema.register table indexes
  | unregister table, schema => schema.unregister table
  | _, schema => schema

/-- A preview leaves the schema as it is. -/
theorem alter_of_isPreview {call : Call} (h : call.isPreview = true) (schema : Schema) :
    call.alter schema = schema := by
  cases call <;> first | rfl | cases h

/-- How many reads of a group a call picks. -/
def reads (rules : Rules) (group : GroupConfig) (call : Call) (schema : Schema) : Nat :=
  match call.statement? with
  | none => 0
  | some statement => rules.reads ⟨statement, schema.owner?⟩ group

/-- An execution picks the reads of its statement. -/
theorem reads_of_executed? {call : Call} {statement : Statement}
    (h : call.executed? = some statement) (rules : Rules) (group : GroupConfig)
    (schema : Schema) :
    call.reads rules group schema = rules.reads ⟨statement, schema.owner?⟩ group := by
  cases call <;> cases h
  rfl

end Call

/-- What calls make of the schema. -/
def schemaAfter (calls : List Call) (schema : Schema) : Schema :=
  calls.foldl (fun schema call => call.alter schema) schema

/-- How many reads of a group are picked by those calls that are counted. -/
def readsOf (rules : Rules) (group : GroupConfig) (counted : Call → Bool) :
    List Call → Schema → Nat
  | [], _ => 0
  | call :: calls, schema =>
    (if counted call then call.reads rules group schema else 0) +
      readsOf rules group counted calls (call.alter schema)

/-- A history without its previews. -/
def withoutPreviews (calls : List Call) : List Call :=
  calls.filter fun call => !call.isPreview

variable (proxy : Proxy)

/-- The units that executions send, one after the other. -/
def sent : List Call → State → List (Except ProxyError (List ExecutionUnit))
  | [], _ => []
  | call :: calls, state =>
    let rest := sent calls (proxy.answer state call).2
    match call.executed? with
    | none => rest
    | some statement => (proxy.preview statement state).1 :: rest

variable {proxy : Proxy}

/-- An execution changes the executor, and else what a preview changes. -/
theorem exists_executor_of_execute (backends : Backends) (statement : Statement) (keys : Bool)
    (state : State) :
    ∃ executor, (proxy.execute backends statement keys state).2 =
      { (proxy.preview statement state).2 with executor } := by
  rw [execute]
  rcases proxy.preview statement state with ⟨e | units, after⟩
  · exact ⟨after.executor, rfl⟩
  · exact ⟨_, rfl⟩

/-- A call changes the schema in a way of its own. -/
theorem schema_answer (proxy : Proxy) (state : State) (call : Call) :
    (proxy.answer state call).2.schema = call.alter state.schema := by
  cases call with
  | execute backends statement keys =>
    obtain ⟨executor, hstate⟩ := exists_executor_of_execute backends statement keys state
    rw [answer, hstate]
    rfl
  | _ => rfl

/-- **A call moves the balance as the route of its statement does,** if it is about one. -/
theorem balance_answer (state : State) (call : Call) :
    (proxy.answer state call).2.balance =
      match call.statement? with
      | none => state.balance
      | some statement =>
        (proxy.router.route statement state.schema.owner? state.balance).2 := by
  cases call with
  | execute backends statement keys =>
    obtain ⟨executor, hstate⟩ := exists_executor_of_execute backends statement keys state
    rw [answer, hstate]
    rfl
  | _ => rfl

section Rotations

variable {rules : Rules} {dice : Dice} {state state' : State} {taken ahead : GroupConfig → Nat}

/-- **A call moves a rotation by the reads that it picks.** -/
theorem turnOf_answer (hrotates : rules.Rotates) (hr : rules.router dice = .ok proxy.router)
    {group : GroupConfig} (hfound : rules.group? group.name = some group) (state : State)
    (call : Call) :
    (proxy.answer state call).2.balance.turnOf group =
      state.balance.turnOf group + UInt64.ofNat (call.reads rules group state.schema) := by
  rw [balance_answer, Call.reads]
  rcases call.statement? with - | statement
  · exact (UInt64.add_zero _).symm
  · exact turnOf_route hrotates hr hfound ⟨statement, state.schema.owner?⟩ state.balance

/-- A call that only one of two balances answers puts that one ahead. -/
theorem ahead_of_answer (hrotates : rules.Rotates) (hr : rules.router dice = .ok proxy.router)
    (h : rules.Ahead taken ahead state.balance state'.balance) (call : Call) :
    rules.Ahead taken (fun group => ahead group + call.reads rules group state.schema)
      (proxy.answer state call).2.balance state'.balance := by
  refine ⟨fun group hfound => ?_, h.turn'⟩
  rw [turnOf_answer hrotates hr hfound, h.turn group hfound, ← UInt64.ofNat_add, Nat.add_assoc]

/-- A call that both balances answer leaves the one as far ahead as it was. -/
theorem ahead_of_answers (hrotates : rules.Rotates) (hr : rules.router dice = .ok proxy.router)
    (hschema : state'.schema = state.schema)
    (h : rules.Ahead taken ahead state.balance state'.balance) (call : Call) :
    rules.Ahead (fun group => taken group + call.reads rules group state.schema) ahead
      (proxy.answer state call).2.balance (proxy.answer state' call).2.balance := by
  refine ⟨fun group hfound => ?_, fun group hfound => ?_⟩
  · rw [turnOf_answer hrotates hr hfound, h.turn group hfound, ← UInt64.ofNat_add,
      Nat.add_right_comm]
  · rw [turnOf_answer hrotates hr hfound, h.turn' group hfound, ← UInt64.ofNat_add, hschema]

/-- **The units of a statement tell where it is sent.** -/
theorem preview_eq_iff (hrotates : rules.Rotates) (hr : rules.router dice = .ok proxy.router)
    (hschema : state'.schema = state.schema) (statement : Statement) :
    (proxy.preview statement state').1 = (proxy.preview statement state).1 ↔
      (proxy.router.route statement state.schema.owner? state.balance).1 =
        (proxy.router.route statement state.schema.owner? state'.balance).1 := by
  have hunits : ∀ state, (proxy.preview statement state).1 =
      ((proxy.router.route statement state.schema.owner? state.balance).1.mapError .routing).map
        (·.units proxy.resolver) := fun _ => rfl
  rw [hunits, hunits, hschema]
  refine ⟨fun h => ?_, fun h => by rw [h]⟩
  cases hsplit : rules.splitting with
  | none => rw [route_eq_seeded hsplit hr, route_eq_seeded hsplit hr]
  | some rule =>
    obtain ⟨splitting, hturns⟩ := hrotates.exists_takesTurns hsplit hr
    rcases hseeded : rules.seeded statement state.schema.owner? with e | plan
    · rw [hturns.route, hturns.route, hseeded]
      rfl
    · rw [hturns.route_of_seeded hseeded, hturns.route_of_seeded hseeded] at h ⊢
      have htargets := Splitting.targets_repoint_of_units (Except.ok.inj h)
      exact congrArg (fun targets => Except.ok (Plan.mk targets)) htargets.symm

/-- At each execution in a history, the turns that previews have put it ahead, and those that it was
ahead at the start, make whole rounds of each pool that it reads from. -/
def Rounds (rules : Rules) (ahead : GroupConfig → Nat) (calls : List Call) (schema : Schema) :
    Prop :=
  ∀ n statement, calls[n]?.bind Call.executed? = some statement →
    ∀ group, 0 < rules.reads ⟨statement, (schemaAfter (calls.take n) schema).owner?⟩ group →
      group.pool.length ∣ ahead group + readsOf rules group Call.isPreview (calls.take n) schema

/-- Whole rounds in a history are whole rounds at its first call and in the rest, which the first
call has put ahead if it is a preview. -/
theorem rounds_cons (rules : Rules) (ahead : GroupConfig → Nat) (call : Call) (calls : List Call)
    (schema : Schema) :
    Rounds rules ahead (call :: calls) schema ↔
      (∀ statement, call.executed? = some statement →
        ∀ group, 0 < rules.reads ⟨statement, schema.owner?⟩ group →
          group.pool.length ∣ ahead group) ∧
      Rounds rules
        (fun group => ahead group + if call.isPreview then call.reads rules group schema else 0)
        calls (call.alter schema) := by
  rw [Rounds, Rounds, ← Nat.and_forall_add_one]
  refine and_congr ?_ (forall_congr' fun n => ?_)
  · simp [readsOf, schemaAfter]
  · simp [readsOf, schemaAfter, Nat.add_assoc]

/-- **Leaving out the previews of a history** changes nothing that its executions send exactly when
at each of them the previews have taken whole rounds. -/
theorem sent_eq_iff (hrotates : rules.Rotates) (hr : rules.router dice = .ok proxy.router)
    (calls : List Call) (hschema : state'.schema = state.schema)
    (hahead : rules.Ahead taken ahead state.balance state'.balance)
    (hsize : ∀ group, taken group + ahead group +
      readsOf rules group (fun _ => true) calls state.schema ≤ UInt64.size) :
    proxy.sent (withoutPreviews calls) state' = proxy.sent calls state ↔
      Rounds rules ahead calls state.schema := by
  induction calls generalizing state state' taken ahead with
  | nil => exact iff_of_true rfl fun n statement hn => by simp at hn
  | cons call calls ih =>
    have hafter := proxy.schema_answer state call
    have hcount : ∀ group, taken group + ahead group + (call.reads rules group state.schema +
        readsOf rules group (fun _ => true) calls (proxy.answer state call).2.schema) ≤
          UInt64.size := fun group => by
      rw [hafter]
      exact hsize group
    rw [rounds_cons, sent]
    cases hpreview : call.isPreview with
    | true =>
      -- The history without previews does not answer the call, and falls behind.
      have hdrop : withoutPreviews (call :: calls) = withoutPreviews calls :=
        List.filter_cons_of_neg (by simp [hpreview])
      have hnone := Call.executed?_of_isPreview hpreview
      have hschema' : state'.schema = (proxy.answer state call).2.schema := by
        rw [hafter, Call.alter_of_isPreview hpreview, hschema]
      have hrest := ih hschema' (ahead_of_answer hrotates hr hahead call) fun group => by
        have hle := hcount group
        omega
      rw [hdrop, hnone, hrest, hafter]
      simp
    | false =>
      -- Both histories answer the call, and stay as far apart as they are.
      have hkeep : withoutPreviews (call :: calls) = call :: withoutPreviews calls :=
        List.filter_cons_of_pos (by simp [hpreview])
      have hschema' : (proxy.answer state' call).2.schema = (proxy.answer state call).2.schema := by
        rw [hafter, schema_answer, hschema]
      have hrest := ih hschema' (ahead_of_answers hrotates hr hschema hahead call) fun group => by
        have hle := hcount group
        omega
      rw [hkeep, sent]
      rcases hexecuted : call.executed? with - | statement
      · dsimp only
        rw [hrest, hafter]
        simp
      · dsimp only
        have hreads : ∀ group, taken group + ahead group +
            rules.reads ⟨statement, state.schema.owner?⟩ group ≤ UInt64.size := fun group => by
          have hle := hcount group
          rw [Call.reads_of_executed? hexecuted] at hle
          omega
        have hhead := preview_eq_iff hrotates hr hschema statement
        rw [List.cons.injEq, hrest, hafter, hhead.trans (route_eq_iff hrotates hr hahead hreads)]
        simp

/-- Two equal balances. -/
theorem ahead_initial (rules : Rules) : rules.Ahead (fun _ => 0) (fun _ => 0) .initial .initial :=
  ⟨fun _ _ => rfl, fun _ _ => rfl⟩

end Rotations

/-- **Previews can be left out exactly when they take whole rounds.**  A proxy is started over rules
whose groups all rotate, and its calls pick no more reads of a group than words can count.  A
preview itself changes no schema, starts nothing at an executor and asks no backend.  But it picks
reads like an execution of its statement: a history without its previews sends, at every
execution, the same texts to the same data sources as with them if and only if at each execution,
and for each group that it reads from, the reads that previews have picked so far are a multiple of
the size of the pool. -/
theorem sent_withoutPreviews_iff {name : String} {workers : Nat} {rules : Rules} {schema : Schema}
    {resolver : Resolver} {dice : Dice} {start : State} (hrotates : rules.Rotates)
    (hstart : Proxy.start name workers rules schema resolver dice =
      .returned (.ok (proxy, start)))
    (calls : List Call)
    (hsize : ∀ group, readsOf rules group (fun _ => true) calls schema ≤ UInt64.size) :
    (∀ statement state, ∃ balance,
      (proxy.answer state (.preview statement)).2 = { state with balance }) ∧
    (proxy.sent (withoutPreviews calls) start = proxy.sent calls start ↔
      ∀ n backends statement keys, calls[n]? = some (.execute backends statement keys) →
        ∀ group, 0 < rules.reads ⟨statement, (schemaAfter (calls.take n) schema).owner?⟩ group →
          group.pool.length ∣ readsOf rules group Call.isPreview (calls.take n) schema) := by
  obtain ⟨hr, executor, rfl⟩ := proxy.start_eq_ok hstart
  refine ⟨fun statement state => ⟨_, rfl⟩, ?_⟩
  have hsent : proxy.sent (withoutPreviews calls) ⟨schema, .initial, executor⟩ =
      proxy.sent calls ⟨schema, .initial, executor⟩ ↔ Rounds rules (fun _ => 0) calls schema :=
    sent_eq_iff hrotates hr calls rfl (ahead_initial rules) fun group => by
      simpa using hsize group
  rw [hsent]
  refine ⟨fun h n backends statement keys hn group hreads => ?_,
    fun h n statement hn group hreads => ?_⟩
  · have hrounds := h n statement (by rw [hn]; rfl) group hreads
    rwa [Nat.zero_add] at hrounds
  · obtain ⟨call, hcall, hexecuted⟩ := Option.bind_eq_some_iff.1 hn
    cases call <;> cases hexecuted
    rw [Nat.zero_add]
    exact h n _ statement _ hcall group hreads

/-- Both groups of the ring take their reads in turn. -/
theorem rotates_ringRules : ringRules.Rotates := by
  rintro rule ⟨⟩ group hgroup
  simp only [ringSplitting, List.mem_cons, List.not_mem_nil, or_false] at hgroup
  rcases hgroup with rfl | rfl <;> rfl

/-- Backends that are all up, and have no rows. -/
def upBackends : Backends := fun _ => .ok ⟨fun _ _ => .returned (.ok (.query [] []))⟩

/-- Three previews of a query of orders, which has two targets on `main` and one on `archive`, and
then a query of countries. -/
def roundCalls : List Call :=
  [.preview (.select ["t_order"]), .preview (.select ["t_order"]), .preview (.select ["t_order"]),
    .execute upBackends (.select ["country"]) false]

/-- In the ring three previews of orders take three rounds of the pool of `main` and one of that of
`archive`, so they can be left out. -/
theorem sent_withoutPreviews_iff_ring :
    ringRules.Rotates ∧
      Proxy.start "ring" 1 ringRules .empty selectAll (fun _ => 0) =
        .returned (.ok (ring, ringStart)) ∧
      (∀ group, readsOf ringRules group (fun _ => true) roundCalls .empty ≤ UInt64.size) ∧
      readsOf ringRules ringMain Call.isPreview roundCalls .empty = 6 ∧
      readsOf ringRules ringArchive Call.isPreview roundCalls .empty = 3 ∧
      ring.sent (withoutPreviews roundCalls) ringStart = ring.sent roundCalls ringStart := by
  have hsize : ∀ group, readsOf ringRules group (fun _ => true) roundCalls .empty ≤
      UInt64.size := fun group => by
    have horders : ringRules.reads ⟨.select ["t_order"], Schema.empty.owner?⟩ group ≤ 3 :=
      (@Rules.reads_le ringRules ⟨.select ["t_order"], Schema.empty.owner?⟩ _ rfl group :)
    have hcountries : ringRules.reads ⟨.select ["country"], Schema.empty.owner?⟩ group ≤ 2 :=
      (@Rules.reads_le ringRules ⟨.select ["country"], Schema.empty.owner?⟩ _ rfl group :)
    simp only [roundCalls, readsOf, Call.reads, Call.statement?, Call.alter, if_true, UInt64.size]
    omega
  obtain ⟨-, hiff⟩ := sent_withoutPreviews_iff rotates_ringRules start_ring roundCalls hsize
  refine ⟨rotates_ringRules, start_ring, hsize, by decide, by decide, hiff.2 ?_⟩
  intro n backends statement keys hn group hreads
  obtain rfl : n = 3 := by
    rcases n with - | - | - | - | n <;> first | rfl | cases hn
  obtain ⟨-, -, hfound⟩ := Rules.exists_of_reads hreads
  have hfirst : ringSplitting.groups.find? (Text.alike ·.name group.name) = some group := hfound
  have hgroup := List.mem_of_find?_eq_some hfirst
  simp only [ringSplitting, List.mem_cons, List.not_mem_nil, or_false] at hgroup
  rcases hgroup with rfl | rfl
  · decide
  · decide

/-- A query of countries that is previewed before it is executed. -/
def previewed : List Call :=
  [.preview (.select ["country"]), .execute upBackends (.select ["country"]) false]

/-- **Previews are no dry runs.**  In the ring the query goes to the first read of each group, but
to the second when it has been previewed. -/
theorem sent_ne_withoutPreviews :
    ringRules.Rotates ∧
      Proxy.start "ring" 1 ringRules .empty selectAll (fun _ => 0) =
        .returned (.ok (ring, ringStart)) ∧
      ring.sent previewed ringStart =
        [.ok [⟨"r2", "SELECT * FROM country"⟩, ⟨"a2", "SELECT * FROM country"⟩]] ∧
      ring.sent (withoutPreviews previewed) ringStart =
        [.ok [⟨"r1", "SELECT * FROM country"⟩, ⟨"a1", "SELECT * FROM country"⟩]] ∧
      (Executor.runs (ring.after previewed ringStart).executor.log).map (·.unit.dataSource) =
        ["r2", "a2"] ∧
      (Executor.runs (ring.after (withoutPreviews previewed) ringStart).executor.log).map
        (·.unit.dataSource) = ["r1", "a1"] ∧
      ring.sent (withoutPreviews previewed) ringStart ≠ ring.sent previewed ringStart := by
  have hwith : ring.sent previewed ringStart =
      [.ok [⟨"r2", "SELECT * FROM country"⟩, ⟨"a2", "SELECT * FROM country"⟩]] := rfl
  have hwithout : ring.sent (withoutPreviews previewed) ringStart =
      [.ok [⟨"r1", "SELECT * FROM country"⟩, ⟨"a1", "SELECT * FROM country"⟩]] := rfl
  refine ⟨rotates_ringRules, start_ring, hwith, hwithout, by decide, by decide, ?_⟩
  rw [hwith, hwithout]
  simp

end Proxy

end ShardProxy
