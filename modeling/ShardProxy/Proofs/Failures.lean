/-
# A failed statement leaves no trace

When the groups of a proxy do not weigh their reads, a statement can fail to be routed only before
any read is picked: a table without a rule or several groups are found out while the plan is made,
and sending a plan on cannot fail (`balance_of_route_error`).  So a statement without a
route leaves the whole state of the proxy as it was, no unit is built for it and no backend asked;
and a history of calls goes on as if the failed one had never been made
(`trace_of_route_error`).
-/

import ShardProxy.Proofs.Routing.Rotation
import ShardProxy.Proxy

namespace ShardProxy

/-- **Without weights a failure leaves the balance as it was.** -/
theorem balance_of_route_error {rules : Rules} {dice : Dice} {router : Pipeline Balance}
    (hu : ∀ rule, rules.splitting = some rule → rule.Unweighted)
    (hr : rules.router dice = .ok router) {statement : Statement} {owner : OwnerLookup}
    {balance : Balance} {e : RoutingError}
    (h : (router.route statement owner balance).1 = .error e) :
    (router.route statement owner balance).2 = balance := by
  cases hsplit : rules.splitting with
  | none => rw [route_eq_seeded hsplit hr]
  | some rule =>
    obtain ⟨splitting, hrule, hroute⟩ := route_eq_send hsplit hr
    rw [hroute] at h ⊢
    have hkind : ∀ group ∈ splitting.groups, group.balancer.kind ≠ .weighted :=
      fun group hg => Splitting.kind_ne_weighted hrule (hu rule hsplit) hg
    rcases hseeded : rules.seeded statement owner with e' | plan
    · rfl
    · obtain ⟨hsent, -⟩ := Splitting.forall₂_repoint hkind dice statement plan.targets balance
      rw [hseeded, Splitting.send, hsent] at h
      cases h

namespace Proxy

/-- What a proxy is asked for. -/
inductive Call where
  | route (statement : Statement)
  | preview (statement : Statement)
  | execute (backends : Backends) (statement : Statement) (keys : Bool)
  /-- A table is registered in the schema. -/
  | register (table : String) (indexes : List String)
  | unregister (table : String)
  | shutDown

/-- What a proxy gives back. -/
inductive Reply where
  | plan (result : Except ProxyError Plan)
  | units (result : Except ProxyError (List ExecutionUnit))
  | verdict (result : Verdict ProxyError)
  | done

/-- The statement that a call is about. -/
def Call.statement? : Call → Option Statement
  | route statement => some statement
  | preview statement => some statement
  | execute _ statement _ => some statement
  | _ => none

variable (proxy : Proxy)

/-- Answers a call. -/
def answer (state : State) : Call → Reply × State
  | .route statement =>
    let (result, state) := proxy.route statement state
    (.plan result, state)
  | .preview statement =>
    let (result, state) := proxy.preview statement state
    (.units result, state)
  | .execute backends statement keys =>
    let (result, state) := proxy.execute backends statement keys state
    (.verdict result, state)
  | .register table indexes =>
    (.done, { state with schema := state.schema.register table indexes })
  | .unregister table => (.done, { state with schema := state.schema.unregister table })
  | .shutDown => (.done, state.shutDown)

/-- The state after calls. -/
def after : List Call → State → State
  | [], state => state
  | call :: calls, state => after calls (proxy.answer state call).2

/-- What calls give back and leave behind, one after the other: the state has the log of all that
backends have been asked for. -/
def trace : List Call → State → List (Reply × State)
  | [], _ => []
  | call :: calls, state => proxy.answer state call :: trace calls (proxy.answer state call).2

variable {proxy : Proxy}

/-- Each call leaves one entry in the trace. -/
theorem length_trace (calls : List Call) (state : State) :
    (proxy.trace calls state).length = calls.length := by
  induction calls generalizing state with
  | nil => rfl
  | cons call calls ih => rw [trace, List.length_cons, List.length_cons, ih]

/-- Calls after other calls find the state that those have left behind. -/
theorem trace_append (calls calls' : List Call) (state : State) :
    proxy.trace (calls ++ calls') state =
      proxy.trace calls state ++ proxy.trace calls' (proxy.after calls state) := by
  induction calls generalizing state with
  | nil => rfl
  | cons call calls ih => rw [List.cons_append, trace, trace, after, ih, List.cons_append]

section Failure

variable {statement : Statement} {state : State} {e : ProxyError}

/-- A statement without a route has no units, whatever the texts would be. -/
theorem preview_of_route (h : proxy.route statement state = (.error e, state))
    (resolver : Resolver) :
    Proxy.preview { proxy with resolver } statement state = (.error e, state) := by
  have hroute : Proxy.route { proxy with resolver } statement state = (.error e, state) := h
  rw [preview, hroute]
  rfl

/-- A statement without a route reaches no backend, whatever the backends are. -/
theorem execute_of_route (h : proxy.route statement state = (.error e, state)) (backends : Backends)
    (keys : Bool) :
    proxy.execute backends statement keys state = (.answered (.error e), state) :=
  execute_of_preview_error proxy (preview_of_route h proxy.resolver)

/-- **A call about a statement without a route leaves the state as it was.** -/
theorem answer_of_route (h : proxy.route statement state = (.error e, state)) {call : Call}
    (hcall : call.statement? = some statement) : (proxy.answer state call).2 = state := by
  cases call <;> cases hcall
  case route => rw [answer, h]
  case preview => rw [answer, preview_of_route h proxy.resolver]
  case execute backends keys => rw [answer, execute_of_route h backends keys]

end Failure

/-- A router that leaves its balance when it fails makes a proxy that leaves its state. -/
theorem route_of_start {name : String} {workers : Nat} {rules : Rules} {schema : Schema}
    {resolver : Resolver} {dice : Dice} {start : State}
    (hu : ∀ rule, rules.splitting = some rule → rule.Unweighted)
    (hstart : Proxy.start name workers rules schema resolver dice = .returned (.ok (proxy, start)))
    {statement : Statement} {state : State} {e : ProxyError}
    (h : (proxy.route statement state).1 = .error e) :
    proxy.route statement state = (.error e, state) := by
  obtain ⟨hr, -⟩ := proxy.start_eq_ok hstart
  rw [route] at h ⊢
  dsimp only at h ⊢
  rcases hrouted : proxy.router.route statement state.schema.owner? state.balance with
    ⟨cause | plan, balance⟩
  · rw [hrouted] at h
    have hbalance := @balance_of_route_error rules dice proxy.router hu hr statement
      state.schema.owner? state.balance cause (by rw [hrouted])
    rw [hrouted] at hbalance
    cases h
    cases hbalance
    rfl
  · rw [hrouted] at h
    cases h

/-- **A statement without a route leaves no trace.**  A proxy is started over rules whose groups do
not weigh their reads.  In whatever state it is, a statement that cannot be routed gives an
error and leaves schema, turns, draws and executor as they were; it has no units, whatever
their texts would be, and no backend has a part in the answer.  So in any history of calls one about
such a statement can be left out: all other calls give back and leave behind the same, and
backends are asked for the same. -/
theorem trace_of_route_error {name : String} {workers : Nat} {rules : Rules} {schema : Schema}
    {resolver : Resolver} {dice : Dice} {start : State}
    (hu : ∀ rule, rules.splitting = some rule → rule.Unweighted)
    (hstart : Proxy.start name workers rules schema resolver dice =
      .returned (.ok (proxy, start))) :
    (∀ statement state e, (proxy.route statement state).1 = .error e →
      proxy.route statement state = (.error e, state) ∧
      (∀ resolver, Proxy.preview { proxy with resolver } statement state = (.error e, state)) ∧
      ∀ backends keys,
        proxy.execute backends statement keys state = (.answered (.error e), state)) ∧
    ∀ earlier call later state statement e, call.statement? = some statement →
      (proxy.route statement (proxy.after earlier state)).1 = .error e →
        proxy.trace (earlier ++ later) state =
          (proxy.trace (earlier ++ call :: later) state).eraseIdx earlier.length := by
  constructor
  · intro statement state e he
    have hroute := route_of_start hu hstart he
    exact ⟨hroute, preview_of_route hroute, execute_of_route hroute⟩
  · intro earlier call later state statement e hcall he
    have hstate := answer_of_route (route_of_start hu hstart he) hcall
    rw [trace_append, trace_append, trace, hstate,
      List.eraseIdx_append_of_length_le (Nat.le_of_eq (length_trace earlier state)),
      length_trace, Nat.sub_self, List.eraseIdx_cons_zero]

/-- The proxy of the ring. -/
def ring : Proxy := ⟨"ring", ringRouter fun _ => 0, selectAll⟩

/-- The proxy of the ring before any statement. -/
def ringStart : State := ⟨.empty, .initial, .ofPool (.ofSize 1)⟩

/-- The proxy of the ring starts. -/
theorem start_ring : Proxy.start "ring" 1 ringRules .empty selectAll (fun _ => 0) =
    .returned (.ok (ring, ringStart)) := by
  rw [Proxy.start, router_ringRules]
  rfl

/-- Backends that are all down. -/
def downBackends : Backends := fun dataSource => .error (.connection dataSource "down")

/-- In the ring a query that names an unknown table after a known one can be left out between two
others, of which the first has taken turns and the second asks backends. -/
theorem trace_of_route_error_ring :
    Proxy.start "ring" 1 ringRules .empty selectAll (fun _ => 0) =
        .returned (.ok (ring, ringStart)) ∧
      (∀ rule, ringRules.splitting = some rule → rule.Unweighted) ∧
      (ring.route (.select ["t_order", "missing"])
        (ring.after [.route (.select ["t_order"])] ringStart)).1 =
          .error (.routing (.noTableRule "missing")) ∧
      ring.execute downBackends (.select ["t_order", "missing"]) true ringStart =
        (.answered (.error (.routing (.noTableRule "missing"))), ringStart) ∧
      ring.trace [.route (.select ["t_order"]), .execute downBackends (.select ["country"]) false]
          ringStart =
        (ring.trace [.route (.select ["t_order"]),
          .execute downBackends (.select ["t_order", "missing"]) true,
          .execute downBackends (.select ["country"]) false] ringStart).eraseIdx 1 := by
  have hu : ∀ rule, ringRules.splitting = some rule → rule.Unweighted := by
    rintro rule ⟨⟩
    simp [SplittingConfig.Unweighted, SplittingConfig.balancer?, ringSplitting, ringMain,
      ringArchive]
  have herror : (ring.route (.select ["t_order", "missing"])
      (ring.after [.route (.select ["t_order"])] ringStart)).1 =
        .error (.routing (.noTableRule "missing")) := rfl
  obtain ⟨hfailed, htrace⟩ := trace_of_route_error hu start_ring
  obtain ⟨-, -, hexecute⟩ := hfailed (.select ["t_order", "missing"]) ringStart _ rfl
  exact ⟨start_ring, hu, herror, hexecute downBackends true,
    htrace [.route (.select ["t_order"])]
      (.execute downBackends (.select ["t_order", "missing"]) true)
      [.execute downBackends (.select ["country"]) false] ringStart _ _ rfl herror⟩

end Proxy

end ShardProxy
