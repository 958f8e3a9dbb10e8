/-
# Every route has a target

The stages of a set of rules leave no plan without targets and take part in every statement, so
whatever is routed is routed somewhere.  Looking at the plan tells whether it has been made as well
as keeping track of it does; no statement is refused for want of a stage; and a statement that has
a route has a unit to execute, so its execution never fails because there is none
(`targets_of_route`).
-/

import ShardProxy.Proofs.Execution.Blame
import ShardProxy.Proofs.Failures
import ShardProxy.Proofs.Routing.Fruitful

namespace ShardProxy

namespace Proxy

variable {proxy : Proxy}

/-- A proxy all of whose stages are fruitful has units for what it routes. -/
theorem units_of_preview (h : ∀ stage ∈ proxy.router.stages, stage.Fruitful)
    {statement : Statement} {state : State} {units : List ExecutionUnit}
    (hunits : (proxy.preview statement state).1 = .ok units) : units ≠ [] := by
  rw [preview, route] at hunits
  dsimp only at hunits
  rcases hroute : (proxy.router.route statement state.schema.owner? state.balance).1 with e | plan
  · rw [hroute] at hunits
    cases hunits
  · rw [hroute] at hunits
    cases hunits
    have hplan : plan.targets ≠ [] := Pipeline.targets_of_run h hroute
    simpa [Plan.units] using hplan

/-- A statement has no units because it has no route. -/
theorem exists_routing_of_preview {statement : Statement} {state : State} {e : ProxyError}
    (h : (proxy.preview statement state).1 = .error e) : ∃ cause, e = .routing cause := by
  rw [preview, route] at h
  dsimp only at h
  rcases hroute : (proxy.router.route statement state.schema.owner? state.balance).1 with
    cause | plan
  · rw [hroute] at h
    cases h
    exact ⟨cause, rfl⟩
  · rw [hroute] at h
    cases h

/-- **A statement never fails for want of a unit:** it has no route, or an error names one of its
units. -/
theorem execute_ne_noUnit (h : ∀ stage ∈ proxy.router.stages, stage.Fruitful)
    (backends : Backends) (statement : Statement) (keys : Bool) (state : State) :
    (proxy.execute backends statement keys state).1 ≠ .answered (.error (.execution .noUnit)) := by
  rcases hpreview : proxy.preview statement state with ⟨e | units, after⟩
  · obtain ⟨cause, rfl⟩ := exists_routing_of_preview (congrArg Prod.fst hpreview)
    rw [execute_of_preview_error proxy hpreview]
    rintro ⟨⟩
  · have hunits : units ≠ [] := units_of_preview h (congrArg Prod.fst hpreview)
    rw [execute, hpreview]
    dsimp only
    rcases hverdict : (after.executor.execute backends units keys).1 with
      _ | (e | response) | message
    · rintro ⟨⟩
    · have hblames := Executor.blames_of_execute hunits hverdict
      rintro ⟨⟩
      exact hblames.ne_noUnit rfl
    · rintro ⟨⟩
    · rintro ⟨⟩

end Proxy

/-- **Every route has a target.**  Whatever statement a router routes, whoever owns its indexes and
whatever the balancers have picked before: if there is a route it has a target, if there is none
it is not for want of a stage, and a stage that looks whether the plan has targets takes the part of
one that is told whether the plan has been made.  So a proxy that has been started over the
rules finds units for whatever it routes, and no statement comes to the error that it has none: not
when it is executed, and not when its units arrive at any executor, whatever else goes on there. -/
theorem targets_of_route {rules : Rules} {dice : Dice} {router : Pipeline Balance}
    (hr : rules.router dice = .ok router) :
    (∀ statement owner balance,
      (∀ plan, (router.route statement owner balance).1 = .ok plan → plan.targets ≠ []) ∧
      (∀ kind, (router.route statement owner balance).1 ≠ .error (.noStage kind)) ∧
      router.routeByTargets statement owner balance = router.route statement owner balance) ∧
    ∀ name workers schema resolver proxy start,
      Proxy.start name workers rules schema resolver dice = .returned (.ok (proxy, start)) →
      ∀ statement state,
        (∀ backends keys, (proxy.execute backends statement keys state).1 ≠
          .answered (.error (.execution .noUnit))) ∧
        ∀ units, (proxy.preview statement state).1 = .ok units →
          ∃ first later, units = first :: later ∧
            ∀ keys (before executor : Executor) actions,
              before.performAll? (.arrive first later keys :: actions) = some executor →
              executor.verdict before.statements.length ≠ .answered (.error .noUnit) := by
  have hfruitful := fruitful_of_router hr
  have hdecisive := decisive_of_router hr
  have hstages := (stages_of_router hr).1
  refine ⟨fun statement owner balance => ⟨fun plan hplan => ?_, ?_, ?_⟩,
    fun name workers schema resolver proxy start hstart statement state => ?_⟩
  · exact Pipeline.targets_of_run hfruitful hplan
  · exact Pipeline.route_ne_noStage hstages hdecisive statement owner balance
  · exact Pipeline.routeByTargets_eq_route hfruitful statement owner balance
  · obtain ⟨hrouter, -⟩ := proxy.start_eq_ok hstart
    cases hr.symm.trans hrouter
    refine ⟨fun backends keys => ?_, fun units hunits => ?_⟩
    · exact Proxy.execute_ne_noUnit hfruitful backends statement keys state
    · obtain ⟨first, later, rfl⟩ :=
        List.exists_cons_of_ne_nil (Proxy.units_of_preview hfruitful hunits)
      refine ⟨first, later, rfl, fun keys before executor actions hrun hverdict => ?_⟩
      exact (Executor.blames_of_performAll? hrun hverdict).ne_noUnit rfl

/-- A statement with two units, whose backends are down. -/
def lostPair : List Executor.Action :=
  [.submit, .turn 0 .start, .turn 0 (.fail (.returned (.connection "r1" "down"))),
    .turn 1 .start, .turn 1 (.fail (.returned (.connection "a1" "down"))), .collect,
    .reply].map (.act 0)

/-- In the ring a query of countries has two units, and with all backends down it fails with an
error about the first. -/
theorem targets_of_route_ring :
    ringRules.router (fun _ => 0) = .ok (ringRouter fun _ => 0) ∧
      Proxy.start "ring" 1 ringRules .empty selectAll (fun _ => 0) =
        .returned (.ok (Proxy.ring, Proxy.ringStart)) ∧
      (ringRouter fun _ => 0).routeByTargets (.select ["country"]) (fun _ => none) .initial =
        (ringRouter fun _ => 0).route (.select ["country"]) (fun _ => none) .initial ∧
      (Proxy.ring.execute Proxy.downBackends (.select ["country"]) true Proxy.ringStart).1 ≠
        .answered (.error (.execution .noUnit)) ∧
      ∃ executor, (Executor.ofPool (.ofSize 1)).performAll?
          (.arrive ⟨"r1", "SELECT * FROM country"⟩ [⟨"a1", "SELECT * FROM country"⟩] true ::
            lostPair) = some executor ∧
        executor.verdict 0 = .answered (.error (.unit "r1" (.connection "r1" "down"))) ∧
        executor.verdict 0 ≠ .answered (.error .noUnit) := by
  have hrun : ((Executor.ofPool (.ofSize 1)).performAll?
      (.arrive ⟨"r1", "SELECT * FROM country"⟩ [⟨"a1", "SELECT * FROM country"⟩] true ::
        lostPair)).map (fun executor => executor.verdict 0) =
      some (.answered (.error (.unit "r1" (.connection "r1" "down")))) := by
    cbv
  obtain ⟨executor, hrun, hverdict⟩ := Option.map_eq_some_iff.1 hrun
  obtain ⟨hroute, hproxy⟩ := targets_of_route (router_ringRules fun _ => 0)
  obtain ⟨-, -, hsame⟩ := hroute (.select ["country"]) (fun _ => none) .initial
  obtain ⟨hexecute, hunits⟩ := hproxy _ _ _ _ _ _ Proxy.start_ring (.select ["country"])
    Proxy.ringStart
  obtain ⟨first, later, hcons, harrive⟩ := hunits
    [⟨"r1", "SELECT * FROM country"⟩, ⟨"a1", "SELECT * FROM country"⟩] rfl
  cases hcons
  exact ⟨router_ringRules _, Proxy.start_ring, hsame, hexecute Proxy.downBackends true, executor,
    hrun, hverdict, harrive true _ _ _ hrun⟩

end ShardProxy
