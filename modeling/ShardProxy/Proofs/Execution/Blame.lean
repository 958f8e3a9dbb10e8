/-
# Every error names a unit

Whatever becomes of the units of a statement, an error that its caller gets is about one of them:
the first unit failed, or a later one failed, was lost, or brought a result of the other variant.
The error names that unit's data source (`Valid.blames`), in every schedule and on every pool
(`blames_of_performAll?`).  So no statement that has units gets the error that it has none.
-/

import ShardProxy.Proofs.Execution.Schedules

namespace ShardProxy

/-- An error about one of a statement's units. -/
def ExecutionError.Blames (e : ExecutionError) (units : List ExecutionUnit) : Prop :=
  ∃ unit ∈ units, e.dataSource? = some unit.dataSource

/-- An error about a unit does not say that there is none. -/
theorem ExecutionError.Blames.ne_noUnit {e : ExecutionError} {units : List ExecutionUnit}
    (h : e.Blames units) : e ≠ .noUnit := by
  rintro rfl
  obtain ⟨unit, -, hsource⟩ := h
  cases hsource

/-- A case fails with an error about its unit. -/
theorem Case.dataSource?_of_fault? {kind : ResponseKind} {c : Case} {e : ExecutionError}
    (h : c.fault? kind = some e) : e.dataSource? = some c.unit.dataSource := by
  unfold fault? at h
  split at h
  · cases h
    rfl
  · cases h
    rfl
  · split at h <;> cases h
    rfl

/-- A lot fails with an error about its unit, with a worker or without. -/
theorem Lot.dataSource?_of_fault? {kind : ResponseKind} {lot : Lot} {e : ExecutionError}
    (h : lot.fault? kind = some e) : e.dataSource? = some lot.unit.dataSource := by
  unfold fault? at h
  split at h
  · exact Case.dataSource?_of_fault? h
  · cases h
    rfl

/-- **Units that run one after the other fail with an error about one of them.** -/
theorem Lot.blames_of_sequential {first : Case} {later : List Lot} {e : ExecutionError}
    (h : sequential first later = .answered (.error e)) :
    e.Blames (first.unit :: later.map fun lot => lot.unit) := by
  unfold sequential at h
  split at h
  · cases h
  · cases h
    exact ⟨first.unit, List.mem_cons_self, rfl⟩
  · split at h
    · next e' hfault =>
      cases h
      obtain ⟨lot, hlot, hfault⟩ := List.exists_of_findSome?_eq_some hfault
      refine ⟨lot.unit, ?_, dataSource?_of_fault? hfault⟩
      exact List.mem_cons_of_mem _ (List.mem_map_of_mem hlot)
    · cases h

/-- The lots of later units are about these units. -/
theorem Lot.map_unit_ofLater (later : List ExecutionUnit) (conduct : Nat → Conduct)
    (worked : Nat → Bool) : (ofLater later conduct worked).map (fun lot => lot.unit) = later := by
  refine List.ext_getElem? fun i => ?_
  rw [ofLater, List.getElem?_map, List.getElem?_mapIdx, Option.map_map]
  exact congrFun Option.map_id later[i]?

/-- A way for backends to treat a unit that leads its run to where it is. -/
def Progress.conduct : Progress → Conduct
  | exited conduct => conduct
  | _ => .connected (.crashed "")

/-- A run follows the treatment that leads to where it is. -/
theorem Progress.follows_conduct (progress : Progress) : progress.Follows progress.conduct := by
  cases progress with
  | executing => exact ⟨.crashed "", rfl⟩
  | exited conduct => rfl
  | _ => trivial

/-- Whether a run has not been refused a worker. -/
def Progress.unrefused : Progress → Bool
  | refused => false
  | _ => true

/-- A run has worked unless it was refused. -/
theorem Progress.worked_unrefused (progress : Progress) : progress.Worked progress.unrefused := by
  cases progress with
  | refused => rfl
  | exited conduct => rfl
  | _ => trivial

namespace Dispatch

variable {dispatch : Dispatch} {first : ExecutionUnit} {later : List ExecutionUnit} {keys : Bool}
  {e : ExecutionError}

/-- **The caller of a valid statement gets errors about its units only.** -/
theorem Valid.blames (h : Valid dispatch)
    (hjobs : dispatch.runs.map Run.job = (ofUnits first later keys).runs.map Run.job)
    (hverdict : dispatch.caller.verdict = .answered (.error e)) : e.Blames (first :: later) := by
  obtain ⟨progress, hprogress⟩ : ∃ progress : Nat → Progress, ∀ (i : Nat) (run : Run),
      dispatch.runs[i]? = some run → run.progress = progress i :=
    ⟨fun i => ((dispatch.runs[i]?).map Run.progress).getD .unsent, fun i run hrun => by simp [hrun]⟩
  -- Where the runs are tells one of the ways in which they can have been treated.
  have hfollows : ∀ (i : Nat) (run : Run), dispatch.runs[i]? = some run →
      run.progress.Follows (progress i).conduct := fun i run hrun => by
    rw [hprogress i run hrun]
    exact (progress i).follows_conduct
  have hworked : ∀ (i : Nat) (run : Run), i ≠ 0 → dispatch.runs[i]? = some run →
      run.progress.Worked (progress i).unrefused := fun i run _ hrun => by
    rw [hprogress i run hrun]
    exact (progress i).worked_unrefused
  have hlots := h.stands.verdict_lots hjobs hfollows hworked
  rcases hlots with hpending | hlots
  · cases hpending.symm.trans hverdict
  · have hblames := Lot.blames_of_sequential (hlots.symm.trans hverdict)
    rwa [Lot.map_unit_ofLater] at hblames

end Dispatch

namespace Executor

/-- **Whatever else happens, a statement fails with an error about one of its units.** -/
theorem blames_of_performAll? {before executor : Executor} {actions : List Action}
    {first : ExecutionUnit} {later : List ExecutionUnit} {keys : Bool} {e : ExecutionError}
    (hrun : before.performAll? (.arrive first later keys :: actions) = some executor)
    (hverdict : executor.verdict before.statements.length = .answered (.error e)) :
    e.Blames (first :: later) := by
  obtain ⟨dispatch, hdispatch, hvalid, hjobs, -⟩ := exists_dispatch_of_performAll? hrun
  rw [verdict_eq hdispatch] at hverdict
  exact hvalid.blames hjobs hverdict

/-- Things that happen where they can are things that happen. -/
theorem exists_performAll?_eq_performEach (executor : Executor) (actions : List Action) :
    ∃ done, executor.performAll? done = some (executor.performEach actions) := by
  induction actions generalizing executor with
  | nil => exact ⟨[], rfl⟩
  | cons action actions ih =>
    rw [performEach]
    rcases hnext : executor.perform? action with - | next
    · exact ih executor
    · obtain ⟨done, hdone⟩ := ih next
      refine ⟨action :: done, ?_⟩
      rw [performAll?, hnext]
      exact hdone

/-- **A statement that is executed fails with an error about one of its units,** if it has any. -/
theorem blames_of_execute {executor : Executor} {backends : Backends} {units : List ExecutionUnit}
    {keys : Bool} {e : ExecutionError} (hunits : units ≠ [])
    (h : (executor.execute backends units keys).1 = .answered (.error e)) : e.Blames units := by
  cases units with
  | nil => exact absurd rfl hunits
  | cons first later =>
    rw [execute] at h
    dsimp only at h
    rw [performEach] at h
    obtain ⟨done, hdone⟩ := exists_performAll?_eq_performEach
      { executor with statements := executor.statements ++ [.ofUnits first later keys] }
      (((Dispatch.ofUnits first later keys).schedule backends executor.pool.closed).map
        (.act executor.statements.length))
    have hrun : executor.performAll? (.arrive first later keys :: done) = some _ := hdone
    exact blames_of_performAll? hrun h

end Executor

end ShardProxy
