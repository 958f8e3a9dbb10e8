/-
# The response does not depend on the schedule

A statement arrives at an executor where other statements may be under way and more may
come, and backends treat each unit in a way fixed beforehand.  However the steps
interleave, if the pool is open the caller gets what the units come to one after the other
(`verdict_of_performAll?`): it gets nothing else, the statement takes a bounded number
of steps, and when no statement can take a step any more the caller has it.
-/

import ShardProxy.Proofs.Execution.Quiet
import ShardProxy.Proofs.Execution.Sequential

namespace ShardProxy

section Runs

variable {runs : List Run} {first : ExecutionUnit} {later : List ExecutionUnit} {keys : Bool}
  {conduct : Nat → Conduct} {worked : Nat → Bool}

/-- The later units of a statement with the ways in which backends treat them. -/
def Case.ofLater (later : List ExecutionUnit) (conduct : Nat → Conduct) : List Case :=
  later.mapIdx fun i unit => ⟨unit, conduct (i + 1)⟩

/-- The later units of a statement as cases, and whether they get a worker. -/
def Lot.ofLater (later : List ExecutionUnit) (conduct : Nat → Conduct) (worked : Nat → Bool) :
    List Lot :=
  later.mapIdx fun i unit => ⟨⟨unit, conduct (i + 1)⟩, worked (i + 1)⟩

/-- Lots that all get a worker are the cases themselves. -/
theorem Lot.ofLater_worked (later : List ExecutionUnit) (conduct : Nat → Conduct) :
    ofLater later conduct (fun _ => true) =
      (Case.ofLater later conduct).map fun c => ⟨c, true⟩ := by
  refine List.ext_getElem? fun i => ?_
  rw [ofLater, Case.ofLater, List.getElem?_map, List.getElem?_mapIdx, List.getElem?_mapIdx,
    Option.map_map]
  rfl

/-- An exited run has exited as its conduct says. -/
theorem Progress.Follows.eq {progress : Progress} {conduct conduct' : Conduct}
    (h : progress.Follows conduct) (hp : progress = .exited conduct') : conduct' = conduct := by
  rw [hp] at h
  exact h

/-- Whether a run that has come to its end has had a worker. -/
def Progress.Worked (worked : Bool) : Progress → Prop
  | refused => worked = false
  | exited _ => worked = true
  | _ => True

/-- The answer of a later unit that has come to its end is that of its lot. -/
theorem Run.answer?_eq_lot {run : Run} {answer : LaterAnswer} {conduct : Conduct} {worked : Bool}
    (h : run.answer? = some answer) (hfollows : run.progress.Follows conduct)
    (hworked : run.progress.Worked worked) :
    answer = Lot.answer ⟨⟨run.job.unit, conduct⟩, worked⟩ := by
  rw [Lot.answer]
  dsimp only
  by_cases hrefused : run.progress = .refused
  · rw [hrefused] at hworked
    rw [answer?, hrefused] at h
    rw [hworked, if_neg Bool.false_ne_true]
    exact (Option.some.inj h).symm
  · obtain ⟨conduct', hp⟩ := exists_exited h hrefused
    rw [hp] at hworked
    rw [answer?_of_exited hp, hfollows.eq hp] at h
    rw [hworked, if_pos rfl]
    exact (Option.some.inj h).symm

/-- **Once the answers of all later units are held, they are those of their lots in order.** -/
theorem Dispatch.Holds.eq_map {rest : List LaterAnswer} (h : Holds runs rest)
    (hall : rest.length + 1 = runs.length)
    (hjobs : runs.map Run.job = (ofUnits first later keys).runs.map Run.job)
    (hfollows : ∀ (i : Nat) (run : Run), runs[i]? = some run → run.progress.Follows (conduct i))
    (hworked : ∀ (i : Nat) (run : Run), i ≠ 0 → runs[i]? = some run →
      run.progress.Worked (worked i)) :
    rest = (Lot.ofLater later conduct worked).map Lot.answer := by
  have hlen := length_of_map_job hjobs
  refine List.ext_getElem? fun j => ?_
  rw [List.getElem?_map, Lot.ofLater, List.getElem?_mapIdx]
  rcases hj : rest[j]? with - | answer
  · have hle := List.getElem?_eq_none_iff.1 hj
    rw [List.getElem?_eq_none (by omega)]
    rfl
  · obtain ⟨run, hrun, hanswer⟩ := Option.bind_eq_some_iff.1 (h j answer hj)
    obtain ⟨unit, hunit, hjob⟩ := exists_unit_of_map_job hjobs hrun
    have hlot := Run.answer?_eq_lot hanswer (hfollows (j + 1) run hrun)
      (hworked (j + 1) run (by omega) hrun)
    rw [List.getElem?_cons_succ] at hunit
    rw [hunit, hlot, hjob]
    rfl

/-- **A caller that stands where its runs allow waits, or has what their lots come to.** -/
theorem Dispatch.Stands.verdict_lots {caller : Caller} (h : Stands runs caller)
    (hjobs : runs.map Run.job = (ofUnits first later keys).runs.map Run.job)
    (hfollows : ∀ (i : Nat) (run : Run), runs[i]? = some run → run.progress.Follows (conduct i))
    (hworked : ∀ (i : Nat) (run : Run), i ≠ 0 → runs[i]? = some run →
      run.progress.Worked (worked i)) :
    caller.verdict = .pending ∨
      caller.verdict = Lot.sequential ⟨first, conduct 0⟩ (Lot.ofLater later conduct worked) := by
  cases h with
  | submitting => exact Or.inl rfl
  | running => exact Or.inl rfl
  | collecting => exact Or.inl rfl
  | crashed hfirst hprogress hexit hsent =>
    right
    rw [(hfollows 0 _ hfirst).eq hprogress] at hexit
    rw [Lot.sequential]
    dsimp only
    rw [hexit]
    rfl
  | @returned answer rest hcollected hall =>
    right
    cases hcollected with
    | @collecting run conduct' answer rest hfirst hprogress hexit hsent hrest =>
      rw [(hfollows 0 run hfirst).eq hprogress] at hexit
      obtain ⟨unit, hunit, hjob⟩ := exists_unit_of_map_job hjobs hfirst
      cases hunit
      rw [Caller.verdict, hrest.eq_map hall hjobs hfollows hworked]
      exact conclude_eq_sequential (by rw [hjob]) hexit

/-- **When no run has been refused a worker** the caller waits, or has what the conducts of its runs
come to. -/
theorem Dispatch.Stands.verdict {caller : Caller} (h : Stands runs caller)
    (hjobs : runs.map Run.job = (ofUnits first later keys).runs.map Run.job)
    (hfollows : ∀ (i : Nat) (run : Run), runs[i]? = some run → run.progress.Follows (conduct i))
    (hrefused : ∀ (i : Nat) (run : Run), runs[i]? = some run → run.progress ≠ .refused) :
    caller.verdict = .pending ∨
      caller.verdict = Case.sequential ⟨first, conduct 0⟩ (Case.ofLater later conduct) := by
  have hworked : ∀ (i : Nat) (run : Run), i ≠ 0 → runs[i]? = some run →
      run.progress.Worked true := by
    intro i run _ hrun
    have hnot := hrefused i run hrun
    rcases hp : run.progress
    case refused => exact absurd hp hnot
    case exited => rfl
    all_goals trivial
  have hlots := h.verdict_lots hjobs hfollows hworked
  rwa [Lot.ofLater_worked, Lot.sequential_of_worked] at hlots

end Runs

namespace Executor

/-- **The response to a statement does not depend on the schedule.**  Whatever else the executor has
done or does, whoever gets the workers and in whatever order units start, connect and end: on an
open pool the caller of a statement gets what its units come to one after the other, or waits
while some statement can take a step; and the statement takes a bounded number of steps. -/
theorem verdict_of_performAll? {workers : Nat} {past actions : List Action}
    {before executor : Executor} {conduct : Slot → Conduct} {first : ExecutionUnit}
    {later : List ExecutionUnit} {keys : Bool}
    (hpast : (ofPool (.ofSize workers)).performAll? past = some before)
    (hrun : before.performAll? (.arrive first later keys :: actions) = some executor)
    (hopen : executor.pool.closed = false)
    (hconduct : ∀ action ∈ past ++ actions, action.Respects conduct) :
    let n := before.statements.length
    (executor.verdict n =
        Case.sequential ⟨first, conduct ⟨n, 0⟩⟩ (Case.ofLater later fun i => conduct ⟨n, i⟩) ∨
      executor.verdict n = .pending ∧ ∃ m act, (Action.act m act).Respects conduct ∧
        (executor.perform? (.act m act)).isSome) ∧
    actions.countP (·.isActOf n) ≤ 5 * later.length + 4 := by
  intro n
  obtain ⟨dispatch, hdispatch, hvalid, hjobs, hsteps⟩ := exists_dispatch_of_performAll? hrun
  have hall := performAll?_append hpast hrun
  have hr : ∀ action ∈ past ++ .arrive first later keys :: actions, action.Respects conduct := by
    intro action ha
    rcases List.mem_append.1 ha with ha | ha
    · exact hconduct action (List.mem_append_left _ ha)
    · rcases List.mem_cons.1 ha with rfl | ha
      · trivial
      · exact hconduct action (List.mem_append_right _ ha)
  have hsound := sound_of_performAll? hall
  have hfollows := follows_of_performAll? hall hr
  have hunrefused := unrefused_of_performAll? hall hopen
  have hslot : ∀ {i : Nat} {run : Run}, dispatch.runs[i]? = some run →
      executor.run? ⟨n, i⟩ = some run := fun hi => run?_eq_some_iff.2 ⟨dispatch, hdispatch, hi⟩
  have hverdict := hvalid.stands.verdict hjobs
    (fun i run hi => hfollows ⟨n, i⟩ run (hslot hi))
    fun i run hi => hunrefused ⟨n, i⟩ run (hslot hi)
  rw [verdict_eq hdispatch]
  refine ⟨?_, hsteps⟩
  rcases hverdict with hpending | hdone
  · right
    refine ⟨hpending, Classical.byContradiction fun hnone => ?_⟩
    have hquiet : executor.Quiet conduct := fun m act hact => by
      rcases hnext : executor.perform? (.act m act) with - | next
      · rfl
      · exact (hnone ⟨m, act, hact, by rw [hnext]; rfl⟩).elim
    have hconcluded := hsound.concluded_of_quiet hfollows hquiet hdispatch
    rcases hc : dispatch.caller <;> rw [hc] at hconcluded hpending
    all_goals first
      | exact hconcluded
      | cases hpending
  · exact Or.inl hdone

/-- In a race the first unit brings rows, the second an update, and the third gets no
connection. -/
def raceConduct (slot : Slot) : Conduct :=
  match slot.position with
  | 0 => .connected (.returned (.ok (.query [] [.ok [.int 1]])))
  | 1 => .connected (.returned (.ok (.update ⟨1, none, []⟩)))
  | _ => .unconnected (.returned (.connection "c" "down"))

/-- A race on one worker in which the third unit is the first to end. -/
def race : List Action :=
  [.submit, .submit, .turn 2 .start, .turn 2 (.fail (.returned (.connection "c" "down"))),
    .turn 1 .start, .turn 0 .start, .turn 0 .connect, .turn 1 .connect,
    .turn 0 (.finish (.returned (.ok (.query [] [.ok [.int 1]])))),
    .turn 1 (.finish (.returned (.ok (.update ⟨1, none, []⟩)))), .collect, .collect,
    .reply].map (.act 0)

/-- The race runs to its end, with the pool open. -/
theorem exists_race : ∃ executor, (ofPool (.ofSize 1)).performAll?
      (.arrive ⟨"a", "q"⟩ [⟨"b", "q"⟩, ⟨"c", "q"⟩] false :: race) = some executor ∧
    executor.pool.closed = false ∧
    executor.verdict 0 = .answered (.error (.mismatch "b" .query .update)) := by
  have hrun : ((ofPool (.ofSize 1)).performAll?
      (.arrive ⟨"a", "q"⟩ [⟨"b", "q"⟩, ⟨"c", "q"⟩] false :: race)).map
        (fun executor => (executor.pool.closed, executor.verdict 0)) =
      some (false, .answered (.error (.mismatch "b" .query .update))) := by
    cbv
  obtain ⟨executor, hrun, hends⟩ := Option.map_eq_some_iff.1 hrun
  obtain ⟨hopen, hverdict⟩ := Prod.mk.inj hends
  exact ⟨executor, hrun, hopen, hverdict⟩

/-- The third unit of the race fails first in time, but the response is about the second. -/
theorem verdict_of_performAll?_race : ∃ executor,
    (ofPool (.ofSize 1)).performAll? (.arrive ⟨"a", "q"⟩ [⟨"b", "q"⟩, ⟨"c", "q"⟩] false :: race) =
      some executor ∧
    executor.verdict 0 = .answered (.error (.mismatch "b" .query .update)) ∧
    executor.verdict 0 = Case.sequential ⟨⟨"a", "q"⟩, raceConduct ⟨0, 0⟩⟩
      (Case.ofLater [⟨"b", "q"⟩, ⟨"c", "q"⟩] fun i => raceConduct ⟨0, i⟩) := by
  obtain ⟨executor, hrun, hopen, hverdict⟩ := exists_race
  have hrespects : ∀ action ∈ [] ++ race, action.Respects raceConduct := by
    simp [race, Action.Respects, Turn.Respects, raceConduct]
  have h := @verdict_of_performAll? 1 [] race _ _ raceConduct _ _ _ rfl hrun hopen hrespects
  refine ⟨executor, hrun, hverdict, ?_⟩
  rcases h.1 with hdone | ⟨hpending, -⟩
  · exact hdone
  · cases hpending.symm.trans hverdict

end Executor

end ShardProxy
