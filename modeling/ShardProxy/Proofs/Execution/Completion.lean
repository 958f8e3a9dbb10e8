/-
# Every unit runs once, and none is left behind

When a statement returns, with a response or an error, on an open pool, each of its units
has asked for a connection once and, if it got one, has run its own text there
once, under the options of its position.  Nothing else has happened in the statement's
name, and the tasks it had submitted have all come to their end: a failed unit neither
cancels the others nor leaves them behind.
-/

import ShardProxy.Proofs.Execution.Schedules

namespace ShardProxy

/-- The events of a unit that has run exactly once. -/
inductive RanOnce (slot : Slot) (job : Job) : List Event → Prop
  /-- It got no connection. -/
  | unconnected : RanOnce slot job [.ask slot job.unit.dataSource]
  /-- Its text ran and crashed. -/
  | crashed : RanOnce slot job [.ask slot job.unit.dataSource, .connect slot, .run slot job]
  /-- Its text ran and returned. -/
  | returned : RanOnce slot job
    [.ask slot job.unit.dataSource, .connect slot, .run slot job, .complete slot job]

/-- An exited run has run exactly once. -/
theorem Run.ranOnce_trace {run : Run} {conduct : Conduct} (h : run.progress = .exited conduct)
    (slot : Slot) : RanOnce slot run.job (run.trace slot) := by
  rw [trace, h]
  rcases conduct with exit | ⟨answer | message⟩
  · exact .unconnected
  · exact .returned
  · exact .crashed

/-- **When the caller returns every run has exited**, if none has been refused a worker. -/
theorem Dispatch.Stands.exists_exited {runs : List Run} {response : Except ExecutionError Response}
    (h : Stands runs (.returned response))
    (hrefused : ∀ (i : Nat) (run : Run), runs[i]? = some run → run.progress ≠ .refused) {i : Nat}
    {run : Run} (hrun : runs[i]? = some run) : ∃ conduct, run.progress = .exited conduct := by
  cases h with
  | @returned first rest hcollected hall =>
    cases hcollected with
    | @collecting first conduct answer rest hfirst hprogress hexit hsent hrest =>
      rcases i with - | j
      · cases hfirst.symm.trans hrun
        exact ⟨conduct, hprogress⟩
      · have hlt := (List.getElem?_eq_some_iff.1 hrun).1
        have hj : rest[j]? = some rest[j] := List.getElem?_eq_getElem (by omega)
        have hanswer := hrest j rest[j] hj
        rw [hrun, Option.bind_some] at hanswer
        exact Run.exists_exited hanswer (hrefused (j + 1) run hrun)

namespace Executor

/-- An event of the log belongs to a unit of a statement. -/
theorem Logged.exists_run {executor : Executor} (h : Logged executor) {event : Event}
    (hevent : event ∈ executor.log) : ∃ run, executor.run? event.slot = some run := by
  have hmem : event ∈ executor.history event.slot :=
    List.mem_filter.2 ⟨hevent, decide_eq_true rfl⟩
  rw [h event.slot] at hmem
  rcases hrun : executor.run? event.slot with - | run
  · rw [hrun] at hmem
    cases hmem
  · exact ⟨run, rfl⟩

/-- **When a statement returns, on an open pool, all its runs have exited.** -/
theorem exists_returned {workers : Nat} {past actions : List Action} {before executor : Executor}
    {first : ExecutionUnit} {later : List ExecutionUnit} {keys : Bool}
    {response : Except ExecutionError Response}
    (hpast : (ofPool (.ofSize workers)).performAll? past = some before)
    (hrun : before.performAll? (.arrive first later keys :: actions) = some executor)
    (hopen : executor.pool.closed = false)
    (hanswered : executor.verdict before.statements.length = .answered response) :
    ∃ dispatch, executor.statements[before.statements.length]? = some dispatch ∧
      dispatch.runs.map Run.job = (Dispatch.ofUnits first later keys).runs.map Run.job ∧
      ∀ (i : Nat) (run : Run), dispatch.runs[i]? = some run →
        ∃ conduct, run.progress = .exited conduct := by
  obtain ⟨dispatch, hdispatch, hvalid, hjobs, -⟩ := exists_dispatch_of_performAll? hrun
  have hunrefused := unrefused_of_performAll? (performAll?_append hpast hrun)
  have hstands := hvalid.stands
  rw [verdict_eq hdispatch] at hanswered
  rw [Caller.eq_returned hanswered] at hstands
  refine ⟨dispatch, hdispatch, hjobs, fun i run hi => hstands.exists_exited ?_ hi⟩
  intro j other hj
  exact hunrefused hopen ⟨_, j⟩ other (run?_eq_some_iff.2 ⟨dispatch, hdispatch, hj⟩)

/-- **When a statement returns, each of its units has run exactly once and none is left behind.**
On an open pool, whatever the outcomes of the units, the schedule and the other statements: each
unit has the events of one run under the options of its position, nothing else has happened for
the statement, and the task of each later unit has exited. -/
theorem ranOnce_of_performAll? {workers : Nat} {past actions : List Action}
    {before executor : Executor} {first : ExecutionUnit} {later : List ExecutionUnit} {keys : Bool}
    {response : Except ExecutionError Response}
    (hpast : (ofPool (.ofSize workers)).performAll? past = some before)
    (hrun : before.performAll? (.arrive first later keys :: actions) = some executor)
    (hopen : executor.pool.closed = false)
    (hanswered : executor.verdict before.statements.length = .answered response) :
    let n := before.statements.length
    (∀ i unit, (first :: later)[i]? = some unit →
      RanOnce ⟨n, i⟩ ⟨unit, ⟨.oneRow, keys, i == 0⟩⟩ (executor.history ⟨n, i⟩)) ∧
    (∀ event ∈ executor.log, event.slot.statement = n → event.slot.position ≤ later.length) ∧
    (∀ i, 1 ≤ i → i ≤ later.length → ∃ task exit, executor.task? ⟨n, i⟩ = some task ∧
      executor.pool.ending? task = some (.exited exit)) ∧
    ∀ i task, executor.task? ⟨n, i⟩ = some task → 1 ≤ i ∧ i ≤ later.length := by
  intro n
  obtain ⟨dispatch, hdispatch, hjobs, hexited⟩ := exists_returned hpast hrun hopen hanswered
  have hall := performAll?_append hpast hrun
  have hsound := sound_of_performAll? hall
  have hlogged := log_of_performAll? hall
  have hlength := Dispatch.length_of_map_job hjobs
  have hslot : ∀ {i : Nat} {run : Run}, executor.run? ⟨n, i⟩ = some run ↔
      dispatch.runs[i]? = some run := fun {i run} => by rw [run?, hdispatch, Option.bind_some]
  have hle : ∀ {i : Nat} {run : Run}, executor.run? ⟨n, i⟩ = some run → i ≤ later.length :=
    fun {i run} h => by
      have := (List.getElem?_eq_some_iff.1 (hslot.1 h)).1
      omega
  refine ⟨fun i unit hunit => ?_, fun event hevent hn => ?_, fun i hi hlt => ?_,
    fun i task htask => ?_⟩
  · have hi := (List.getElem?_eq_some_iff.1 hunit).1
    rw [List.length_cons, ← hlength] at hi
    have hget : dispatch.runs[i]? = some dispatch.runs[i] := List.getElem?_eq_getElem hi
    obtain ⟨conduct, hp⟩ := hexited i _ hget
    obtain ⟨unit', hunit', hjob⟩ := Dispatch.exists_unit_of_map_job hjobs hget
    cases hunit.symm.trans hunit'
    have htrace := Run.ranOnce_trace hp ⟨n, i⟩
    rw [hjob, Options.streaming] at htrace
    rw [hlogged ⟨n, i⟩, hslot.2 hget]
    exact htrace
  · obtain ⟨run, hrun'⟩ := hlogged.exists_run hevent
    have hevent' : event.slot = ⟨n, event.slot.position⟩ := by rw [← hn]
    rw [hevent'] at hrun'
    exact hle hrun'
  · have hi' : i < dispatch.runs.length := by omega
    have hget : dispatch.runs[i]? = some dispatch.runs[i] := List.getElem?_eq_getElem hi'
    obtain ⟨conduct, hp⟩ := hexited i _ hget
    have hsent : dispatch.runs[i].progress ≠ .unsent := by simp [hp]
    obtain ⟨task, htask, hphase⟩ := hsound.exists_task hdispatch hget (by omega) hsent
    refine ⟨task, dispatch.runs[i].job.exitLater conduct, ?_, ?_⟩
    · exact task?_eq_some_iff.2 ⟨_, hslot.2 hget, htask⟩
    · rw [WorkerPool.ending?, hphase, Run.phase, hp]
  · obtain ⟨run, hrun', ht⟩ := task?_eq_some_iff.1 htask
    refine ⟨?_, hle hrun'⟩
    rcases Nat.eq_zero_or_pos i with rfl | hi
    · rw [hsound.task_first hrun'] at ht
      cases ht
    · exact hi

/-- In the race each of the three units has run once, although the third fails first and the
response is an error, and the two tasks have exited. -/
theorem ranOnce_of_performAll?_race : ∃ executor, (ofPool (.ofSize 1)).performAll?
      (.arrive ⟨"a", "q"⟩ [⟨"b", "q"⟩, ⟨"c", "q"⟩] false :: race) = some executor ∧
    RanOnce ⟨0, 0⟩ ⟨⟨"a", "q"⟩, ⟨.oneRow, false, true⟩⟩ (executor.history ⟨0, 0⟩) ∧
    RanOnce ⟨0, 1⟩ ⟨⟨"b", "q"⟩, ⟨.oneRow, false, false⟩⟩ (executor.history ⟨0, 1⟩) ∧
    RanOnce ⟨0, 2⟩ ⟨⟨"c", "q"⟩, ⟨.oneRow, false, false⟩⟩ (executor.history ⟨0, 2⟩) ∧
    ∃ task exit, executor.task? ⟨0, 2⟩ = some task ∧
      executor.pool.ending? task = some (.exited exit) := by
  obtain ⟨executor, hrun, hopen, hverdict⟩ := exists_race
  obtain ⟨hunits, -, htasks, -⟩ :=
    @ranOnce_of_performAll? 1 [] race _ _ _ _ _ _ rfl hrun hopen hverdict
  exact ⟨executor, hrun, hunits 0 _ rfl, hunits 1 _ rfl, hunits 2 _ rfl,
    htasks 2 (by decide) (by decide)⟩

end Executor

end ShardProxy
