/-
# A shutdown cuts a statement off

The pool is shut down at some point of a run: before a statement arrives, while it submits its
units, while they wait, run or end, or after it has returned.  The later units that had obtained
a worker by then go on as if nothing had happened; the others never reach a backend, and each
learns once that the pool is closed (`Executor.Settled`).  The first unit needs no worker.  So
the caller gets what the units come to one after the other, but for the results that are lost
(`Executor.cut_of_shutDown`).
-/

import ShardProxy.Proofs.Execution.Completion
import ShardProxy.Proofs.Execution.Endings

namespace ShardProxy

/-- Whether a run that has come to its end has had a worker is told by its task. -/
theorem Run.worked_phase (run : Run) : run.progress.Worked run.phase.hasStarted := by
  obtain ⟨job, task, progress⟩ := run
  cases progress
  case refused => rfl
  case exited => rfl
  all_goals trivial

/-- A run that has not obtained a worker has left no trace. -/
theorem Run.trace_of_hasStarted {run : Run} (h : run.phase.hasStarted = false) (slot : Slot) :
    run.trace slot = [] := by
  obtain ⟨job, task, progress⟩ := run
  cases progress
  case unsent => rfl
  case waiting => rfl
  case refused => rfl
  all_goals cases h

/-- A full response has the results of all later units, so all of them have had a worker. -/
theorem Lot.worked_of_sequential {first : Case} {later : List Lot} {response : Response}
    (h : sequential first later = .answered (.ok response)) : ∀ lot ∈ later, lot.worked = true := by
  rw [sequential] at h
  split at h
  · cases h
  · cases h
  · next outcome _ =>
    split at h
    · cases h
    · next hnone =>
      intro lot hlot
      have hfault := List.findSome?_eq_none_iff.1 hnone lot hlot
      rw [fault?] at hfault
      split at hfault
      · assumption
      · cases hfault

namespace Dispatch

/-- A caller that has returned or crashed has submitted all units, and its own has exited. -/
theorem Stands.exited_first {runs : List Run} {caller : Caller} (h : Stands runs caller)
    (hverdict : caller.verdict ≠ .pending) :
    Sent runs runs.length ∧
      ∃ run conduct, runs[0]? = some run ∧ run.progress = .exited conduct := by
  cases h with
  | submitting => exact absurd rfl hverdict
  | running => exact absurd rfl hverdict
  | collecting => exact absurd rfl hverdict
  | crashed hfirst hprogress hexit hsent => exact ⟨hsent, _, _, hfirst, hprogress⟩
  | returned hcollected hall =>
    cases hcollected with
    | collecting hfirst hprogress hexit hsent hrest => exact ⟨hsent, _, _, hfirst, hprogress⟩

/-- A caller that has returned has the answers of all later units. -/
theorem Stands.hasEnded {runs : List Run} {response : Except ExecutionError Response}
    (h : Stands runs (.returned response)) {i : Nat} {run : Run} (hrun : runs[i]? = some run)
    (hi : i ≠ 0) : run.progress.hasEnded = true := by
  cases h with
  | @returned first rest hcollected hall =>
    cases hcollected with
    | collecting _ _ _ _ hrest =>
      obtain ⟨j, rfl⟩ := Nat.exists_eq_succ_of_ne_zero hi
      have hlt := (List.getElem?_eq_some_iff.1 hrun).1
      have hj : rest[j]? = some rest[j] := List.getElem?_eq_getElem (by omega)
      have hanswer := hrest j rest[j] hj
      rw [hrun, Option.bind_some, Run.answer?] at hanswer
      rcases hp : run.progress <;> rw [hp] at hanswer <;> first | rfl | cases hanswer

end Dispatch

namespace Executor

/-- How a later unit has been settled, by whether it had obtained a worker. -/
inductive Settled (executor : Executor) (slot : Slot) (job : Job) (conduct : Conduct) : Bool → Prop
  /-- It has run once, and its task has exited as the backends had it. -/
  | ran (hending : executor.ending? slot = some (.exited (job.exitLater conduct)))
    (hran : RanOnce slot job (executor.history slot)) : Settled executor slot job conduct true
  /-- It has not reached a backend, and its task has been refused. -/
  | cutOff (hending : executor.ending? slot = some .refused)
    (hhistory : executor.history slot = []) : Settled executor slot job conduct false

/-- A later unit is settled once in a run of an executor, unless it is still to be: then its
statement has not returned, and a step can be taken. -/
inductive SettledOnce (executor : Executor) (actions : List Action) (slot : Slot) (job : Job)
    (conduct : Slot → Conduct) (worked : Bool) : Prop
  | settled (hsettled : executor.Settled slot job (conduct slot) worked)
    (honce : actions.countP (·.ends slot) = 1) :
    SettledOnce executor actions slot job conduct worked
  | unsettled (hending : executor.ending? slot = none) (hnone : actions.countP (·.ends slot) = 0)
    (hunanswered : ∀ response, executor.verdict slot.statement ≠ .answered response)
    (hstep : executor.CanStep conduct) : SettledOnce executor actions slot job conduct worked

variable {executor : Executor} {slot : Slot} {run : Run}

/-- **A later unit that has come to its end is settled** by whether it had obtained a worker. -/
theorem Sound.settled (h : Sound executor) (hlogged : Logged executor) {conduct : Conduct}
    (hrun : executor.run? slot = some run) (hi : slot.position ≠ 0)
    (hfollows : run.progress.Follows conduct) (hended : run.progress.hasEnded = true) :
    executor.Settled slot run.job conduct (executor.obtained slot) := by
  have hhistory := hlogged slot
  rw [hrun, Option.map_some, Option.getD_some] at hhistory
  have hending := h.ending?_eq hrun hi
  rw [h.obtained_eq hrun hi]
  by_cases hp : run.progress = .refused
  · have hphase : run.phase = .ended .refused := by rw [Run.phase, hp]
    rw [hphase] at hending ⊢
    rw [Run.trace_of_hasStarted (by rw [hphase]; rfl)] at hhistory
    exact .cutOff hending hhistory
  · obtain ⟨conduct', hp⟩ : ∃ conduct', run.progress = .exited conduct' := by
      rcases hc : run.progress <;> rw [hc] at hended hp
      case refused => exact absurd rfl hp
      case exited conduct' => exact ⟨conduct', rfl⟩
      all_goals cases hended
    have hphase : run.phase = .ended (.exited (run.job.exitLater conduct)) := by
      rw [Run.phase, hp, hfollows.eq hp]
    rw [hphase] at hending ⊢
    refine .ran hending ?_
    rw [hhistory]
    exact Run.ranOnce_trace hp slot

/-- **When the executor is quiet every later unit has come to its end.** -/
theorem Sound.hasEnded_of_quiet (h : Sound executor) {conduct : Slot → Conduct} {n i : Nat}
    {dispatch : Dispatch} (hfollows : Follows conduct executor) (hquiet : Quiet conduct executor)
    (hdispatch : executor.statements[n]? = some dispatch) (hrun : dispatch.runs[i]? = some run)
    (hi : i ≠ 0) : run.progress.hasEnded = true := by
  have hconcluded := h.concluded_of_quiet hfollows hquiet hdispatch
  obtain ⟨hsent, -⟩ := (h.valid n dispatch hdispatch).stands.exited_first hconcluded.verdict_ne
  have hwaiting := h.not_waiting hfollows hquiet hdispatch hrun hi
  have hconnecting := h.not_connecting hquiet hdispatch hrun
  have hexecuting := h.not_executing hfollows hquiet hdispatch hrun
  rcases hp : run.progress
  case unsent =>
    have hlt := (List.getElem?_eq_some_iff.1 hrun).1
    have hle := (hsent i run (by omega) hrun).1 hp
    omega
  case waiting => exact absurd hp hwaiting
  case refused => rfl
  case connecting => exact absurd hp hconnecting
  case executing => exact absurd hp hexecuting
  case exited => rfl

/-- A later unit that has not obtained a worker has not reached a backend. -/
theorem Sound.history_of_obtained (h : Sound executor) (hlogged : Logged executor)
    (hrun : executor.run? slot = some run) (hi : slot.position ≠ 0)
    (hobtained : executor.obtained slot = false) : executor.history slot = [] := by
  rw [h.obtained_eq hrun hi] at hobtained
  have hhistory := hlogged slot
  rwa [hrun, Option.map_some, Option.getD_some, Run.trace_of_hasStarted hobtained] at hhistory

/-- **In every run of an executor a later unit is settled once,** by whether it has obtained a
worker. -/
theorem settledOnce {workers : Nat} {actions : List Action}
    (hrun : (ofPool (.ofSize workers)).performAll? actions = some executor)
    {conduct : Slot → Conduct} (hconduct : ∀ action ∈ actions, action.Respects conduct) {n i : Nat}
    {dispatch : Dispatch} (hdispatch : executor.statements[n]? = some dispatch)
    (hget : dispatch.runs[i]? = some run) (hi : i ≠ 0) :
    executor.SettledOnce actions ⟨n, i⟩ run.job conduct (executor.obtained ⟨n, i⟩) := by
  have hsound := sound_of_performAll? hrun
  have hfollows := follows_of_performAll? hrun hconduct
  have hslot : executor.run? ⟨n, i⟩ = some run := run?_eq_some_iff.2 ⟨dispatch, hdispatch, hget⟩
  have hcount : actions.countP (·.ends ⟨n, i⟩) = run.progress.hasEnded.toNat := by
    have hends := (sound_ofPool workers).countP_ends hrun ⟨n, i⟩
    rw [hasEnded, hslot, Option.any_some] at hends
    exact (hends.trans (Nat.zero_add _)).symm
  rcases hended : run.progress.hasEnded <;> rw [hended] at hcount
  · refine .unsettled ?_ hcount (fun response hanswered => ?_) ?_
    · rw [hsound.ending?_eq hslot hi, Run.phase]
      rcases hp : run.progress <;> rw [hp] at hended <;> first | rfl | cases hended
    · rw [verdict_eq hdispatch] at hanswered
      have hstands := (hsound.valid n dispatch hdispatch).stands
      rw [Caller.eq_returned hanswered] at hstands
      rw [hstands.hasEnded hget hi] at hended
      cases hended
    · rcases executor.quiet_or_canStep conduct with hquiet | hstep
      · rw [hsound.hasEnded_of_quiet hfollows hquiet hdispatch hget hi] at hended
        cases hended
      · exact hstep
  · exact .settled (hsound.settled (log_of_performAll? hrun) hslot hi (hfollows _ run hslot) hended)
      hcount

/-- The caller of a statement has what the lots of its units come to, or a step can be taken. -/
theorem Sound.verdict_or_canStep (h : Sound executor) {conduct : Slot → Conduct} {n : Nat}
    {dispatch : Dispatch} {first : ExecutionUnit} {later : List ExecutionUnit} {keys : Bool}
    (hfollows : Follows conduct executor) (hdispatch : executor.statements[n]? = some dispatch)
    (hjobs : dispatch.runs.map Run.job = (Dispatch.ofUnits first later keys).runs.map Run.job) :
    executor.verdict n = Lot.sequential ⟨first, conduct ⟨n, 0⟩⟩
        (Lot.ofLater later (fun i => conduct ⟨n, i⟩) fun i => executor.obtained ⟨n, i⟩) ∨
      executor.verdict n = .pending ∧ executor.CanStep conduct := by
  have hslot : ∀ {i : Nat} {run : Run}, dispatch.runs[i]? = some run →
      executor.run? ⟨n, i⟩ = some run := fun hi => run?_eq_some_iff.2 ⟨dispatch, hdispatch, hi⟩
  have hworked : ∀ (i : Nat) (run : Run), i ≠ 0 → dispatch.runs[i]? = some run →
      run.progress.Worked (executor.obtained ⟨n, i⟩) := fun i run hi hrun => by
    rw [h.obtained_eq (hslot hrun) hi]
    exact run.worked_phase
  have hverdict := (h.valid n dispatch hdispatch).stands.verdict_lots hjobs
    (fun i run hrun => hfollows ⟨n, i⟩ run (hslot hrun)) hworked
  rw [verdict_eq hdispatch]
  rcases hverdict with hpending | hdone
  · right
    refine ⟨hpending, (executor.quiet_or_canStep conduct).resolve_left fun hquiet => ?_⟩
    exact (h.concluded_of_quiet hfollows hquiet hdispatch).verdict_ne hpending
  · exact Or.inl hdone

/-- **After a shutdown** the pool is shut down for good, and the units that have obtained a worker
are those that had obtained one before it. -/
theorem obtained_of_shutDown {workers : Nat} {pre post : List Action} {cut : Executor}
    (hpre : (ofPool (.ofSize workers)).performAll? pre = some cut)
    (hrun : (ofPool (.ofSize workers)).performAll? (pre ++ .shutDown :: post) = some executor) :
    executor.pool.closed = true ∧ ∀ slot, executor.obtained slot = cut.obtained slot := by
  obtain ⟨between, hbetween, hpost⟩ := exists_between_of_performAll? hrun
  cases hpre.symm.trans hbetween
  have hact : cut.perform? .shutDown = some cut.shutDown := rfl
  exact ((sound_of_performAll? hpre).perform? hact).obtained_of_performAll? rfl hpost

/-- **A shutdown cuts off the later units that have no worker, and nothing else.**  The pool is shut
down at some point of a run, before, while or after a statement is executed, and stays so.
However backends treat the units: a later unit of the statement is settled once, unless a step
can still be taken; if it had obtained a worker before the shutdown, it has run and exited as the
backends had it; if not, it never reaches a backend and is refused.  The first unit runs as
ever.  So the caller gets what the units come to one after the other, where a unit that is cut off
counts as one whose result is lost to the closed pool; and a full response only if every later
unit had obtained a worker. -/
theorem cut_of_shutDown {workers : Nat} {past actions pre post : List Action}
    {before cut executor : Executor} {first : ExecutionUnit} {later : List ExecutionUnit}
    {keys : Bool} (hpast : (ofPool (.ofSize workers)).performAll? past = some before)
    (hrun : before.performAll? (.arrive first later keys :: actions) = some executor)
    (hpre : (ofPool (.ofSize workers)).performAll? pre = some cut)
    (hcut : past ++ .arrive first later keys :: actions = pre ++ .shutDown :: post) :
    let n := before.statements.length
    executor.pool.closed = true ∧
    (∃ conduct, ∀ action ∈ past ++ actions, action.Respects conduct) ∧
    ∀ conduct, (∀ action ∈ past ++ actions, action.Respects conduct) →
      (∀ i unit, later[i]? = some unit →
        (cut.obtained ⟨n, i + 1⟩ = false → executor.history ⟨n, i + 1⟩ = []) ∧
        executor.SettledOnce (pre ++ .shutDown :: post) ⟨n, i + 1⟩ ⟨unit, ⟨.oneRow, keys, false⟩⟩
          conduct (cut.obtained ⟨n, i + 1⟩)) ∧
      (executor.verdict n ≠ .pending →
        RanOnce ⟨n, 0⟩ ⟨first, ⟨.oneRow, keys, true⟩⟩ (executor.history ⟨n, 0⟩)) ∧
      (executor.verdict n = Lot.sequential ⟨first, conduct ⟨n, 0⟩⟩
          (Lot.ofLater later (fun i => conduct ⟨n, i⟩) fun i => cut.obtained ⟨n, i⟩) ∨
        executor.verdict n = .pending ∧ executor.CanStep conduct) ∧
      (∀ response, executor.verdict n = .answered (.ok response) →
        ∀ i < later.length, cut.obtained ⟨n, i + 1⟩ = true) ∧
      actions.countP (·.isActOf n) ≤ 5 * later.length + 4 := by
  intro n
  obtain ⟨dispatch, hdispatch, hvalid, hjobs, hsteps⟩ := exists_dispatch_of_performAll? hrun
  have hall := performAll?_append hpast hrun
  rw [hcut] at hall
  obtain ⟨hclosed, hobtained⟩ := obtained_of_shutDown hpre hall
  obtain ⟨fixed, hfixed⟩ := exists_conduct_of_performAll? hall
  rw [← hcut, forall_respects_arrive] at hfixed
  refine ⟨hclosed, ⟨fixed, hfixed⟩, fun conduct hconduct => ?_⟩
  rw [← forall_respects_arrive first later keys, hcut] at hconduct
  have hsound := sound_of_performAll? hall
  have hlogged := log_of_performAll? hall
  have hfollows := follows_of_performAll? hall hconduct
  have hverdict := hsound.verdict_or_canStep hfollows hdispatch hjobs
  simp only [hobtained] at hverdict
  refine ⟨fun i unit hunit => ?_, fun hdone => ?_, hverdict, fun response hfull i hi => ?_, hsteps⟩
  · have hunit' : (first :: later)[i + 1]? = some unit := by rw [List.getElem?_cons_succ, hunit]
    obtain ⟨run, hrun', hjob⟩ := Dispatch.exists_run_of_map_job hjobs hunit'
    have hslot : executor.run? ⟨n, i + 1⟩ = some run :=
      run?_eq_some_iff.2 ⟨dispatch, hdispatch, hrun'⟩
    have hsettled := settledOnce hall hconduct hdispatch hrun' (Nat.succ_ne_zero i)
    rw [hjob] at hsettled
    rw [← hobtained]
    exact ⟨hsound.history_of_obtained hlogged hslot (Nat.succ_ne_zero i), hsettled⟩
  · rw [verdict_eq hdispatch] at hdone
    obtain ⟨-, run, conduct', hfirst, hexited⟩ := hvalid.stands.exited_first hdone
    obtain ⟨unit, hunit, hjob⟩ := Dispatch.exists_unit_of_map_job hjobs hfirst
    cases hunit
    have hran := Run.ranOnce_trace hexited ⟨n, 0⟩
    rw [hjob] at hran
    rw [hlogged ⟨n, 0⟩, run?_eq_some_iff.2 ⟨dispatch, hdispatch, hfirst⟩]
    exact hran
  · rcases hverdict with hdone | ⟨hpending, -⟩
    · have hlot : (Lot.ofLater later (fun i => conduct ⟨n, i⟩) fun i => cut.obtained ⟨n, i⟩)[i]? =
          some ⟨⟨later[i], conduct ⟨n, i + 1⟩⟩, cut.obtained ⟨n, i + 1⟩⟩ := by
        rw [Lot.ofLater, List.getElem?_mapIdx, List.getElem?_eq_getElem hi]
        rfl
      exact Lot.worked_of_sequential (hdone.symm.trans hfull) _ (List.mem_of_getElem? hlot)
    · cases hpending.symm.trans hfull

/-- Of four units on one worker the second has it when the pool is shut down. -/
def beforeShutdown : List Action :=
  .arrive ⟨"a", "q"⟩ [⟨"b", "q"⟩, ⟨"c", "q"⟩, ⟨"d", "q"⟩] false ::
    [.submit, .submit, .submit, .turn 1 .start].map (.act 0)

/-- The last unit is the first to learn of the shutdown, and the second goes on. -/
def afterShutdown : List Action :=
  [.turn 3 .refuse, .turn 0 .start, .turn 0 .connect, .turn 1 .connect,
    .turn 0 (.finish (.returned (.ok (.query [] [])))), .turn 2 .refuse,
    .turn 1 (.finish (.returned (.ok (.query [] [.ok [.int 1]])))), .collect, .collect, .collect,
    .reply].map (.act 0)

/-- The first unit brings no row and the second brings one. -/
def shutdownConduct (slot : Slot) : Conduct :=
  .connected (.returned (.ok (.query [] (if slot.position = 0 then [] else [.ok [.int 1]]))))

/-- The second of four units keeps the worker it has, the third and the fourth never get one, and
the response is about the third, although the fourth has been refused before it. -/
theorem cut_of_shutDown_queue : ∃ executor,
    (ofPool (.ofSize 1)).performAll? (beforeShutdown ++ .shutDown :: afterShutdown) =
      some executor ∧
    executor.verdict 0 = .answered (.error (.lost "c" .poolClosed)) ∧
    executor.Settled ⟨0, 1⟩ ⟨⟨"b", "q"⟩, ⟨.oneRow, false, false⟩⟩ (shutdownConduct ⟨0, 1⟩) true ∧
    executor.Settled ⟨0, 2⟩ ⟨⟨"c", "q"⟩, ⟨.oneRow, false, false⟩⟩ (shutdownConduct ⟨0, 2⟩) false ∧
    RanOnce ⟨0, 0⟩ ⟨⟨"a", "q"⟩, ⟨.oneRow, false, true⟩⟩ (executor.history ⟨0, 0⟩) := by
  have hanswered : ((ofPool (.ofSize 1)).performAll?
      (beforeShutdown ++ .shutDown :: afterShutdown)).map (·.verdict 0) =
        some (.answered (.error (.lost "c" .poolClosed))) := by
    cbv
  obtain ⟨executor, hrun, hverdict⟩ := Option.map_eq_some_iff.1 hanswered
  have hrespects : ∀ action ∈ [] ++ (beforeShutdown.tail ++ .shutDown :: afterShutdown),
      action.Respects shutdownConduct := by
    simp [beforeShutdown, afterShutdown, Action.Respects, Turn.Respects, shutdownConduct]
  obtain ⟨-, -, hcut⟩ := @cut_of_shutDown 1 [] _ beforeShutdown afterShutdown _ _ executor _ _ _
    rfl hrun rfl rfl
  obtain ⟨hunits, hfirst, -⟩ := hcut shutdownConduct hrespects
  refine ⟨executor, hrun, hverdict, ?_, ?_, hfirst ?_⟩
  · cases (hunits 0 _ rfl).2 with
    | settled hsettled _ => exact hsettled
    | unsettled _ _ hunanswered _ => exact absurd hverdict (hunanswered _)
  · cases (hunits 1 _ rfl).2 with
    | settled hsettled _ => exact hsettled
    | unsettled _ _ hunanswered _ => exact absurd hverdict (hunanswered _)
  · intro hpending
    cases hverdict.symm.trans hpending

end Executor

end ShardProxy
