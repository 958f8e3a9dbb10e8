/-
# What a step can do

A step of a statement, as a relation: `Dispatch.Step` has one case for each `Act`, and
`step_of_advance?` says that nothing else happens.  Seen from the whole executor, a step
changes the run of one slot at most (`Executor.Moved`), and the pool and the log change with that
run.  What is to hold in every run of an executor is shown once for an arrival, a `Moved` and
a shutdown, and `performAll?_induction` carries it on.
-/

import ShardProxy.Execution.Executor

namespace ShardProxy

/-- The turns of a run. -/
inductive Progress.Turns : Progress → Turn → Progress → Prop
  | start : Turns .waiting .start .connecting
  | refuse : Turns .waiting .refuse .refused
  | connect : Turns .connecting .connect .executing
  | fail (exit : Exit BackendError) :
    Turns .connecting (.fail exit) (.exited (.unconnected exit))
  | finish (exit : Exit (Except BackendError Outcome)) :
    Turns .executing (.finish exit) (.exited (.connected exit))

/-- A run takes no other turns. -/
theorem Progress.turns_of_turn? {progress after : Progress} {turn : Turn}
    (h : progress.turn? turn = some after) : progress.Turns turn after := by
  unfold turn? at h
  split at h <;> cases h
  · exact .start
  · exact .refuse
  · exact .connect
  · exact .fail _
  · exact .finish _

namespace Dispatch

/-- What is found at a place after one of the runs has been replaced. -/
theorem of_getElem?_set {runs : List Run} {i j : Nat} {run other : Run}
    (h : (runs.set i run)[j]? = some other) :
    j = i ∧ other = run ∨ j ≠ i ∧ runs[j]? = some other := by
  rw [List.getElem?_set] at h
  split at h
  · next hij =>
    split at h <;> cases h
    exact Or.inl ⟨hij.symm, rfl⟩
  · next hij => exact Or.inr ⟨Ne.symm hij, h⟩

/-- The steps of a statement, where `task` is the number of a task that is submitted. -/
inductive Step (task : Nat) : Dispatch → Act → Dispatch → Prop
  | submit {runs : List Run} {next : Nat} {run : Run} (hrun : runs[next]? = some run) :
    Step task ⟨runs, .submitting next⟩ .submit
      ⟨runs.set next { run with task := some task, progress := .waiting }, .submitting (next + 1)⟩
  | turn {runs : List Run} {caller after : Caller} {position : Nat} {turn : Turn} {run : Run}
    {progress : Progress} (hrun : runs[position]? = some run)
    (hturn : run.progress.Turns turn progress)
    (hcaller : callerAfter? ⟨runs, caller⟩ position run.job turn = some after) :
    Step task ⟨runs, caller⟩ (.turn position turn) ⟨runs.set position { run with progress }, after⟩
  | collect {runs : List Run} {first : Except ExecutionError FirstResult} {rest : List LaterAnswer}
    {run : Run} {answer : LaterAnswer} (hrun : runs[rest.length + 1]? = some run)
    (hanswer : run.answer? = some answer) :
    Step task ⟨runs, .collecting first rest⟩ .collect ⟨runs, .collecting first (rest ++ [answer])⟩
  | reply {runs : List Run} {first : Except ExecutionError FirstResult} {rest : List LaterAnswer}
    (hall : rest.length + 1 = runs.length) :
    Step task ⟨runs, .collecting first rest⟩ .reply ⟨runs, .returned (conclude first rest)⟩

/-- **A statement takes no other steps.** -/
theorem step_of_advance? {dispatch after : Dispatch} {task : Nat} {act : Act}
    (h : dispatch.advance? task act = some after) : Step task dispatch act after := by
  obtain ⟨runs, caller⟩ := dispatch
  cases act with
  | submit =>
    cases caller <;> try cases h
    rw [advance?] at h
    dsimp only at h
    split at h
    · cases h
    · next run hrun =>
      cases h
      exact .submit hrun
  | turn position turn =>
    rw [advance?] at h
    dsimp only at h
    split at h
    · cases h
    · next run hrun =>
      split at h
      · next progress caller' hturn hcaller =>
        cases h
        exact .turn hrun (Progress.turns_of_turn? hturn) hcaller
      · cases h
  | collect =>
    cases caller <;> try cases h
    rw [advance?] at h
    dsimp only at h
    split at h
    · cases h
    · next answer hanswer =>
      cases h
      obtain ⟨run, hrun, hans⟩ := Option.bind_eq_some_iff.1 hanswer
      exact .collect hrun hans
  | reply =>
    cases caller <;> try cases h
    rw [advance?] at h
    dsimp only at h
    split at h
    · next hall =>
      cases h
      exact .reply hall
    · cases h

/-- A run in the place of one with the same job leaves the jobs as they are. -/
theorem map_job_set {runs : List Run} {i : Nat} {run run' : Run} (hrun : runs[i]? = some run)
    (hjob : run'.job = run.job) : (runs.set i run').map Run.job = runs.map Run.job := by
  obtain ⟨hi, rfl⟩ := List.getElem?_eq_some_iff.1 hrun
  have hmap : run'.job = (runs.map Run.job).get ⟨i, by rwa [List.length_map]⟩ := by
    rw [hjob, List.get_eq_getElem, List.getElem_map]
  rw [List.map_set, hmap, List.get_eq_getElem, List.set_getElem_self]

/-- No step changes what a statement runs. -/
theorem Step.map_job {task : Nat} {dispatch after : Dispatch} {act : Act}
    (h : Step task dispatch act after) : after.runs.map Run.job = dispatch.runs.map Run.job := by
  cases h with
  | submit hrun => exact map_job_set hrun rfl
  | turn hrun _ _ => exact map_job_set hrun rfl
  | collect => rfl
  | reply => rfl

end Dispatch

namespace Executor

/-- The run of a slot. -/
def run? (executor : Executor) (slot : Slot) : Option Run :=
  executor.statements[slot.statement]?.bind fun dispatch => dispatch.runs[slot.position]?

/-- **A step of a statement is a step of it, served by the pool**, and all other statements stay. -/
theorem perform?_act_eq_some {executor after : Executor} {n : Nat} {act : Act}
    (h : executor.perform? (.act n act) = some after) :
    ∃ dispatch next, executor.statements[n]? = some dispatch ∧
      Dispatch.Step executor.pool.tasks.length dispatch act next ∧
      dispatch.serve? executor.pool act = some after.pool ∧
      after.statements = executor.statements.set n next ∧
      after.log = executor.log ++ dispatch.events n act := by
  rw [perform?] at h
  split at h
  · cases h
  · next dispatch hdispatch =>
    split at h
    · next next pool hnext hserve =>
      cases h
      exact ⟨dispatch, next, hdispatch, Dispatch.step_of_advance? hnext, hserve, rfl, rfl⟩
    · cases h

/-- How a step of statement `n` moves the run of one slot, if any. -/
inductive Moved (executor after : Executor) (n : Nat) : Act → Prop
  /-- The caller collects or replies. -/
  | caller {act : Act} (hruns : ∀ s, after.run? s = executor.run? s)
    (hpool : after.pool = executor.pool) (hlog : after.log = executor.log) :
    Moved executor after n act
  /-- A later unit is submitted. -/
  | submit {position : Nat} {run : Run} (hrun : executor.run? ⟨n, position⟩ = some run)
    (hcaller : (executor.statements[n]?).map Dispatch.caller = some (.submitting position))
    (hruns : ∀ s, after.run? s = if s = ⟨n, position⟩ then
      some { run with task := some executor.pool.tasks.length, progress := .waiting }
      else executor.run? s)
    (hpool : after.pool = executor.pool.submit) (hlog : after.log = executor.log) :
    Moved executor after n .submit
  /-- A run takes a turn, a later unit's with the pool. -/
  | turn {position : Nat} {turn : Turn} {run : Run} {progress : Progress}
    (hrun : executor.run? ⟨n, position⟩ = some run) (hturn : run.progress.Turns turn progress)
    (hruns : ∀ s, after.run? s =
      if s = ⟨n, position⟩ then some { run with progress } else executor.run? s)
    (hpool : if position = 0 then after.pool = executor.pool ∧ turn ≠ .refuse
      else run.serve? executor.pool turn = some after.pool)
    (hlog : after.log = executor.log ++ turn.events ⟨n, position⟩ run.job) :
    Moved executor after n (.turn position turn)

/-- The runs after one of them is replaced. -/
theorem run?_of_set {executor after : Executor} {n i : Nat} {dispatch : Dispatch} {run : Run}
    {caller : Caller} (hdispatch : executor.statements[n]? = some dispatch)
    (hi : i < dispatch.runs.length)
    (h : after.statements = executor.statements.set n ⟨dispatch.runs.set i run, caller⟩)
    (slot : Slot) :
    after.run? slot = if slot = ⟨n, i⟩ then some run else executor.run? slot := by
  obtain ⟨m, j⟩ := slot
  have hn : n < executor.statements.length := (List.getElem?_eq_some_iff.1 hdispatch).1
  rw [run?, run?, h, List.getElem?_set]
  dsimp only
  by_cases hm : n = m
  · subst hm
    rw [if_pos rfl, if_pos hn, hdispatch, Option.bind_some, Option.bind_some, List.getElem?_set]
    by_cases hj : i = j
    · subst hj
      rw [if_pos rfl, if_pos hi, if_pos rfl]
    · rw [if_neg hj, if_neg fun e => hj (by cases e; rfl)]
  · rw [if_neg hm, if_neg fun e => hm (by cases e; rfl)]

/-- The runs after the caller of a statement has moved. -/
theorem run?_of_set_caller {executor after : Executor} {n : Nat} {dispatch next : Dispatch}
    (hdispatch : executor.statements[n]? = some dispatch) (hruns : next.runs = dispatch.runs)
    (h : after.statements = executor.statements.set n next) (slot : Slot) :
    after.run? slot = executor.run? slot := by
  have hn : n < executor.statements.length := (List.getElem?_eq_some_iff.1 hdispatch).1
  rw [run?, run?, h, List.getElem?_set]
  by_cases hm : n = slot.statement
  · rw [if_pos hm, if_pos hn, ← hm, hdispatch, Option.bind_some, Option.bind_some, hruns]
  · rw [if_neg hm]

/-- **A turn changes the run that takes it,** with the pool if it is a later unit's. -/
theorem exists_turn_of_perform? {executor after : Executor} {n i : Nat} {turn : Turn}
    (h : executor.perform? (.act n (.turn i turn)) = some after) :
    ∃ run progress, executor.run? ⟨n, i⟩ = some run ∧ run.progress.Turns turn progress ∧
      (∀ s, after.run? s = if s = ⟨n, i⟩ then some { run with progress } else executor.run? s) ∧
      (if i = 0 then after.pool = executor.pool ∧ turn ≠ .refuse
        else run.serve? executor.pool turn = some after.pool) ∧
      after.log = executor.log ++ turn.events ⟨n, i⟩ run.job := by
  obtain ⟨dispatch, next, hdispatch, hstep, hserve, hstatements, hlog⟩ := perform?_act_eq_some h
  cases hstep with
  | @turn runs caller caller' i turn run progress hrun hturn hcaller =>
    have hi : i < runs.length := (List.getElem?_eq_some_iff.1 hrun).1
    have hrun' : executor.run? ⟨n, i⟩ = some run := by rw [run?, hdispatch, Option.bind_some, hrun]
    refine ⟨run, progress, hrun', hturn, run?_of_set hdispatch hi hstatements, ?_, ?_⟩
    · rw [Dispatch.serve?] at hserve
      split at hserve
      · next h₀ =>
        rw [if_pos h₀]
        refine ⟨(Option.some.inj hserve).symm, ?_⟩
        rintro rfl
        rw [Dispatch.callerAfter?, if_pos h₀, Caller.lead?] at hcaller
        cases hcaller
      · next h₀ =>
        rw [hrun] at hserve
        rw [if_neg h₀]
        exact hserve
    · rw [hlog, Dispatch.events]
      dsimp only
      rw [hrun]

/-- **Every step of a statement is a `Moved`.** -/
theorem moved_of_perform? {executor after : Executor} {n : Nat} {act : Act}
    (h : executor.perform? (.act n act) = some after) : executor.Moved after n act := by
  obtain ⟨dispatch, next, hdispatch, hstep, hserve, hstatements, hlog⟩ := perform?_act_eq_some h
  cases hstep with
  | @submit runs i run hrun =>
    have hi : i < runs.length := (List.getElem?_eq_some_iff.1 hrun).1
    have hrun' : executor.run? ⟨n, i⟩ = some run := by rw [run?, hdispatch, Option.bind_some, hrun]
    have hcaller : (executor.statements[n]?).map Dispatch.caller = some (.submitting i) := by
      rw [hdispatch]
      rfl
    exact .submit hrun' hcaller (run?_of_set hdispatch hi hstatements) (Option.some.inj hserve).symm
      (hlog.trans (List.append_nil _))
  | turn =>
    obtain ⟨run, progress, hrun, hturn, hruns, hpool, hlog⟩ := exists_turn_of_perform? h
    exact .turn hrun hturn hruns hpool hlog
  | collect =>
    have hruns := run?_of_set_caller hdispatch (by rfl) hstatements
    exact .caller hruns (Option.some.inj hserve).symm (hlog.trans (List.append_nil _))
  | reply =>
    have hruns := run?_of_set_caller hdispatch (by rfl) hstatements
    exact .caller hruns (Option.some.inj hserve).symm (hlog.trans (List.append_nil _))

/-- The runs after a statement has arrived. -/
theorem run?_arrive (executor : Executor) (dispatch : Dispatch) (slot : Slot) :
    run? { executor with statements := executor.statements ++ [dispatch] } slot =
      if slot.statement = executor.statements.length then dispatch.runs[slot.position]?
      else executor.run? slot := by
  rw [run?, run?]
  dsimp only
  split
  · next h => rw [h, List.getElem?_concat_length, Option.bind_some]
  · next h =>
    by_cases hlt : slot.statement < executor.statements.length
    · rw [List.getElem?_append_left hlt]
    · have hge : executor.statements.length ≤ slot.statement := by omega
      have hge' : (executor.statements ++ [dispatch]).length ≤ slot.statement := by
        rw [List.length_append, List.length_singleton]
        omega
      rw [List.getElem?_eq_none hge, List.getElem?_eq_none hge']

/-- What happens after something else has happened. -/
theorem performAll?_append {executor between after : Executor} {actions actions' : List Action}
    (h : executor.performAll? actions = some between)
    (h' : between.performAll? actions' = some after) :
    executor.performAll? (actions ++ actions') = some after := by
  induction actions generalizing executor with
  | nil =>
    cases h
    exact h'
  | cons action actions ih =>
    rw [List.cons_append, performAll?]
    rw [performAll?] at h
    split at h
    · cases h
    · exact ih h

/-- What happens in two parts happens first in the one and then in the other. -/
theorem exists_between_of_performAll? {executor after : Executor} {actions actions' : List Action}
    (h : executor.performAll? (actions ++ actions') = some after) :
    ∃ between, executor.performAll? actions = some between ∧
      between.performAll? actions' = some after := by
  induction actions generalizing executor with
  | nil => exact ⟨executor, rfl, h⟩
  | cons action actions ih =>
    rw [List.cons_append, performAll?] at h
    rw [performAll?]
    split at h
    · cases h
    · exact ih h

/-- **What every happening preserves, every run of an executor preserves.** -/
theorem performAll?_induction {P : Executor → Prop} {admitted : Action → Prop}
    (hstep : ∀ executor action after, P executor → admitted action →
      executor.perform? action = some after → P after)
    {executor after : Executor} {actions : List Action}
    (h : executor.performAll? actions = some after) (hall : ∀ a ∈ actions, admitted a)
    (hp : P executor) : P after := by
  induction actions generalizing executor with
  | nil =>
    cases h
    exact hp
  | cons action actions ih =>
    rw [performAll?] at h
    split at h
    · cases h
    · next next hnext =>
      have hp' := hstep executor action next hp (hall _ (List.mem_cons_self ..)) hnext
      exact ih h (fun a ha => hall a (List.mem_cons_of_mem _ ha)) hp'

end Executor

end ShardProxy
