/-
# Statements that share a pool

In every run of an executor, with any number of statements under way and whatever
becomes of their units, the statements and the pool agree (`Executor.Sound`): each
statement is valid, each submitted unit has a task of its own that is where the unit's
run is, the pool has no other tasks, and its idle workers and running tasks are
together its workers, of which there is at least one.
-/

import ShardProxy.Proofs.Execution.Callers
import ShardProxy.Proofs.Execution.Workers

namespace ShardProxy
namespace Executor

/-- The task of a slot. -/
def task? (executor : Executor) (slot : Slot) : Option Nat :=
  (executor.run? slot).bind Run.task

/-- The statements and the pool agree. -/
structure Sound (executor : Executor) : Prop where
  valid : ∀ (n : Nat) (dispatch : Dispatch), executor.statements[n]? = some dispatch →
    dispatch.Valid
  agrees : ∀ slot run task, executor.run? slot = some run → run.task = some task →
    executor.pool.tasks[task]? = some run.phase
  unique : ∀ s s' task, executor.task? s = some task → executor.task? s' = some task → s = s'
  owned : ∀ task, task < executor.pool.tasks.length → ∃ slot, executor.task? slot = some task
  staffed : executor.pool.idle + executor.pool.busy = executor.pool.size
  manned : 1 ≤ executor.pool.size

/-- An executor to which nothing has happened is sound. -/
theorem sound_ofPool (workers : Nat) : Sound (ofPool (.ofSize workers)) where
  valid n dispatch h := by simp [ofPool] at h
  agrees slot run task h := by simp [ofPool, run?] at h
  unique s s' task h := by simp [ofPool, task?, run?] at h
  owned task h := by simp [ofPool, WorkerPool.ofSize] at h
  staffed := by simp [ofPool, WorkerPool.ofSize, WorkerPool.busy]
  manned := Nat.le_max_left 1 workers

/-- A run is found in a statement. -/
theorem run?_eq_some_iff {executor : Executor} {slot : Slot} {run : Run} :
    executor.run? slot = some run ↔ ∃ dispatch, executor.statements[slot.statement]? =
      some dispatch ∧ dispatch.runs[slot.position]? = some run :=
  Option.bind_eq_some_iff

/-- A slot has the task of its run. -/
theorem task?_eq_some_iff {executor : Executor} {slot : Slot} {task : Nat} :
    executor.task? slot = some task ↔ ∃ run, executor.run? slot = some run ∧ run.task = some task :=
  Option.bind_eq_some_iff

/-- A unit of a statement that has just arrived has no task. -/
theorem task_ofUnits {first : ExecutionUnit} {later : List ExecutionUnit} {keys : Bool} {i : Nat}
    {run : Run} (h : (Dispatch.ofUnits first later keys).runs[i]? = some run) :
    run.task = none := by
  rcases i with - | i
  · cases h
    rfl
  · rw [Dispatch.ofUnits, List.getElem?_cons_succ, List.getElem?_map] at h
    obtain ⟨unit, -, rfl⟩ := Option.map_eq_some_iff.1 h
    rfl

section Steps

variable {executor after : Executor}

/-- An arrival leaves the tasks of the slots as they are. -/
theorem task?_arrive (first : ExecutionUnit) (later : List ExecutionUnit) (keys : Bool)
    (slot : Slot) : task? { executor with
      statements := executor.statements ++ [.ofUnits first later keys] } slot =
        executor.task? slot := by
  rw [task?, task?, run?_arrive]
  split
  · next hn =>
    have hnone : executor.run? slot = none := by
      rw [run?, hn, List.getElem?_eq_none (Nat.le_refl _), Option.bind_none]
    rw [hnone, Option.bind_none]
    rcases hrun : (Dispatch.ofUnits first later keys).runs[slot.position]? with - | run
    · rfl
    · rw [Option.bind_some, task_ofUnits hrun]
  · rfl

/-- A statement arrives. -/
theorem Sound.arrive (h : Sound executor) (first : ExecutionUnit) (later : List ExecutionUnit)
    (keys : Bool) : Sound { executor with
      statements := executor.statements ++ [.ofUnits first later keys] } where
  valid n dispatch hdispatch := by
    dsimp only at hdispatch
    rw [List.getElem?_append] at hdispatch
    split at hdispatch
    · exact h.valid n dispatch hdispatch
    · rw [List.mem_singleton.1 (List.mem_of_getElem? hdispatch)]
      exact Dispatch.valid_ofUnits first later keys
  agrees slot run task hrun htask := by
    rw [run?_arrive] at hrun
    split at hrun
    · rw [task_ofUnits hrun] at htask
      cases htask
    · exact h.agrees slot run task hrun htask
  unique s s' task hs hs' := by
    rw [task?_arrive] at hs hs'
    exact h.unique s s' task hs hs'
  owned task htask := by
    obtain ⟨slot, hslot⟩ := h.owned task htask
    exact ⟨slot, by rwa [task?_arrive]⟩
  staffed := h.staffed
  manned := h.manned

/-- A step keeps every statement valid. -/
theorem Sound.valid_act (h : Sound executor) {n : Nat} {act : Act}
    (hact : executor.perform? (.act n act) = some after) {m : Nat} {dispatch : Dispatch}
    (hm : after.statements[m]? = some dispatch) : dispatch.Valid := by
  obtain ⟨before, next, hbefore, hstep, -, hstatements, -⟩ := perform?_act_eq_some hact
  rw [hstatements, List.getElem?_set] at hm
  split at hm
  · split at hm <;> cases hm
    exact (h.valid n before hbefore).step hstep
  · exact h.valid m dispatch hm

/-- A unit that is due to be submitted has not been, and has no task. -/
theorem Sound.unsent_of_submitting (h : Sound executor) {n i : Nat} {run : Run}
    (hrun : executor.run? ⟨n, i⟩ = some run)
    (hcaller : (executor.statements[n]?).map Dispatch.caller = some (.submitting i)) :
    run.progress = .unsent ∧ run.task = none := by
  obtain ⟨dispatch, hdispatch, hi⟩ := run?_eq_some_iff.1 hrun
  dsimp only at hdispatch hi
  obtain ⟨hstands, htasked⟩ := h.valid n dispatch hdispatch
  rw [hdispatch] at hcaller
  rw [Option.some.inj hcaller] at hstands
  cases hstands with
  | submitting _ _ hsent hnext =>
    have hunsent := (hsent i run hnext hi).2 (Nat.le_refl i)
    exact ⟨hunsent, (htasked i run hi).2 (Or.inr hunsent)⟩

/-- The first unit of a statement never has a task. -/
theorem Sound.task_first (h : Sound executor) {n : Nat} {run : Run}
    (hrun : executor.run? ⟨n, 0⟩ = some run) : run.task = none := by
  obtain ⟨dispatch, hdispatch, hi⟩ := run?_eq_some_iff.1 hrun
  exact ((h.valid n dispatch hdispatch).tasked 0 run hi).2 (Or.inl rfl)

/-- How the pool serves a turn of a later unit. -/
theorem Sound.served (h : Sound executor) {slot : Slot} {run : Run} {turn : Turn}
    {progress : Progress} {pool : WorkerPool LaterAnswer} (hrun : executor.run? slot = some run)
    (hturn : run.progress.Turns turn progress)
    (hserve : run.serve? executor.pool turn = some pool) :
    ∃ task, run.task = some task ∧ run.Served task executor.pool turn progress pool := by
  obtain ⟨task, htask⟩ := Run.exists_task_of_serve? hserve
  have hphase := h.agrees slot run task hrun htask
  exact ⟨task, htask, Run.served_of_serve? htask hphase hturn hserve⟩

/-- A turn leaves the tasks of the slots as they are. -/
theorem task?_of_turn {slot : Slot} {run : Run} {progress : Progress}
    (hrun : executor.run? slot = some run)
    (hruns : ∀ s, after.run? s = if s = slot then some { run with progress } else executor.run? s)
    (s : Slot) : after.task? s = executor.task? s := by
  rw [task?, task?, hruns]
  split
  · next hs => rw [hs, hrun, Option.bind_some, Option.bind_some]
  · rfl

/-- The executor stays sound when a later unit is submitted. -/
theorem Sound.submit (h : Sound executor) {n i : Nat} {run : Run}
    (hvalid : ∀ (m : Nat) (dispatch : Dispatch), after.statements[m]? = some dispatch →
      dispatch.Valid) (hrun : executor.run? ⟨n, i⟩ = some run)
    (hcaller : (executor.statements[n]?).map Dispatch.caller = some (.submitting i))
    (hruns : ∀ s, after.run? s = if s = ⟨n, i⟩ then
      some { run with task := some executor.pool.tasks.length, progress := .waiting }
      else executor.run? s) (hpool : after.pool = executor.pool.submit) : Sound after := by
  have hnone := (h.unsent_of_submitting hrun hcaller).2
  have htask : ∀ s, after.task? s =
      if s = ⟨n, i⟩ then some executor.pool.tasks.length else executor.task? s := fun s => by
    rw [task?, task?, hruns]
    split <;> rfl
  -- The number of the new task is beyond those of all others.
  have hfresh : ∀ s, executor.task? s ≠ some executor.pool.tasks.length := fun s hs => by
    obtain ⟨other, hother, ho⟩ := task?_eq_some_iff.1 hs
    have hlt := (List.getElem?_eq_some_iff.1 (h.agrees s other _ hother ho)).1
    omega
  refine ⟨hvalid, ?_, ?_, ?_, ?_, ?_⟩
  · intro s other task hother ho
    rw [hruns] at hother
    rw [hpool, WorkerPool.submit]
    split at hother
    · cases hother
      cases ho
      exact List.getElem?_concat_length
    · have hphase := h.agrees s other task hother ho
      rw [List.getElem?_append_left (List.getElem?_eq_some_iff.1 hphase).1]
      exact hphase
  · intro s s' task hs hs'
    rw [htask] at hs hs'
    split at hs <;> split at hs'
    · next e e' => rw [e, e']
    · exact absurd (hs'.trans hs.symm) (hfresh s')
    · exact absurd (hs.trans hs'.symm) (hfresh s)
    · exact h.unique s s' task hs hs'
  · intro task hlt
    rw [hpool, WorkerPool.submit, List.length_append, List.length_singleton] at hlt
    by_cases hnew : task = executor.pool.tasks.length
    · exact ⟨⟨n, i⟩, by rw [htask, if_pos rfl, hnew]⟩
    · obtain ⟨s, hs⟩ := h.owned task (by omega)
      have hne : s ≠ ⟨n, i⟩ := fun e => by
        rw [e, task?, hrun, Option.bind_some, hnone] at hs
        cases hs
      exact ⟨s, by rw [htask, if_neg hne, hs]⟩
  · rw [hpool, WorkerPool.submit, WorkerPool.busy, List.countP_append]
    exact h.staffed
  · rw [hpool]
    exact h.manned

/-- The executor stays sound when a first unit takes a turn. -/
theorem Sound.turn_first (h : Sound executor) {n : Nat} {run : Run} {progress : Progress}
    (hvalid : ∀ (m : Nat) (dispatch : Dispatch), after.statements[m]? = some dispatch →
      dispatch.Valid) (hrun : executor.run? ⟨n, 0⟩ = some run)
    (hruns : ∀ s, after.run? s =
      if s = ⟨n, 0⟩ then some { run with progress } else executor.run? s)
    (hpool : after.pool = executor.pool) : Sound after := by
  have htask := task?_of_turn hrun hruns
  refine ⟨hvalid, ?_, ?_, ?_, ?_, ?_⟩ <;> simp only [hpool, htask]
  · intro s other task hother ho
    rw [hruns] at hother
    split at hother
    · cases hother
      rw [h.task_first hrun] at ho
      cases ho
    · exact h.agrees s other task hother ho
  · exact h.unique
  · exact h.owned
  · exact h.staffed
  · exact h.manned

/-- The executor stays sound when a later unit takes a turn that the pool serves. -/
theorem Sound.turn_later (h : Sound executor) {slot : Slot} {run : Run} {turn : Turn}
    {progress : Progress}
    (hvalid : ∀ (m : Nat) (dispatch : Dispatch), after.statements[m]? = some dispatch →
      dispatch.Valid) (hrun : executor.run? slot = some run)
    (hturn : run.progress.Turns turn progress)
    (hruns : ∀ s, after.run? s = if s = slot then some { run with progress } else executor.run? s)
    (hserve : run.serve? executor.pool turn = some after.pool) : Sound after := by
  have htask := task?_of_turn hrun hruns
  obtain ⟨task, ht, hserved⟩ := h.served hrun hturn hserve
  have hphase := h.agrees slot run task hrun ht
  refine ⟨hvalid, ?_, ?_, ?_, ?_, ?_⟩
  · intro s other k hother hk
    rw [hruns] at hother
    rw [hserved.tasks]
    split at hother
    · cases hother
      cases ht.symm.trans hk
      exact List.getElem?_set_self (List.getElem?_eq_some_iff.1 hphase).1
    · next hs =>
      have hne : task ≠ k := fun e => hs <| h.unique s slot k
        (task?_eq_some_iff.2 ⟨other, hother, hk⟩) (task?_eq_some_iff.2 ⟨run, hrun, e ▸ ht⟩)
      rw [List.getElem?_set_ne hne]
      exact h.agrees s other k hother hk
  · simp only [htask]
    exact h.unique
  · intro k hk
    rw [hserved.tasks, List.length_set] at hk
    simpa only [htask] using h.owned k hk
  · rw [hserved.staffed, hserved.size]
    exact h.staffed
  · rw [hserved.size]
    exact h.manned

/-- **Every step of a statement keeps the executor sound.** -/
theorem Sound.act (h : Sound executor) {n : Nat} {act : Act}
    (hact : executor.perform? (.act n act) = some after) : Sound after := by
  have hvalid : ∀ (m : Nat) (dispatch : Dispatch), after.statements[m]? = some dispatch →
      dispatch.Valid := fun _ _ hm => h.valid_act hact hm
  cases moved_of_perform? hact with
  | caller hruns hpool hlog =>
    have htask : ∀ s, after.task? s = executor.task? s := fun s => by rw [task?, hruns, task?]
    refine ⟨hvalid, ?_, ?_, ?_, ?_, ?_⟩ <;> simp only [hruns, hpool, htask]
    · exact h.agrees
    · exact h.unique
    · exact h.owned
    · exact h.staffed
    · exact h.manned
  | submit hrun hcaller hruns hpool hlog => exact h.submit hvalid hrun hcaller hruns hpool
  | turn hrun hturn hruns hpool hlog =>
    split at hpool
    · next hi =>
      subst hi
      exact h.turn_first hvalid hrun hruns hpool.1
    · exact h.turn_later hvalid hrun hturn hruns hpool

/-- Whatever happens keeps the executor sound. -/
theorem Sound.perform? (h : Sound executor) {action : Action}
    (hact : executor.perform? action = some after) : Sound after := by
  cases action with
  | arrive first later keys =>
    cases hact
    exact h.arrive first later keys
  | act n act => exact h.act hact
  | shutDown =>
    cases hact
    exact ⟨h.valid, h.agrees, h.unique, h.owned, h.staffed, h.manned⟩

end Steps

/-- **In every run of an executor the statements and the pool agree.** -/
theorem sound_of_performAll? {workers : Nat} {executor : Executor} {actions : List Action}
    (h : (ofPool (.ofSize workers)).performAll? actions = some executor) : Sound executor :=
  @performAll?_induction Sound (fun _ => True) (fun _ _ _ hs _ ha => hs.perform? ha) _ _ _ h
    (fun _ _ => trivial) (sound_ofPool workers)

/-- A statement stands where its caller does. -/
theorem verdict_eq {executor : Executor} {n : Nat} {dispatch : Dispatch}
    (h : executor.statements[n]? = some dispatch) :
    executor.verdict n = dispatch.caller.verdict := by
  rw [verdict, h]

/-- Whether something is a step of a statement. -/
def Action.isActOf (n : Nat) : Action → Bool
  | act m _ => m == n
  | _ => false

/-- **A statement through one happening**: it stays valid and runs the same units, and a step of its
own brings it nearer to its end. -/
theorem exists_dispatch_of_perform? {executor after : Executor} {n : Nat} {dispatch : Dispatch}
    {action : Action} (hdispatch : executor.statements[n]? = some dispatch)
    (hvalid : dispatch.Valid) (h : executor.perform? action = some after) :
    ∃ next, after.statements[n]? = some next ∧ next.Valid ∧
      next.runs.map Run.job = dispatch.runs.map Run.job ∧
      next.left + (if action.isActOf n then 1 else 0) ≤ dispatch.left := by
  have hn : n < executor.statements.length := (List.getElem?_eq_some_iff.1 hdispatch).1
  cases action with
  | arrive first later keys =>
    cases h
    refine ⟨dispatch, ?_, hvalid, rfl, Nat.le_refl _⟩
    dsimp only
    rw [List.getElem?_append_left hn, hdispatch]
  | act m act =>
    obtain ⟨before, next, hbefore, hstep, -, hstatements, -⟩ := perform?_act_eq_some h
    by_cases hm : m = n
    · subst hm
      cases hdispatch.symm.trans hbefore
      refine ⟨next, ?_, hvalid.step hstep, hstep.map_job, ?_⟩
      · rw [hstatements, List.getElem?_set_self hn]
      · rw [Action.isActOf, beq_self_eq_true, if_pos rfl]
        exact hvalid.left_step hstep
    · refine ⟨dispatch, ?_, hvalid, rfl, ?_⟩
      · rw [hstatements, List.getElem?_set_ne hm, hdispatch]
      · rw [Action.isActOf, beq_false_of_ne hm, if_neg Bool.false_ne_true]
        exact Nat.le_refl _
  | shutDown =>
    cases h
    exact ⟨dispatch, hdispatch, hvalid, rfl, Nat.le_refl _⟩

/-- **A statement runs what it has arrived with, and takes no more steps than it had left.** -/
theorem exists_dispatch_of_valid {executor after : Executor} {n : Nat} {dispatch : Dispatch}
    {actions : List Action} (hdispatch : executor.statements[n]? = some dispatch)
    (hvalid : dispatch.Valid) (hrun : executor.performAll? actions = some after) :
    ∃ final, after.statements[n]? = some final ∧ final.Valid ∧
      final.runs.map Run.job = dispatch.runs.map Run.job ∧
      final.left + actions.countP (·.isActOf n) ≤ dispatch.left := by
  induction actions generalizing executor dispatch with
  | nil =>
    cases hrun
    exact ⟨dispatch, hdispatch, hvalid, rfl, Nat.le_refl _⟩
  | cons action actions ih =>
    rw [performAll?] at hrun
    split at hrun
    · cases hrun
    · next e he =>
      obtain ⟨next, hnext, hvalid', hjobs, hleft⟩ := exists_dispatch_of_perform? hdispatch hvalid he
      obtain ⟨final, hfinal, hvalid'', hjobs', hleft'⟩ := ih hnext hvalid' hrun
      refine ⟨final, hfinal, hvalid'', hjobs'.trans hjobs, ?_⟩
      rw [List.countP_cons]
      omega

/-- **A statement in a run of an executor**: it has what it has arrived with, it is valid, and its
steps are counted. -/
theorem exists_dispatch_of_performAll? {actions : List Action} {before executor : Executor}
    {first : ExecutionUnit} {later : List ExecutionUnit} {keys : Bool}
    (hrun : before.performAll? (.arrive first later keys :: actions) = some executor) :
    ∃ dispatch, executor.statements[before.statements.length]? = some dispatch ∧ dispatch.Valid ∧
      dispatch.runs.map Run.job = (Dispatch.ofUnits first later keys).runs.map Run.job ∧
      actions.countP (·.isActOf before.statements.length) ≤ 5 * later.length + 4 := by
  rw [performAll?] at hrun
  dsimp only [perform?] at hrun
  have hfirst : (before.statements ++ [Dispatch.ofUnits first later keys])[
      before.statements.length]? = some (.ofUnits first later keys) := List.getElem?_concat_length
  obtain ⟨dispatch, hdispatch, hvalid, hjobs, hleft⟩ :=
    exists_dispatch_of_valid hfirst (Dispatch.valid_ofUnits first later keys) hrun
  rw [Dispatch.left_ofUnits] at hleft
  exact ⟨dispatch, hdispatch, hvalid, hjobs, by omega⟩

end Executor
end ShardProxy
