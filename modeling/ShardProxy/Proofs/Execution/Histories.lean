/-
# What has become of each unit

Three things that hold of every unit in every run of an executor.  What the log has on a
unit is the trace of how far its run has come (`log_of_performAll?`).  When backends
treat each unit in a way fixed beforehand, a run that has exited has done so in that
way (`follows_of_performAll?`).  And as long as the pool is open, no run has been
refused a worker (`unrefused_of_performAll?`).
-/

import ShardProxy.Proofs.Execution.Sharing

namespace ShardProxy

/-- The backends take no other part in a turn than they do when they treat the unit so. -/
def Turn.Respects (conduct : Conduct) : Turn → Prop
  | start => True
  | refuse => True
  | connect => ∃ exit, conduct = .connected exit
  | fail exit => conduct = .unconnected exit
  | finish exit => conduct = .connected exit

/-- How far a run can come when backends treat the unit so. -/
def Progress.Follows (conduct : Conduct) : Progress → Prop
  | executing => ∃ exit, conduct = .connected exit
  | exited conduct' => conduct' = conduct
  | _ => True

/-- A turn that respects the conduct leads to where a run can come. -/
theorem Progress.follows_of_turns {before after : Progress} {turn : Turn} {conduct : Conduct}
    (h : before.Turns turn after) (hr : turn.Respects conduct) : after.Follows conduct := by
  cases h with
  | start => trivial
  | refuse => trivial
  | connect => exact hr
  | fail exit => exact Eq.symm hr
  | finish exit => exact Eq.symm hr

/-- A turn that leads to where a run can come respects the conduct, from where the run can come. -/
theorem Progress.respects_of_turns {before after : Progress} {turn : Turn} {conduct : Conduct}
    (h : before.Turns turn after) (hf : after.Follows conduct) :
    turn.Respects conduct ∧ before.Follows conduct := by
  cases h with
  | start => exact ⟨trivial, trivial⟩
  | refuse => exact ⟨trivial, trivial⟩
  | connect => exact ⟨hf, trivial⟩
  | fail exit => exact ⟨Eq.symm hf, trivial⟩
  | finish exit => exact ⟨Eq.symm hf, ⟨exit, Eq.symm hf⟩⟩

/-- What the backends have seen of a run. -/
def Run.trace (slot : Slot) (run : Run) : List Event :=
  match run.progress with
  | .unsent => []
  | .waiting => []
  | .refused => []
  | .connecting => [.ask slot run.job.unit.dataSource]
  | .executing => [.ask slot run.job.unit.dataSource, .connect slot, .run slot run.job]
  | .exited (.unconnected _) => [.ask slot run.job.unit.dataSource]
  | .exited (.connected (.returned _)) =>
    [.ask slot run.job.unit.dataSource, .connect slot, .run slot run.job, .complete slot run.job]
  | .exited (.connected (.crashed _)) =>
    [.ask slot run.job.unit.dataSource, .connect slot, .run slot run.job]

/-- **The events of a turn carry the trace on.** -/
theorem Run.trace_turns {run : Run} {turn : Turn} {progress : Progress}
    (h : run.progress.Turns turn progress) (slot : Slot) :
    Run.trace slot { run with progress } = run.trace slot ++ turn.events slot run.job := by
  obtain ⟨job, task, before⟩ := run
  cases h with
  | start => rfl
  | refuse => rfl
  | connect => rfl
  | fail exit => rfl
  | finish exit => cases exit <;> rfl

/-- A run that waits has no trace. -/
theorem Run.trace_of_idle {run : Run} (h : run.progress = .unsent ∨ run.progress = .waiting)
    (slot : Slot) : run.trace slot = [] := by
  rw [trace]
  rcases h with h | h <;> rw [h]

/-- The events of a turn belong to the unit that takes it. -/
theorem Turn.slot_of_mem_events {slot : Slot} {job : Job} {turn : Turn} {event : Event}
    (h : event ∈ turn.events slot job) : event.slot = slot := by
  unfold Turn.events at h
  split at h
  · rw [List.mem_singleton.1 h]
    rfl
  · cases h
  · rcases List.mem_cons.1 h with rfl | h
    · rfl
    · rw [List.mem_singleton.1 h]
      rfl
  · cases h
  · rw [List.mem_singleton.1 h]
    rfl
  · cases h

namespace Executor

/-- The backends take no other part than they do when they treat each unit in a given way. -/
def Action.Respects (conduct : Slot → Conduct) : Action → Prop
  | act n (.turn i turn) => turn.Respects (conduct ⟨n, i⟩)
  | _ => True

/-- What the log has on a unit. -/
def history (executor : Executor) (slot : Slot) : List Event :=
  executor.log.filter fun event => event.slot = slot

/-- The runs are where they can come when backends treat each unit in a given way. -/
def Follows (conduct : Slot → Conduct) (executor : Executor) : Prop :=
  ∀ slot run, executor.run? slot = some run → run.progress.Follows (conduct slot)

/-- No run has been refused a worker by an open pool. -/
def Unrefused (executor : Executor) : Prop :=
  executor.pool.closed = false → ∀ slot run, executor.run? slot = some run →
    run.progress ≠ .refused

/-- The log has the trace of each unit. -/
def Logged (executor : Executor) : Prop :=
  ∀ slot, executor.history slot = ((executor.run? slot).map (Run.trace slot)).getD []

/-- Backends take no part in the arrival of a statement. -/
theorem forall_respects_arrive {conduct : Slot → Conduct} {past actions : List Action}
    (first : ExecutionUnit) (later : List ExecutionUnit) (keys : Bool) :
    (∀ action ∈ past ++ .arrive first later keys :: actions, action.Respects conduct) ↔
      ∀ action ∈ past ++ actions, action.Respects conduct := by
  rw [List.forall_mem_append, List.forall_mem_append, List.forall_mem_cons]
  exact and_congr_right fun _ => and_iff_right trivial

/-- A unit of a statement that has just arrived has not been submitted, or waits. -/
theorem progress_ofUnits {first : ExecutionUnit} {later : List ExecutionUnit} {keys : Bool}
    {i : Nat} {run : Run} (h : (Dispatch.ofUnits first later keys).runs[i]? = some run) :
    run.progress = .unsent ∨ run.progress = .waiting := by
  rcases i with - | i
  · cases h
    exact Or.inr rfl
  · rw [Dispatch.ofUnits, List.getElem?_cons_succ, List.getElem?_map] at h
    obtain ⟨unit, -, rfl⟩ := Option.map_eq_some_iff.1 h
    exact Or.inl rfl

/-- How backends treat each unit: as has been seen of it, or else as is given. -/
def treatment (executor : Executor) (given : Slot → Conduct) (slot : Slot) : Conduct :=
  match (executor.run? slot).map Run.progress with
  | some (.exited conduct) => conduct
  | _ => given slot

/-- The runs are where they have been seen to come, if those that execute have a connection. -/
theorem follows_treatment {executor : Executor} {given : Slot → Conduct}
    (h : ∀ slot run, executor.run? slot = some run → run.progress = .executing →
      ∃ exit, given slot = .connected exit) :
    Follows (executor.treatment given) executor := by
  intro slot run hrun
  rw [treatment, hrun, Option.map_some]
  rcases hp : run.progress
  case executing => exact h slot run hrun hp
  case exited => rfl
  all_goals trivial

variable {executor after : Executor}

/-- Whatever happens, a run can come no further than its conduct. -/
theorem Follows.perform? {conduct : Slot → Conduct} (h : Follows conduct executor)
    {action : Action} (hr : action.Respects conduct)
    (hact : executor.perform? action = some after) : Follows conduct after := by
  cases action with
  | arrive first later keys =>
    cases hact
    intro slot run hrun
    rw [run?_arrive] at hrun
    split at hrun
    · rcases progress_ofUnits hrun with hp | hp <;> rw [hp] <;> trivial
    · exact h slot run hrun
  | act n act =>
    cases moved_of_perform? hact with
    | caller hruns hpool hlog =>
      intro slot run hrun
      exact h slot run (hruns slot ▸ hrun)
    | submit hrun hcaller hruns hpool hlog =>
      intro slot run hslot
      rw [hruns] at hslot
      split at hslot
      · cases hslot
        trivial
      · exact h slot run hslot
    | turn hrun hturn hruns hpool hlog =>
      intro slot run hslot
      rw [hruns] at hslot
      split at hslot
      · next hs =>
        cases hslot
        rw [hs]
        exact Progress.follows_of_turns hturn hr
      · exact h slot run hslot
  | shutDown =>
    cases hact
    exact h

/-- A step of a statement neither opens nor shuts the pool. -/
theorem Sound.closed_act (h : Sound executor) {n : Nat} {act : Act}
    (hact : executor.perform? (.act n act) = some after) :
    after.pool.closed = executor.pool.closed := by
  cases moved_of_perform? hact with
  | caller hruns hpool hlog => rw [hpool]
  | submit hrun hcaller hruns hpool hlog =>
    rw [hpool]
    rfl
  | turn hrun hturn hruns hpool hlog =>
    split at hpool
    · rw [hpool.1]
    · obtain ⟨task, -, hserved⟩ := h.served hrun hturn hpool
      exact hserved.closed

/-- Whatever happens, an open pool refuses no run. -/
theorem Unrefused.perform? (h : Unrefused executor) (hsound : Sound executor) {action : Action}
    (hact : executor.perform? action = some after) : Unrefused after := by
  cases action with
  | arrive first later keys =>
    cases hact
    intro hopen slot run hrun
    rw [run?_arrive] at hrun
    split at hrun
    · rcases progress_ofUnits hrun with hp | hp <;> rw [hp] <;> simp
    · exact h hopen slot run hrun
  | act n act =>
    have hclosed := hsound.closed_act hact
    intro hopen slot run hslot
    rw [hclosed] at hopen
    cases moved_of_perform? hact with
    | caller hruns hpool hlog => exact h hopen slot run (hruns slot ▸ hslot)
    | submit hrun hcaller hruns hpool hlog =>
      rw [hruns] at hslot
      split at hslot
      · cases hslot
        simp
      · exact h hopen slot run hslot
    | @turn i turn before progress hrun hturn hruns hpool hlog =>
      rw [hruns] at hslot
      split at hslot
      · cases hslot
        intro hrefused
        have hrefuse : turn = .refuse := by
          cases hrefused
          cases before
          cases hturn
          rfl
        split at hpool
        · exact hpool.2 hrefuse
        · obtain ⟨task, -, hserved⟩ := hsound.served hrun hturn hpool
          rw [hserved.refused hrefuse] at hopen
          cases hopen
      · exact h hopen slot run hslot
  | shutDown =>
    cases hact
    intro hopen
    cases hopen

/-- The log of a unit after events of one unit. -/
theorem history_of_log {slot : Slot} {events : List Event}
    (hlog : after.log = executor.log ++ events) (hevents : ∀ event ∈ events, event.slot = slot)
    (s : Slot) :
    after.history s = executor.history s ++ if s = slot then events else [] := by
  rw [history, history, hlog, List.filter_append]
  split
  · next hs =>
    rw [hs, List.filter_eq_self.2 fun event he => decide_eq_true (hevents event he)]
  · next hs =>
    have hother : ∀ event ∈ events, ¬ decide (event.slot = s) = true := fun event he hd =>
      hs ((of_decide_eq_true hd).symm.trans (hevents event he))
    rw [List.filter_eq_nil_iff.2 hother]

/-- Whatever happens, the log has the trace of each unit. -/
theorem Logged.perform? (h : Logged executor) (hsound : Sound executor) {action : Action}
    (hact : executor.perform? action = some after) : Logged after := by
  cases action with
  | arrive first later keys =>
    cases hact
    intro slot
    have hslot := h slot
    rw [run?_arrive]
    split
    · next hn =>
      have hnone : executor.run? slot = none := by
        rw [run?, hn, List.getElem?_eq_none (Nat.le_refl _), Option.bind_none]
      rw [hnone] at hslot
      refine hslot.trans ?_
      rcases hrun : (Dispatch.ofUnits first later keys).runs[slot.position]? with - | run
      · rfl
      · exact (Run.trace_of_idle (progress_ofUnits hrun) slot).symm
    · exact hslot
  | act n act =>
    intro slot
    have hslot := h slot
    cases moved_of_perform? hact with
    | caller hruns hpool hlog => rw [history, hlog, hruns, ← hslot, history]
    | submit hrun hcaller hruns hpool hlog =>
      rw [history, hlog, hruns]
      split
      · next hs =>
        have hunsent := (hsound.unsent_of_submitting hrun hcaller).1
        rw [hs, hrun, Option.map_some, Option.getD_some,
          Run.trace_of_idle (Or.inl hunsent)] at hslot
        rw [hs, Option.map_some, Option.getD_some, Run.trace_of_idle (Or.inr rfl)]
        exact hslot
      · exact hslot
    | turn hrun hturn hruns hpool hlog =>
      rw [history_of_log hlog fun event => Turn.slot_of_mem_events, hruns]
      split
      · next hs =>
        rw [hslot, hs, hrun]
        exact (Run.trace_turns hturn _).symm
      · rw [List.append_nil]
        exact hslot
  | shutDown =>
    cases hact
    exact h

/-- What happens respects a conduct that the runs follow afterwards, and they follow it before. -/
theorem Sound.respects_of_follows {conduct : Slot → Conduct} (h : Sound executor) {action : Action}
    (hact : executor.perform? action = some after) (hf : Follows conduct after) :
    action.Respects conduct ∧ Follows conduct executor := by
  cases action with
  | arrive first later keys =>
    cases hact
    refine ⟨trivial, fun slot run hrun => hf slot run ?_⟩
    obtain ⟨dispatch, hdispatch, -⟩ := run?_eq_some_iff.1 hrun
    have hlt := (List.getElem?_eq_some_iff.1 hdispatch).1
    rw [run?_arrive, if_neg (by omega), hrun]
  | shutDown =>
    cases hact
    exact ⟨trivial, hf⟩
  | act n act =>
    cases act with
    | turn i turn =>
      obtain ⟨run, progress, hrun, hturn, hruns, -, -⟩ := exists_turn_of_perform? hact
      have hafter := hf ⟨n, i⟩ { run with progress } (by rw [hruns, if_pos rfl])
      obtain ⟨hrespects, hbefore⟩ := Progress.respects_of_turns hturn hafter
      refine ⟨hrespects, fun slot other hslot => ?_⟩
      by_cases hs : slot = ⟨n, i⟩
      · subst hs
        cases hrun.symm.trans hslot
        exact hbefore
      · exact hf slot other (by rw [hruns, if_neg hs, hslot])
    | submit =>
      refine ⟨trivial, fun slot other hslot => ?_⟩
      cases moved_of_perform? hact with
      | caller hruns => exact hf slot other ((hruns slot).trans hslot)
      | @submit i run hrun hcaller hruns =>
        by_cases hs : slot = ⟨n, i⟩
        · subst hs
          cases hrun.symm.trans hslot
          rw [(h.unsent_of_submitting hrun hcaller).1]
          trivial
        · exact hf slot other (by rw [hruns, if_neg hs, hslot])
    | collect =>
      cases moved_of_perform? hact with
      | caller hruns => exact ⟨trivial, fun slot run hrun => hf slot run ((hruns slot).trans hrun)⟩
    | reply =>
      cases moved_of_perform? hact with
      | caller hruns => exact ⟨trivial, fun slot run hrun => hf slot run ((hruns slot).trans hrun)⟩

section Runs

variable {workers : Nat} {actions : List Action}

/-- **In every run the log has the trace of each unit.** -/
theorem log_of_performAll? (h : (ofPool (.ofSize workers)).performAll? actions = some executor) :
    Logged executor := by
  have hstep : ∀ (e : Executor) (action : Action) (e' : Executor), Sound e ∧ Logged e → True →
      e.perform? action = some e' → Sound e' ∧ Logged e' :=
    fun e action e' hp _ hact => ⟨hp.1.perform? hact, hp.2.perform? hp.1 hact⟩
  exact (performAll?_induction hstep h (fun _ _ => trivial)
    ⟨sound_ofPool workers, fun slot => rfl⟩).2

/-- **In every run an open pool has refused no unit.** -/
theorem unrefused_of_performAll?
    (h : (ofPool (.ofSize workers)).performAll? actions = some executor) : Unrefused executor := by
  have hstep : ∀ (e : Executor) (action : Action) (e' : Executor), Sound e ∧ Unrefused e → True →
      e.perform? action = some e' → Sound e' ∧ Unrefused e' :=
    fun e action e' hp _ hact => ⟨hp.1.perform? hact, hp.2.perform? hp.1 hact⟩
  exact (performAll?_induction hstep h (fun _ _ => trivial)
    ⟨sound_ofPool workers, fun _ slot run hrun => by simp [ofPool, run?] at hrun⟩).2

/-- **In every run that respects the conducts of the units, each comes to what its conduct
says.** -/
theorem follows_of_performAll? {conduct : Slot → Conduct}
    (h : (ofPool (.ofSize workers)).performAll? actions = some executor)
    (hr : ∀ action ∈ actions, action.Respects conduct) : Follows conduct executor :=
  performAll?_induction (fun _ _ _ hp ha hact => Follows.perform? hp ha hact) h hr
    fun slot run hrun => by simp [ofPool, run?] at hrun

/-- All that happens respects a conduct that the runs follow at the end. -/
theorem Sound.respects_of_performAll? {conduct : Slot → Conduct} (h : Sound executor)
    (hrun : executor.performAll? actions = some after) (hf : Follows conduct after) :
    (∀ action ∈ actions, action.Respects conduct) ∧ Follows conduct executor := by
  induction actions generalizing executor with
  | nil =>
    cases hrun
    exact ⟨fun _ hnil => (List.not_mem_nil hnil).elim, hf⟩
  | cons action actions ih =>
    rw [performAll?] at hrun
    split at hrun
    · cases hrun
    · next next hnext =>
      obtain ⟨hrest, hnextf⟩ := ih (h.perform? hnext) hrun
      obtain ⟨hfirst, hbefore⟩ := h.respects_of_follows hnext hnextf
      exact ⟨List.forall_mem_cons.2 ⟨hfirst, hrest⟩, hbefore⟩

/-- **Every run of an executor is one in which backends treat each unit in a way fixed beforehand:**
each unit has one answer at most, and that can have been fixed. -/
theorem exists_conduct_of_performAll?
    (h : (ofPool (.ofSize workers)).performAll? actions = some executor) :
    ∃ conduct, ∀ action ∈ actions, action.Respects conduct := by
  have hfollows : Follows (executor.treatment fun _ => .connected (.crashed "")) executor :=
    follows_treatment fun _ _ _ _ => ⟨.crashed "", rfl⟩
  exact ⟨_, ((sound_ofPool workers).respects_of_performAll? h hfollows).1⟩

end Runs

end Executor

end ShardProxy
