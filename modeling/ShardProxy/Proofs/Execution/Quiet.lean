/-
# Nobody waits for nothing

An executor is quiet when no statement can take a step, though backends let every
unit that has started go on in its way.  Then no run is connecting or executing, so
all workers are idle, there is one at least, and no unit waits for it; and a caller that
waits for no unit has returned or crashed (`Sound.concluded_of_quiet`).  This needs the
first unit to run outside the pool, and no run to hold a worker while it waits for another.
-/

import ShardProxy.Proofs.Execution.Histories

namespace ShardProxy

/-- The caller has returned or crashed. -/
def Caller.Concluded : Caller → Prop
  | returned _ => True
  | crashed _ => True
  | _ => False

/-- A caller that has returned or crashed does not wait. -/
theorem Caller.Concluded.verdict_ne {caller : Caller} (h : caller.Concluded) :
    caller.verdict ≠ .pending := by
  cases caller <;> first | exact h.elim | exact fun e => by cases e

/-- A run that has come to its end has an answer. -/
theorem Run.exists_answer? {run : Run} (hunsent : run.progress ≠ .unsent)
    (hwaiting : run.progress ≠ .waiting) (hconnecting : run.progress ≠ .connecting)
    (hexecuting : run.progress ≠ .executing) : ∃ answer, run.answer? = some answer := by
  rw [answer?]
  split
  · exact ⟨_, rfl⟩
  · split <;> exact ⟨_, rfl⟩
  · next hrefused hexited =>
    rcases hp : run.progress with _ | _ | _ | _ | _ | conduct
    · exact absurd hp hunsent
    · exact absurd hp hwaiting
    · exact absurd hp hrefused
    · exact absurd hp hconnecting
    · exact absurd hp hexecuting
    · exact absurd hp (hexited conduct)

namespace Executor

/-- No statement can take a step when backends treat each unit in a given way. -/
def Quiet (conduct : Slot → Conduct) (executor : Executor) : Prop :=
  ∀ n act, (Action.act n act).Respects conduct → executor.perform? (.act n act) = none

variable {conduct : Slot → Conduct} {executor : Executor} {n i : Nat} {dispatch : Dispatch}
  {run : Run}

/-- Some statement can take a step when backends treat each unit in a given way. -/
def CanStep (conduct : Slot → Conduct) (executor : Executor) : Prop :=
  ∃ n act, (Action.act n act).Respects conduct ∧ (executor.perform? (.act n act)).isSome

/-- An executor is quiet, or it can take a step. -/
theorem quiet_or_canStep (conduct : Slot → Conduct) (executor : Executor) :
    executor.Quiet conduct ∨ executor.CanStep conduct := by
  refine (Classical.em _).imp_right fun hnot => Classical.byContradiction fun hnone => hnot ?_
  intro n act hr
  rcases hnext : executor.perform? (.act n act) with - | next
  · rfl
  · exact (hnone ⟨n, act, hr, by rw [hnext]; rfl⟩).elim

/-- A step of a statement that the pool serves can be taken. -/
theorem Quiet.elim (h : Quiet conduct executor) (act : Act)
    (hr : (Action.act n act).Respects conduct)
    (hdispatch : executor.statements[n]? = some dispatch)
    (hadvance : dispatch.advance? executor.pool.tasks.length act ≠ none)
    (hserve : dispatch.serve? executor.pool act ≠ none) : False := by
  obtain ⟨next, hnext⟩ := Option.ne_none_iff_exists'.1 hadvance
  obtain ⟨pool, hpool⟩ := Option.ne_none_iff_exists'.1 hserve
  have hnone := h n act hr
  rw [perform?, hdispatch] at hnone
  dsimp only at hnone
  rw [hnext, hpool] at hnone
  cases hnone

/-- A turn of the first unit that its caller goes along with can be taken. -/
theorem Quiet.elim_first (h : Quiet conduct executor)
    (hdispatch : executor.statements[n]? = some dispatch) (hrun : dispatch.runs[0]? = some run)
    {turn : Turn} {progress : Progress} (hturn : run.progress.turn? turn = some progress)
    (hcaller : dispatch.caller.lead? run.job dispatch.runs.length turn ≠ none)
    (hr : turn.Respects (conduct ⟨n, 0⟩)) : False := by
  obtain ⟨caller, hcaller⟩ := Option.ne_none_iff_exists'.1 hcaller
  refine h.elim (.turn 0 turn) hr hdispatch ?_ (Option.some_ne_none _)
  rw [Dispatch.advance?, hrun]
  dsimp only
  rw [hturn, Dispatch.callerAfter?, if_pos rfl, hcaller]
  exact Option.some_ne_none _

/-- A turn of a later unit that the pool serves can be taken. -/
theorem Quiet.elim_later (h : Quiet conduct executor)
    (hdispatch : executor.statements[n]? = some dispatch) (hrun : dispatch.runs[i]? = some run)
    (hi : i ≠ 0) {turn : Turn} {progress : Progress}
    (hturn : run.progress.turn? turn = some progress)
    (hserve : run.serve? executor.pool turn ≠ none) (hr : turn.Respects (conduct ⟨n, i⟩)) :
    False := by
  refine h.elim (.turn i turn) hr hdispatch ?_ ?_
  · rw [Dispatch.advance?, hrun]
    dsimp only
    rw [hturn, Dispatch.callerAfter?, if_neg hi]
    exact Option.some_ne_none _
  · rw [Dispatch.serve?, if_neg hi, hrun, Option.bind_some]
    exact hserve

/-- The task of a later unit that has been submitted is where its run is. -/
theorem Sound.exists_task (h : Sound executor) (hdispatch : executor.statements[n]? = some dispatch)
    (hrun : dispatch.runs[i]? = some run) (hi : i ≠ 0) (hsent : run.progress ≠ .unsent) :
    ∃ task, run.task = some task ∧ executor.pool.tasks[task]? = some run.phase := by
  have htasked := (h.valid n dispatch hdispatch).tasked i run hrun
  rcases htask : run.task with - | task
  · rcases htasked.1 htask with h₀ | h₀
    · exact absurd h₀ hi
    · exact absurd h₀ hsent
  · have hslot : executor.run? ⟨n, i⟩ = some run := run?_eq_some_iff.2 ⟨dispatch, hdispatch, hrun⟩
    exact ⟨task, rfl, h.agrees ⟨n, i⟩ run task hslot htask⟩

/-- A later unit that holds a worker can give it back. -/
theorem perform?_finish {task : Nat} (exit : Exit LaterAnswer)
    (hphase : executor.pool.tasks[task]? = some .running) :
    executor.pool.perform? (.finish task exit) ≠ none := by
  rw [WorkerPool.perform?, hphase]
  exact Option.some_ne_none _

/-- **When the executor is quiet no run that has its worker or its caller can take a turn.** -/
theorem Sound.elim_turn (h : Sound executor) (hquiet : Quiet conduct executor)
    (hdispatch : executor.statements[n]? = some dispatch) (hrun : dispatch.runs[i]? = some run)
    (hunder : run.progress = .connecting ∨ run.progress = .executing) {turn : Turn}
    {progress : Progress} (hturn : run.progress.turn? turn = some progress)
    (hr : turn.Respects (conduct ⟨n, i⟩)) : False := by
  rcases Nat.eq_zero_or_pos i with rfl | hi
  · refine hquiet.elim_first hdispatch hrun hturn ?_ hr
    rcases hunder with hp | hp <;> rw [hp] at hturn <;> cases turn <;> cases hturn <;>
      exact Option.some_ne_none _
  · have hsent : run.progress ≠ .unsent := by rcases hunder with hp | hp <;> simp [hp]
    obtain ⟨task, htask, hphase⟩ := h.exists_task hdispatch hrun (by omega) hsent
    have hrunning : run.phase = .running := by
      rw [Run.phase]
      rcases hunder with hp | hp <;> rw [hp]
    rw [hrunning] at hphase
    refine hquiet.elim_later hdispatch hrun (by omega) hturn ?_ hr
    rw [Run.serve?, htask]
    rcases hunder with hp | hp <;> rw [hp] at hturn <;> cases turn <;> cases hturn <;>
      first | exact perform?_finish _ hphase | exact Option.some_ne_none _

/-- When the executor is quiet no run is connecting. -/
theorem Sound.not_connecting (h : Sound executor) (hquiet : Quiet conduct executor)
    (hdispatch : executor.statements[n]? = some dispatch) (hrun : dispatch.runs[i]? = some run) :
    run.progress ≠ .connecting := by
  intro hp
  rcases hc : conduct ⟨n, i⟩ with exit | exit
  · have hfail : run.progress.turn? (.fail exit) = some (.exited (.unconnected exit)) := by
      rw [hp, Progress.turn?]
    exact h.elim_turn hquiet hdispatch hrun (Or.inl hp) hfail hc
  · have hconnect : run.progress.turn? .connect = some .executing := by rw [hp, Progress.turn?]
    exact h.elim_turn hquiet hdispatch hrun (Or.inl hp) hconnect ⟨exit, hc⟩

/-- When the executor is quiet no run is executing. -/
theorem Sound.not_executing (h : Sound executor) (hfollows : Follows conduct executor)
    (hquiet : Quiet conduct executor) (hdispatch : executor.statements[n]? = some dispatch)
    (hrun : dispatch.runs[i]? = some run) : run.progress ≠ .executing := by
  intro hp
  have hc := hfollows ⟨n, i⟩ run (run?_eq_some_iff.2 ⟨dispatch, hdispatch, hrun⟩)
  rw [hp] at hc
  obtain ⟨exit, hc⟩ := hc
  have hfinish : run.progress.turn? (.finish exit) = some (.exited (.connected exit)) := by
    rw [hp, Progress.turn?]
  exact h.elim_turn hquiet hdispatch hrun (Or.inr hp) hfinish hc

/-- When the executor is quiet a worker is idle. -/
theorem Sound.idle_of_quiet (h : Sound executor) (hfollows : Follows conduct executor)
    (hquiet : Quiet conduct executor) : executor.pool.idle ≠ 0 := by
  have hbusy : executor.pool.busy = 0 := by
    rw [WorkerPool.busy, List.countP_eq_zero]
    intro phase hphase hrunning
    obtain ⟨task, htask⟩ := List.mem_iff_getElem?.1 hphase
    obtain ⟨slot, hslot⟩ := h.owned task (List.getElem?_eq_some_iff.1 htask).1
    obtain ⟨run, hrun, ht⟩ := task?_eq_some_iff.1 hslot
    obtain ⟨dispatch, hdispatch, hi⟩ := run?_eq_some_iff.1 hrun
    have hconnecting := h.not_connecting hquiet hdispatch hi
    have hexecuting := h.not_executing hfollows hquiet hdispatch hi
    have hagrees := h.agrees slot run task hrun ht
    rw [htask] at hagrees
    rw [Option.some.inj hagrees, Run.phase] at hrunning
    rcases hp : run.progress <;> rw [hp] at hrunning hconnecting hexecuting <;>
      simp [Phase.isRunning] at hrunning hconnecting hexecuting
  have := h.staffed
  have := h.manned
  omega

/-- **When the executor is quiet no later unit waits.** -/
theorem Sound.not_waiting (h : Sound executor) (hfollows : Follows conduct executor)
    (hquiet : Quiet conduct executor) (hdispatch : executor.statements[n]? = some dispatch)
    (hrun : dispatch.runs[i]? = some run) (hi : i ≠ 0) : run.progress ≠ .waiting := by
  intro hprogress
  have hsent : run.progress ≠ .unsent := by rw [hprogress]; simp
  obtain ⟨task, htask, hphase⟩ := h.exists_task hdispatch hrun hi hsent
  rw [Run.phase, hprogress] at hphase
  have hidle := h.idle_of_quiet hfollows hquiet
  rcases hclosed : executor.pool.closed
  · have hstart : run.progress.turn? .start = some .connecting := by
      rw [hprogress, Progress.turn?]
    have hserve : run.serve? executor.pool .start ≠ none := by
      rw [Run.serve?, htask]
      dsimp only
      rw [WorkerPool.perform?, hphase]
      dsimp only
      rw [hclosed, if_neg (by simpa using hidle)]
      exact Option.some_ne_none _
    exact hquiet.elim_later hdispatch hrun hi hstart hserve trivial
  · have hrefuse : run.progress.turn? .refuse = some .refused := by
      rw [hprogress, Progress.turn?]
    have hserve : run.serve? executor.pool .refuse ≠ none := by
      rw [Run.serve?, htask]
      dsimp only
      rw [WorkerPool.perform?, hphase]
      dsimp only
      rw [if_pos hclosed]
      exact Option.some_ne_none _
    exact hquiet.elim_later hdispatch hrun hi hrefuse hserve trivial

/-- **When the executor is quiet every statement has returned or crashed.** -/
theorem Sound.concluded_of_quiet (h : Sound executor) (hfollows : Follows conduct executor)
    (hquiet : Quiet conduct executor) (hdispatch : executor.statements[n]? = some dispatch) :
    dispatch.caller.Concluded := by
  have hstands := (h.valid n dispatch hdispatch).stands
  obtain ⟨runs, caller⟩ := dispatch
  dsimp only at hstands ⊢
  cases hstands with
  | @submitting next first hfirst hprogress hsent hnext hle =>
    rcases Nat.lt_or_eq_of_le hle with hlt | hall
    · have hrun : runs[next]? = some runs[next] := List.getElem?_eq_getElem hlt
      refine (hquiet.elim .submit trivial hdispatch ?_ (Option.some_ne_none _)).elim
      rw [Dispatch.advance?]
      dsimp only
      rw [hrun]
      exact Option.some_ne_none _
    · have hstart : first.progress.turn? .start = some .connecting := by
        rw [hprogress, Progress.turn?]
      refine (hquiet.elim_first hdispatch hfirst hstart ?_ trivial).elim
      rw [Caller.lead?]
      dsimp only
      rw [if_pos hall]
      exact Option.some_ne_none _
  | running hfirst hprogress hsent =>
    rcases hprogress with hp | hp
    · exact (h.not_connecting hquiet hdispatch hfirst hp).elim
    · exact (h.not_executing hfollows hquiet hdispatch hfirst hp).elim
  | @collecting first conduct' answer rest hfirst hprogress hexit hsent hrest =>
    have hle := hrest.length_le fun e => by rw [e] at hfirst; cases hfirst
    rcases Nat.lt_or_eq_of_le hle with hlt | hall
    · have hrun : runs[rest.length + 1]? = some runs[rest.length + 1] :=
        List.getElem?_eq_getElem hlt
      have hunsent : runs[rest.length + 1].progress ≠ .unsent := fun e => by
        have := (hsent _ _ (by omega) hrun).1 e
        omega
      have hwaiting := h.not_waiting hfollows hquiet hdispatch hrun (by omega)
      have hconnecting := h.not_connecting hquiet hdispatch hrun
      have hexecuting := h.not_executing hfollows hquiet hdispatch hrun
      obtain ⟨answer', hanswer⟩ := Run.exists_answer? hunsent hwaiting hconnecting hexecuting
      refine (hquiet.elim .collect trivial hdispatch ?_ (Option.some_ne_none _)).elim
      rw [Dispatch.advance?]
      dsimp only
      rw [hrun, Option.bind_some, hanswer]
      exact Option.some_ne_none _
    · refine (hquiet.elim .reply trivial hdispatch ?_ (Option.some_ne_none _)).elim
      rw [Dispatch.advance?]
      dsimp only
      rw [if_pos hall]
      exact Option.some_ne_none _
  | returned => trivial
  | crashed => trivial

end Executor
end ShardProxy
