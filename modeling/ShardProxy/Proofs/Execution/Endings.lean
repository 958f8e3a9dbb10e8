/-
# How units come to their end

The task of a later unit tells whether the unit has obtained a worker and how it has ended
(`Executor.phase?`).  In every run of an executor each unit comes to its end at most once:
the actions that end it are one if it has ended and none otherwise
(`Executor.countP_ends`).  And once the pool has been shut down it stays shut down, and the units
that have obtained a worker remain those that had obtained one
(`Executor.obtained_of_performAll?`): a start needs an open pool, and no other move makes a task
one that has started.
-/

import ShardProxy.Proofs.Execution.Quiet

namespace ShardProxy

/-- Whether a task has obtained a worker. -/
def Phase.hasStarted {ρ : Type} : Phase ρ → Bool
  | waiting => false
  | running => true
  | ended (.exited _) => true
  | ended .refused => false

/-- How a task has ended, if it has. -/
def Phase.ending? {ρ : Type} : Phase ρ → Option (Ending ρ)
  | ended ending => some ending
  | _ => none

/-- A task has the ending of its phase, if it was submitted. -/
theorem WorkerPool.ending?_eq {ρ : Type} (pool : WorkerPool ρ) (task : Nat) :
    pool.ending? task = pool.tasks[task]?.bind Phase.ending? := by
  rw [ending?]
  rcases pool.tasks[task]? with - | - | - | ending <;> rfl

/-- Whether a run has come to its end. -/
def Progress.hasEnded : Progress → Bool
  | refused => true
  | exited _ => true
  | _ => false

/-- Whether a turn brings a run to its end. -/
def Turn.isLast : Turn → Bool
  | refuse => true
  | fail _ => true
  | finish _ => true
  | _ => false

/-- **A run ends with its last turn,** and takes no turn after that. -/
theorem Progress.Turns.hasEnded {before after : Progress} {turn : Turn}
    (h : before.Turns turn after) :
    before.hasEnded = false ∧ after.hasEnded = turn.isLast := by
  cases h <;> exact ⟨rfl, rfl⟩

/-- A submitted run starts on an open pool only. -/
theorem Run.closed_of_serve?_start {run : Run} {pool after : WorkerPool LaterAnswer}
    (h : run.serve? pool .start = some after) : pool.closed = false := by
  obtain ⟨task, htask⟩ := exists_task_of_serve? h
  rw [serve?, htask] at h
  have hmove := WorkerPool.moves_of_perform? h
  cases hmove with
  | start _ hopen _ => exact hopen

/-- No turn but the start makes a task one that has obtained a worker. -/
theorem Run.hasStarted_phase_of_turns {run : Run} {turn : Turn} {progress : Progress}
    (h : run.progress.Turns turn progress) (hturn : turn ≠ .start) :
    (Run.phase { run with progress }).hasStarted = run.phase.hasStarted := by
  obtain ⟨job, task, before⟩ := run
  cases h with
  | start => exact absurd rfl hturn
  | refuse => rfl
  | connect => rfl
  | fail exit => rfl
  | finish exit => rfl

namespace Executor

/-- Where the task of a slot is, if the unit has been submitted. -/
def phase? (executor : Executor) (slot : Slot) : Option (Phase LaterAnswer) :=
  (executor.task? slot).bind fun task => executor.pool.tasks[task]?

/-- Whether a later unit has obtained a worker. -/
def obtained (executor : Executor) (slot : Slot) : Bool :=
  (executor.phase? slot).any Phase.hasStarted

/-- How the task of a slot has ended, if it has. -/
def ending? (executor : Executor) (slot : Slot) : Option (Ending LaterAnswer) :=
  (executor.task? slot).bind executor.pool.ending?

/-- Whether something brings the run of a slot to its end. -/
def Action.ends (slot : Slot) : Action → Bool
  | act n (.turn i turn) => slot == ⟨n, i⟩ && turn.isLast
  | _ => false

/-- Whether the run of a slot has come to its end. -/
def hasEnded (executor : Executor) (slot : Slot) : Bool :=
  (executor.run? slot).any fun run => run.progress.hasEnded

variable {executor after : Executor}

/-! ### Every unit ends once -/

/-- **Something that happens ends the runs that have ended by it, and no others.** -/
theorem hasEnded_perform? {action : Action} (hact : executor.perform? action = some after)
    (hunsent : ∀ n i run, executor.run? ⟨n, i⟩ = some run →
      (executor.statements[n]?).map Dispatch.caller = some (.submitting i) →
        run.progress.hasEnded = false) (slot : Slot) :
    (after.hasEnded slot).toNat = (executor.hasEnded slot).toNat + (action.ends slot).toNat := by
  cases action with
  | arrive first later keys =>
    cases hact
    rw [hasEnded, hasEnded, run?_arrive]
    split
    · next hn =>
      have hnone : executor.run? slot = none := by
        rw [run?, hn, List.getElem?_eq_none (Nat.le_refl _), Option.bind_none]
      rw [hnone]
      rcases hrun : (Dispatch.ofUnits first later keys).runs[slot.position]? with - | run
      · rfl
      · rw [Option.any_some]
        rcases progress_ofUnits hrun with hp | hp <;> rw [hp] <;> rfl
    · rfl
  | shutDown =>
    cases hact
    rfl
  | act n act =>
    cases act with
    | turn i turn =>
      obtain ⟨run, progress, hrun, hturn, hruns, -, -⟩ := exists_turn_of_perform? hact
      obtain ⟨hbefore, hafter⟩ := hturn.hasEnded
      rw [hasEnded, hasEnded, hruns, Action.ends]
      split
      · next hs =>
        rw [hs, hrun, beq_self_eq_true, Bool.true_and]
        show progress.hasEnded.toNat = run.progress.hasEnded.toNat + turn.isLast.toNat
        rw [hbefore, hafter, Bool.toNat_false, Nat.zero_add]
      · next hs => rw [beq_false_of_ne hs, Bool.false_and, Bool.toNat_false, Nat.add_zero]
    | submit =>
      cases moved_of_perform? hact with
      | caller hruns => rw [hasEnded, hasEnded, hruns]; rfl
      | @submit i run hrun hcaller hruns =>
        rw [hasEnded, hasEnded, hruns]
        split
        · next hs =>
          rw [hs, hrun]
          show false.toNat = run.progress.hasEnded.toNat + 0
          rw [hunsent n i run hrun hcaller, Nat.add_zero]
        · rfl
    | collect =>
      cases moved_of_perform? hact with
      | caller hruns => rw [hasEnded, hasEnded, hruns]; rfl
    | reply =>
      cases moved_of_perform? hact with
      | caller hruns => rw [hasEnded, hasEnded, hruns]; rfl

/-- **In every run of an executor each unit comes to its end once, if it has.** -/
theorem Sound.countP_ends {actions : List Action} (h : Sound executor)
    (hrun : executor.performAll? actions = some after) (slot : Slot) :
    (after.hasEnded slot).toNat =
      (executor.hasEnded slot).toNat + actions.countP (·.ends slot) := by
  induction actions generalizing executor with
  | nil =>
    cases hrun
    rfl
  | cons action actions ih =>
    rw [performAll?] at hrun
    split at hrun
    · cases hrun
    · next next hnext =>
      have hunsent : ∀ n i run, executor.run? ⟨n, i⟩ = some run →
          (executor.statements[n]?).map Dispatch.caller = some (.submitting i) →
            run.progress.hasEnded = false := fun n i run hslot hcaller => by
        rw [(h.unsent_of_submitting hslot hcaller).1]
        rfl
      have hone := hasEnded_perform? hnext hunsent slot
      have hrest := ih (h.perform? hnext) hrun
      have hcount : (if action.ends slot = true then 1 else 0) = (action.ends slot).toNat := by
        cases action.ends slot <;> rfl
      rw [List.countP_cons, hcount]
      omega

/-! ### Phases and runs -/

/-- **The task of a later unit is where its run is,** once the unit has been submitted. -/
theorem Sound.phase?_eq (h : Sound executor) {slot : Slot} {run : Run}
    (hrun : executor.run? slot = some run) :
    executor.phase? slot = if run.task.isSome then some run.phase else none := by
  rw [phase?, task?, hrun, Option.bind_some]
  rcases htask : run.task with - | task
  · rfl
  · exact h.agrees slot run task hrun htask

/-- A later unit without a task has not been submitted. -/
theorem Sound.unsent_of_task (h : Sound executor) {slot : Slot} {run : Run}
    (hrun : executor.run? slot = some run) (hi : slot.position ≠ 0) (htask : run.task = none) :
    run.progress = .unsent := by
  obtain ⟨dispatch, hdispatch, hget⟩ := run?_eq_some_iff.1 hrun
  rcases ((h.valid _ dispatch hdispatch).tasked _ run hget).1 htask with h₀ | hunsent
  · exact absurd h₀ hi
  · exact hunsent

/-- **A later unit has obtained a worker exactly when its run has started.** -/
theorem Sound.obtained_eq (h : Sound executor) {slot : Slot} {run : Run}
    (hrun : executor.run? slot = some run) (hi : slot.position ≠ 0) :
    executor.obtained slot = run.phase.hasStarted := by
  rw [obtained, h.phase?_eq hrun]
  rcases htask : run.task with - | task
  · rw [Run.phase, h.unsent_of_task hrun hi htask]
    rfl
  · rfl

/-- **The task of a later unit has ended exactly as its run has.** -/
theorem Sound.ending?_eq (h : Sound executor) {slot : Slot} {run : Run}
    (hrun : executor.run? slot = some run) (hi : slot.position ≠ 0) :
    executor.ending? slot = run.phase.ending? := by
  have hphase : executor.ending? slot = (executor.phase? slot).bind Phase.ending? := by
    rw [ending?, phase?, Option.bind_assoc]
    exact Option.bind_congr fun task _ => executor.pool.ending?_eq task
  rw [hphase, h.phase?_eq hrun]
  rcases htask : run.task with - | task
  · rw [Run.phase, h.unsent_of_task hrun hi htask]
    rfl
  · rfl

/-! ### After a shutdown -/

/-- A turn that the pool serves changes no other slot's phase. -/
theorem Sound.phase?_of_turn (h : Sound executor) {slot : Slot} {run : Run} {turn : Turn}
    {progress : Progress} (hrun : executor.run? slot = some run)
    (hturn : run.progress.Turns turn progress)
    (hruns : ∀ s, after.run? s = if s = slot then some { run with progress } else executor.run? s)
    (hserve : run.serve? executor.pool turn = some after.pool) (s : Slot) :
    after.phase? s = if s = slot then some (Run.phase { run with progress })
      else executor.phase? s := by
  obtain ⟨task, htask, hserved⟩ := h.served hrun hturn hserve
  have hlt : task < executor.pool.tasks.length :=
    (List.getElem?_eq_some_iff.1 (h.agrees slot run task hrun htask)).1
  have hslot : executor.task? slot = some task := task?_eq_some_iff.2 ⟨run, hrun, htask⟩
  rw [phase?, task?_of_turn hrun hruns, hserved.tasks]
  split
  · next hs => rw [hs, hslot, Option.bind_some, List.getElem?_set_self hlt]
  · next hs =>
    rw [phase?]
    rcases hother : executor.task? s with - | other
    · rfl
    · have hne : task ≠ other := fun e => hs (h.unique s slot other hother (e ▸ hslot))
      rw [Option.bind_some, Option.bind_some, List.getElem?_set_ne hne]

/-- **After the pool has shut down** nothing that happens lets a unit obtain a worker, or makes it
one that has obtained none. -/
theorem Sound.obtained_perform? (h : Sound executor) (hclosed : executor.pool.closed = true)
    {action : Action} (hact : executor.perform? action = some after) (slot : Slot) :
    after.obtained slot = executor.obtained slot := by
  cases action with
  | arrive first later keys =>
    cases hact
    rw [obtained, obtained, phase?, phase?, task?_arrive]
  | shutDown =>
    cases hact
    rfl
  | act n act =>
    cases moved_of_perform? hact with
    | caller hruns hpool => rw [obtained, obtained, phase?, phase?, task?, task?, hruns, hpool]
    | submit hrun hcaller hruns hpool =>
      have hnone := (h.unsent_of_submitting hrun hcaller).2
      rw [obtained, obtained, phase?, phase?, task?, task?, hruns, hpool]
      split
      · next hs =>
        have hbefore : (executor.run? slot).bind Run.task = none := by
          rw [hs, hrun, Option.bind_some, hnone]
        show Option.any Phase.hasStarted executor.pool.submit.tasks[executor.pool.tasks.length]? = _
        rw [hbefore, Option.bind_none, WorkerPool.submit, List.getElem?_concat_length]
        rfl
      · rcases hother : (executor.run? slot).bind Run.task with - | other
        · rfl
        · obtain ⟨run, hslot, htask⟩ := Option.bind_eq_some_iff.1 hother
          have hlt := (List.getElem?_eq_some_iff.1 (h.agrees slot run other hslot htask)).1
          rw [Option.bind_some, Option.bind_some, WorkerPool.submit, List.getElem?_append_left hlt]
    | @turn i turn run progress hrun hturn hruns hpool =>
      split at hpool
      · rw [obtained, obtained, phase?, phase?, task?_of_turn hrun hruns, hpool.1]
      · next hi =>
        have hstart : turn ≠ .start := by
          rintro rfl
          rw [Run.closed_of_serve?_start hpool] at hclosed
          cases hclosed
        rw [obtained, h.phase?_of_turn hrun hturn hruns hpool]
        split
        · next hs =>
          rw [hs, h.obtained_eq hrun hi, Option.any_some]
          exact Run.hasStarted_phase_of_turns hturn hstart
        · rfl

/-- A pool that has shut down stays so. -/
theorem Sound.closed_perform? (h : Sound executor) (hclosed : executor.pool.closed = true)
    {action : Action} (hact : executor.perform? action = some after) :
    after.pool.closed = true := by
  cases action with
  | arrive first later keys =>
    cases hact
    exact hclosed
  | act n act => rw [h.closed_act hact, hclosed]
  | shutDown =>
    cases hact
    rfl

/-- **A shutdown is for good:** in every run after it the pool is shut down, and the units that
have obtained a worker are those that had by then. -/
theorem Sound.obtained_of_performAll? {actions : List Action} (h : Sound executor)
    (hclosed : executor.pool.closed = true) (hrun : executor.performAll? actions = some after) :
    after.pool.closed = true ∧ ∀ slot, after.obtained slot = executor.obtained slot := by
  have hstep : ∀ (e : Executor) (action : Action) (e' : Executor),
      Sound e ∧ e.pool.closed = true ∧ (∀ slot, e.obtained slot = executor.obtained slot) → True →
        e.perform? action = some e' →
          Sound e' ∧ e'.pool.closed = true ∧ ∀ slot, e'.obtained slot = executor.obtained slot := by
    rintro e action e' ⟨hsound, hshut, hobtained⟩ - hact
    refine ⟨hsound.perform? hact, hsound.closed_perform? hshut hact, fun slot => ?_⟩
    rw [hsound.obtained_perform? hshut hact, hobtained]
  exact (performAll?_induction hstep hrun (fun _ _ => trivial) ⟨h, hclosed, fun _ => rfl⟩).2

end Executor

end ShardProxy
