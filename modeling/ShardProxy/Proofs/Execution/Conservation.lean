/-
# Workers are conserved, and nobody is stuck

A pool may have many holders: each has a handle of its own, any handle makes further ones,
and through any of them tasks are submitted and the pool is shut down (`SharedPool`).
Whatever they do and however the tasks move, the idle workers and the running tasks are
together the workers that the pool was started with (`SharedPool.staffed_of_performAll?`): no
event changes their sum, and a crash is a way to finish like any other.

The statements of an executor are holders of its pool, so its pool goes through such events
too (`Executor.exists_events_of_performAll?`).  They need the workers only for a time: as long as
every backend that is under way can take its next step, a statement that waits is waiting for
a step that can be taken (`Executor.Sound.exists_step`).
-/

import ShardProxy.Proofs.Execution.Quiet

namespace ShardProxy

/-- A pool that several holders share; each has a handle, known by its number. -/
structure SharedPool (ρ : Type) where
  pool : WorkerPool ρ
  /-- How many handles there are. -/
  handles : Nat

namespace SharedPool

variable {ρ : Type}

/-- Something that happens to a shared pool. -/
inductive Event (ρ : Type) where
  /-- One more handle is made from a handle. -/
  | clone (handle : Nat)
  /-- A task is submitted through a handle. -/
  | submit (handle : Nat)
  /-- The pool is shut down through a handle. -/
  | shutDown (handle : Nat)
  /-- A task makes a move. -/
  | move (move : Move ρ)

/-- A pool with its first handle. -/
def ofPool (pool : WorkerPool ρ) : SharedPool ρ :=
  ⟨pool, 1⟩

/-- Lets something happen, if the handle is there and the move is due. -/
def perform? (shared : SharedPool ρ) : Event ρ → Option (SharedPool ρ)
  | .clone handle =>
    if handle < shared.handles then some { shared with handles := shared.handles + 1 } else none
  | .submit handle =>
    if handle < shared.handles then some { shared with pool := shared.pool.submit } else none
  | .shutDown handle =>
    if handle < shared.handles then some { shared with pool := shared.pool.shutDown } else none
  | .move move => (shared.pool.perform? move).map fun pool => { shared with pool }

/-- Lets things happen one after the other, if they all can. -/
def performAll? (shared : SharedPool ρ) : List (Event ρ) → Option (SharedPool ρ)
  | [] => some shared
  | event :: events =>
    match shared.perform? event with
    | none => none
    | some shared => shared.performAll? events

/-- One more thing happens at the end. -/
theorem performAll?_concat {shared between after : SharedPool ρ} {events : List (Event ρ)}
    {event : Event ρ} (h : shared.performAll? events = some between)
    (h' : between.perform? event = some after) :
    shared.performAll? (events ++ [event]) = some after := by
  induction events generalizing shared with
  | nil =>
    cases h
    rw [List.nil_append, performAll?, h']
    rfl
  | cons first events ih =>
    rw [List.cons_append, performAll?]
    rw [performAll?] at h
    split at h
    · cases h
    · exact ih h

/-- **No event changes the number of idle workers and running tasks.** -/
theorem staffed_of_perform? {shared after : SharedPool ρ} {event : Event ρ}
    (h : shared.perform? event = some after) :
    after.pool.idle + after.pool.busy = shared.pool.idle + shared.pool.busy := by
  cases event with
  | clone handle =>
    rw [perform?] at h
    split at h <;> cases h
    rfl
  | submit handle =>
    rw [perform?] at h
    split at h <;> cases h
    -- The new task waits, so it holds no worker.
    have hbusy : shared.pool.submit.busy = shared.pool.busy := by
      simp [WorkerPool.busy, WorkerPool.submit, List.countP_append, Phase.isRunning]
    show shared.pool.idle + shared.pool.submit.busy = _
    rw [hbusy]
  | shutDown handle =>
    rw [perform?] at h
    split at h <;> cases h
    rfl
  | move move =>
    obtain ⟨pool, hmove, rfl⟩ := Option.map_eq_some_iff.1 h
    exact (WorkerPool.moves_of_perform? hmove).staffed

/-- **In every run of a shared pool idle workers and running tasks are all its workers.** -/
theorem staffed_of_performAll? {shared after : SharedPool ρ} {events : List (Event ρ)}
    (h : shared.performAll? events = some after) :
    after.pool.idle + after.pool.busy = shared.pool.idle + shared.pool.busy := by
  induction events generalizing shared with
  | nil =>
    cases h
    rfl
  | cons event events ih =>
    rw [performAll?] at h
    split at h
    · cases h
    · next next hnext => exact (ih h).trans (staffed_of_perform? hnext)

end SharedPool

namespace WorkerPool

variable {ρ : Type}

/-- A pool that starts has the workers that were asked for, one at least, and all are idle. -/
theorem staffed_of_start {n : Nat} {pool : WorkerPool ρ} (h : start n = .returned pool) :
    pool.idle + pool.busy = max 1 n := by
  rw [start] at h
  split at h <;> cases h
  simp [ofSize, busy]

/-- **A task that crashes gives its worker back,** whether the pool is open or shut down. -/
theorem exists_crash {pool : WorkerPool ρ} {task : Nat} (h : pool.tasks[task]? = some .running)
    (message : String) :
    ∃ after, pool.perform? (.finish task (.crashed message)) = some after ∧
      after.idle = pool.idle + 1 ∧ after.busy + 1 = pool.busy ∧
      after.ending? task = some (.exited (.crashed message)) := by
  have hlt : task < pool.tasks.length := (List.getElem?_eq_some_iff.1 h).1
  have hmove : pool.perform? (.finish task (.crashed message)) = some { pool with
      idle := pool.idle + 1
      tasks := pool.tasks.set task (.ended (.exited (.crashed message))) } := by
    rw [perform?, h]
  have hstaffed := (moves_of_perform? hmove).staffed
  refine ⟨_, hmove, rfl, ?_, ?_⟩
  · dsimp only at hstaffed
    omega
  · rw [ending?, List.getElem?_set_self hlt]

end WorkerPool

/-- A turn of a submitted unit leaves the pool as it is, or is a move of its task. -/
theorem Run.exists_move_of_serve? {run : Run} {pool after : WorkerPool LaterAnswer} {turn : Turn}
    (h : run.serve? pool turn = some after) :
    after = pool ∨ ∃ move, pool.perform? move = some after := by
  obtain ⟨task, htask⟩ := exists_task_of_serve? h
  rw [serve?, htask] at h
  cases turn with
  | connect => exact Or.inl (Option.some.inj h).symm
  | start => exact Or.inr ⟨_, h⟩
  | refuse => exact Or.inr ⟨_, h⟩
  | fail exit => exact Or.inr ⟨_, h⟩
  | finish exit => exact Or.inr ⟨_, h⟩

namespace Executor

/-- What happens to an executor leaves its pool as it is, or is an event of the pool. -/
theorem exists_event_of_perform? {executor after : Executor} {action : Action}
    (h : executor.perform? action = some after) :
    after.pool = executor.pool ∨
      ∃ event, (SharedPool.ofPool executor.pool).perform? event = some (.ofPool after.pool) := by
  cases action with
  | arrive first later keys =>
    cases h
    exact Or.inl rfl
  | act n act =>
    cases moved_of_perform? h with
    | caller hruns hpool hlog => exact Or.inl hpool
    | submit hrun hcaller hruns hpool hlog =>
      rw [hpool]
      exact Or.inr ⟨.submit 0, rfl⟩
    | turn hrun hturn hruns hpool hlog =>
      split at hpool
      · exact Or.inl hpool.1
      · obtain hsame | ⟨move, hmove⟩ := Run.exists_move_of_serve? hpool
        · exact Or.inl hsame
        · right
          refine ⟨.move move, ?_⟩
          show (executor.pool.perform? move).map _ = _
          rw [hmove]
          rfl
  | shutDown =>
    cases h
    exact Or.inr ⟨.shutDown 0, rfl⟩

/-- **The pool of an executor goes through events of a shared pool.** -/
theorem exists_events_of_performAll? {pool : WorkerPool LaterAnswer} {executor : Executor}
    {actions : List Action} (h : (ofPool pool).performAll? actions = some executor) :
    ∃ events, (SharedPool.ofPool pool).performAll? events = some (.ofPool executor.pool) := by
  refine @performAll?_induction (fun e => ∃ events,
    (SharedPool.ofPool pool).performAll? events = some (.ofPool e.pool)) (fun _ => True) ?_ _ _ _ h
    (fun _ _ => trivial) ⟨[], rfl⟩
  rintro e action after ⟨events, hevents⟩ - hact
  obtain hsame | ⟨event, hevent⟩ := exists_event_of_perform? hact
  · exact ⟨events, by rw [hsame, hevents]⟩
  · exact ⟨events ++ [event], SharedPool.performAll?_concat hevents hevent⟩

end Executor

/-! ### No state is stuck -/

/-- A way to treat a unit in which a turn of the backends is its next step. -/
def Turn.conduct : Turn → Conduct
  | fail exit => .unconnected exit
  | finish exit => .connected exit
  | _ => .connected (.crashed "")

/-- **Two turns that a run can take are one,** if the backends take the first as the second has it
and have a part in it. -/
theorem Turn.eq_of_respects {before after after' : Progress} {turn turn' : Turn}
    (h : before.Turns turn after) (h' : before.Turns turn' after')
    (hr : turn.Respects turn'.conduct) : turn = .start ∨ turn = .refuse ∨ turn = turn' := by
  cases h with
  | start => exact Or.inl rfl
  | refuse => exact Or.inr (Or.inl rfl)
  | connect =>
    cases h' with
    | connect => exact Or.inr (Or.inr rfl)
    | fail exit =>
      obtain ⟨_, hr⟩ := hr
      cases hr
  | fail exit =>
    cases h' with
    | connect => cases hr
    | fail exit' =>
      cases hr
      exact Or.inr (Or.inr rfl)
  | finish exit =>
    cases h' with
    | finish exit' =>
      cases hr
      exact Or.inr (Or.inr rfl)

/-- A step of statement `n` in which backends have no part or take the turn that is next. -/
def Act.Takes (next : Slot → Turn) (n : Nat) : Act → Prop
  | .turn i taken => taken = .start ∨ taken = .refuse ∨ taken = next ⟨n, i⟩
  | _ => True

namespace Executor

variable {next : Slot → Turn} {executor : Executor}

/-- Each backend that is under way for a unit can take its next step. -/
def Driven (next : Slot → Turn) (executor : Executor) : Prop :=
  ∀ slot run, executor.run? slot = some run →
    run.progress = .connecting ∨ run.progress = .executing →
      ∃ after, run.progress.Turns (next slot) after

/-- The ways to treat the units that have brought the executor here and go on with the next
turns. -/
def conducts (next : Slot → Turn) (executor : Executor) : Slot → Conduct :=
  executor.treatment fun slot => (next slot).conduct

/-- Every run is where its conduct lets it come. -/
theorem Driven.follows (h : Driven next executor) : Follows (executor.conducts next) executor := by
  refine follows_treatment fun slot run hrun hp => ?_
  obtain ⟨after, hturn⟩ := h slot run hrun (Or.inr hp)
  rw [hp] at hturn
  generalize next slot = turn at hturn ⊢
  cases hturn with
  | finish exit => exact ⟨exit, rfl⟩

/-- A step that can be taken and respects the conducts takes the next turn. -/
theorem Driven.takes (h : Driven next executor) {after : Executor} {n : Nat} {act : Act}
    (hact : executor.perform? (.act n act) = some after)
    (hr : (Action.act n act).Respects (executor.conducts next)) : act.Takes next n := by
  cases act with
  | submit => trivial
  | collect => trivial
  | reply => trivial
  | turn i turn =>
    obtain ⟨run, progress, hslot, hturn, -, -, -⟩ := exists_turn_of_perform? hact
    by_cases hunder : run.progress = .connecting ∨ run.progress = .executing
    · obtain ⟨progress', hturn'⟩ := h ⟨n, i⟩ run hslot hunder
      have hconduct : executor.conducts next ⟨n, i⟩ = (next ⟨n, i⟩).conduct := by
        rw [conducts, treatment, hslot, Option.map_some]
        rcases hunder with hp | hp <;> rw [hp]
      have hr : turn.Respects (executor.conducts next ⟨n, i⟩) := hr
      rw [hconduct] at hr
      exact Turn.eq_of_respects hturn hturn' hr
    · obtain ⟨job, task, before⟩ := run
      cases hturn with
      | start => exact Or.inl rfl
      | refuse => exact Or.inr (Or.inl rfl)
      | connect => exact absurd (Or.inl rfl) hunder
      | fail exit => exact absurd (Or.inl rfl) hunder
      | finish exit => exact absurd (Or.inr rfl) hunder

/-- **While a statement waits, some statement can take a step,** if the backends can. -/
theorem Sound.exists_step (h : Sound executor) (hdriven : Driven next executor) {n : Nat}
    (hn : n < executor.statements.length) (hpending : executor.verdict n = .pending) :
    ∃ m act, act.Takes next m ∧ (executor.perform? (.act m act)).isSome := by
  have hdispatch : executor.statements[n]? = some executor.statements[n] :=
    List.getElem?_eq_getElem hn
  rcases executor.quiet_or_canStep (executor.conducts next) with hquiet | ⟨m, act, hr, hstep⟩
  · have hconcluded := h.concluded_of_quiet hdriven.follows hquiet hdispatch
    rw [verdict_eq hdispatch] at hpending
    exact (hconcluded.verdict_ne hpending).elim
  · obtain ⟨after, hafter⟩ := Option.isSome_iff_exists.1 hstep
    exact ⟨m, act, hdriven.takes hafter hr, hstep⟩

end Executor

/-- **Workers are conserved, and no executor is stuck.**  In every run of a pool of `n` workers, by
however many handles tasks are submitted and the pool is shut down, idle workers and running tasks
are together `max 1 n`, so no more tasks run at a time, and a running task that crashes gives its
worker back.  The pool of an executor keeps to this whatever statements share it; and as
long as every backend that is under way can take its next step, a statement that has not
returned leaves some step to be taken, with one worker as with many. -/
theorem workers_conserved {n : Nat} :
    (∀ {ρ : Type} {pool : WorkerPool ρ} {events : List (SharedPool.Event ρ)}
      {shared : SharedPool ρ}, WorkerPool.start n = .returned pool →
      (SharedPool.ofPool pool).performAll? events = some shared →
        shared.pool.idle + shared.pool.busy = max 1 n ∧ shared.pool.busy ≤ max 1 n ∧
        ∀ task message, shared.pool.tasks[task]? = some .running →
          ∃ after, shared.perform? (.move (.finish task (.crashed message))) = some after ∧
            after.pool.idle = shared.pool.idle + 1 ∧ after.pool.busy + 1 = shared.pool.busy ∧
            after.pool.ending? task = some (.exited (.crashed message))) ∧
    ∀ {actions : List Executor.Action} {fresh executor : Executor},
      Executor.start n = .returned fresh → fresh.performAll? actions = some executor →
        executor.pool.idle + executor.pool.busy = max 1 n ∧
        ∀ (next : Slot → Turn) (statement : Nat), executor.Driven next →
          statement < executor.statements.length → executor.verdict statement = .pending →
            ∃ m act, act.Takes next m ∧ (executor.perform? (.act m act)).isSome := by
  constructor
  · intro ρ pool events shared hpool hrun
    have hstaffed : shared.pool.idle + shared.pool.busy = max 1 n :=
      (SharedPool.staffed_of_performAll? hrun).trans (WorkerPool.staffed_of_start hpool)
    refine ⟨hstaffed, by omega, fun task message htask => ?_⟩
    obtain ⟨after, hmove, hidle, hbusy, hending⟩ := WorkerPool.exists_crash htask message
    refine ⟨⟨after, shared.handles⟩, ?_, hidle, hbusy, hending⟩
    rw [SharedPool.perform?, hmove]
    rfl
  · intro actions fresh executor hstart hrun
    rw [Executor.start] at hstart
    rcases hpool : (WorkerPool.start n : Exit (WorkerPool LaterAnswer)) with pool | message
    · rw [hpool] at hstart
      cases hstart
      obtain ⟨events, hevents⟩ := Executor.exists_events_of_performAll? hrun
      have hstaffed := SharedPool.staffed_of_performAll? hevents
      refine ⟨hstaffed.trans (WorkerPool.staffed_of_start hpool), ?_⟩
      intro next statement hdriven hlt hpending
      have hsize : pool = .ofSize n := by
        rw [WorkerPool.start] at hpool
        split at hpool <;> cases hpool
        rfl
      rw [hsize] at hrun
      exact (Executor.sound_of_performAll? hrun).exists_step hdriven hlt hpending
    · rw [hpool] at hstart
      cases hstart

/-- Two statements of two units that share one worker: the later unit of the first has it, that of
the second waits. -/
def contention : List Executor.Action :=
  [.arrive ⟨"a", "q"⟩ [⟨"b", "q"⟩] false, .arrive ⟨"c", "q"⟩ [⟨"d", "q"⟩] true,
    .act 0 .submit, .act 1 .submit, .act 0 (.turn 1 .start)]

/-- A pool asked for no worker has one: after a clone has shut it down, the task that has the worker
gives it back in a crash, while another task waits.  And when two statements contend for
that one worker, both of them pending, a step can be taken. -/
theorem workers_conserved_one :
    (∃ shared : SharedPool Nat, (SharedPool.ofPool (.ofSize 0)).performAll?
        [.clone 0, .submit 1, .submit 0, .move (.start 0), .shutDown 1] = some shared ∧
      shared.pool.idle + shared.pool.busy = 1 ∧
      ∃ after, shared.perform? (.move (.finish 0 (.crashed "down"))) = some after ∧
        after.pool.idle = shared.pool.idle + 1) ∧
    ∃ executor, (Executor.ofPool (.ofSize 0)).performAll? contention = some executor ∧
      executor.pool.idle + executor.pool.busy = 1 ∧ executor.verdict 0 = .pending ∧
      executor.verdict 1 = .pending ∧
      ∃ m act, act.Takes (fun _ => .connect) m ∧ (executor.perform? (.act m act)).isSome := by
  constructor
  · obtain ⟨hstaffed, -, hcrash⟩ := (@workers_conserved 0).1 rfl
      (rfl : (SharedPool.ofPool (.ofSize 0 : WorkerPool Nat)).performAll?
        [.clone 0, .submit 1, .submit 0, .move (.start 0), .shutDown 1] = some _)
    obtain ⟨after, hafter, hidle, -, -⟩ := hcrash 0 "down" rfl
    exact ⟨_, rfl, hstaffed, after, hafter, hidle⟩
  · obtain ⟨hstaffed, hstep⟩ := (@workers_conserved 0).2 rfl
      (rfl : (Executor.ofPool (.ofSize 0)).performAll? contention = some _)
    refine ⟨_, rfl, hstaffed, rfl, rfl, hstep (fun _ => .connect) 1 ?_ (by decide) rfl⟩
    rintro ⟨n, i⟩ run hrun hunder
    have hcases : run.progress = .waiting ∨ run.progress = .connecting := by
      rcases n with - | - | n <;> rcases i with - | - | i <;> cases hrun <;> simp
    rcases hcases with hp | hp
    · rw [hp] at hunder
      rcases hunder with hunder | hunder <;> cases hunder
    · rw [hp]
      exact ⟨_, .connect⟩

end ShardProxy
