/-
# Where the caller stands

The caller of a statement and the runs of its units move in step.  While the caller
submits, the first unit waits, and exactly the later units before `next` have been
submitted.  While it runs the first unit, that unit is connecting or executing.
Once it collects, all units have been submitted, the first has exited, and the
answers held are those of the next units in order; the response is `conclude` of them.
Every step preserves this (`Valid.step`) and brings the statement nearer to its end
(`Valid.left_step`).
-/

import ShardProxy.Proofs.Execution.Steps

namespace ShardProxy

/-- A run that can take a turn has no answer. -/
theorem Run.answer?_of_turns {run : Run} {turn : Turn} {progress : Progress}
    (h : run.progress.Turns turn progress) : run.answer? = none := by
  obtain ⟨job, task, before⟩ := run
  cases h <;> rfl

/-- A run that has an answer has exited, if it has not been refused a worker. -/
theorem Run.exists_exited {run : Run} {answer : LaterAnswer} (h : run.answer? = some answer)
    (hrefused : run.progress ≠ .refused) : ∃ conduct, run.progress = .exited conduct := by
  rw [answer?] at h
  split at h
  · next hp => exact absurd hp hrefused
  · next conduct hp => exact ⟨conduct, hp⟩
  · cases h

/-- A run that can take a turn has been submitted, and stays so. -/
theorem Progress.Turns.ne_unsent {before after : Progress} {turn : Turn}
    (h : before.Turns turn after) : before ≠ .unsent ∧ after ≠ .unsent := by
  cases h <;> simp

/-- Only a caller that has returned has an answer. -/
theorem Caller.eq_returned {caller : Caller} {response : Except ExecutionError Response}
    (h : caller.verdict = .answered response) : caller = .returned response := by
  cases caller <;> cases h
  rfl

namespace Dispatch

/-- Exactly the later units before a position have been submitted. -/
def Sent (runs : List Run) (next : Nat) : Prop :=
  ∀ i run, 1 ≤ i → runs[i]? = some run → (run.progress = .unsent ↔ next ≤ i)

/-- The answers are those of the first of the later units. -/
def Holds (runs : List Run) (rest : List LaterAnswer) : Prop :=
  ∀ j answer, rest[j]? = some answer → runs[j + 1]?.bind Run.answer? = some answer

/-- The caller stands where the runs of the units allow. -/
inductive Stands (runs : List Run) : Caller → Prop
  | submitting {next : Nat} {first : Run} (hfirst : runs[0]? = some first)
    (hprogress : first.progress = .waiting) (hsent : Sent runs next) (hnext : 1 ≤ next)
    (hle : next ≤ runs.length) : Stands runs (.submitting next)
  | running {first : Run} (hfirst : runs[0]? = some first)
    (hprogress : first.progress = .connecting ∨ first.progress = .executing)
    (hsent : Sent runs runs.length) : Stands runs .running
  | collecting {first : Run} {conduct : Conduct} {answer : Except BackendError Outcome}
    {rest : List LaterAnswer} (hfirst : runs[0]? = some first)
    (hprogress : first.progress = .exited conduct) (hexit : conduct.exit = .returned answer)
    (hsent : Sent runs runs.length) (hrest : Holds runs rest) :
    Stands runs (.collecting (first.job.firstAnswer answer) rest)
  | returned {first : Except ExecutionError FirstResult} {rest : List LaterAnswer}
    (hcollected : Stands runs (.collecting first rest)) (hall : rest.length + 1 = runs.length) :
    Stands runs (.returned (conclude first rest))
  | crashed {first : Run} {conduct : Conduct} {message : String} (hfirst : runs[0]? = some first)
    (hprogress : first.progress = .exited conduct) (hexit : conduct.exit = .crashed message)
    (hsent : Sent runs runs.length) : Stands runs (.crashed message)

/-- A later unit has a task from when it is submitted. -/
def Tasked (runs : List Run) : Prop :=
  ∀ i run, runs[i]? = some run → (run.task = none ↔ i = 0 ∨ run.progress = .unsent)

/-- A statement whose caller and runs agree. -/
structure Valid (dispatch : Dispatch) : Prop where
  stands : Stands dispatch.runs dispatch.caller
  tasked : Tasked dispatch.runs

/-- The units of a statement run under options that differ in one point: the first asks for column
metadata. -/
theorem map_job_ofUnits (first : ExecutionUnit) (later : List ExecutionUnit) (keys : Bool) :
    (ofUnits first later keys).runs.map Run.job =
      (first :: later).mapIdx fun i unit => ⟨unit, .streaming keys (i == 0)⟩ := by
  rw [ofUnits, List.map_cons, List.map_map, List.mapIdx_cons]
  refine congrArg (List.cons _) (List.ext_getElem? fun i => ?_)
  rw [List.getElem?_map, List.getElem?_mapIdx]
  rfl

/-- What a statement with these units runs at a position. -/
theorem exists_unit_of_map_job {first : ExecutionUnit} {later : List ExecutionUnit} {keys : Bool}
    {runs : List Run} {i : Nat} {run : Run}
    (hjobs : runs.map Run.job = (ofUnits first later keys).runs.map Run.job)
    (hrun : runs[i]? = some run) :
    ∃ unit, (first :: later)[i]? = some unit ∧ run.job = ⟨unit, .streaming keys (i == 0)⟩ := by
  have hjob : (runs.map Run.job)[i]? = some run.job := by
    rw [List.getElem?_map, hrun]
    rfl
  rw [hjobs, map_job_ofUnits, List.getElem?_mapIdx] at hjob
  obtain ⟨unit, hunit, hunit'⟩ := Option.map_eq_some_iff.1 hjob
  exact ⟨unit, hunit, hunit'.symm⟩

/-- What runs a unit of a statement with these units. -/
theorem exists_run_of_map_job {first : ExecutionUnit} {later : List ExecutionUnit} {keys : Bool}
    {runs : List Run} {i : Nat} {unit : ExecutionUnit}
    (hjobs : runs.map Run.job = (ofUnits first later keys).runs.map Run.job)
    (hunit : (first :: later)[i]? = some unit) :
    ∃ run, runs[i]? = some run ∧ run.job = ⟨unit, .streaming keys (i == 0)⟩ := by
  have hjob : (runs.map Run.job)[i]? = some ⟨unit, .streaming keys (i == 0)⟩ := by
    rw [hjobs, map_job_ofUnits, List.getElem?_mapIdx, hunit]
    rfl
  rw [List.getElem?_map] at hjob
  exact Option.map_eq_some_iff.1 hjob

/-- A statement has one run for each unit. -/
theorem length_of_map_job {first : ExecutionUnit} {later : List ExecutionUnit} {keys : Bool}
    {runs : List Run} (hjobs : runs.map Run.job = (ofUnits first later keys).runs.map Run.job) :
    runs.length = later.length + 1 := by
  have hlen := congrArg List.length hjobs
  rwa [map_job_ofUnits, List.length_map, List.length_mapIdx, List.length_cons] at hlen

/-- A statement that has just arrived is valid. -/
theorem valid_ofUnits (first : ExecutionUnit) (later : List ExecutionUnit) (keys : Bool) :
    Valid (ofUnits first later keys) := by
  have hlater : ∀ i run, 1 ≤ i → (ofUnits first later keys).runs[i]? = some run →
      run.task = none ∧ run.progress = .unsent := by
    intro i run hi hrun
    obtain ⟨i, rfl⟩ := Nat.exists_eq_add_of_le' hi
    rw [ofUnits, List.getElem?_cons_succ, List.getElem?_map] at hrun
    obtain ⟨unit, -, rfl⟩ := Option.map_eq_some_iff.1 hrun
    exact ⟨rfl, rfl⟩
  refine ⟨.submitting rfl rfl ?_ (Nat.le_refl 1) (by simp [ofUnits]), ?_⟩
  · intro i run hi hrun
    exact ⟨fun _ => hi, fun _ => (hlater i run hi hrun).2⟩
  · intro i run hrun
    rcases Nat.eq_zero_or_pos i with rfl | hi
    · cases hrun
      simp
    · simp [hlater i run hi hrun]

/-- No more answers are held than there are later units. -/
theorem Holds.length_le {runs : List Run} {rest : List LaterAnswer} (h : Holds runs rest)
    (hruns : runs ≠ []) : rest.length + 1 ≤ runs.length := by
  have hpos : 0 < runs.length := List.length_pos_iff.2 hruns
  rcases rest.eq_nil_or_concat with rfl | ⟨init, answer, rfl⟩
  · exact hpos
  · have hlast := h init.length answer (by rw [List.concat_eq_append, List.getElem?_concat_length])
    obtain ⟨run, hrun, -⟩ := Option.bind_eq_some_iff.1 hlast
    have hlt := (List.getElem?_eq_some_iff.1 hrun).1
    rw [List.length_concat]
    exact hlt

section Turns

variable {runs : List Run} {i : Nat} {run : Run} {turn : Turn} {progress : Progress}

/-- A turn submits nothing. -/
theorem Sent.turns {next : Nat} (h : Sent runs next) (hrun : runs[i]? = some run)
    (hturn : run.progress.Turns turn progress) :
    Sent (runs.set i { run with progress }) next := by
  intro j other hj hother
  obtain ⟨rfl, rfl⟩ | ⟨-, hother⟩ := of_getElem?_set hother
  · obtain ⟨hbefore, hafter⟩ := hturn.ne_unsent
    have hnot : ¬ next ≤ j := fun hle => hbefore ((h j run hj hrun).2 hle)
    exact ⟨fun e => absurd e hafter, fun hle => absurd hle hnot⟩
  · exact h j other hj hother

/-- A turn takes no answer back. -/
theorem Holds.turns {rest : List LaterAnswer} (h : Holds runs rest) (hrun : runs[i]? = some run)
    (hturn : run.progress.Turns turn progress) :
    Holds (runs.set i { run with progress }) rest := by
  intro j answer hanswer
  have hj := h j answer hanswer
  rw [List.getElem?_set]
  split
  · next hij =>
    rw [← hij, hrun, Option.bind_some, Run.answer?_of_turns hturn] at hj
    cases hj
  · exact hj

/-- A turn leaves the tasks as they are. -/
theorem Tasked.turns (h : Tasked runs) (hrun : runs[i]? = some run)
    (hturn : run.progress.Turns turn progress) : Tasked (runs.set i { run with progress }) := by
  intro j other hother
  obtain ⟨rfl, rfl⟩ | ⟨-, hother⟩ := of_getElem?_set hother
  · obtain ⟨hbefore, hafter⟩ := hturn.ne_unsent
    have hj := h j run hrun
    simp only [hbefore, hafter, or_false] at hj ⊢
    exact hj
  · exact h j other hother

/-- A turn of a later unit leaves the caller where it stands. -/
theorem Stands.turn_later {caller : Caller} (h : Stands runs caller) (hrun : runs[i]? = some run)
    (hi : i ≠ 0) (hturn : run.progress.Turns turn progress) :
    Stands (runs.set i { run with progress }) caller := by
  have hzero : ∀ first, runs[0]? = some first →
      (runs.set i { run with progress })[0]? = some first := fun first hfirst => by
    rw [List.getElem?_set_ne hi, hfirst]
  have hlen : (runs.set i { run with progress }).length = runs.length := List.length_set
  induction h with
  | submitting hfirst hprogress hsent hnext hle =>
    exact .submitting (hzero _ hfirst) hprogress (hsent.turns hrun hturn) hnext (by rwa [hlen])
  | running hfirst hprogress hsent =>
    exact .running (hzero _ hfirst) hprogress (by rw [hlen]; exact hsent.turns hrun hturn)
  | collecting hfirst hprogress hexit hsent hrest =>
    exact .collecting (hzero _ hfirst) hprogress hexit (by rw [hlen]; exact hsent.turns hrun hturn)
      (hrest.turns hrun hturn)
  | returned _ hall ih => exact .returned ih (by rwa [hlen])
  | crashed hfirst hprogress hexit hsent =>
    exact .crashed (hzero _ hfirst) hprogress hexit (by rw [hlen]; exact hsent.turns hrun hturn)

/-- While the first unit is connecting or executing, the caller runs it. -/
theorem Stands.eq_running {caller : Caller} (h : Stands runs caller) (hrun : runs[0]? = some run)
    (hprogress : run.progress = .connecting ∨ run.progress = .executing) :
    caller = .running ∧ Sent runs runs.length := by
  have hunder : ∀ {first : Run}, runs[0]? = some first →
      first.progress = .connecting ∨ first.progress = .executing := fun hfirst => by
    cases hrun.symm.trans hfirst
    exact hprogress
  induction h with
  | submitting hfirst hp => rcases hunder hfirst with e | e <;> cases hp.symm.trans e
  | running _ _ hsent => exact ⟨rfl, hsent⟩
  | collecting hfirst hp => rcases hunder hfirst with e | e <;> cases hp.symm.trans e
  | returned _ _ ih => cases ih.1
  | crashed hfirst hp => rcases hunder hfirst with e | e <;> cases hp.symm.trans e

/-- After the first unit has exited, the caller collects or has crashed. -/
theorem stands_afterFirst {conduct : Conduct} (hrun : runs[0]? = some run)
    (hprogress : run.progress = .exited conduct) (hsent : Sent runs runs.length) :
    Stands runs (.afterFirst run.job conduct) := by
  rw [Caller.afterFirst]
  split
  · next answer hexit =>
    exact .collecting hrun hprogress hexit hsent fun j answer hanswer => by simp at hanswer
  · next message hexit => exact .crashed hrun hprogress hexit hsent

/-- A turn of the first unit moves the caller with it. -/
theorem Stands.turn_first {caller after : Caller} (h : Stands runs caller)
    (hrun : runs[0]? = some run) (hturn : run.progress.Turns turn progress)
    (hlead : caller.lead? run.job runs.length turn = some after) :
    Stands (runs.set 0 { run with progress }) after := by
  have hset : (runs.set 0 { run with progress })[0]? = some { run with progress } := by
    rw [List.getElem?_set_self (List.getElem?_eq_some_iff.1 hrun).1]
  have hlen : (runs.set 0 { run with progress }).length = runs.length := List.length_set
  have hsent' : Sent runs runs.length →
      Sent (runs.set 0 { run with progress }) (runs.set 0 { run with progress }).length :=
    fun hsent => by
      rw [hlen]
      exact hsent.turns hrun hturn
  obtain ⟨job, task, before⟩ := run
  cases hturn with
  | start =>
    cases caller <;> try cases hlead
    rw [Caller.lead?] at hlead
    split at hlead <;> cases hlead
    next hnext =>
    cases h with
    | submitting _ _ hsent => exact .running hset (Or.inl rfl) (hsent' (hnext ▸ hsent))
  | refuse => cases hlead
  | connect =>
    obtain ⟨rfl, hsent⟩ := h.eq_running hrun (Or.inl rfl)
    cases hlead
    exact .running hset (Or.inr rfl) (hsent' hsent)
  | fail exit =>
    obtain ⟨rfl, hsent⟩ := h.eq_running hrun (Or.inl rfl)
    cases hlead
    exact (stands_afterFirst hset rfl (hsent' hsent) :)
  | finish exit =>
    obtain ⟨rfl, hsent⟩ := h.eq_running hrun (Or.inr rfl)
    cases hlead
    exact (stands_afterFirst hset rfl (hsent' hsent) :)

end Turns

/-- The next later unit is submitted. -/
theorem Stands.submit {runs : List Run} {next task : Nat} {run : Run}
    (h : Stands runs (.submitting next)) (hrun : runs[next]? = some run) :
    Stands (runs.set next { run with task := some task, progress := .waiting })
      (.submitting (next + 1)) := by
  cases h with
  | submitting hfirst hprogress hsent hnext hle =>
    have hlt : next < runs.length := (List.getElem?_eq_some_iff.1 hrun).1
    refine .submitting ?_ hprogress ?_ (by omega) (by rwa [List.length_set])
    · rw [List.getElem?_set_ne (by omega), hfirst]
    · intro i other hi hother
      obtain ⟨rfl, rfl⟩ | ⟨hni, hother⟩ := of_getElem?_set hother
      · exact ⟨fun e => by simp at e, fun hle => by omega⟩
      · rw [hsent i other hi hother]
        omega

/-- **Every step keeps a statement valid.** -/
theorem Valid.step {dispatch after : Dispatch} {task : Nat} {act : Act} (h : Valid dispatch)
    (hstep : Step task dispatch act after) : Valid after := by
  obtain ⟨hstands, htasked⟩ := h
  cases hstep with
  | @submit runs next run hrun =>
    refine ⟨hstands.submit hrun, ?_⟩
    intro i other hother
    obtain ⟨rfl, rfl⟩ | ⟨-, hother⟩ := of_getElem?_set hother
    · cases hstands with
      | submitting _ _ _ hnext => exact ⟨fun e => by simp at e, fun e => by simp at e; omega⟩
    · exact htasked i other hother
  | @turn runs caller caller' i turn run progress hrun hturn hcaller =>
    refine ⟨?_, htasked.turns hrun hturn⟩
    rw [callerAfter?] at hcaller
    split at hcaller
    · next hi =>
      subst hi
      exact hstands.turn_first hrun hturn hcaller
    · next hi =>
      cases hcaller
      exact hstands.turn_later hrun hi hturn
  | @collect runs first rest run answer hrun hanswer =>
    refine ⟨?_, htasked⟩
    cases hstands with
    | collecting hfirst hprogress hexit hsent hrest =>
      refine .collecting hfirst hprogress hexit hsent ?_
      intro j a ha
      rw [List.getElem?_append] at ha
      split at ha
      · exact hrest j a ha
      · next hj =>
        have hj' : j = rest.length := by
          have := (List.getElem?_eq_some_iff.1 ha).1
          rw [List.length_singleton] at this
          omega
        subst hj'
        rw [Nat.sub_self, List.getElem?_cons_zero] at ha
        rw [hrun, Option.bind_some, hanswer, ha]
  | reply hall => exact ⟨.returned hstands hall, htasked⟩

end Dispatch

/-- The steps that a run may still take. -/
def Run.left (run : Run) : Nat :=
  match run.progress with
  | .unsent => 4
  | .waiting => 3
  | .connecting => 2
  | .executing => 1
  | .refused => 0
  | .exited _ => 0

/-- The steps that the caller of a number of units may still take by itself. -/
def Caller.left (units : Nat) : Caller → Nat
  | submitting _ => units
  | running => units
  | collecting _ rest => units - rest.length
  | returned _ => 0
  | crashed _ => 0

/-- A turn brings a run nearer to its end. -/
theorem Run.left_lt_of_turns {run : Run} {turn : Turn} {progress : Progress}
    (h : run.progress.Turns turn progress) : Run.left { run with progress } < run.left := by
  obtain ⟨job, task, before⟩ := run
  cases h <;> simp [left]

/-- What is left to the caller after the first unit has exited. -/
theorem Caller.left_afterFirst_le (job : Job) (conduct : Conduct) (units : Nat) :
    (afterFirst job conduct).left units ≤ units := by
  rw [afterFirst]
  split <;> simp [left]

namespace Dispatch

/-- The steps that runs may still take. -/
def runsLeft : List Run → Nat
  | [] => 0
  | run :: runs => run.left + runsLeft runs

/-- The steps that a statement may still take. -/
def left (dispatch : Dispatch) : Nat :=
  runsLeft dispatch.runs + dispatch.caller.left dispatch.runs.length

/-- A statement that has just arrived takes one step for the reply, three turns of the first unit,
and for each later unit three turns, its submission and its collection. -/
theorem left_ofUnits (first : ExecutionUnit) (later : List ExecutionUnit) (keys : Bool) :
    (ofUnits first later keys).left = 5 * later.length + 4 := by
  have hunsent : ∀ units : List ExecutionUnit,
      runsLeft (units.map fun unit => ⟨⟨unit, .streaming keys false⟩, none, .unsent⟩) =
        4 * units.length := by
    intro units
    induction units with
    | nil => rfl
    | cons unit units ih =>
      rw [List.map_cons, runsLeft, ih, List.length_cons]
      simp only [Run.left]
      omega
  rw [left, ofUnits]
  dsimp only
  rw [runsLeft, hunsent, List.length_cons, List.length_map]
  simp only [Run.left, Caller.left]
  omega

/-- What is left after one of the runs has been replaced. -/
theorem runsLeft_set {runs : List Run} {i : Nat} {run run' : Run} (hrun : runs[i]? = some run) :
    runsLeft (runs.set i run') + run.left = runsLeft runs + run'.left := by
  induction runs generalizing i with
  | nil => cases hrun
  | cons head runs ih =>
    cases i with
    | zero =>
      cases hrun
      rw [List.set_cons_zero, runsLeft, runsLeft]
      omega
    | succ i =>
      have hi := ih hrun
      rw [List.set_cons_succ, runsLeft, runsLeft]
      omega

/-- A turn of the first unit leaves the caller no more to do by itself. -/
theorem Stands.left_lead_le {runs : List Run} {caller after : Caller} {run : Run} {turn : Turn}
    {progress : Progress} {units : Nat} (h : Stands runs caller) (hrun : runs[0]? = some run)
    (hturn : run.progress.Turns turn progress)
    (hlead : caller.lead? run.job units turn = some after) :
    after.left units ≤ caller.left units := by
  obtain ⟨job, task, before⟩ := run
  cases hturn with
  | start =>
    cases caller <;> try cases hlead
    rw [Caller.lead?] at hlead
    split at hlead <;> cases hlead
    exact Nat.le_refl _
  | refuse => cases hlead
  | connect =>
    cases hlead
    exact Nat.le_refl _
  | fail exit =>
    obtain ⟨rfl, -⟩ := h.eq_running hrun (Or.inl rfl)
    cases hlead
    exact Caller.left_afterFirst_le job _ _
  | finish exit =>
    obtain ⟨rfl, -⟩ := h.eq_running hrun (Or.inr rfl)
    cases hlead
    exact Caller.left_afterFirst_le job _ _

/-- **Every step leaves fewer steps to take.** -/
theorem Valid.left_step {dispatch after : Dispatch} {task : Nat} {act : Act} (h : Valid dispatch)
    (hstep : Step task dispatch act after) : after.left < dispatch.left := by
  obtain ⟨hstands, -⟩ := h
  rw [left, left]
  cases hstep with
  | @submit runs next run hrun =>
    have hsum := @runsLeft_set _ _ _ { run with task := some task, progress := .waiting } hrun
    cases hstands with
    | submitting _ _ hsent hnext =>
      have hunsent : run.progress = .unsent := (hsent next run hnext hrun).2 (Nat.le_refl next)
      rw [Run.left, hunsent] at hsum
      simp only [Run.left, Caller.left, List.length_set] at hsum ⊢
      omega
  | @turn runs caller caller' i turn run progress hrun hturn hcaller =>
    have hsum := @runsLeft_set _ _ _ { run with progress } hrun
    have hlt := Run.left_lt_of_turns hturn
    have hle : caller'.left runs.length ≤ caller.left runs.length := by
      rw [callerAfter?] at hcaller
      split at hcaller
      · next hi =>
        subst hi
        exact hstands.left_lead_le hrun hturn hcaller
      · cases hcaller
        exact Nat.le_refl _
    dsimp only
    rw [List.length_set]
    omega
  | @collect runs first rest run answer hrun hanswer =>
    have hlt := (List.getElem?_eq_some_iff.1 hrun).1
    simp only [Caller.left, List.length_append, List.length_singleton]
    omega
  | @reply runs first rest hall =>
    simp only [Caller.left]
    omega

end Dispatch

end ShardProxy
