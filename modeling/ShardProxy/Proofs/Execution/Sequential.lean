/-
# One unit after the other

What the units of a statement come to when they are run one after the other, by the
way the backends treat each of them alone: the error of the first unit if it
fails; else the error of the first later unit that fails, crashes or gives the other
variant; else the results of all units in order, under the first unit's columns.
A later unit that gets no worker counts among those that fail (`Lot.sequential`).
`merge` and `conclude` give that, whatever answers they get.
-/

import ShardProxy.Execution.Executor

namespace ShardProxy

/-- The variant of an outcome. -/
def Outcome.kind : Outcome → ResponseKind
  | query .. => .query
  | update _ => .update

/-- The rows of an outcome, none if it is an update's. -/
def Outcome.rows : Outcome → List FetchedRow
  | query _ rows => rows
  | update _ => []

/-- The counters of an outcome, zeros if it is a query's. -/
def Outcome.counts : Outcome → UpdateCounts
  | query .. => ⟨0, none, []⟩
  | update counts => counts

/-- A unit with the way the backends treat it. -/
structure Case where
  unit : ExecutionUnit
  conduct : Conduct

namespace Case

/-- Why a later unit fails a response of a variant, if it does. -/
def fault? (kind : ResponseKind) (c : Case) : Option ExecutionError :=
  match c.conduct.exit with
  | .crashed message => some (.lost c.unit.dataSource (.crashed message))
  | .returned (.error e) => some (.unit c.unit.dataSource e)
  | .returned (.ok outcome) =>
    if outcome.kind = kind then none
    else some (.mismatch c.unit.dataSource kind outcome.kind)

/-- The rows that a unit brings, tagged with its data source. -/
def set (c : Case) : ResultSet :=
  ⟨c.unit.dataSource, match c.conduct.exit with
    | .returned (.ok outcome) => outcome.rows
    | _ => []⟩

/-- The counters that a unit brings, tagged with its data source. -/
def packet (c : Case) : UpdatePacket :=
  ⟨c.unit.dataSource, match c.conduct.exit with
    | .returned (.ok outcome) => outcome.counts
    | _ => ⟨0, none, []⟩⟩

/-- The response of units that all succeed, for the first of which this is the outcome. -/
def gather (cases : List Case) : Outcome → Response
  | .query columns _ => .query ⟨columns, cases.map set⟩
  | .update _ => .update ⟨cases.map packet⟩

/-- **What a statement comes to when its units run one after the other.** -/
def sequential (first : Case) (later : List Case) : Verdict ExecutionError :=
  match first.conduct.exit with
  | .crashed message => .crashed message
  | .returned (.error e) => .answered (.error (.unit first.unit.dataSource e))
  | .returned (.ok outcome) =>
    match later.findSome? (fault? outcome.kind) with
    | some e => .answered (.error e)
    | none => .answered (.ok (gather (first :: later) outcome))

end Case

/-- What the caller gets for a later unit. -/
def Case.answer (c : Case) : LaterAnswer :=
  match c.conduct.exit with
  | .crashed message => .error (.lost c.unit.dataSource (.crashed message))
  | .returned (.error e) => .error (.unit c.unit.dataSource e)
  | .returned (.ok outcome) => .ok (.ofOutcome c.unit.dataSource outcome)

/-- A later unit as a case, and whether it gets a worker. -/
structure Lot extends Case where
  worked : Bool

namespace Lot

/-- Why a later unit fails a response of a variant, if it does: without a worker its result is
lost. -/
def fault? (kind : ResponseKind) (lot : Lot) : Option ExecutionError :=
  if lot.worked then lot.toCase.fault? kind else some (.lost lot.unit.dataSource .poolClosed)

/-- What the caller gets for a later unit. -/
def answer (lot : Lot) : LaterAnswer :=
  if lot.worked then lot.toCase.answer else .error (.lost lot.unit.dataSource .poolClosed)

/-- **What a statement comes to when its units run one after the other,** but for those that get no
worker. -/
def sequential (first : Case) (later : List Lot) : Verdict ExecutionError :=
  match first.conduct.exit with
  | .crashed message => .crashed message
  | .returned (.error e) => .answered (.error (.unit first.unit.dataSource e))
  | .returned (.ok outcome) =>
    match later.findSome? (fault? outcome.kind) with
    | some e => .answered (.error e)
    | none => .answered (.ok (Case.gather (first :: later.map Lot.toCase) outcome))

end Lot

/-- An answer fails a response as its case does. -/
theorem Case.laterFault?_answer (kind : ResponseKind) (c : Case) :
    laterFault? kind c.answer = c.fault? kind := by
  rw [answer, fault?]
  rcases c.conduct.exit with ⟨e | ⟨columns, rows⟩ | counts⟩ | message <;> rfl

/-- A case that does not fail a query brings its set. -/
theorem Case.answer_eq_query {c : Case} (h : laterFault? .query c.answer = none) :
    c.answer = .ok (.query c.set) := by
  rw [answer] at h ⊢
  rw [set]
  rcases hexit : c.conduct.exit with ⟨e | ⟨columns, rows⟩ | counts⟩ | message <;>
    rw [hexit] at h <;> first | rfl | cases h

/-- A case that does not fail an update brings its packet. -/
theorem Case.answer_eq_update {c : Case} (h : laterFault? .update c.answer = none) :
    c.answer = .ok (.update c.packet) := by
  rw [answer] at h ⊢
  rw [packet]
  rcases hexit : c.conduct.exit with ⟨e | ⟨columns, rows⟩ | counts⟩ | message <;>
    rw [hexit] at h <;> first | rfl | cases h

/-- An answer fails a response as its lot does. -/
theorem Lot.laterFault?_answer (kind : ResponseKind) (lot : Lot) :
    laterFault? kind lot.answer = lot.fault? kind := by
  rw [answer, fault?]
  split
  · exact Case.laterFault?_answer kind lot.toCase
  · rfl

/-- Only a lot with a worker does not fail a response. -/
theorem Lot.answer_eq {kind : ResponseKind} {lot : Lot}
    (h : laterFault? kind lot.answer = none) : lot.answer = lot.toCase.answer := by
  rw [answer] at h ⊢
  split
  · rfl
  · next hworked =>
    rw [if_neg hworked] at h
    cases h

/-- **When all later units get a worker** nothing is lost. -/
theorem Lot.sequential_of_worked (first : Case) (later : List Case) :
    sequential first (later.map fun c => ⟨c, true⟩) = Case.sequential first later := by
  rw [sequential, Case.sequential]
  simp only [List.findSome?_map, List.map_map]
  have hcases : later.map (toCase ∘ fun c => ⟨c, true⟩) = later := List.map_id later
  rw [hcases]
  rfl

/-- The answer of an exited run is that of its case. -/
theorem Run.answer?_of_exited {run : Run} {conduct : Conduct}
    (h : run.progress = .exited conduct) :
    run.answer? = some (Case.answer ⟨run.job.unit, conduct⟩) := by
  rw [answer?, h, Case.answer]
  dsimp only
  rw [Job.exitLater]
  rcases conduct.exit with ⟨e | outcome⟩ | message <;> rfl

/-- **When no later lot fails it,** the merged response is gathered from the cases. -/
theorem Lot.response_answer {first : Case} {later : List Lot} {outcome : Outcome}
    (hexit : first.conduct.exit = .returned (.ok outcome))
    (hlater : ∀ lot ∈ later, lot.fault? outcome.kind = none) :
    (FirstResult.ofOutcome first.unit.dataSource outcome).response (later.map answer) =
      Case.gather (first :: later.map toCase) outcome := by
  have hfits : ∀ lot ∈ later, laterFault? outcome.kind lot.toCase.answer = none ∧
      lot.answer = lot.toCase.answer := fun lot hlot => by
    have hnone := (laterFault?_answer outcome.kind lot).trans (hlater lot hlot)
    have hanswer := answer_eq hnone
    exact ⟨hanswer ▸ hnone, hanswer⟩
  rcases outcome with ⟨columns, rows⟩ | counts
  · have hfirst : first.set = ⟨first.unit.dataSource, rows⟩ := by
      rw [Case.set, hexit]
      rfl
    have hsets : ∀ lot ∈ later, laterSet lot.answer = lot.set := fun lot hlot => by
      rw [(hfits lot hlot).2, Case.answer_eq_query (hfits lot hlot).1, laterSet]
    simpa [FirstResult.ofOutcome, FirstResult.response, Case.gather, hfirst] using hsets
  · have hfirst : first.packet = ⟨first.unit.dataSource, counts⟩ := by
      rw [Case.packet, hexit]
      rfl
    have hpackets : ∀ lot ∈ later, laterPacket lot.answer = lot.packet := fun lot hlot => by
      rw [(hfits lot hlot).2, Case.answer_eq_update (hfits lot hlot).1, laterPacket]
    simpa [FirstResult.ofOutcome, FirstResult.response, Case.gather, hfirst] using hpackets

/-- **The caller concludes what the units come to one after the other.** -/
theorem conclude_eq_sequential {job : Job} {first : Case} {later : List Lot}
    {answer : Except BackendError Outcome} (hunit : job.unit = first.unit)
    (hexit : first.conduct.exit = .returned answer) :
    .answered (conclude (job.firstAnswer answer) (later.map Lot.answer)) =
      Lot.sequential first later := by
  rw [Lot.sequential, hexit]
  rcases answer with e | outcome
  · rw [Job.firstAnswer, hunit]
    rfl
  · have hkind : (FirstResult.ofOutcome first.unit.dataSource outcome).kind = outcome.kind := by
      cases outcome <;> rfl
    rw [Job.firstAnswer, conclude]
    dsimp only
    rw [merge_eq, hunit, hkind, List.findSome?_map]
    simp only [Function.comp_def, Lot.laterFault?_answer]
    rcases hlater : later.findSome? (Lot.fault? outcome.kind) with _ | e
    · dsimp only
      rw [Lot.response_answer hexit (List.findSome?_eq_none_iff.1 hlater)]
    · rfl

end ShardProxy
