/-
# All results or the first failure

Merging puts the results of all units into one response, in unit order and under the first unit's
columns, or it gives no response at all.  What decides between the two is the position of an
answer, not its kind: the first answer that is an error or of the other variant fails the
statement, whatever follows it (`merge_in_order`).

Result sets and packets are appended by two loops of one shape.  `Response.results` shows the
results of either as one list, so that `merge_eq_ok_iff` needs no variant.
-/

import ShardProxy.Execution.Merge

namespace ShardProxy

/-- The result of a first unit without its columns, as that of a later unit is. -/
def FirstResult.result : FirstResult → LaterResult
  | .query _ set => .query set
  | .update packet => .update packet

/-- The columns that come with the result of a first unit. -/
def FirstResult.columns? : FirstResult → Option (List Column)
  | .query columns _ => some columns
  | .update _ => none

namespace Response

/-- The columns of a response, if it is a query's. -/
def columns? : Response → Option (List Column)
  | .query response => some response.columns
  | .update _ => none

/-- The results in a response, one for each unit. -/
def results : Response → List LaterResult
  | .query response => response.sets.map .query
  | .update response => response.packets.map .update

/-- The results in a response are of its variant. -/
theorem kind_of_mem_results {response : Response} {result : LaterResult}
    (h : result ∈ response.results) : result.kind = response.kind := by
  rcases response with response | response
  · obtain ⟨set, -, rfl⟩ := List.mem_map.1 h
    rfl
  · obtain ⟨packet, -, rfl⟩ := List.mem_map.1 h
    rfl

/-- **A response is its variant, its columns and its results.** -/
theorem eq_of_results {a b : Response} (hkind : a.kind = b.kind)
    (hcolumns : a.columns? = b.columns?) (hresults : a.results = b.results) : a = b := by
  rcases a with ⟨columns, sets⟩ | ⟨⟨packets⟩⟩ <;>
    rcases b with ⟨columns', sets'⟩ | ⟨⟨packets'⟩⟩
  · obtain rfl : columns = columns' := Option.some.inj hcolumns
    obtain rfl : sets = sets' :=
      (List.map_inj_right fun _ _ h => LaterResult.query.inj h).1 hresults
    rfl
  · cases hkind
  · cases hkind
  · obtain rfl : packets = packets' :=
      (List.map_inj_right fun _ _ h => LaterResult.update.inj h).1 hresults
    rfl

end Response

/-! ### Answers that fit a response -/

/-- An answer fits when it is a result of the variant. -/
theorem laterFault?_eq_none_iff {kind : ResponseKind} {answer : LaterAnswer} :
    laterFault? kind answer = none ↔ ∃ result, answer = .ok result ∧ result.kind = kind := by
  rcases answer with e | result
  · simp [laterFault?]
  · simp [laterFault?]

/-- An answer that does not fit gives its own error, or else names the two variants. -/
theorem laterFault?_eq_some_iff {kind : ResponseKind} {answer : LaterAnswer}
    {e : ExecutionError} :
    laterFault? kind answer = some e ↔ answer = .error e ∨
      ∃ result, answer = .ok result ∧ result.kind ≠ kind ∧
        e = .mismatch result.dataSource kind result.kind := by
  rcases answer with e' | result
  · simp [laterFault?]
  · by_cases hkind : result.kind = kind
    · have hnone : laterFault? kind (.ok result) = none := if_pos hkind
      simp [hnone, hkind]
    · have hsome : laterFault? kind (.ok result) = some (result.mismatch kind) := if_neg hkind
      rw [hsome, Option.some_inj]
      constructor
      · rintro rfl
        exact Or.inr ⟨result, rfl, hkind, rfl⟩
      · rintro (h | ⟨_, h, -, rfl⟩)
        · cases h
        · cases h
          rfl

/-- An answer that fits a query is its result set. -/
theorem eq_laterSet {answer : LaterAnswer} (h : laterFault? .query answer = none) :
    answer = .ok (.query (laterSet answer)) := by
  obtain ⟨set | packet, rfl, hkind⟩ := laterFault?_eq_none_iff.1 h
  · rfl
  · cases hkind

/-- An answer that fits an update is its packet. -/
theorem eq_laterPacket {answer : LaterAnswer} (h : laterFault? .update answer = none) :
    answer = .ok (.update (laterPacket answer)) := by
  obtain ⟨set | packet, rfl, hkind⟩ := laterFault?_eq_none_iff.1 h
  · cases hkind
  · rfl

/-! ### What merging gives -/

namespace FirstResult

variable {first : FirstResult} {rest : List LaterAnswer}

/-- The response has the variant of the first result. -/
theorem kind_response : (first.response rest).kind = first.kind := by
  cases first <;> rfl

/-- The response has the columns of the first result. -/
theorem columns?_response : (first.response rest).columns? = first.columns? := by
  cases first <;> rfl

/-- **The response has the first result and the later ones as they came.** -/
theorem results_response (h : ∀ answer ∈ rest, laterFault? first.kind answer = none) :
    (first.response rest).results.map Except.ok = .ok first.result :: rest := by
  have hback : ∀ back : LaterAnswer → LaterAnswer, (∀ answer ∈ rest, answer = back answer) →
      rest.map back = rest := fun back hback => by
    rw [← List.map_congr_left hback, List.map_id']
  rcases first with ⟨columns, set⟩ | packet
  · have hrest := hback (Except.ok ∘ LaterResult.query ∘ laterSet) fun answer hanswer =>
      eq_laterSet (h answer hanswer)
    simpa [response, Response.results, result] using hrest
  · have hrest := hback (Except.ok ∘ LaterResult.update ∘ laterPacket) fun answer hanswer =>
      eq_laterPacket (h answer hanswer)
    simpa [response, Response.results, result] using hrest

end FirstResult

variable {first : FirstResult} {rest : List LaterAnswer} {response : Response}
  {e : ExecutionError}

/-- **A response to a statement has the results of all units and nothing else.** -/
theorem merge_eq_ok_iff :
    merge first rest = .ok response ↔
      response.kind = first.kind ∧ response.columns? = first.columns? ∧
        response.results.map Except.ok = .ok first.result :: rest := by
  have hfits : (∀ answer ∈ rest, laterFault? first.kind answer = none) →
      merge first rest = .ok (first.response rest) := fun h => by
    rw [merge_eq, List.findSome?_eq_none_iff.2 h]
  constructor
  · intro h
    have hnone : ∀ answer ∈ rest, laterFault? first.kind answer = none := by
      rw [merge_eq] at h
      split at h
      · cases h
      · next hnone => exact List.findSome?_eq_none_iff.1 hnone
    obtain rfl := Except.ok.inj ((hfits hnone).symm.trans h)
    exact ⟨FirstResult.kind_response, FirstResult.columns?_response,
      FirstResult.results_response hnone⟩
  · rintro ⟨hkind, hcolumns, hresults⟩
    have hnone : ∀ answer ∈ rest, laterFault? first.kind answer = none := by
      intro answer hanswer
      have hmem : answer ∈ response.results.map Except.ok :=
        hresults ▸ List.mem_cons_of_mem _ hanswer
      obtain ⟨result, hresult, rfl⟩ := List.mem_map.1 hmem
      exact laterFault?_eq_none_iff.2
        ⟨result, rfl, (Response.kind_of_mem_results hresult).trans hkind⟩
    have hsame : first.response rest = response :=
      Response.eq_of_results (FirstResult.kind_response.trans hkind.symm)
        (FirstResult.columns?_response.trans hcolumns.symm)
        ((List.map_inj_right fun _ _ h => Except.ok.inj h).1
          ((FirstResult.results_response hnone).trans hresults.symm))
    rw [hfits hnone, hsame]

/-- **Merging fails with the first fault among the later answers.** -/
theorem merge_eq_error_iff :
    merge first rest = .error e ↔ rest.findSome? (laterFault? first.kind) = some e := by
  rw [merge_eq]
  split
  · next e' he => simp [he]
  · next hnone => simp [hnone]

/-- **Merging is all or nothing, in unit order.**  A response has the variant and the columns of
the first result, then exactly the first result and the later ones as they came, so there is one if
and only if all later answers are results of the first one's variant.  Else the error is that of the
first answer which is none: its own, or that its data source gave the other variant. -/
theorem merge_in_order (first : FirstResult) (rest : List LaterAnswer) :
    ((∃ response, merge first rest = .ok response) ↔
      ∀ answer ∈ rest, ∃ result, answer = .ok result ∧ result.kind = first.kind) ∧
    (∀ response, merge first rest = .ok response ↔
      response.kind = first.kind ∧ response.columns? = first.columns? ∧
        response.results.map Except.ok = .ok first.result :: rest) ∧
    ∀ e, merge first rest = .error e ↔
      ∃ before answer after, rest = before ++ answer :: after ∧
        (∀ b ∈ before, ∃ result, b = .ok result ∧ result.kind = first.kind) ∧
        (answer = .error e ∨ ∃ result, answer = .ok result ∧ result.kind ≠ first.kind ∧
          e = .mismatch result.dataSource first.kind result.kind) := by
  refine ⟨?_, fun response => merge_eq_ok_iff, fun e => ?_⟩
  · simp only [← laterFault?_eq_none_iff]
    rw [← List.findSome?_eq_none_iff, merge_eq]
    cases rest.findSome? (laterFault? first.kind) <;> simp
  · rw [merge_eq_error_iff, List.findSome?_eq_some_iff]
    simp only [laterFault?_eq_none_iff, laterFault?_eq_some_iff]
    constructor
    · rintro ⟨before, answer, after, hrest, hanswer, hbefore⟩
      exact ⟨before, answer, after, hrest, hbefore, hanswer⟩
    · rintro ⟨before, answer, after, hrest, hbefore, hanswer⟩
      exact ⟨before, answer, after, hrest, hanswer, hbefore⟩

/-- A result set among packets fails an update even when a later unit has failed outright. -/
example : merge (.update ⟨"main", ⟨1, none, []⟩⟩)
    [.ok (.query ⟨"archive", []⟩), .error (.lost "main" .poolClosed)] =
      .error (.mismatch "archive" .update .query) := rfl

end ShardProxy
