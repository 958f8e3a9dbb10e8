/-
# Merging results

The first unit fixes the variant of the response and brings the columns.  The
later results follow in unit order; the first of them that is an error, or of
the other variant, fails the whole statement.
-/

import ShardProxy.Execution.Error

namespace ShardProxy

/-- What the collection of a later unit gives. -/
abbrev LaterAnswer := Except ExecutionError LaterResult

/-- The error of a later result that is not of the variant `expected`. -/
def LaterResult.mismatch (result : LaterResult) (expected : ResponseKind) : ExecutionError :=
  .mismatch result.dataSource expected result.kind

/-- Appends later result sets. -/
def mergeSets (sets : List ResultSet) : List LaterAnswer → Except ExecutionError (List ResultSet)
  | [] => .ok sets
  | .error e :: _ => .error e
  | .ok (.query set) :: rest => mergeSets (sets ++ [set]) rest
  | .ok (.update packet) :: _ => .error ((LaterResult.update packet).mismatch .query)

/-- Appends later packets. -/
def mergePackets (packets : List UpdatePacket) :
    List LaterAnswer → Except ExecutionError (List UpdatePacket)
  | [] => .ok packets
  | .error e :: _ => .error e
  | .ok (.update packet) :: rest => mergePackets (packets ++ [packet]) rest
  | .ok (.query set) :: _ => .error ((LaterResult.query set).mismatch .update)

/-- The response to a statement from the results of its units. -/
def merge (first : FirstResult) (rest : List LaterAnswer) : Except ExecutionError Response :=
  match first with
  | .query columns set =>
    match mergeSets [set] rest with
    | .error e => .error e
    | .ok sets => .ok (.query ⟨columns, sets⟩)
  | .update packet =>
    match mergePackets [packet] rest with
    | .error e => .error e
    | .ok packets => .ok (.update ⟨packets⟩)

/-- Why an answer fails a response of a variant, if it does. -/
def laterFault? (kind : ResponseKind) : LaterAnswer → Option ExecutionError
  | .error e => some e
  | .ok result => if result.kind = kind then none else some (result.mismatch kind)

/-- The result set in an answer, an empty one if there is none. -/
def laterSet : LaterAnswer → ResultSet
  | .ok (.query set) => set
  | _ => ⟨"", []⟩

/-- The packet in an answer, one of zeros if there is none. -/
def laterPacket : LaterAnswer → UpdatePacket
  | .ok (.update packet) => packet
  | _ => ⟨"", ⟨0, none, []⟩⟩

/-- The response to a statement when no later answer fails it. -/
def FirstResult.response : FirstResult → List LaterAnswer → Response
  | .query columns set, rest => .query ⟨columns, set :: rest.map laterSet⟩
  | .update packet, rest => .update ⟨packet :: rest.map laterPacket⟩

/-- **Result sets are appended up to the first answer that fails a query.** -/
theorem mergeSets_eq (sets : List ResultSet) (rest : List LaterAnswer) :
    mergeSets sets rest =
      match rest.findSome? (laterFault? .query) with
      | some e => .error e
      | none => .ok (sets ++ rest.map laterSet) := by
  induction rest generalizing sets with
  | nil => simp [mergeSets]
  | cons answer rest ih =>
    rw [List.findSome?_cons]
    rcases answer with e | set | packet
    · rw [mergeSets]
      rfl
    · rw [mergeSets, ih, List.map_cons, List.append_assoc]
      rfl
    · rw [mergeSets]
      rfl

/-- **Packets are appended up to the first answer that fails an update.** -/
theorem mergePackets_eq (packets : List UpdatePacket) (rest : List LaterAnswer) :
    mergePackets packets rest =
      match rest.findSome? (laterFault? .update) with
      | some e => .error e
      | none => .ok (packets ++ rest.map laterPacket) := by
  induction rest generalizing packets with
  | nil => simp [mergePackets]
  | cons answer rest ih =>
    rw [List.findSome?_cons]
    rcases answer with e | set | packet
    · rw [mergePackets]
      rfl
    · rw [mergePackets]
      rfl
    · rw [mergePackets, ih, List.map_cons, List.append_assoc]
      rfl

/-- **Merging fails with the first answer that does not fit,** and else keeps all. -/
theorem merge_eq (first : FirstResult) (rest : List LaterAnswer) :
    merge first rest =
      match rest.findSome? (laterFault? first.kind) with
      | some e => .error e
      | none => .ok (first.response rest) := by
  rcases first with ⟨columns, set⟩ | packet
  · rw [merge, mergeSets_eq, FirstResult.kind]
    cases rest.findSome? (laterFault? .query) <;> rfl
  · rw [merge, mergePackets_eq, FirstResult.kind]
    cases rest.findSome? (laterFault? .update) <;> rfl

end ShardProxy
