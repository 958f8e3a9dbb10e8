/-
# What the packets of an update add up to

An update response answers for all of its units at once:

| question | answer |
| --- | --- |
| affected rows | the sum, when it is a 64-bit word, and none when it is not |
| last insert id | that of the first packet which reports one |
| generated keys | those of all packets, packet by packet |

The rows are added one packet after the other, and each sum on the way has to be a word.  None of
them is larger than the last, so the order of the packets does not decide whether there is an answer
(`UpdateResponse.affectedRows?_eq`).  `merge_eq_update_iff` says which update responses there are
and what each of them answers.
-/

import ShardProxy.Proofs.Execution.Merging
import Mathlib.Algebra.Ring.Nat

namespace ShardProxy

/-- The rows that the units of some packets affected, as a number without bound. -/
def affectedTotal (packets : List UpdatePacket) : Nat :=
  (packets.map fun packet => packet.counts.affectedRows.toNat).sum

/-- The order of the packets does not change their total. -/
theorem affectedTotal_perm {packets others : List UpdatePacket} (h : packets.Perm others) :
    affectedTotal packets = affectedTotal others :=
  (h.map _).sum_nat

/-- The exact sum of the words is the total of the packets. -/
theorem exactSum_affectedRows (packets : List UpdatePacket) :
    exactSum (packets.map (·.counts.affectedRows)) = affectedTotal packets := by
  induction packets with
  | nil => rfl
  | cons packet packets ih =>
    rw [List.map_cons, exactSum_cons, ih, affectedTotal, affectedTotal, List.map_cons,
      List.sum_cons]

namespace UpdateResponse

variable {response : UpdateResponse}

/-- **Adding the packets one by one gives their total,** or nothing when that is no word. -/
theorem affectedRows?_eq (response : UpdateResponse) :
    response.affectedRows? =
      if affectedTotal response.packets < UInt64.size then
        some (UInt64.ofNat (affectedTotal response.packets))
      else none := by
  rw [affectedRows?, addAll?_eq, exactSum_affectedRows]
  simp

/-- **A response has a number of affected rows when it is the total** of its packets. -/
theorem affectedRows?_eq_some_iff {total : UInt64} :
    response.affectedRows? = some total ↔ total.toNat = affectedTotal response.packets := by
  rw [affectedRows?_eq]
  split
  · next hfits =>
    rw [Option.some_inj]
    constructor
    · rintro rfl
      exact UInt64.toNat_ofNat_of_lt hfits
    · intro htotal
      rw [← htotal, UInt64.ofNat_toNat]
  · next hlarge =>
    have hlt := total.toNat_lt_size
    constructor
    · intro h
      cases h
    · intro htotal
      omega

/-- A response has no number of affected rows when the total of its packets is no word. -/
theorem affectedRows?_eq_none_iff :
    response.affectedRows? = none ↔ UInt64.size ≤ affectedTotal response.packets := by
  rw [affectedRows?_eq]
  split
  · next hfits => simp [hfits]
  · next hlarge => simp [Nat.le_of_not_lt hlarge]

/-- Two units that affected `2 ^ 63` rows each have no number of rows together. -/
example : affectedRows?
    ⟨[⟨"main", ⟨2 ^ 63, none, [7]⟩⟩, ⟨"archive", ⟨2 ^ 63, some 8, [8, 9]⟩⟩]⟩ = none := by
  cbv

/-- What a response with some packets answers. -/
structure AddsUp (response : UpdateResponse) (packets : List UpdatePacket) : Prop where
  packets_eq : response.packets = packets
  /-- The affected rows are the exact sum. -/
  affected : ∀ total, response.affectedRows? = some total ↔ total.toNat = affectedTotal packets
  /-- There is no answer exactly when the sum is no word. -/
  overflow : response.affectedRows? = none ↔ 2 ^ 64 ≤ affectedTotal packets
  /-- The answer is the same when the packets come in another order. -/
  anyOrder : ∀ others : List UpdatePacket, others.Perm packets →
    (⟨others⟩ : UpdateResponse).affectedRows? = response.affectedRows?
  /-- The last insert id is that of the first packet which reports one. -/
  firstId : ∀ id, response.lastInsertId = some id ↔
    ∃ before packet after, packets = before ++ packet :: after ∧
      packet.counts.lastInsertId = some id ∧ ∀ p ∈ before, p.counts.lastInsertId = none
  /-- There is no last insert id exactly when no packet reports one. -/
  noId : response.lastInsertId = none ↔ ∀ packet ∈ packets, packet.counts.lastInsertId = none
  /-- The generated keys are those of the packets, one packet after the other. -/
  keys : response.generatedKeys = (packets.map (·.counts.generatedKeys)).flatten
  /-- No key is lost or repeated. -/
  keysLength : response.generatedKeys.length =
    (packets.map (·.counts.generatedKeys.length)).sum

/-- A response answers for its own packets. -/
theorem addsUp (response : UpdateResponse) : response.AddsUp response.packets where
  packets_eq := rfl
  affected _ := affectedRows?_eq_some_iff
  overflow := affectedRows?_eq_none_iff
  anyOrder others h := by
    rw [affectedRows?_eq, affectedRows?_eq, affectedTotal_perm h]
  firstId id := List.findSome?_eq_some_iff
  noId := List.findSome?_eq_none_iff
  keys := List.flatMap_def
  keysLength := List.length_flatMap

end UpdateResponse

/-- Packets merge into the response that has them in unit order. -/
theorem merge_updates (first : UpdatePacket) (later : List UpdatePacket) :
    merge (.update first) (later.map fun packet => .ok (.update packet)) =
      .ok (.update ⟨first :: later⟩) := by
  refine merge_eq_ok_iff.2 ⟨rfl, rfl, ?_⟩
  simp [Response.results, FirstResult.result]

/-- **An update response adds up the packets of all units.**  There is one exactly when the first
result and the later ones are packets, and it answers for them in unit order: the exact sum of the
affected rows, and no answer when that is no 64-bit word, whatever the order; the first last insert
id; and all generated keys. -/
theorem merge_eq_update_iff (first : FirstResult) (rest : List LaterAnswer)
    (response : UpdateResponse) :
    merge first rest = .ok (.update response) ↔
      ∃ packet later, first = .update packet ∧
        rest = later.map (fun packet => .ok (.update packet)) ∧
        response.AddsUp (packet :: later) := by
  constructor
  · intro h
    obtain ⟨hkind, -, hresults⟩ := merge_eq_ok_iff.1 h
    obtain ⟨packets⟩ := response
    rcases first with ⟨columns, set⟩ | packet
    · cases hkind
    · cases packets with
      | nil => cases hresults
      | cons head later =>
        obtain ⟨hhead, hrest⟩ := List.cons.inj hresults
        cases hhead
        refine ⟨_, later, rfl, ?_, UpdateResponse.addsUp _⟩
        rw [← hrest, List.map_map]
        rfl
  · rintro ⟨packet, later, rfl, rfl, hadds⟩
    rw [merge_updates, ← hadds.packets_eq]

end ShardProxy
