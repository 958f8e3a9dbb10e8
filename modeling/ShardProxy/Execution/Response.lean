/-
# Results and responses

Each unit gives a result set or an update packet, tagged with its data source.
The first unit also brings the columns.  A response holds the results of all
units of a statement in unit order; an update response adds them up:

* the affected rows as a 64-bit sum, which has no value when it overflows;
* the last insert id of the first unit that reports one;
* the generated keys of all units in order.
-/

import ShardProxy.Execution.Backend

namespace ShardProxy

/-- The two variants of results and responses. -/
inductive ResponseKind where
  | query
  | update
  deriving Repr, DecidableEq

/-- The name of a variant. -/
def ResponseKind.name : ResponseKind → String
  | .query => "query"
  | .update => "update"

/-- The rows of one unit, in the order in which its backend gives them. -/
structure ResultSet where
  dataSource : String
  rows : List FetchedRow

/-- The counters of one unit. -/
structure UpdatePacket where
  dataSource : String
  counts : UpdateCounts
  deriving Repr, DecidableEq

/-- The result of the first unit. -/
inductive FirstResult where
  | query (columns : List Column) (set : ResultSet)
  | update (packet : UpdatePacket)

/-- The result of any later unit. -/
inductive LaterResult where
  | query (set : ResultSet)
  | update (packet : UpdatePacket)

/-- The result of the first unit from its outcome. -/
def FirstResult.ofOutcome (dataSource : String) : Outcome → FirstResult
  | .query columns rows => .query columns ⟨dataSource, rows⟩
  | .update counts => .update ⟨dataSource, counts⟩

/-- The result of a later unit from its outcome; its columns are dropped. -/
def LaterResult.ofOutcome (dataSource : String) : Outcome → LaterResult
  | .query _ rows => .query ⟨dataSource, rows⟩
  | .update counts => .update ⟨dataSource, counts⟩

/-- The variant of a result. -/
def FirstResult.kind : FirstResult → ResponseKind
  | .query .. => .query
  | .update .. => .update

/-- The variant of a result. -/
def LaterResult.kind : LaterResult → ResponseKind
  | .query .. => .query
  | .update .. => .update

/-- The data source of a result. -/
def LaterResult.dataSource : LaterResult → String
  | .query set => set.dataSource
  | .update packet => packet.dataSource

/-- A query's response: the first unit's columns and every unit's rows. -/
structure QueryResponse where
  columns : List Column
  sets : List ResultSet

/-- An update's response: every unit's counters. -/
structure UpdateResponse where
  packets : List UpdatePacket
  deriving Repr, DecidableEq

/-- The response to a statement. -/
inductive Response where
  | query (response : QueryResponse)
  | update (response : UpdateResponse)

/-- The variant of a response. -/
def Response.kind : Response → ResponseKind
  | .query _ => .query
  | .update _ => .update

/-- The query response, if it is one. -/
def Response.query? : Response → Option QueryResponse
  | .query response => some response
  | .update _ => none

/-- The update response, if it is one. -/
def Response.update? : Response → Option UpdateResponse
  | .query _ => none
  | .update response => some response

/-- The data sources of the result sets, in order. -/
def QueryResponse.dataSources (response : QueryResponse) : List String :=
  response.sets.map ResultSet.dataSource

/-- The sum of two words, if it is a word. -/
def checkedAdd? (a b : UInt64) : Option UInt64 :=
  if a.toNat + b.toNat < UInt64.size then some (a + b) else none

/-- The sum of the numbers that words stand for. -/
def exactSum (ns : List UInt64) : Nat :=
  ns.foldr (fun n sum => n.toNat + sum) 0

/-- Adds words to a sum from the left, as long as the sum stays a word. -/
def addAll? (sum : UInt64) : List UInt64 → Option UInt64
  | [] => some sum
  | n :: ns =>
    match checkedAdd? sum n with
    | none => none
    | some sum => addAll? sum ns

namespace UpdateResponse

/-- The rows that all units affected, none when their number is no 64-bit word. -/
def affectedRows? (response : UpdateResponse) : Option UInt64 :=
  addAll? 0 (response.packets.map (·.counts.affectedRows))

/-- The first last-insert id that a unit reports. -/
def lastInsertId (response : UpdateResponse) : Option UInt64 :=
  response.packets.findSome? (·.counts.lastInsertId)

/-- The generated keys of all units. -/
def generatedKeys (response : UpdateResponse) : List UInt64 :=
  response.packets.flatMap (·.counts.generatedKeys)

end UpdateResponse

/-- Nothing adds up to zero. -/
@[simp] theorem exactSum_nil : exactSum [] = 0 := rfl

/-- The first word counts in full. -/
@[simp] theorem exactSum_cons (n : UInt64) (ns : List UInt64) :
    exactSum (n :: ns) = n.toNat + exactSum ns := rfl

/-- **The sum of words is the exact sum, or is none when that is no word.** -/
theorem addAll?_eq (sum : UInt64) (ns : List UInt64) :
    addAll? sum ns =
      if sum.toNat + exactSum ns < UInt64.size then some (UInt64.ofNat (sum.toNat + exactSum ns))
      else none := by
  induction ns generalizing sum with
  | nil => simp [addAll?, sum.toNat_lt_size]
  | cons n ns ih =>
    rw [addAll?, checkedAdd?, exactSum_cons]
    by_cases h : sum.toNat + n.toNat < UInt64.size
    · rw [if_pos h]
      dsimp only
      rw [ih, UInt64.toNat_add, Nat.mod_eq_of_lt h, Nat.add_assoc]
    · rw [if_neg h]
      dsimp only
      rw [if_neg (by omega)]

end ShardProxy
