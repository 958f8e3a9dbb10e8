/-
# Row streams

The rows of a query response come as one stream: one result set after the other
in unit order, a failed row in its place like any other.  A stream is pulled row
by row.  It asks a backend only for the row that is pulled, and a backend only
once those before it have nothing left; `pulled` records which rows the backends
have given.
-/

import ShardProxy.Execution.Response

namespace ShardProxy

/-- A result set of which some rows have been given. -/
structure Cursor where
  dataSource : String
  /-- How many rows have been given. -/
  position : Nat
  remaining : List FetchedRow

/-- A result set of which no row has been given. -/
def ResultSet.cursor (set : ResultSet) : Cursor :=
  ⟨set.dataSource, 0, set.rows⟩

/-- A stream over result sets. -/
structure RowStream where
  /-- The set whose rows come next. -/
  current : Cursor
  /-- The sets that have not been asked yet. -/
  pending : List ResultSet
  /-- The rows given so far: data source and position in its set. -/
  pulled : List (String × Nat)

/-- The stream of a response. -/
def QueryResponse.stream (response : QueryResponse) : RowStream :=
  ⟨⟨"", 0, []⟩, response.sets, []⟩

namespace RowStream

/-- Takes a row from a cursor, or from the first pending set that has one. -/
def advance (pulled : List (String × Nat)) :
    Cursor → List ResultSet → Option FetchedRow × RowStream
  | ⟨dataSource, n, row :: rows⟩, pending =>
    (some row, ⟨⟨dataSource, n + 1, rows⟩, pending, pulled ++ [(dataSource, n)]⟩)
  | cursor, [] => (none, ⟨cursor, [], pulled⟩)
  | _, set :: sets => advance pulled set.cursor sets

/-- Pulls one row; none when the stream has ended. -/
def next (stream : RowStream) : Option FetchedRow × RowStream :=
  advance stream.pulled stream.current stream.pending

/-- Pulls up to `count` rows. -/
def take : Nat → RowStream → List FetchedRow × RowStream
  | 0, stream => ([], stream)
  | count + 1, stream =>
    match stream.next with
    | (none, stream) => ([], stream)
    | (some row, stream) =>
      let (rows, stream) := take count stream
      (row :: rows, stream)

/-- How many rows are left. -/
def size (stream : RowStream) : Nat :=
  stream.current.remaining.length + (stream.pending.flatMap ResultSet.rows).length

/-- Pulls all rows. -/
def drain (stream : RowStream) : List FetchedRow × RowStream :=
  stream.take stream.size

end RowStream

end ShardProxy
