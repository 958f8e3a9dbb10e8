/-
# Backends

What execution needs of a backend: a connection for a data source, and on it the
outcome of one SQL text under explicit options.  An outcome is a result set with
its rows or the counters of an update.  A run that crashes instead ends with a
message.
-/

import ShardProxy.Text.Quoted

namespace ShardProxy

/-- An error that a backend reports. -/
inductive BackendError where
  /-- There is no connection. -/
  | connection (dataSource reason : String)
  /-- The statement was refused or failed. -/
  | sql (reason : String)
  /-- Fetching a row failed. -/
  | fetch (reason : String)
  deriving Repr, DecidableEq

/-- The wording of a backend error. -/
def BackendError.message : BackendError → String
  | .connection dataSource reason => s!"Cannot get connection to `{dataSource}`: {reason}"
  | .sql reason => s!"SQL execution failed: {reason}"
  | .fetch reason => s!"Row fetch failed: {reason}"

/-- One value of a row. -/
inductive Cell where
  | null
  | int (value : Int64)
  | uint (value : UInt64)
  /-- A binary64 number by its bits. -/
  | float (bits : UInt64)
  | text (value : String)
  | bytes (value : List UInt8)
  deriving DecidableEq

/-- One row of a result set. -/
abbrev Row := List Cell

/-- A row, or why it could not be fetched. -/
abbrev FetchedRow := Except BackendError Row

/-- A column of a result set. -/
structure Column where
  name : String
  dataType : String
  table : Option String
  nullable : Bool
  deriving Repr, DecidableEq

/-- How many rows a statement fetches per round trip. -/
inductive FetchSize where
  /-- Never more than one row per backend is held. -/
  | oneRow
  | rows (count : UInt32)
  deriving Repr, DecidableEq

/-- The options that a statement runs under. -/
structure Options where
  fetch : FetchSize
  /-- Whether generated keys are asked for. -/
  keys : Bool
  /-- Whether column metadata is asked for. -/
  metadata : Bool
  deriving Repr, DecidableEq

/-- Options that hold one row at a time. -/
def Options.streaming (keys metadata : Bool) : Options :=
  ⟨.oneRow, keys, metadata⟩

/-- The counters of an update. -/
structure UpdateCounts where
  affectedRows : UInt64
  lastInsertId : Option UInt64
  generatedKeys : List UInt64
  deriving Repr, DecidableEq

/-- What executing one SQL text gives. -/
inductive Outcome where
  | query (columns : List Column) (rows : List FetchedRow)
  | update (counts : UpdateCounts)

/-- How a run ends: with a value, or in a crash. -/
inductive Exit (ρ : Type) where
  | returned (value : ρ)
  | crashed (message : String)
  deriving DecidableEq

/-- The exit with its value seen from further out. -/
def Exit.map {ρ σ : Type} (f : ρ → σ) : Exit ρ → Exit σ
  | returned value => .returned (f value)
  | crashed message => .crashed message

/-- A connection to one data source. -/
structure Connection where
  run : String → Options → Exit (Except BackendError Outcome)

/-- The backends by data source. -/
abbrev Backends := String → Except BackendError Connection

end ShardProxy
