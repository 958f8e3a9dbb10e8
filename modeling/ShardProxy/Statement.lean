/-
# Statements

What routing knows of a statement: its kind, the tables and indexes it names
and whether it must see the latest data.  A statement is *primary* when it must
go to a write data source: it is no query, it locks, a hint says so, or it runs
inside a transaction.
-/

namespace ShardProxy

/-- The kinds of statement. -/
inductive StatementKind where
  | select | insert | update | delete
  | createTable | alterTable | dropTable | truncate
  | createIndex | dropIndex | other
  deriving Repr, DecidableEq

namespace StatementKind

/-- The kind in SQL words. -/
def sql : StatementKind → String
  | select => "SELECT"
  | insert => "INSERT"
  | update => "UPDATE"
  | delete => "DELETE"
  | createTable => "CREATE TABLE"
  | alterTable => "ALTER TABLE"
  | dropTable => "DROP TABLE"
  | truncate => "TRUNCATE"
  | createIndex => "CREATE INDEX"
  | dropIndex => "DROP INDEX"
  | other => "OTHER"

/-- Whether statements of this kind only read. -/
def isQuery (kind : StatementKind) : Bool :=
  kind == select

end StatementKind

/-- A statement as routing sees it. -/
structure Statement where
  kind : StatementKind
  /-- The logical tables it names, in order. -/
  tables : List String := []
  /-- The indexes it names without their table. -/
  indexes : List String := []
  /-- It locks the rows that it reads. -/
  locks : Bool := false
  /-- A session hint sends it to a write data source. -/
  writeHint : Bool := false
  /-- It runs inside an explicit transaction. -/
  inTransaction : Bool := false
  deriving Repr, DecidableEq

namespace Statement

/-- Whether the statement must go to a write data source. -/
def isPrimary (statement : Statement) : Bool :=
  !statement.kind.isQuery || statement.locks || statement.writeHint || statement.inTransaction

/-- A query over tables. -/
def select (tables : List String) : Statement :=
  { kind := .select, tables }

/-- An insertion into one table. -/
def insert (table : String) : Statement :=
  { kind := .insert, tables := [table] }

/-- The removal of indexes named without their tables. -/
def dropIndex (indexes : List String) : Statement :=
  { kind := .dropIndex, indexes }

/-- **A statement may go to a read data source exactly when** it is a query without
lock, hint or transaction. -/
theorem isPrimary_eq_false_iff {statement : Statement} :
    statement.isPrimary = false ↔
      statement.kind = .select ∧ statement.locks = false ∧ statement.writeHint = false ∧
        statement.inTransaction = false := by
  simp [isPrimary, StatementKind.isQuery, and_assoc]

end Statement

end ShardProxy
