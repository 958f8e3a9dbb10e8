/-
# Targets

A target is one place where a statement runs: a data source and the tables that
the statement's logical tables stand for there.  Two targets on one data source
can become one when that maps no logical table twice: `Target.accepts` decides
it, `Target.absorb` does it.  Logical tables are looked up without regard to the
case of ASCII letters, mappings are compared exactly.
-/

import ShardProxy.Route.Mapping
import ShardProxy.Text.Letters

namespace ShardProxy

open Text

/-- A data source and the tables in use there. -/
structure Target where
  dataSource : Mapping
  tables : List Mapping
  deriving Repr, DecidableEq

namespace Target

/-- The first mapping of a logical table. -/
def find? (target : Target) (table : String) : Option Mapping :=
  target.tables.find? (alike ·.logic table)

/-- The actual table behind a logical one. -/
def actualTable? (target : Target) (table : String) : Option String :=
  (target.find? table).map Mapping.actual

/-- Whether a mapping agrees with what the target maps already: its logical table is
new there or mapped in exactly this way. -/
def agrees (target : Target) (mapping : Mapping) : Bool :=
  match target.find? mapping.logic with
  | none => true
  | some existing => existing == mapping

/-- Whether the tables of another target can join this one. -/
def accepts (target other : Target) : Bool :=
  target.dataSource == other.dataSource && other.tables.all target.agrees

/-- Appends the mappings that are not there yet. -/
def join (tables : List Mapping) : List Mapping → List Mapping
  | [] => tables
  | m :: ms => join (if m ∈ tables then tables else tables ++ [m]) ms

/-- The target with another's tables joined to its own. -/
def absorb (target other : Target) : Target :=
  { target with tables := join target.tables other.tables }

/-- The target on another actual data source. -/
def repoint (target : Target) (actual : String) : Target :=
  { target with dataSource := target.dataSource.repoint actual }

/-- Alike names have the same mapping. -/
theorem find?_congr {target : Target} {a b : String} (h : alike a b = true) :
    target.find? a = target.find? b := by
  rw [find?, find?, funext fun m : Mapping => alike_congr_right h m.logic]

/-- The answer for a table is a mapping of an alike one. -/
theorem mem_of_find? {target : Target} {table : String} {m : Mapping}
    (h : target.find? table = some m) : m ∈ target.tables ∧ alike m.logic table = true := by
  rw [find?] at h
  exact ⟨List.mem_of_find?_eq_some h, by simpa using List.find?_some h⟩

/-- A target without an answer for a table maps no alike one. -/
theorem find?_eq_none_iff {target : Target} {table : String} :
    target.find? table = none ↔ ∀ m ∈ target.tables, alike m.logic table = false := by
  simp [find?, List.find?_eq_none]

/-- A target accepts those on its data source with whose mappings it agrees. -/
theorem accepts_iff {target other : Target} :
    target.accepts other = true ↔
      target.dataSource = other.dataSource ∧ ∀ m ∈ other.tables, target.agrees m = true := by
  rw [accepts, Bool.and_eq_true, beq_iff_eq, List.all_eq_true]

/-- **Joining loses nothing and invents nothing.** -/
@[simp] theorem mem_join {m : Mapping} {tables ms : List Mapping} :
    m ∈ join tables ms ↔ m ∈ tables ∨ m ∈ ms := by
  induction ms generalizing tables with
  | nil => simp [join]
  | cons x ms ih =>
    rw [join, ih, List.mem_cons]
    split
    · next hx => exact ⟨Or.imp_right Or.inr, fun h => h.elim Or.inl
        fun h => h.elim (fun h => Or.inl (h ▸ hx)) Or.inr⟩
    · rw [List.mem_append, List.mem_singleton, or_assoc]

/-- What was there stays in front. -/
theorem prefix_join (tables ms : List Mapping) : List.IsPrefix tables (join tables ms) := by
  induction ms generalizing tables with
  | nil => exact List.prefix_refl _
  | cons x ms ih =>
    rw [join]
    split
    · exact ih _
    · exact (List.prefix_append _ _).trans (ih _)

end Target

end ShardProxy
