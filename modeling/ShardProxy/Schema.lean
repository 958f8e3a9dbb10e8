/-
# The schema

The tables that are registered, each with the set of its indexes.  Tables and
indexes are kept in the order of their names by code point, and that order
decides which table owns an index that several have: the first.  Registering a
table again replaces its indexes.
-/

namespace ShardProxy

/-- A registered table. -/
structure TableEntry where
  table : String
  /-- Its indexes, ascending. -/
  indexes : List String
  deriving Repr, DecidableEq

/-- Adds a name to an ascending list, once. -/
def insertName (name : String) : List String → List String
  | [] => [name]
  | n :: ns =>
    if name < n then name :: n :: ns else if name = n then n :: ns else n :: insertName name ns

/-- The names of a list in ascending order, once each. -/
def nameSet (names : List String) : List String :=
  names.foldr insertName []

/-- An insertion adds one name. -/
@[simp] theorem mem_insertName {x name : String} {ns : List String} :
    x ∈ insertName name ns ↔ x = name ∨ x ∈ ns := by
  induction ns with
  | nil => simp [insertName]
  | cons n ns ih =>
    rw [insertName]
    split
    · simp
    · split <;> simp_all [or_left_comm]

/-- A set of names has the names that were listed. -/
@[simp] theorem mem_nameSet {x : String} {names : List String} :
    x ∈ nameSet names ↔ x ∈ names := by
  induction names with
  | nil => simp [nameSet]
  | cons n ns ih => simpa [nameSet] using or_congr_right ih

/-- Puts an entry into an ascending list, in place of one for the same table. -/
def putEntry (entry : TableEntry) : List TableEntry → List TableEntry
  | [] => [entry]
  | e :: es =>
    if entry.table < e.table then entry :: e :: es
    else if entry.table = e.table then entry :: es
    else e :: putEntry entry es

/-- Ascending order of entries by table name. -/
def Ascending (entries : List TableEntry) : Prop :=
  entries.Pairwise fun a b => a.table < b.table

/-- Putting an entry adds no other. -/
theorem mem_of_mem_putEntry {x entry : TableEntry} {es : List TableEntry}
    (h : x ∈ putEntry entry es) : x = entry ∨ x ∈ es := by
  induction es with
  | nil => simpa [putEntry] using h
  | cons e es ih =>
    rw [putEntry] at h
    split at h
    · simpa using h
    · split at h
      · rcases List.mem_cons.1 h with h | h
        · exact Or.inl h
        · exact Or.inr (List.mem_cons_of_mem _ h)
      · rcases List.mem_cons.1 h with h | h
        · exact Or.inr (h ▸ List.mem_cons_self)
        · exact (ih h).imp_right (List.mem_cons_of_mem _)

/-- **Putting an entry keeps entries in order.** -/
theorem Ascending.putEntry {entry : TableEntry} {es : List TableEntry} (h : Ascending es) :
    Ascending (putEntry entry es) := by
  induction es with
  | nil => simp [ShardProxy.putEntry, Ascending]
  | cons e es ih =>
    have hes := List.pairwise_cons.1 h
    rw [ShardProxy.putEntry]
    split
    · next hlt =>
      refine List.pairwise_cons.2 ⟨fun x hx => ?_, h⟩
      rcases List.mem_cons.1 hx with rfl | hx
      · exact hlt
      · exact String.lt_trans hlt (hes.1 x hx)
    · next hlt =>
      split
      · next heq => exact List.pairwise_cons.2 ⟨fun x hx => heq ▸ hes.1 x hx, hes.2⟩
      · next hne =>
        refine List.pairwise_cons.2 ⟨fun x hx => ?_, ih hes.2⟩
        rcases mem_of_mem_putEntry hx with rfl | hx
        · exact Decidable.byContradiction fun hn =>
            hne (String.le_antisymm (String.not_lt.1 hn) (String.not_lt.1 hlt))
        · exact hes.1 x hx

/-- **Putting an entry decides about its table** and about no other. -/
theorem find?_putEntry (entry : TableEntry) (es : List TableEntry) (table : String) :
    (putEntry entry es).find? (·.table == table) =
      if table = entry.table then some entry else es.find? (·.table == table) := by
  induction es with
  | nil =>
    by_cases htable : table = entry.table
    · simp [putEntry, htable]
    · simp [putEntry, htable, Ne.symm htable]
  | cons e es ih =>
    rw [putEntry]
    by_cases htable : table = entry.table
    · split
      · simp [htable]
      · split
        · simp [htable]
        · next hne => simpa [htable, Ne.symm hne] using ih
    · rw [if_neg htable] at ih ⊢
      have hentry : (entry.table == table) = false := by simp [Ne.symm htable]
      split
      · rw [List.find?_cons, hentry]
      · split
        · next heq => rw [List.find?_cons, List.find?_cons, ← heq, hentry]
        · rw [List.find?_cons, List.find?_cons, ih]

/-- The registered tables. -/
structure Schema where
  /-- One entry per table, ascending. -/
  entries : List TableEntry
  ascending : Ascending entries
  deriving DecidableEq

namespace Schema

/-- No table. -/
def empty : Schema := ⟨[], List.Pairwise.nil⟩

/-- Registers a table with a set of indexes, in place of an earlier registration. -/
def register (schema : Schema) (table : String) (indexes : List String) : Schema :=
  ⟨putEntry ⟨table, nameSet indexes⟩ schema.entries, schema.ascending.putEntry⟩

/-- Drops a table. -/
def unregister (schema : Schema) (table : String) : Schema :=
  ⟨schema.entries.filter (·.table != table), schema.ascending.sublist List.filter_sublist⟩

/-- The indexes of a registered table. -/
def indexes? (schema : Schema) (table : String) : Option (List String) :=
  (schema.entries.find? (·.table == table)).map TableEntry.indexes

/-- A table that is registered has the indexes that are given, and other tables have theirs. -/
theorem indexes?_register (schema : Schema) (other : String) (indexes : List String)
    (table : String) : (schema.register other indexes).indexes? table =
      if table = other then some (nameSet indexes) else schema.indexes? table := by
  rw [indexes?, register, find?_putEntry]
  split <;> rfl

/-- A table that is dropped has no indexes, and other tables have theirs. -/
theorem indexes?_unregister (schema : Schema) (other table : String) :
    (schema.unregister other).indexes? table =
      if table = other then none else schema.indexes? table := by
  rw [indexes?, unregister, List.find?_filter]
  split
  · next heq =>
    rw [List.find?_eq_none.2 (by simp [heq]), Option.map_none]
  · next hne =>
    have hsame : ∀ e : TableEntry,
        decide ((e.table != other) = true ∧ (e.table == table) = true) = (e.table == table) := by
      intro e
      by_cases htable : e.table = table
      · simp [htable, hne]
      · simp [htable]
    simp only [hsame, indexes?]

/-- The table that owns an index: the first that has it. -/
def owner? (schema : Schema) (index : String) : Option String :=
  (schema.entries.find? (·.indexes.contains index)).map TableEntry.table

/-- How many tables there are. -/
def size (schema : Schema) : Nat :=
  schema.entries.length

/-- The schema of a list of registrations, later ones replacing earlier ones. -/
def ofList (tables : List (String × List String)) : Schema :=
  tables.foldl (fun schema t => schema.register t.1 t.2) empty

end Schema

end ShardProxy
