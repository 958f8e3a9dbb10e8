/-
# Data nodes

A data node is one physical table: `ds0.t_order_1` is the table `t_order_1` on
the data source `ds0`.  Reading trims blanks at the two ends of the text, not
around the point; then there are exactly two parts, neither of them empty.
`Node.ofTrimmed?_eq_some_iff` says which texts these are.
-/

import ShardProxy.Rule.Error
import ShardProxy.Text.Blank

namespace ShardProxy

open Text

/-- One physical table. -/
structure Node where
  /-- The data source that holds the table. -/
  dataSource : String
  /-- The table's name on that data source. -/
  table : String
  deriving Repr, DecidableEq

namespace Node

/-- The two parts of a node joined by a point. -/
def print (node : Node) : String :=
  node.dataSource ++ "." ++ node.table

/-- Reads a text that has been trimmed: two non-empty parts around one point. -/
def ofTrimmed? (cs : List Char) : Option Node :=
  match cs.splitOn '.' with
  | [c :: source, d :: table] => some ⟨String.ofList (c :: source), String.ofList (d :: table)⟩
  | _ => none

/-- Reads a node from characters, blanks at the ends aside. -/
def ofChars (cs : List Char) : Except RuleError Node :=
  match ofTrimmed? (trim cs) with
  | some node => .ok node
  | none => .error (.invalidNode (String.ofList (trim cs)))

/-- Reads a node from a text, blanks at the ends aside. -/
def parse (text : String) : Except RuleError Node :=
  ofChars text.toList

/-- The characters of a printed node. -/
@[simp] theorem toList_print (node : Node) :
    node.print.toList = node.dataSource.toList ++ '.' :: node.table.toList := by
  simp [print]

/-- A part of a split text does not hold the separator. -/
theorem not_mem_of_mem_splitOn {sep : Char} {l : List Char} :
    ∀ {cs : List Char}, l ∈ cs.splitOn sep → sep ∉ l
  | [], h => by
    rw [List.splitOn_nil, List.mem_singleton] at h
    simp [h]
  | c :: cs, h => by
    rw [List.splitOn_cons_eq_if_modifyHead] at h
    split at h
    · rcases List.mem_cons.1 h with rfl | h
      · simp
      · exact not_mem_of_mem_splitOn h
    · next hc =>
      cases hs : cs.splitOn sep with
      | nil => exact absurd hs (List.splitOn_ne_nil _ _)
      | cons part parts =>
        rw [hs, List.modifyHead_cons, List.mem_cons] at h
        rcases h with rfl | h
        · have hpart : sep ∉ part := not_mem_of_mem_splitOn (hs ▸ List.mem_cons_self)
          intro hmem
          rcases List.mem_cons.1 hmem with rfl | hmem
          · exact hc (beq_self_eq_true _)
          · exact hpart hmem
        · exact not_mem_of_mem_splitOn (hs ▸ List.mem_cons_of_mem _ h)

/-- **A trimmed text is a node exactly when it is two non-empty parts without a
point, joined by one.** -/
theorem ofTrimmed?_eq_some_iff {cs : List Char} {node : Node} :
    ofTrimmed? cs = some node ↔
      cs = node.dataSource.toList ++ '.' :: node.table.toList ∧
        node.dataSource ≠ "" ∧ node.table ≠ "" ∧
        '.' ∉ node.dataSource.toList ∧ '.' ∉ node.table.toList := by
  constructor
  · intro h
    have hcs : ['.'].intercalate (cs.splitOn '.') = cs := List.intercalate_splitOn '.'
    rw [ofTrimmed?] at h
    split at h
    · next c source d table hs =>
      obtain rfl := Option.some.inj h
      have hmem : ∀ l ∈ cs.splitOn '.', '.' ∉ l := fun l hl => not_mem_of_mem_splitOn hl
      rw [hs] at hcs hmem
      refine ⟨by simpa using hcs.symm, by simp [← String.toList_inj],
        by simp [← String.toList_inj], ?_, ?_⟩
      · simpa using hmem (c :: source) (by simp)
      · simpa using hmem (d :: table) (by simp)
    · simp at h
  · rintro ⟨rfl, hd, ht, hds, hts⟩
    obtain ⟨source, table⟩ := node
    rw [ofTrimmed?, List.splitOn_append_cons_self_of_not_mem hds, List.splitOn_eq_singleton hts]
    rw [Ne, ← String.toList_inj] at hd ht
    cases hs : source.toList with
    | nil => simp [hs] at hd
    | cons c cs =>
      cases hu : table.toList with
      | nil => simp [hu] at ht
      | cons d ds => simp [hs, hu, ← String.toList_inj]

end Node

end ShardProxy
