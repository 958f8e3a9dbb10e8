/-
# Data nodes and inline table rules read back

A segment spells a node when, the blanks at its two ends aside, it is the node as printed, and the
parts of the node are not empty and hold no point (`Node.Spells`).  Reading finds the node that is
spelled, if there is one: `Node.ofChars_eq_ok_iff` says so of one segment and
`TableRule.readNodes_eq_ok_iff` of many.

What is printed need not be what is read.  A node that was never read may hold a point or begin
with a blank (`Node.parse_print`).  A node that was read is printed as its text was, blanks at the
ends aside; it holds no comma if that text held none, so a table rule that was read can be printed
between commas and read again (`TableRule.ofInline_spelled`).
-/

import ShardProxy.Proofs.Traversal
import ShardProxy.Rule.TableRule
import Mathlib.Data.List.DropRight

namespace ShardProxy

/-! ### Trimming -/

namespace Text

/-- Nothing leads when the first character is not blank. -/
theorem dropWhile_isBlank_eq_self_iff {cs : List Char} :
    cs.dropWhile isBlank = cs ↔ ∀ c ∈ cs.head?, isBlank c = false := by
  cases cs with
  | nil => simp
  | cons c cs =>
    rw [List.dropWhile_eq_self_iff]
    simp

/-- Nothing is cut off when the last character is not blank. -/
theorem trimEnd_eq_self_iff {cs : List Char} :
    trimEnd cs = cs ↔ ∀ c ∈ cs.getLast?, isBlank c = false := by
  rw [trimEnd, List.reverse_eq_iff, dropWhile_isBlank_eq_self_iff, List.head?_reverse]

/-- What is cut off is cut off at the end. -/
theorem prefix_trimEnd (cs : List Char) : trimEnd cs <+: cs := by
  rw [trimEnd, ← List.reverse_suffix, List.reverse_reverse]
  exact List.dropWhile_suffix isBlank

/-- Trimming adds no character and moves none. -/
theorem trim_sublist (cs : List Char) : (trim cs).Sublist cs :=
  (prefix_trimEnd _).sublist.trans (List.dropWhile_sublist isBlank)

/-- **A text is trimmed when it neither begins nor ends with a blank.** -/
theorem trim_eq_self_iff {cs : List Char} :
    trim cs = cs ↔
      (∀ c ∈ cs.head?, isBlank c = false) ∧ ∀ c ∈ cs.getLast?, isBlank c = false := by
  rw [← dropWhile_isBlank_eq_self_iff, ← trimEnd_eq_self_iff]
  constructor
  · intro h
    have hle : cs.length ≤ (cs.dropWhile isBlank).length := by
      conv_lhs => rw [← h]
      exact (prefix_trimEnd _).length_le
    have hdrop : cs.dropWhile isBlank = cs :=
      (List.dropWhile_sublist isBlank).eq_of_length_le hle
    refine ⟨hdrop, ?_⟩
    rwa [trim, hdrop] at h
  · rintro ⟨hdrop, hend⟩
    rw [trim, hdrop, hend]

/-- **Trimming twice is trimming once.** -/
theorem trim_trim (cs : List Char) : trim (trim cs) = trim cs := by
  rw [trim_eq_self_iff]
  constructor
  · -- What is left begins as the text does without its leading blanks.
    intro c hc
    obtain ⟨blanks, hblanks⟩ := prefix_trimEnd (cs.dropWhile isBlank)
    have hhead : c ∈ (cs.dropWhile isBlank).head? := by
      rw [← hblanks]
      exact List.mem_head?_append_of_mem_head? hc
    exact dropWhile_isBlank_eq_self_iff.1 (List.dropWhile_idempotent isBlank cs) c hhead
  · refine trimEnd_eq_self_iff.1 ?_
    rw [trim, trimEnd, trimEnd, List.reverse_reverse, List.dropWhile_idempotent]

/-- Leading blanks make no difference. -/
theorem trim_append_left {pad : List Char} (h : ∀ c ∈ pad, isBlank c = true) (cs : List Char) :
    trim (pad ++ cs) = trim cs := by
  rw [trim, trim, List.dropWhile_append_of_pos h]

end Text

open Text

/-! ### Nodes -/

namespace Node

variable {node : Node} {cs : List Char}

/-- The parts of a node are not empty and hold no point. -/
structure Clean (node : Node) : Prop where
  dataSource_ne : node.dataSource ≠ ""
  table_ne : node.table ≠ ""
  dataSource_point : '.' ∉ node.dataSource.toList
  table_point : '.' ∉ node.table.toList

/-- A segment is a node as printed, blanks at its ends aside. -/
def Spells (segment : List Char) (node : Node) : Prop :=
  trim segment = node.print.toList ∧ node.Clean

/-- **Reading finds the node that is spelled.** -/
theorem ofChars_eq_ok_iff : ofChars cs = .ok node ↔ Spells cs node := by
  have hspelled : ofTrimmed? (trim cs) = some node ↔ Spells cs node := by
    rw [ofTrimmed?_eq_some_iff, Spells, toList_print]
    exact and_congr_right fun _ =>
      ⟨fun ⟨hd, ht, hdp, htp⟩ => ⟨hd, ht, hdp, htp⟩, fun ⟨hd, ht, hdp, htp⟩ => ⟨hd, ht, hdp, htp⟩⟩
  rw [← hspelled, ofChars]
  cases ofTrimmed? (trim cs) <;> simp

/-- **A text that spells no node is refused** as it is without the blanks at its ends. -/
theorem ofChars_eq_error_iff {e : RuleError} :
    ofChars cs = .error e ↔
      (∀ node : Node, ¬ Spells cs node) ∧ e = .invalidNode (String.ofList (trim cs)) := by
  simp only [← ofChars_eq_ok_iff]
  rw [ofChars]
  cases ofTrimmed? (trim cs) <;> simp [eq_comm]

/-- A printed node begins as its data source does. -/
theorem head?_print (h : node.dataSource ≠ "") :
    node.print.toList.head? = node.dataSource.toList.head? := by
  rw [toList_print, List.head?_append_of_ne_nil]
  rwa [Ne, String.toList_eq_nil_iff]

/-- A printed node ends as its table does. -/
theorem getLast?_print (h : node.table ≠ "") :
    node.print.toList.getLast? = node.table.toList.getLast? := by
  rw [toList_print, List.getLast?_append_of_ne_nil _ (List.cons_ne_nil _ _),
    ← List.singleton_append, List.getLast?_append_of_ne_nil]
  rwa [Ne, String.toList_eq_nil_iff]

/-- **Which nodes read back as printed, and how what was read is printed.**  A node is read back
exactly when its parts are not empty and hold no point, the data source does not begin with a blank
and the table does not end with one.  A text that is read is printed as it was, blanks at its ends
aside. -/
theorem parse_print :
    (∀ node : Node, parse node.print = .ok node ↔
      node.dataSource ≠ "" ∧ node.table ≠ "" ∧
        '.' ∉ node.dataSource.toList ∧ '.' ∉ node.table.toList ∧
        (∀ c ∈ node.dataSource.toList.head?, isBlank c = false) ∧
        ∀ c ∈ node.table.toList.getLast?, isBlank c = false) ∧
    ∀ text node, parse text = .ok node → node.print = trimmed text := by
  constructor
  · intro node
    rw [parse, ofChars_eq_ok_iff, Spells, trim_eq_self_iff]
    constructor
    · rintro ⟨⟨hhead, hlast⟩, hd, ht, hdp, htp⟩
      rw [head?_print hd] at hhead
      rw [getLast?_print ht] at hlast
      exact ⟨hd, ht, hdp, htp, hhead, hlast⟩
    · rintro ⟨hd, ht, hdp, htp, hhead, hlast⟩
      rw [head?_print hd, getLast?_print ht]
      exact ⟨⟨hhead, hlast⟩, hd, ht, hdp, htp⟩
  · intro text node h
    obtain ⟨htrim, -⟩ := ofChars_eq_ok_iff.1 h
    rw [trimmed, htrim, String.ofList_toList]

/-- Blanks around the point are part of the names, blanks at the ends are not. -/
theorem parse_print_blanks :
    parse (print ⟨"main ", " t_0"⟩) = .ok ⟨"main ", " t_0"⟩ ∧
      parse (print ⟨" main", "t_0"⟩) ≠ .ok ⟨" main", "t_0"⟩ ∧
      parse "\tmain.t_0 " = .ok ⟨"main", "t_0"⟩ ∧
      print ⟨"main", "t_0"⟩ = trimmed "\tmain.t_0 " := by
  obtain ⟨hback, hprint⟩ := parse_print
  refine ⟨(hback _).2 ⟨by decide, by decide, by decide, by decide, ?_, ?_⟩, fun h => ?_, rfl,
    hprint _ _ rfl⟩
  · rintro c ⟨⟩
    rfl
  · rintro c ⟨⟩
    rfl
  · obtain ⟨-, -, -, -, hhead, -⟩ := (hback _).1 h
    exact Bool.false_ne_true (hhead ' ' rfl).symm

/-- A character that a segment does not hold is not in the node as printed. -/
theorem Spells.not_mem_print {c : Char} (h : Spells cs node) (hc : c ∉ cs) :
    c ∉ node.print.toList := by
  rw [← h.1]
  exact fun hmem => hc ((trim_sublist cs).subset hmem)

/-- The printed node spells the node again, also after blanks. -/
theorem Spells.append_print {pad : List Char} (h : Spells cs node)
    (hpad : ∀ c ∈ pad, isBlank c = true) : Spells (pad ++ node.print.toList) node := by
  refine ⟨?_, h.2⟩
  rw [trim_append_left hpad, ← h.1, trim_trim]

end Node

/-! ### Inline table rules -/

namespace TableRule

variable {segs : List (List Char)} {nodes : List Node} {pad : List Char}

/-- Segments are read one after the other. -/
theorem readNodes_eq_mapM (segs : List (List Char)) : readNodes segs = segs.mapM Node.ofChars := by
  induction segs with
  | nil => rfl
  | cons segment rest ih =>
    rw [readNodes, List.mapM_cons, ← ih]
    rcases Node.ofChars segment with e | node
    · rfl
    · rcases readNodes rest with e | nodes <;> rfl

/-- **Segments are read to the nodes that they spell.** -/
theorem readNodes_eq_ok_iff : readNodes segs = .ok nodes ↔ List.Forall₂ Node.Spells segs nodes := by
  simp only [readNodes_eq_mapM, mapM_eq_ok_iff, Node.ofChars_eq_ok_iff]

/-- Segments are read exactly when each of them spells a node. -/
theorem exists_readNodes_iff :
    (∃ nodes, readNodes segs = .ok nodes) ↔ ∀ segment ∈ segs, ∃ node, Node.Spells segment node := by
  simp only [readNodes_eq_mapM, exists_mapM_iff, Node.ofChars_eq_ok_iff]

/-- **The first segment that spells no node is the error.** -/
theorem readNodes_eq_error_iff {e : RuleError} :
    readNodes segs = .error e ↔
      ∃ before segment after, segs = before ++ segment :: after ∧
        (∀ s ∈ before, ∃ node, Node.Spells s node) ∧ (∀ node, ¬ Node.Spells segment node) ∧
        e = .invalidNode (String.ofList (trim segment)) := by
  simp only [readNodes_eq_mapM, mapM_eq_error_iff, Node.ofChars_eq_ok_iff,
    Node.ofChars_eq_error_iff]

/-- A table rule is read when the segments of its text are. -/
theorem ofInline_eq_ok_iff {table text : String} {rule : TableRule} :
    ofInline table text = .ok rule ↔
      rule.table = table ∧ readNodes (segments text) = .ok rule.nodes := by
  rw [ofInline]
  obtain ⟨table', nodes⟩ := rule
  cases readNodes (segments text) <;> simp [eq_comm]

/-- A table rule fails as the segments of its text do. -/
theorem ofInline_eq_error_iff {table text : String} {e : RuleError} :
    ofInline table text = .error e ↔ readNodes (segments text) = .error e := by
  rw [ofInline]
  cases readNodes (segments text) <;> simp

/-! ### Between commas -/

/-- What stands before a join belongs to its first part. -/
theorem append_intercalate (sep pad l : List Char) (ls : List (List Char)) :
    pad ++ sep.intercalate (l :: ls) = sep.intercalate ((pad ++ l) :: ls) := by
  cases ls <;> simp [List.intercalate_cons_cons]

/-- A padded separator is a separator before padded parts. -/
theorem intercalate_append (sep pad l : List Char) (ls : List (List Char)) :
    (sep ++ pad).intercalate (l :: ls) = sep.intercalate (l :: ls.map (pad ++ ·)) := by
  induction ls generalizing l with
  | nil => simp
  | cons m ls ih =>
    rw [List.intercalate_cons_cons, ih, List.map_cons, List.intercalate_cons_cons,
      ← append_intercalate]
    simp

/-- Nodes printed between commas and blanks are split where they were joined. -/
theorem segments_intercalate {node : Node} {nodes : List Node} {pad : String}
    (hpad : ∀ c ∈ pad.toList, isBlank c = true)
    (hcomma : ∀ n ∈ node :: nodes, ',' ∉ n.print.toList) :
    segments (String.intercalate ("," ++ pad) ((node :: nodes).map Node.print)) =
      node.print.toList :: nodes.map fun n => pad.toList ++ n.print.toList := by
  obtain ⟨hfirst, hrest⟩ := List.forall_mem_cons.1 hcomma
  have hsplit : (String.intercalate ("," ++ pad) ((node :: nodes).map Node.print)).toList.splitOn
      ',' = node.print.toList :: nodes.map fun n => pad.toList ++ n.print.toList := by
    rw [String.toList_intercalate, String.toList_append, List.map_cons, List.map_cons,
      intercalate_append, List.map_map, List.map_map]
    refine List.splitOn_intercalate ',' (List.forall_mem_cons.2 ⟨hfirst, ?_⟩) (List.cons_ne_nil _ _)
    refine List.forall_mem_map.2 fun n hn => ?_
    rw [Function.comp_apply, Function.comp_apply, List.mem_append, not_or]
    exact ⟨fun hc => absurd (hpad ',' hc) (by decide), hrest n hn⟩
  -- A printed node is not blank, since it holds a point.
  have hpoint : ∀ l : List Char, ∀ n : Node, (l ++ n.print.toList).all isBlank = false :=
    fun l n => List.all_eq_false.2 ⟨'.', by simp, by decide⟩
  rw [segments, hsplit, List.filter_eq_self]
  refine List.forall_mem_cons.2 ⟨?_, List.forall_mem_map.2 fun n _ => ?_⟩
  · rw [← List.nil_append node.print.toList, hpoint]
    rfl
  · rw [hpoint]
    rfl

/-- A node that was read is spelled by one of the segments. -/
theorem exists_spells (h : readNodes segs = .ok nodes) {node : Node} (hnode : node ∈ nodes) :
    ∃ segment ∈ segs, Node.Spells segment node := by
  rw [readNodes_eq_mapM] at h
  obtain ⟨segment, hsegment, hok⟩ := exists_mem_of_mapM h hnode
  exact ⟨segment, hsegment, Node.ofChars_eq_ok_iff.1 hok⟩

/-- The segments of a text stand between commas and are not blank. -/
theorem mem_segments {text : String} {segment : List Char} :
    segment ∈ segments text ↔
      segment ∈ text.toList.splitOn ',' ∧ ∃ c ∈ segment, isBlank c = false := by
  simp [segments, List.mem_filter]

/-- **What was read reads back.**  The nodes of a text, printed between commas and blanks, are read
as the same nodes. -/
theorem readNodes_intercalate {text pad : String} (h : readNodes (segments text) = .ok nodes)
    (hpad : ∀ c ∈ pad.toList, isBlank c = true) :
    readNodes (segments (String.intercalate ("," ++ pad) (nodes.map Node.print))) = .ok nodes := by
  have hspelled : ∀ node ∈ nodes, ∃ segment, ',' ∉ segment ∧ Node.Spells segment node := by
    intro node hnode
    obtain ⟨segment, hsegment, hspells⟩ := exists_spells h hnode
    exact ⟨segment, Node.not_mem_of_mem_splitOn (mem_segments.1 hsegment).1, hspells⟩
  cases nodes with
  | nil => rfl
  | cons node nodes =>
    have hcomma : ∀ n ∈ node :: nodes, ',' ∉ n.print.toList := by
      intro n hn
      obtain ⟨segment, hsegment, hspells⟩ := hspelled n hn
      exact hspells.not_mem_print hsegment
    have hprinted : ∀ n ∈ node :: nodes, ∀ blanks : List Char,
        (∀ c ∈ blanks, isBlank c = true) → Node.Spells (blanks ++ n.print.toList) n := by
      intro n hn blanks hblanks
      obtain ⟨segment, -, hspells⟩ := hspelled n hn
      exact hspells.append_print hblanks
    rw [segments_intercalate hpad hcomma, readNodes_eq_ok_iff]
    refine .cons (hprinted node List.mem_cons_self [] (by simp)) ?_
    rw [List.forall₂_map_left_iff, List.forall₂_same]
    exact fun n hn => hprinted n (List.mem_cons_of_mem _ hn) pad.toList hpad

/-- **The inline form of table rules.**  A text is read exactly when each of its segments between
commas that is not blank spells a node; the nodes are then those that are spelled, in order, and
else the error is the first segment that spells none.  Whatever was read reads back: the nodes of
the rule, printed and joined by commas, with blanks after the commas or without, are read as the
same rule. -/
theorem ofInline_spelled (table text : String) :
    ((∃ rule, ofInline table text = .ok rule) ↔
      ∀ segment ∈ text.toList.splitOn ',', (∃ c ∈ segment, isBlank c = false) →
        ∃ node, Node.Spells segment node) ∧
    (∀ rule, ofInline table text = .ok rule ↔
      rule.table = table ∧ List.Forall₂ Node.Spells (segments text) rule.nodes) ∧
    (∀ e, ofInline table text = .error e ↔
      ∃ before segment after, segments text = before ++ segment :: after ∧
        (∀ s ∈ before, ∃ node, Node.Spells s node) ∧ (∀ node, ¬ Node.Spells segment node) ∧
        e = .invalidNode (String.ofList (trim segment))) ∧
    ∀ rule, ofInline table text = .ok rule → ∀ pad : String,
      (∀ c ∈ pad.toList, isBlank c = true) →
        ofInline table (String.intercalate ("," ++ pad) (rule.nodes.map Node.print)) =
          .ok rule := by
  refine ⟨?_, fun rule => ?_, fun e => ?_, fun rule hrule pad hpad => ?_⟩
  · have hread : (∃ rule, ofInline table text = .ok rule) ↔
        ∃ nodes, readNodes (segments text) = .ok nodes := by
      simp only [ofInline_eq_ok_iff]
      exact ⟨fun ⟨rule, _, h⟩ => ⟨rule.nodes, h⟩, fun ⟨nodes, h⟩ => ⟨⟨table, nodes⟩, rfl, h⟩⟩
    rw [hread, exists_readNodes_iff]
    simp only [mem_segments, and_imp]
  · rw [ofInline_eq_ok_iff, readNodes_eq_ok_iff]
  · rw [ofInline_eq_error_iff, readNodes_eq_error_iff]
  · obtain ⟨htable, hnodes⟩ := ofInline_eq_ok_iff.1 hrule
    exact ofInline_eq_ok_iff.2 ⟨htable, readNodes_intercalate hnodes hpad⟩

/-- Blank segments and blanks around the point do no harm; a segment without a point does. -/
theorem ofInline_spelled_orders :
    (∃ rule, ofInline "t_order" " main.t_0 ,, archive . t_1," = .ok rule ∧
      rule.nodes = [⟨"main", "t_0"⟩, ⟨"archive ", " t_1"⟩] ∧
      ofInline "t_order" "main.t_0, archive . t_1" = .ok rule) ∧
    ofInline "t_order" "main.t_0, , main , archive" = .error (.invalidNode "main") := by
  obtain ⟨-, -, -, hback⟩ := ofInline_spelled "t_order" " main.t_0 ,, archive . t_1,"
  obtain ⟨-, -, herror, -⟩ := ofInline_spelled "t_order" "main.t_0, , main , archive"
  refine ⟨⟨_, rfl, rfl, hback _ rfl " " (List.forall_mem_singleton.2 rfl)⟩, (herror _).2 ?_⟩
  refine ⟨["main.t_0".toList], " main ".toList, [" archive".toList], rfl, ?_, fun node h => ?_, rfl⟩
  · exact List.forall_mem_singleton.2 ⟨⟨"main", "t_0"⟩, Node.ofChars_eq_ok_iff.1 rfl⟩
  · have hok : Node.ofChars " main ".toList = .ok node := Node.ofChars_eq_ok_iff.2 h
    cases hok

end TableRule

end ShardProxy
