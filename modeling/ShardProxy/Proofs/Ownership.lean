/-
# Who owns an index

A statement that names indexes and no table goes where the owners of the indexes are.  The owner
of an index is the first table that has it (`Schema.owner?_eq_some_iff`), and what a table has is
what its latest registration says: calls about other tables leave it alone, and a call about
the table leaves nothing of what was said before (`Registry.registered_concat`).  A snapshot shows
the schema as the calls before it have made it, whatever comes after
(`Registry.getElem?_snapshots`).

Routing knows the owners only.  So after any history of a registry such a statement is routed like
one that names the owners, and like one that touches no table if there is none
(`Registry.plan_of_history`).
-/

import ShardProxy.Proofs.Routing.TableOrder
import ShardProxy.Proofs.Routing.Coverage
import ShardProxy.Registry

namespace ShardProxy

/-! ### What a schema says -/

namespace Schema

variable {schema : Schema} {table other index : String}

/-- A table is registered with an index. -/
def Has (schema : Schema) (table index : String) : Prop :=
  ∃ indexes, schema.indexes? table = some indexes ∧ index ∈ indexes

/-- An entry is the only one for its table. -/
theorem find?_entry {es : List TableEntry} (h : Ascending es) {e : TableEntry} (he : e ∈ es) :
    es.find? (·.table == e.table) = some e := by
  induction es with
  | nil => cases he
  | cons first es ih =>
    obtain ⟨hhead, htail⟩ := List.pairwise_cons.1 h
    rcases List.mem_cons.1 he with rfl | he
    · simp
    · have hne : first.table ≠ e.table := fun heq => String.lt_irrefl _ (heq ▸ hhead e he)
      rw [List.find?_cons_of_neg (by simpa using hne)]
      exact ih htail he

/-- A table has what its entry says. -/
theorem has_iff :
    schema.Has table index ↔ ∃ e ∈ schema.entries, e.table = table ∧ index ∈ e.indexes := by
  constructor
  · rintro ⟨indexes, hindexes, hmem⟩
    obtain ⟨e, he, rfl⟩ := Option.map_eq_some_iff.1 hindexes
    exact ⟨e, List.mem_of_find?_eq_some he, by simpa using List.find?_some he, hmem⟩
  · rintro ⟨e, he, rfl, hmem⟩
    refine ⟨e.indexes, ?_, hmem⟩
    rw [indexes?, find?_entry schema.ascending he]
    rfl

/-- **A registration replaces the indexes of its table** and leaves other tables alone. -/
theorem has_register {indexes : List String} :
    (schema.register other indexes).Has table index ↔
      table = other ∧ index ∈ indexes ∨ table ≠ other ∧ schema.Has table index := by
  rw [Has, Has, indexes?_register]
  by_cases htable : table = other
  · simp [htable]
  · simp [htable]

/-- **A table that is dropped has no index,** and other tables are left alone. -/
theorem has_unregister :
    (schema.unregister other).Has table index ↔ table ≠ other ∧ schema.Has table index := by
  rw [Has, Has, indexes?_unregister]
  by_cases htable : table = other
  · simp [htable]
  · simp [htable]

/-- The owner of an index has it and comes before all others that have it. -/
theorem le_of_owner? (h : schema.owner? index = some table) :
    schema.Has table index ∧ ∀ other, schema.Has other index → table ≤ other := by
  obtain ⟨e, hfind, rfl⟩ := Option.map_eq_some_iff.1 h
  obtain ⟨hmem, before, after, hentries, hbefore⟩ := List.find?_eq_some_iff_append.1 hfind
  rw [List.contains_iff_mem] at hmem
  have he : e ∈ schema.entries := by simp [hentries]
  refine ⟨has_iff.2 ⟨e, he, rfl, hmem⟩, fun other hother => ?_⟩
  obtain ⟨u, hu, rfl, huindex⟩ := has_iff.1 hother
  have hascending := schema.ascending
  rw [hentries] at hu hascending
  rcases List.mem_append.1 hu with hu | hu
  · exact absurd huindex (by simpa using hbefore u hu)
  · rcases List.mem_cons.1 hu with rfl | hu
    · exact String.le_refl _
    · have hrest := (List.pairwise_append.1 hascending).2.1
      have hlt := (List.pairwise_cons.1 hrest).1 u hu
      exact String.not_lt.1 fun hgt => String.lt_irrefl _ (String.lt_trans hlt hgt)

/-- **The owner of an index is the smallest table that has it.** -/
theorem owner?_eq_some_iff : schema.owner? index = some table ↔
    schema.Has table index ∧ ∀ other, schema.Has other index → table ≤ other := by
  refine ⟨le_of_owner?, ?_⟩
  rintro ⟨hhas, hleast⟩
  cases howner : schema.owner? index with
  | none =>
    obtain ⟨e, he, -, hmem⟩ := has_iff.1 hhas
    have hnone := List.find?_eq_none.1 (Option.map_eq_none_iff.1 howner) e he
    exact absurd hmem (by simpa using hnone)
  | some first =>
    obtain ⟨hfirst, hbefore⟩ := le_of_owner? howner
    rw [String.le_antisymm (hbefore table hhas) (hleast first hfirst)]

end Schema

namespace Registry

variable {initial : Schema} {calls : List Call} {call : Call} {table index : String}
  {indexes : List String}

/-! ### The latest registration -/

/-- The table that a call is about. -/
def Call.table? : Call → Option String
  | register table _ => some table
  | unregister table => some table
  | snapshot => none

/-- After some calls a table is registered with indexes: the last call about the table registers it
with them, or no call is about it and the schema had it with them before. -/
def Registered (initial : Schema) (calls : List Call) (table : String) (indexes : List String) :
    Prop :=
  (∃ before after, calls = before ++ .register table indexes :: after ∧
    ∀ call ∈ after, call.table? ≠ some table) ∨
  initial.indexes? table = some indexes ∧ ∀ call ∈ calls, call.table? ≠ some table

/-- After some calls the latest registration of a table contains an index. -/
def HasAfter (initial : Schema) (calls : List Call) (table index : String) : Prop :=
  ∃ indexes, Registered initial calls table indexes ∧ index ∈ indexes

/-- **The last call decides about its table** and about no other. -/
theorem registered_concat : Registered initial (calls ++ [call]) table indexes ↔
    call = .register table indexes ∨
      call.table? ≠ some table ∧ Registered initial calls table indexes := by
  constructor
  · rintro (⟨before, after, hcalls, hafter⟩ | ⟨hinitial, hnone⟩)
    · rcases List.eq_nil_or_concat after with rfl | ⟨after, last, rfl⟩
      · obtain ⟨-, hlast⟩ := List.append_inj' hcalls rfl
        exact Or.inl (List.cons.inj hlast).1
      · rw [List.concat_eq_append, ← List.cons_append, ← List.append_assoc] at hcalls
        obtain ⟨rfl, hlast⟩ := List.append_inj' hcalls rfl
        obtain rfl := (List.cons.inj hlast).1
        refine Or.inr ⟨hafter _ (by simp), Or.inl ⟨before, after, rfl, fun c hc => ?_⟩⟩
        exact hafter c (by simp [hc])
    · exact Or.inr ⟨hnone call (by simp), Or.inr ⟨hinitial, fun c hc => hnone c (by simp [hc])⟩⟩
  · rintro (rfl | ⟨hcall, ⟨before, after, rfl, hafter⟩ | ⟨hinitial, hnone⟩⟩)
    · exact Or.inl ⟨calls, [], rfl, by simp⟩
    · refine Or.inl ⟨before, after ++ [call], by simp, fun c hc => ?_⟩
      rcases List.mem_append.1 hc with hc | hc
      · exact hafter c hc
      · exact List.mem_singleton.1 hc ▸ hcall
    · refine Or.inr ⟨hinitial, fun c hc => ?_⟩
      rcases List.mem_append.1 hc with hc | hc
      · exact hnone c hc
      · exact List.mem_singleton.1 hc ▸ hcall

/-- What one more call leaves of the indexes of a table. -/
theorem hasAfter_concat : HasAfter initial (calls ++ [call]) table index ↔
    (∃ indexes, call = .register table indexes ∧ index ∈ indexes) ∨
      call.table? ≠ some table ∧ HasAfter initial calls table index := by
  simp only [HasAfter, registered_concat, or_and_right, exists_or, and_assoc, exists_and_left]

/-- **A registry has what the latest registrations say.** -/
theorem has_performAll : ((ofSchema initial).performAll calls).schema.Has table index ↔
    HasAfter initial calls table index := by
  induction calls using List.reverseRecOn with
  | nil => simp [HasAfter, Registered, Schema.Has, performAll, ofSchema]
  | append_singleton calls call ih =>
    rw [performAll_concat, hasAfter_concat, ← ih]
    cases call with
    | register other indexes =>
      rw [perform, Schema.has_register]
      simp [Call.table?, eq_comm, and_comm]
    | unregister other =>
      rw [perform, Schema.has_unregister]
      simp [Call.table?, eq_comm]
    | snapshot => simp [perform, Call.table?]

/-! ### Snapshots -/

/-- A call keeps the snapshots that have been taken. -/
theorem prefix_snapshots_perform (registry : Registry) (call : Call) :
    List.IsPrefix registry.snapshots (registry.perform call).snapshots := by
  cases call with
  | snapshot => exact List.prefix_append _ _
  | _ => exact List.prefix_refl _

/-- Calls keep the snapshots that have been taken. -/
theorem prefix_snapshots_performAll (registry : Registry) (calls : List Call) :
    List.IsPrefix registry.snapshots (registry.performAll calls).snapshots := by
  induction calls generalizing registry with
  | nil => exact List.prefix_refl _
  | cons call calls ih => exact (prefix_snapshots_perform registry call).trans (ih _)

/-- There are as many snapshots as calls that take one. -/
theorem length_snapshots_performAll (registry : Registry) (calls : List Call) :
    (registry.performAll calls).snapshots.length =
      registry.snapshots.length + calls.count .snapshot := by
  induction calls generalizing registry with
  | nil => rfl
  | cons call calls ih =>
    have hcons : registry.performAll (call :: calls) = (registry.perform call).performAll calls :=
      rfl
    rw [hcons, ih]
    cases call with
    | snapshot =>
      rw [perform, List.length_append, List.count_cons_self, List.length_singleton]
      omega
    | _ => simp [perform]

/-- **A snapshot shows the schema as it was when it was taken.** -/
theorem getElem?_snapshots (earlier later : List Call) :
    ((ofSchema initial).performAll (earlier ++ .snapshot :: later)).snapshots[
        earlier.count .snapshot]? =
      some ((ofSchema initial).performAll earlier).schema := by
  have hrun : (ofSchema initial).performAll (earlier ++ .snapshot :: later) =
      (((ofSchema initial).performAll earlier).perform .snapshot).performAll later := by
    rw [performAll, List.foldl_append]
    rfl
  have hlength : ((ofSchema initial).performAll earlier).snapshots.length =
      earlier.count .snapshot := by
    rw [length_snapshots_performAll, ofSchema, List.length_nil, Nat.zero_add]
  obtain ⟨rest, hrest⟩ := prefix_snapshots_performAll
    (((ofSchema initial).performAll earlier).perform .snapshot) later
  rw [hrun, ← hrest, perform, ← hlength]
  simp

/-! ### Routing by owners -/

/-- **After any history of a registry an index belongs to the smallest table whose latest
registration contains it, and a statement that names indexes is routed like one that names their
owners.**  Each snapshot of the history still shows what the calls before it had made.  The owners
stand in the order of the indexes, and indexes without an owner are left out.  If no index has an
owner, and only then, the route is that of a statement that touches no table. -/
theorem plan_of_history (sharding : Sharding) (initial : Schema) (calls : List Call)
    {statement : Statement} (htables : statement.tables = []) :
    let registry := (ofSchema initial).performAll calls
    (∀ index table, registry.schema.owner? index = some table ↔
      HasAfter initial calls table index ∧
        ∀ other, HasAfter initial calls other index → table ≤ other) ∧
    (∀ earlier later, calls = earlier ++ .snapshot :: later →
      registry.snapshots[earlier.count .snapshot]? =
        some ((ofSchema initial).performAll earlier).schema) ∧
    (∀ named : Statement, named.tables = statement.indexes.filterMap registry.schema.owner? →
      (named.tables = [] → named.indexes = []) → ∀ lookup,
      sharding.plan statement registry.schema.owner? = sharding.plan named lookup) ∧
    (sharding.plan statement registry.schema.owner? = .ok ⟨sharding.untargeted⟩ ↔
      ∀ index ∈ statement.indexes, registry.schema.owner? index = none) := by
  intro registry
  have hnames : statement.namedTables registry.schema.owner? =
      statement.indexes.filterMap registry.schema.owner? := by
    rw [Statement.namedTables, if_pos htables]
  refine ⟨fun index table => ?_, ?_, fun named howners hbare lookup => ?_, ?_⟩
  · rw [Schema.owner?_eq_some_iff]
    simp only [registry, has_performAll]
  · rintro earlier later rfl
    exact getElem?_snapshots earlier later
  · refine Sharding.plan_congr ?_
    rw [Statement.touchedTables, Statement.touchedTables, hnames, ← howners, Statement.namedTables]
    split
    · next hnil => rw [hnil, hbare hnil, List.filterMap_nil]
    · rfl
  · rw [Sharding.plan_eq_untargeted_iff, Statement.touchedTables, distinctBy_eq_nil_iff, hnames,
      List.filterMap_eq_nil_iff]

/-- The schema of a shop that knows its countries. -/
def shopSchema : Schema :=
  Schema.ofList [("country", ["by_code"])]

/-- Orders come under two spellings, get other indexes, and the countries go. -/
def shopCalls : List Call :=
  [.register "t_order" ["by_day"], .snapshot, .register "T_Order" ["by_user"],
    .register "t_order" ["by_user", "by_name"], .unregister "country"]

/-- In the end `by_user` belongs to `T_Order`, which comes before `t_order`, and neither `by_day`
nor `by_code` to any table, though the snapshot still has an owner of `by_day`. -/
theorem plan_of_history_shop :
    let registry := (ofSchema shopSchema).performAll shopCalls
    HasAfter shopSchema shopCalls "T_Order" "by_user" ∧
      (∀ other, HasAfter shopSchema shopCalls other "by_user" → "T_Order" ≤ other) ∧
      (registry.snapshots[0]?.bind fun snapshot => snapshot.owner? "by_day") = some "t_order" ∧
      Sharding.shop.plan (.dropIndex ["by_name", "by_day", "by_user"]) registry.schema.owner? =
        Sharding.shop.plan (.select ["t_order", "T_Order"]) (fun _ => none) ∧
      Sharding.shop.plan (.dropIndex ["by_day", "by_code"]) registry.schema.owner? =
        .ok ⟨Sharding.shop.untargeted⟩ := by
  intro registry
  obtain ⟨howner, hsnapshots, hnamed, -⟩ := @plan_of_history Sharding.shop shopSchema shopCalls
    (.dropIndex ["by_name", "by_day", "by_user"]) rfl
  obtain ⟨-, -, -, hbare⟩ := @plan_of_history Sharding.shop shopSchema shopCalls
    (.dropIndex ["by_day", "by_code"]) rfl
  obtain ⟨hhas, hleast⟩ := (howner "by_user" "T_Order").1 (by decide)
  refine ⟨hhas, hleast, ?_, hnamed (.select ["t_order", "T_Order"]) (by decide) (by decide) _,
    hbare.2 (by decide)⟩
  have hsnapshot := hsnapshots [.register "t_order" ["by_day"]] _ rfl
  rw [show registry.snapshots[0]? = _ from hsnapshot]
  decide

end Registry

end ShardProxy
