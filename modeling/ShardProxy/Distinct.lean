/-
# First occurrences

Pools of read data sources, lists of touched tables and lists of data source
names all keep the first of several equal entries and drop the later ones.
`distinctBy same` does this for a test `same`, `distinct` for equality.  Both
keep the order of what stays.
-/

namespace ShardProxy

/-- The entries of a list without those that an earlier entry is the `same` as. -/
def distinctBy {α : Type} (same : α → α → Bool) : List α → List α
  | [] => []
  | a :: as => a :: (distinctBy same as).filter fun b => !same a b

/-- The entries of a list in order of first occurrence. -/
def distinct {α : Type} [DecidableEq α] (as : List α) : List α :=
  distinctBy (fun a b => decide (a = b)) as

/-- **Nothing is invented:** what stays was there. -/
theorem mem_of_mem_distinctBy {α : Type} {same : α → α → Bool} {x : α} :
    ∀ {as : List α}, x ∈ distinctBy same as → x ∈ as
  | [], h => h
  | a :: as, h => by
    rw [distinctBy, List.mem_cons, List.mem_filter] at h
    rcases h with rfl | ⟨h, _⟩
    · exact List.mem_cons_self
    · exact List.mem_cons_of_mem _ (mem_of_mem_distinctBy h)

/-- What stays is a subsequence, so the order is kept. -/
theorem distinctBy_sublist {α : Type} (same : α → α → Bool) :
    ∀ as : List α, List.Sublist (distinctBy same as) as
  | [] => List.Sublist.slnil
  | a :: as => (List.filter_sublist.trans (distinctBy_sublist same as)).cons_cons a

/-- Of two entries that stay, the earlier is not the `same` as the later. -/
theorem pairwise_distinctBy {α : Type} (same : α → α → Bool) :
    ∀ as : List α, (distinctBy same as).Pairwise fun a b => same a b = false
  | [] => List.Pairwise.nil
  | a :: as => by
    rw [distinctBy, List.pairwise_cons]
    refine ⟨fun b hb => ?_, (pairwise_distinctBy same as).sublist List.filter_sublist⟩
    simpa using (List.mem_filter.1 hb).2

/-- A list in which no entry is the `same` as an earlier one stays as it is. -/
theorem distinctBy_eq_self {α : Type} {same : α → α → Bool} :
    ∀ {as : List α}, (as.Pairwise fun a b => same a b = false) → distinctBy same as = as
  | [], _ => rfl
  | a :: as, h => by
    obtain ⟨ha, has⟩ := List.pairwise_cons.1 h
    rw [distinctBy, distinctBy_eq_self has, List.filter_eq_self.2 fun b hb => by simp [ha b hb]]

/-- **No entry is lost:** `distinct` keeps the members of a list. -/
@[simp] theorem mem_distinct {α : Type} [DecidableEq α] {x : α} {as : List α} :
    x ∈ distinct as ↔ x ∈ as := by
  refine ⟨mem_of_mem_distinctBy, fun h => ?_⟩
  induction as with
  | nil => exact h
  | cons a as ih =>
    rw [distinct, distinctBy, List.mem_cons, List.mem_filter]
    rcases List.mem_cons.1 h with rfl | h
    · exact Or.inl rfl
    · by_cases ha : x = a
      · exact Or.inl ha
      · exact Or.inr ⟨ih h, by simp [Ne.symm ha]⟩

/-- `distinct` repeats nothing. -/
theorem nodup_distinct {α : Type} [DecidableEq α] (as : List α) : (distinct as).Nodup :=
  (pairwise_distinctBy _ as).imp fun h => by simpa using h

/-- An entry at the end stays when it is new. -/
theorem distinct_append_singleton {α : Type} [DecidableEq α] (as : List α) (a : α) :
    distinct (as ++ [a]) = if a ∈ as then distinct as else distinct as ++ [a] := by
  induction as with
  | nil => simp [distinct, distinctBy]
  | cons b as ih =>
    have hcons : ∀ l : List α,
        distinct (b :: l) = b :: (distinct l).filter fun c => !decide (b = c) := fun _ => rfl
    rw [List.cons_append, hcons, hcons, ih]
    by_cases hmem : a ∈ as
    · simp [hmem]
    · rw [if_neg hmem, List.filter_append]
      by_cases hab : a = b
      · simp [hab]
      · simp [hmem, hab, Ne.symm hab]

/-- **The first entry that passes a test stays** when the test does not tell equal ones apart. -/
theorem find?_distinctBy {α : Type} {same : α → α → Bool} {p : α → Bool}
    (h : ∀ a b, same a b = true → p a = p b) : ∀ as : List α,
      (distinctBy same as).find? p = as.find? p
  | [] => rfl
  | a :: as => by
    rw [distinctBy, List.find?_cons, List.find?_cons]
    cases hp : p a with
    | true => rfl
    | false =>
      -- The entries that are dropped for `a` fail the test with it.
      have hfilter : ∀ b, decide ((!same a b) = true ∧ p b = true) = p b := by
        intro b
        cases hsame : same a b with
        | true => simp [← h a b hsame, hp]
        | false => simp
      rw [List.find?_filter]
      simp only [hfilter]
      exact find?_distinctBy h as

/-- A list with entries keeps at least its first. -/
theorem distinctBy_eq_nil_iff {α : Type} {same : α → α → Bool} {as : List α} :
    distinctBy same as = [] ↔ as = [] := by
  cases as <;> simp [distinctBy]

end ShardProxy
