/-
# Reading lists up to the first failure

The segments of a text and the groups of a rule are read one after the other, and the first that
cannot be read ends the reading.  The library has this as `List.mapM` into `Except`; here it is said
what comes out, without the order in which things are done: all answers (`mapM_eq_ok_iff`), or the
failure of the first entry that has one (`mapM_eq_error_iff`).
-/

import Mathlib.Data.List.Forall2

namespace ShardProxy

variable {α β ε : Type} {f : α → Except ε β} {as : List α} {bs : List β} {e : ε}

/-- **A list is read to the answers of its entries.** -/
theorem mapM_eq_ok_iff : as.mapM f = .ok bs ↔ List.Forall₂ (fun a b => f a = .ok b) as bs := by
  induction as generalizing bs with
  | nil => simp [pure, Except.pure, eq_comm]
  | cons a as ih =>
    rw [List.mapM_cons, List.forall₂_cons_left_iff]
    simp only [← ih]
    rcases f a with e | b
    · simp [bind, Except.bind]
    · rcases as.mapM f with e | rest <;> simp [bind, Except.bind, pure, Except.pure, eq_comm]

/-- Each answer is that of an entry. -/
theorem exists_mem_of_mapM (h : as.mapM f = .ok bs) {b : β} (hb : b ∈ bs) :
    ∃ a ∈ as, f a = .ok b := by
  rw [mapM_eq_ok_iff] at h
  induction h with
  | nil => cases hb
  | cons hfirst hrest ih =>
    rcases List.mem_cons.1 hb with rfl | hb
    · exact ⟨_, List.mem_cons_self, hfirst⟩
    · obtain ⟨a, ha, hok⟩ := ih hb
      exact ⟨a, List.mem_cons_of_mem _ ha, hok⟩

/-- A list can be read when each of its entries can. -/
theorem exists_mapM_iff : (∃ bs, as.mapM f = .ok bs) ↔ ∀ a ∈ as, ∃ b, f a = .ok b := by
  simp only [mapM_eq_ok_iff]
  induction as with
  | nil => simp
  | cons a as ih =>
    rw [List.forall_mem_cons, ← ih]
    constructor
    · rintro ⟨bs, hbs⟩
      obtain ⟨b, rest, hb, hrest, -⟩ := List.forall₂_cons_left_iff.1 hbs
      exact ⟨⟨b, hb⟩, rest, hrest⟩
    · rintro ⟨⟨b, hb⟩, rest, hrest⟩
      exact ⟨b :: rest, .cons hb hrest⟩

/-- **A list fails with the failure of its first entry that has one.** -/
theorem mapM_eq_error_iff :
    as.mapM f = .error e ↔ ∃ before a after, as = before ++ a :: after ∧
      (∀ b ∈ before, ∃ c, f b = .ok c) ∧ f a = .error e := by
  constructor
  · intro h
    induction as with
    | nil => cases h
    | cons a as ih =>
      rw [List.mapM_cons] at h
      rcases ha : f a with e' | b <;> rw [ha] at h
      · obtain rfl : e' = e := Except.error.inj h
        exact ⟨[], a, as, rfl, List.forall_mem_nil _, ha⟩
      · rcases has : as.mapM f with e' | rest <;> rw [has] at h
        · obtain rfl : e' = e := Except.error.inj h
          obtain ⟨before, bad, after, rfl, hbefore, hbad⟩ := ih has
          exact ⟨a :: before, bad, after, rfl, List.forall_mem_cons.2 ⟨⟨b, ha⟩, hbefore⟩, hbad⟩
        · cases h
  · rintro ⟨before, a, after, rfl, hbefore, ha⟩
    obtain ⟨bs, hbs⟩ := exists_mapM_iff.2 hbefore
    rw [List.mapM_append, hbs, List.mapM_cons, ha]
    rfl

end ShardProxy
