/-
# Names compared without regard to the case of ASCII letters

Names of tables and of data source groups match when they are spelt alike once
`A` to `Z` are read as `a` to `z`.  No other letter is folded: `É` and `é` are
two names.  Being alike is equality of `lowered` spellings, so it is an
equivalence.
-/

namespace ShardProxy.Text

/-- The characters of a name with `A` to `Z` lowered. -/
def lowered (name : String) : List Char :=
  name.toList.map Char.toLower

/-- Whether two names differ at most in the case of ASCII letters. -/
def alike (a b : String) : Bool :=
  lowered a == lowered b

/-- Names are alike when they are equal in lower case. -/
theorem alike_iff {a b : String} : alike a b = true ↔ lowered a = lowered b := by
  simp [alike]

/-- A name is alike to itself. -/
@[simp] theorem alike_refl (a : String) : alike a a = true := alike_iff.2 rfl

/-- Being alike goes both ways. -/
theorem alike_comm (a b : String) : alike a b = alike b a := by
  rw [Bool.eq_iff_iff, alike_iff, alike_iff]
  exact eq_comm

/-- What is alike to an alike name is alike. -/
theorem alike_trans {a b c : String} (hab : alike a b = true) (hbc : alike b c = true) :
    alike a c = true :=
  alike_iff.2 ((alike_iff.1 hab).trans (alike_iff.1 hbc))

/-- Alike names are alike to the same names. -/
theorem alike_congr_left {a b : String} (h : alike a b = true) (c : String) :
    alike a c = alike b c := by
  rw [Bool.eq_iff_iff, alike_iff, alike_iff, alike_iff.1 h]

/-- Alike names are alike to the same names. -/
theorem alike_congr_right {a b : String} (h : alike a b = true) (c : String) :
    alike c a = alike c b := by
  rw [alike_comm c a, alike_comm c b, alike_congr_left h c]

end ShardProxy.Text
