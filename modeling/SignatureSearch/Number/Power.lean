/-!
# Powers

The powers by which decimal and binary numbers are scaled.  They grow by their base, and none of
them is zero, so a fraction may have one as its denominator.
-/

namespace SignatureSearch
namespace Number

/-- Two to some power. -/
def twoTo (exponent : Nat) : Nat :=
  Nat.pow 2 exponent

/-- Ten to some power. -/
def tenTo (exponent : Nat) : Nat :=
  Nat.pow 10 exponent

theorem twoTo_succ (exponent : Nat) : twoTo (exponent + 1) = twoTo exponent * 2 := rfl

theorem twoTo_pos (exponent : Nat) : 0 < twoTo exponent := by
  induction exponent with
  | zero => exact Nat.one_pos
  | succ exponent ih =>
      rw [twoTo_succ]
      exact Nat.mul_pos ih (by decide)

end Number
end SignatureSearch
