/-
This file holds the powers of two and of ten, by which binary formats and decimals are scaled.
-/

namespace RecordQuery.Number

/-- Two to the power of a natural number. -/
def twoTo (exponent : Nat) : Nat :=
  Nat.pow 2 exponent

/-- Ten to the power of a natural number. -/
def tenTo (exponent : Nat) : Nat :=
  Nat.pow 10 exponent

theorem twoTo_pos (exponent : Nat) : 0 < twoTo exponent :=
  Nat.two_pow_pos exponent

theorem twoTo_add (first second : Nat) : twoTo (first + second) = twoTo first * twoTo second :=
  Nat.pow_add 2 first second

theorem twoTo_succ (exponent : Nat) : twoTo (exponent + 1) = twoTo exponent * 2 :=
  rfl

theorem twoTo_lt_twoTo {smaller larger : Nat} (lt : smaller < larger) :
    twoTo smaller < twoTo larger :=
  Nat.pow_lt_pow_right (by decide) lt

end RecordQuery.Number
