/-
This file reads digits in systems of up to sixteen digits. Letters may have either case.
-/

namespace RecordQuery.Number.Radix

/-- The value of a hexadecimal digit. -/
def hexDigit? (char : Char) : Option Nat :=
  if '0' ≤ char ∧ char ≤ '9' then some (char.toNat - '0'.toNat)
  else if 'a' ≤ char ∧ char ≤ 'f' then some (char.toNat - 'a'.toNat + 10)
  else if 'A' ≤ char ∧ char ≤ 'F' then some (char.toNat - 'A'.toNat + 10)
  else none

/-- The value of a digit of the system with the given number of digits. -/
def digit? (radix : Nat) (char : Char) : Option Nat :=
  (hexDigit? char).filter (· < radix)

/-- The number that some digits write. -/
def number? (radix : Nat) (digits : List Char) : Option Nat :=
  (digits.mapM (digit? radix)).map fun values =>
    values.foldl (fun number value => number * radix + value) 0

end RecordQuery.Number.Radix
