/-
This file holds signed integers of 64 bits as values: when an integer fits, and how words and
double-precision numbers become one another.
-/

import RecordQuery.Number.Arithmetic

namespace RecordQuery.Number

/-- The word that holds an integer, if there is one. -/
def wordOfInt? (value : Int) : Option Int64 :=
  if Int64.minValue.toInt ≤ value ∧ value ≤ Int64.maxValue.toInt then some (Int64.ofInt value)
  else none

/-- The double-precision number nearest to a word. -/
def wordToDouble (word : Int64) : Double :=
  Binary.ofInt word.toInt

/-- The word for a whole number. The numbers that count as in range are bounded by the doubles
nearest to the least and the greatest word. The upper of these is one more than the greatest word
and becomes that word. -/
def wordOfDouble? (number : Double) : Option Int64 :=
  let whole := number.truncated
  if number.isIntegral && -9223372036854775808 ≤ whole && whole ≤ 9223372036854775808 then
    some (Int64.ofInt (min whole Int64.maxValue.toInt))
  else none

end RecordQuery.Number
