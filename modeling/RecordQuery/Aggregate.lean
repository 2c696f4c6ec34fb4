/-
This file sums and averages a numeric field over records.

The result may be a word of 32 or 64 bits or a number of single or double precision. Nulls and
fields out of reach are passed over. A sum is formed in the type of the result and fails as soon
as it leaves it; an average is formed in double precision.
-/

import RecordQuery.Predicate.Condition

namespace RecordQuery

open Number

/-- The types that a numeric field can be folded into. -/
class Numeric (Total : Type) where
  zero : Total
  /-- Whether fields of a kind can be folded without loss of meaning. -/
  accepts : Kind → Bool
  /-- The number of a value, if it is one of the type. -/
  ofValue? : Value → Option Total
  /-- The sum of two numbers, if it is one of the type. -/
  add? : Total → Total → Option Total
  /-- The number of the type for a finite average. -/
  ofDouble : Double → Total

/-- The integer nearest to a whole number in a range. -/
def clampInt (low high value : Int) : Int :=
  max low (min high value)

/-- Whether an integer lies in a range. -/
def inRange (low high value : Int) : Bool :=
  low ≤ value && value ≤ high

/-- Whole numbers of 32 bits. Averages lose their fraction and are held to the range. -/
instance : Numeric Int32 where
  zero := 0
  accepts kind := kind = .int
  ofValue?
    | .int value =>
      if inRange Int32.minValue.toInt Int32.maxValue.toInt value.toInt then
        some (Int32.ofInt value.toInt)
      else none
    | _ => none
  add? left right :=
    let sum := left.toInt + right.toInt
    if inRange Int32.minValue.toInt Int32.maxValue.toInt sum then some (Int32.ofInt sum) else none
  ofDouble mean := Int32.ofInt (clampInt Int32.minValue.toInt Int32.maxValue.toInt mean.truncated)

/-- Whole numbers of 64 bits. Averages lose their fraction and are held to the range. -/
instance : Numeric Int64 where
  zero := 0
  accepts kind := kind = .int
  ofValue?
    | .int value => some value
    | _ => none
  add? left right := wordOfInt? (left.toInt + right.toInt)
  ofDouble mean := Int64.ofInt (clampInt Int64.minValue.toInt Int64.maxValue.toInt mean.truncated)

/-- Binary numbers of any format take every numeric field. A sum must stay finite. -/
instance {format : BinaryFormat} : Numeric (Binary format) where
  zero := Binary.zero
  accepts := Kind.isNumeric
  ofValue? value := value.number?.map Binary.convert
  add? left right :=
    let sum := left + right
    if sum.isFinite then some sum else none
  ofDouble := Binary.convert

namespace Aggregate

/-- The path to a field that can be folded into a type of totals. -/
def numericPath (Total : Type) [Numeric Total] (schema : Schema) (path : String) :
    Except QueryError Path :=
  schema.resolveSuited path (Numeric.accepts Total) .notNumeric

/-- What a path reads as, if that is a value and not null. -/
def leaf? (path : Path) (record : Record) : Option Value :=
  match path.read record with
  | .value .null => none
  | .value value => some value
  | _ => none

/-- The fault of a value that is not of the kind its field is registered with. -/
def mismatch (path : Path) (value : Value) : EvaluationError :=
  .kindMismatch path.toText path.kind value.kindName

/-- The number of a value. A value of the registered kind that is no number of the type is too
large for it. -/
def numberOf {Total : Type} [Numeric Total] (path : Path) (value : Value) :
    Except EvaluationError Total :=
  match Numeric.ofValue? value with
  | some number => .ok number
  | none =>
    if value.kindName = path.kind.toText then .error (.overflow path.toText)
    else .error (mismatch path value)

/-- Adds the numbers of some records to a total. -/
def sumFrom {Total : Type} [Numeric Total] (path : Path) :
    Total → List Record → Except EvaluationError Total
  | total, [] => .ok total
  | total, record :: records =>
    match leaf? path record with
    | none => sumFrom path total records
    | some value =>
      match numberOf path value with
      | .error error => .error error
      | .ok number =>
        match Numeric.add? total number with
        | some total => sumFrom path total records
        | none => .error (.overflow path.toText)

/-- The sum of a field over some records; that over none is zero. -/
def sum {Total : Type} [Numeric Total] (path : Path) (records : List Record) :
    Except EvaluationError Total :=
  sumFrom path Numeric.zero records

/-- A sum in double precision and how many numbers went into it. -/
structure Running where
  total : Double := 0
  count : Nat := 0

/-- Adds the numbers of some records to a running sum. -/
def runFrom (path : Path) : Running → List Record → Except EvaluationError Running
  | running, [] => .ok running
  | running, record :: records =>
    match leaf? path record with
    | none => runFrom path running records
    | some value =>
      match value.number? with
      | none => .error (mismatch path value)
      | some number => runFrom path ⟨running.total + number, running.count + 1⟩ records

/-- The average of a field over some records, if there is a number among them. -/
def average {Total : Type} [Numeric Total] (path : Path) (records : List Record) :
    Except EvaluationError (Option Total) :=
  match runFrom path {} records with
  | .error error => .error error
  | .ok running =>
    if running.count = 0 then .ok none
    else
      let mean := running.total / Binary.ofInt running.count
      if mean.isFinite then .ok (some (Numeric.ofDouble mean))
      else .error (.overflow path.toText)

end Aggregate

end RecordQuery
