/-
This file says what the numbers of a JSON document are worth.

Digits are gathered into a whole number of 64 bits. Digits before the point for which there is no
room raise the exponent, those behind it are dropped. A number with a point, an exponent or too many
digits is then scaled by a power of ten in one operation of double precision, or in several where
the power is beyond the format; it may so differ from the nearest double in its last places.
-/

import RecordQuery.Json.Document
import RecordQuery.Number.Arithmetic

namespace RecordQuery.Json

open Number

/-- What a number is worth. -/
inductive Numeric where
  | natural (value : Nat)
  /-- An integer below zero. -/
  | belowZero (value : Int)
  | float (value : Double)

/-- Gathers digits as long as the number stays within a limit. Gives the number and the digits
that are left. -/
def gather (limit : Nat) : Nat → List Char → Nat × List Char
  | gathered, [] => (gathered, [])
  | gathered, digit :: digits =>
    let next := gathered * 10 + (digit.toNat - '0'.toNat)
    if limit < next then (gathered, digit :: digits) else gather limit next digits

/-- The greatest number of 64 bits. -/
def greatestNatural : Nat := 18446744073709551615

/-- The greatest exponent that is told from an endless one. -/
def greatestExponent : Nat := 2147483647

/-- The greatest power of ten of double precision has this exponent. -/
def greatestPower : Nat := 308

/-- The double nearest to a power of ten. -/
def powerOfTen (exponent : Nat) : Double :=
  .ofDecimal false ⟨1, exponent⟩

/-- Divides by the greatest power of ten until the rest of the exponent is within reach. -/
def shrink : Nat → Double → Nat → Double
  | 0, number, _ => number
  | attempts + 1, number, exponent =>
    if exponent ≤ greatestPower then number / powerOfTen exponent
    else if number.isZero then number
    else shrink attempts (number / powerOfTen greatestPower) (exponent - greatestPower)

/-- A number times a power of ten, if it is finite. Three divisions take every number to zero. -/
def scale? (number : Double) (exponent : Int) : Option Double :=
  if 0 ≤ exponent then
    if number.isZero then some number
    else if (greatestPower : Int) < exponent then none
    else
      let scaled := number * powerOfTen exponent.toNat
      if scaled.isInfinite then none else some scaled
  else some (shrink 4 number exponent.natAbs)

namespace NumberText

/-- The digits of a number gathered: the significand, and the exponent they leave. -/
def significand (text : NumberText) : Nat × Int :=
  let (whole, crowded) := gather greatestNatural 0 text.whole
  let fraction := text.fraction.getD []
  let (gathered, dropped) := gather greatestNatural whole fraction
  (gathered, (crowded.length : Int) - ((fraction.length : Int) - dropped.length))

/-- The number with its sign. -/
def signed (text : NumberText) (number : Double) : Numeric :=
  .float (if text.negative then number.neg else number)

/-- What a number that has a point, an exponent or too many digits is worth, if it is finite. -/
def float? (text : NumberText) : Option Numeric :=
  let (gathered, exponent) := text.significand
  let number : Double := Binary.ofInt gathered
  match text.exponent with
  | none => (scale? number exponent).map text.signed
  | some (negative, digits) =>
    match gather greatestExponent 0 digits with
    | (written, []) =>
      let exponent := if negative then exponent - written else exponent + written
      (scale? number exponent).map text.signed
    | (_, _ :: _) =>
      if gathered ≠ 0 && !negative then none else some (text.signed Binary.zero)

/-- What a number is worth, if it is finite. An integer below zero that has no room in a signed
word, and a zero with a sign, are floats. -/
def value? (text : NumberText) : Option Numeric :=
  match text.fraction, text.exponent, gather greatestNatural 0 text.whole with
  | none, none, (gathered, []) =>
    if !text.negative then some (.natural gathered)
    else if gathered = 0 ∨ 9223372036854775808 < gathered then
      some (text.signed (Binary.ofInt gathered))
    else some (.belowZero (-gathered))
  | _, _, _ => text.float?

end NumberText

namespace Numeric

/-- A number in a binary format. Integers are rounded once, floats from double precision. -/
def toBinary {format : BinaryFormat} : Numeric → Binary format
  | natural value => Binary.ofInt value
  | belowZero value => Binary.ofInt value
  | float value => value.convert

/-- A number as an integer, if it is written as one. -/
def toInt? : Numeric → Option Int
  | natural value => some value
  | belowZero value => some value
  | float _ => none

end Numeric

end RecordQuery.Json
