/-
This file holds universally unique identifiers: numbers of 128 bits, their hyphenated text and the
forms in which they are read.
-/

import RecordQuery.Number.Power
import RecordQuery.Number.Radix

namespace RecordQuery

open Number

/-- A universally unique identifier. -/
structure Uuid where
  number : Nat
  number_lt : number < twoTo 128
deriving DecidableEq

namespace Uuid

/-- The identifier with the given number, without the bits that are too many. -/
def ofNat (number : Nat) : Uuid :=
  ⟨number % twoTo 128, Nat.mod_lt _ (twoTo_pos _)⟩

/-- Identifiers in the order of their numbers. -/
def order (left right : Uuid) : Ordering :=
  compare left.number right.number

/-- The thirty-two digits of an identifier. -/
def digits (uuid : Uuid) : List Char :=
  let significant := Nat.toDigits 16 uuid.number
  List.replicate (32 - significant.length) '0' ++ significant

/-- The digits in groups of 8, 4, 4, 4 and 12 with hyphens between them. -/
def hyphenate (digits : List Char) : List Char :=
  digits.take 8 ++ '-' :: (digits.drop 8).take 4 ++ '-' :: (digits.drop 12).take 4 ++
    '-' :: (digits.drop 16).take 4 ++ '-' :: digits.drop 20

/-- The text of an identifier. -/
def toText (uuid : Uuid) : String :=
  String.ofList (hyphenate uuid.digits)

/-- Reads exactly thirty-two digits. -/
def ofDigits? (text : List Char) : Option Uuid :=
  if text.length = 32 then (Radix.number? 16 text).map ofNat else none

/-- Reads the hyphenated form. -/
def ofHyphenated? (text : List Char) : Option Uuid :=
  let plain := text.take 8 ++ (text.drop 9).take 4 ++ (text.drop 14).take 4 ++
    (text.drop 19).take 4 ++ text.drop 24
  if text.length = 36 ∧ [8, 13, 18, 23].all (fun place => text[place]? == some '-') then
    ofDigits? plain
  else none

/-- Reads an identifier: thirty-two digits, the hyphenated form, that form in braces, or that form
after the words that name identifiers among uniform resource names. -/
def ofText? (text : List Char) : Option Uuid :=
  match text.length with
  | 32 => ofDigits? text
  | 36 => ofHyphenated? text
  | 38 =>
    if text.head? = some '\x7b' ∧ text.getLast? = some '\x7d' then
      ofHyphenated? ((text.drop 1).take 36)
    else none
  | 45 =>
    if String.ofList ((text.take 9).map Char.toLower) = "urn:uuid:" then
      ofHyphenated? (text.drop 9)
    else none
  | _ => none

end Uuid

end RecordQuery
