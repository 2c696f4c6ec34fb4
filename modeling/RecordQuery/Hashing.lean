/-
This file holds what is fed to a hasher for a key.

A hasher is fed one datum after another and makes a word of them in the end. Which word that is
depends on the data and their order, and on nothing else. For a key it is fed the place of the key's
kind and then the key's value; for a composite key, the number of its parts and then the parts.

Dates, date-times and identifiers are fed in ways of their own, which are left open here.
-/

import RecordQuery.Key

namespace RecordQuery

open Number Calendar

namespace Hashing

/-- One datum that is fed to a hasher. -/
inductive Datum where
  | byte (value : UInt8)
  | half (value : Int32)
  | word (value : Int64)
  /-- The encoding of a number. -/
  | bits (value : UInt64)
  /-- The place of a kind among the kinds of keys. -/
  | place (value : Nat)
  /-- How many parts are fed next. -/
  | length (value : Nat)
  | text (value : String)
  | bytes (value : List UInt8)
deriving DecidableEq

/-- What is fed for dates, date-times and identifiers. -/
structure Feeds where
  date : Date → List Datum
  dateTime : DateTime → List Datum
  uuid : Uuid → List Datum

/-- Whether the same is fed for date-times that are the same instant. -/
def Feeds.GoByInstant (feeds : Feeds) : Prop :=
  ∀ left right : DateTime, left.sameInstant right = true →
    feeds.dateTime left = feeds.dateTime right

/-- A hasher, taken as the word that it makes of what it is fed. -/
abbrev Hasher :=
  List Datum → UInt64

/-- What is fed for a double: its encoding. -/
def decimalData (number : Double) : List Datum :=
  [.bits (UInt64.ofNat number.toBits)]

end Hashing

namespace Key

open Hashing

mutual

/-- What is fed for a key. -/
def data (feeds : Feeds) (key : Key) : List Datum :=
  .place key.kindRank ::
    match key with
    | null => []
    | bool value => [.byte value.toUInt8]
    | int value => [.word value]
    | decimal value => decimalData value
    | text value => [.text value]
    | date value => feeds.date value
    | dateTime value => feeds.dateTime value
    | uuid value => feeds.uuid value
    | composite items => .length items.length :: itemsData feeds items

/-- What is fed for some keys, one after another. -/
def itemsData (feeds : Feeds) : List Key → List Datum
  | [] => []
  | key :: keys => key.data feeds ++ itemsData feeds keys

end

/-- The hash of a key, by a hasher. -/
@[reducible] def hashable (feeds : Feeds) (hasher : Hasher) : Hashable Key where
  hash key := hasher (key.data feeds)

end Key

end RecordQuery
