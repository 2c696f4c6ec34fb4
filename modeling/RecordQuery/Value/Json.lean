/-
This file writes values as JSON text, without blanks.

Only one thing cannot be written: a date-time that RFC 3339 has no form for. The text of a value
that holds one anywhere breaks off in front of it, and such a value has no JSON text.
-/

import RecordQuery.Calendar.Rfc3339
import RecordQuery.Number.Layout
import RecordQuery.Value.Basic

namespace RecordQuery

open Number Calendar

namespace Json

/-- A number in four hexadecimal digits. -/
def fourHexDigits (value : Nat) : List Char :=
  let digits := Nat.toDigits 16 value
  List.replicate (4 - digits.length) '0' ++ digits

/-- A character as it stands between quotes. Only quotes, backslashes and control characters are
escaped. -/
def escapeChar (char : Char) : List Char :=
  match char with
  | '"' => ['\\', '"']
  | '\\' => ['\\', '\\']
  | '\x08' => ['\\', 'b']
  | '\x0c' => ['\\', 'f']
  | '\n' => ['\\', 'n']
  | '\r' => ['\\', 'r']
  | '\t' => ['\\', 't']
  | _ => if char.toNat < 0x20 then ['\\', 'u'] ++ fourHexDigits char.toNat else [char]

/-- A text in quotes. -/
def quote (text : String) : String :=
  String.ofList ('"' :: text.toList.flatMap escapeChar ++ ['"'])

/-- Numbers keep a point, and a leading digit far from the point gets an exponent. Of two equally
near decimals the one with the even last digit is written. What is not finite is null. -/
def layout (lowest highest : Int) : Layout where
  tie := .even
  positional := fun leading => lowest ≤ leading && leading ≤ highest
  wholeSuffix := ".0"
  notANumber := "null"
  infinity := fun _ => "null"

/-- The text form of double-precision numbers. -/
def doubleLayout : Layout := layout (-5) 15

/-- The text form of single-precision numbers. -/
def singleLayout : Layout := layout (-6) 12

/-- A text that is being written, and whether it is whole or broke off at its end. -/
structure Draft where
  text : String
  whole : Bool

namespace Draft

/-- A text that is whole. -/
def done (text : String) : Draft :=
  ⟨text, true⟩

/-- A text that breaks off before its first character. -/
def broken : Draft :=
  ⟨"", false⟩

/-- A text and what is written after it. Nothing is written after a break. -/
def followedBy (first second : Draft) : Draft :=
  if first.whole then ⟨first.text ++ second.text, second.whole⟩ else first

/-- The text, if it is whole. -/
def text? (draft : Draft) : Option String :=
  if draft.whole then some draft.text else none

/-- What is written in two parts is whole exactly if both parts are. -/
theorem whole_followedBy (first second : Draft) :
    (first.followedBy second).whole = (first.whole && second.whole) := by
  unfold followedBy
  split <;> simp_all

end Draft

end Json

namespace Value

open Json (Draft)

mutual

/-- The JSON text of a value, as far as it can be written. -/
def toDraft : Value → Draft
  | null => .done "null"
  | bool value => .done (if value then "true" else "false")
  | int value => .done (toString value.toInt)
  | float value => .done (Json.doubleLayout.write value)
  | text value => .done (Json.quote value)
  | date value => .done (Json.quote value.toText)
  | dateTime value =>
    match value.toRfc3339? with
    | some written => .done (Json.quote written)
    | none => .broken
  | uuid value => .done (Json.quote value.toText)
  | vector components =>
    .done ("[" ++ ",".intercalate (components.map Json.singleLayout.write) ++ "]")
  | list items => ((Draft.done "[").followedBy (itemsToDraft "" items)).followedBy (.done "]")
  | map fields =>
    ((Draft.done "\x7b").followedBy (fieldsToDraft "" fields)).followedBy (.done "\x7d")

/-- The JSON texts of the items of a list after a separator, with commas between them. -/
def itemsToDraft (separator : String) : List Value → Draft
  | [] => .done ""
  | item :: items =>
    ((Draft.done separator).followedBy item.toDraft).followedBy (itemsToDraft "," items)

/-- The JSON texts of the fields of a record after a separator, with commas between them. -/
def fieldsToDraft (separator : String) : List (String × Value) → Draft
  | [] => .done ""
  | (name, value) :: fields =>
    ((Draft.done (separator ++ Json.quote name ++ ":")).followedBy value.toDraft).followedBy
      (fieldsToDraft "," fields)

end

/-- The JSON text of a value, if it has one. -/
def toJson? (value : Value) : Option String :=
  value.toDraft.text?

end Value

end RecordQuery
