/-
This file reads JSON documents.

A document keeps numbers as they are written, and of a text it keeps whether it is one at all: an
escape may name half of a character outside the basic plane and leave out the other half. What
such a number or text is worth is decided only by those who use it, so that the parts of a document
that nobody uses need not be worth anything.
-/

import RecordQuery.Number.Numeral
import RecordQuery.Number.Radix

namespace RecordQuery.Json

/-- A number as it is written. -/
structure NumberText where
  negative : Bool
  whole : List Char
  /-- The digits behind the point, if there is a point. -/
  fraction : Option (List Char)
  /-- Whether the exponent is negative, and its digits, if there is an exponent. -/
  exponent : Option (Bool × List Char)

/-- A JSON document. A text is missing if half a character stands alone in it. -/
inductive Document where
  | null
  | bool (value : Bool)
  | number (text : NumberText)
  | text (content : Option String)
  | array (items : List Document)
  | object (members : List (Option String × Document))

/-! ### Blanks and numbers -/

/-- Whether a character may stand between the parts of a document. -/
def isBlank (char : Char) : Bool :=
  char = ' ' || char = '\n' || char = '\t' || char = '\r'

/-- A text without the blanks it starts with. -/
def skipBlanks (text : List Char) : List Char :=
  text.dropWhile isBlank

/-- Reads digits, at least one. -/
def readDigits? (text : List Char) : Option (List Char × List Char) :=
  let (digits, rest) := Number.Numeral.spanDigits text
  if digits.isEmpty then none else some (digits, rest)

/-- Reads the digits before the point. Only a zero that stands alone may come first. -/
def readWhole? (text : List Char) : Option (List Char × List Char) :=
  match readDigits? text with
  | some ('0' :: _ :: _, _) => none
  | result => result

/-- Reads a point and the digits behind it, if there is a point. -/
def readFraction? : List Char → Option (Option (List Char) × List Char)
  | '.' :: text => (readDigits? text).map fun (digits, rest) => (some digits, rest)
  | text => some (none, text)

/-- Reads an exponent, if there is one. -/
def readExponent? : List Char → Option (Option (Bool × List Char) × List Char)
  | mark :: text =>
    if mark = 'e' || mark = 'E' then
      let (negative, unsigned) := Number.Numeral.splitSign text
      (readDigits? unsigned).map fun (digits, rest) => (some (negative, digits), rest)
    else some (none, mark :: text)
  | [] => some (none, [])

/-- Reads a number. -/
def readNumber? (text : List Char) : Option (NumberText × List Char) := do
  let (negative, unsigned) := match text with
    | '-' :: rest => (true, rest)
    | _ => (false, text)
  let (whole, rest) ← readWhole? unsigned
  let (fraction, rest) ← readFraction? rest
  let (exponent, rest) ← readExponent? rest
  return (⟨negative, whole, fraction, exponent⟩, rest)

/-! ### Texts -/

/-- A piece of a text between quotes: a character, or a unit of sixteen bits from an escape. -/
inductive Piece where
  | char (char : Char)
  | unit (number : Nat)

/-- The character that a backslash and a letter stand for. -/
def unescape? : Char → Option Char
  | '"' => some '"'
  | '\\' => some '\\'
  | '/' => some '/'
  | 'b' => some '\x08'
  | 'f' => some '\x0c'
  | 'n' => some '\n'
  | 'r' => some '\r'
  | 't' => some '\t'
  | _ => none

/-- Reads pieces up to the closing quote. Control characters must be escaped. -/
def readPieces? : List Char → Option (List Piece × List Char)
  | [] => none
  | '"' :: rest => some ([], rest)
  | '\\' :: 'u' :: first :: second :: third :: fourth :: rest =>
    match Number.Radix.number? 16 [first, second, third, fourth], readPieces? rest with
    | some unit, some (pieces, rest) => some (.unit unit :: pieces, rest)
    | _, _ => none
  | '\\' :: letter :: rest =>
    match unescape? letter, readPieces? rest with
    | some char, some (pieces, rest) => some (.char char :: pieces, rest)
    | _, _ => none
  | char :: rest =>
    if char.toNat < 0x20 || char = '\\' then none
    else (readPieces? rest).map fun (pieces, rest) => (.char char :: pieces, rest)

/-- Whether a unit is the first half of a character outside the basic plane. -/
def isLeading (unit : Nat) : Bool :=
  0xd800 ≤ unit && unit < 0xdc00

/-- Whether a unit is the second half of a character outside the basic plane. -/
def isTrailing (unit : Nat) : Bool :=
  0xdc00 ≤ unit && unit < 0xe000

/-- The characters of some pieces, if no half of a character stands alone. -/
def joinPieces? : List Piece → Option (List Char)
  | [] => some []
  | .char char :: rest => (joinPieces? rest).map (char :: ·)
  | .unit first :: .unit second :: rest =>
    if isLeading first && isTrailing second then
      let code := 0x10000 + (first - 0xd800) * 0x400 + (second - 0xdc00)
      (joinPieces? rest).map (Char.ofNat code :: ·)
    else if isLeading first || isTrailing first then none
    else (joinPieces? (.unit second :: rest)).map (Char.ofNat first :: ·)
  | .unit unit :: rest =>
    if isLeading unit || isTrailing unit then none
    else (joinPieces? rest).map (Char.ofNat unit :: ·)

/-- Reads a text after its opening quote. -/
def readText? (text : List Char) : Option (Option String × List Char) :=
  (readPieces? text).map fun (pieces, rest) => ((joinPieces? pieces).map String.ofList, rest)

/-! ### Documents -/

/-- Reads a word that is expected. -/
def readWord? (word : List Char) (document : Document) (text : List Char) :
    Option (Document × List Char) :=
  if word.isPrefixOf text then some (document, text.drop word.length) else none

mutual

/-- Reads a document at the start of a text without blanks in front. Every call and every part of
a list takes one unit of fuel. -/
def readDocument? : Nat → List Char → Option (Document × List Char)
  | 0, _ => none
  | fuel + 1, text =>
    match text with
    | 'n' :: _ => readWord? "null".toList .null text
    | 't' :: _ => readWord? "true".toList (.bool true) text
    | 'f' :: _ => readWord? "false".toList (.bool false) text
    | '"' :: rest => (readText? rest).map fun (content, rest) => (.text content, rest)
    | '[' :: rest =>
      match skipBlanks rest with
      | ']' :: rest => some (.array [], rest)
      | rest => (readItems? fuel rest).map fun (items, rest) => (.array items, rest)
    | '\x7b' :: rest =>
      match skipBlanks rest with
      | '\x7d' :: rest => some (.object [], rest)
      | rest => (readMembers? fuel rest).map fun (members, rest) => (.object members, rest)
    | _ => (readNumber? text).map fun (number, rest) => (.number number, rest)

/-- Reads the items of an array up to its end. -/
def readItems? : Nat → List Char → Option (List Document × List Char)
  | 0, _ => none
  | fuel + 1, text =>
    match readDocument? fuel text with
    | none => none
    | some (item, rest) =>
      match skipBlanks rest with
      | ']' :: rest => some ([item], rest)
      | ',' :: rest =>
        (readItems? fuel (skipBlanks rest)).map fun (items, rest) => (item :: items, rest)
      | _ => none

/-- Reads the members of an object up to its end. -/
def readMembers? : Nat → List Char → Option (List (Option String × Document) × List Char)
  | 0, _ => none
  | fuel + 1, text =>
    match text with
    | '"' :: rest =>
      match readText? rest with
      | none => none
      | some (name, rest) =>
        match skipBlanks rest with
        | ':' :: rest =>
          match readDocument? fuel (skipBlanks rest) with
          | none => none
          | some (document, rest) =>
            match skipBlanks rest with
            | '\x7d' :: rest => some ([(name, document)], rest)
            | ',' :: rest =>
              (readMembers? fuel (skipBlanks rest)).map fun (members, rest) =>
                ((name, document) :: members, rest)
            | _ => none
        | _ => none
    | _ => none

end

/-- The document that a whole text writes. Every part of a document takes at least one character,
so fuel for two steps a character is enough. -/
def Document.ofText? (text : String) : Option Document :=
  let characters := text.toList
  match readDocument? (2 * characters.length + 2) (skipBlanks characters) with
  | some (document, rest) => if (skipBlanks rest).isEmpty then some document else none
  | none => none

end RecordQuery.Json
