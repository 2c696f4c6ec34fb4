/-
This file reads the quoted texts of TOML documents.

A text between double quotes may have escapes, one between single quotes has none. With three quotes
at each end a text may go over several lines: a line break right behind the opening quotes is
dropped, one or two further quotes may stand in front of the closing ones, and between double quotes
a backslash at the end of a line drops the line break and all blanks and line breaks behind it.
-/

import RecordQuery.Number.Radix

namespace RecordQuery.Toml

/-! ### Blanks, comments and line breaks -/

/-- Whether a character may stand between the parts of a line. -/
def isSpace (char : Char) : Bool :=
  char = ' ' || char = '\t'

/-- Whether a character may stand in comments and in quotes: no control character but the tab. -/
def isPlain (char : Char) : Bool :=
  char = '\t' || (0x20 ≤ char.toNat && char.toNat ≠ 0x7f)

/-- A text without the blanks it starts with. -/
def skipSpaces (text : List Char) : List Char :=
  text.dropWhile isSpace

/-- What follows the line break a text starts with. -/
def afterBreak? : List Char → Option (List Char)
  | '\n' :: rest => some rest
  | '\r' :: '\n' :: rest => some rest
  | _ => none

/-- A text without a line break at its start. -/
def dropBreak (text : List Char) : List Char :=
  (afterBreak? text).getD text

/-! ### Escapes -/

/-- The character that a backslash and a letter stand for. -/
def unescape? : Char → Option Char
  | '"' => some '"'
  | '\\' => some '\\'
  | 'b' => some '\x08'
  | 'e' => some '\x1b'
  | 'f' => some '\x0c'
  | 'n' => some '\n'
  | 'r' => some '\r'
  | 't' => some '\t'
  | _ => none

/-- The character whose number hexadecimal digits write. Halves of characters outside the basic
plane are no characters. -/
def hexChar? (digits : List Char) : Option Char :=
  (Number.Radix.number? 16 digits).bind fun number =>
    if number.isValidChar then some (Char.ofNat number) else none

/-- Puts a character in front of a text that may be missing. -/
def cons? (char : Option Char) (text : Option (List Char)) : Option (List Char) :=
  char.bind fun char => text.map (char :: ·)

/-- What the characters between double quotes stand for. Line breaks are allowed only among several
lines; after a backslash at the end of a line they are dropped together with the blanks. -/
def decode? (lines dropping : Bool) : List Char → Option (List Char)
  | [] => some []
  | '\\' :: 'x' :: d1 :: d2 :: rest => cons? (hexChar? [d1, d2]) (decode? lines false rest)
  | '\\' :: 'u' :: d1 :: d2 :: d3 :: d4 :: rest =>
    cons? (hexChar? [d1, d2, d3, d4]) (decode? lines false rest)
  | '\\' :: 'U' :: d1 :: d2 :: d3 :: d4 :: d5 :: d6 :: d7 :: d8 :: rest =>
    cons? (hexChar? [d1, d2, d3, d4, d5, d6, d7, d8]) (decode? lines false rest)
  | '\r' :: '\n' :: rest =>
    if dropping then decode? lines true rest
    else if lines then (decode? lines false rest).map ('\r' :: '\n' :: ·)
    else none
  | '\\' :: letter :: rest =>
    match unescape? letter with
    | some char => (decode? lines false rest).map (char :: ·)
    | none =>
      if lines && (afterBreak? (skipSpaces (letter :: rest))).isSome then
        decode? lines true (letter :: rest)
      else none
  | char :: rest =>
    if char = '\n' then
      if dropping then decode? lines true rest
      else if lines then (decode? lines false rest).map ('\n' :: ·)
      else none
    else if dropping && isSpace char then decode? lines true rest
    else if isPlain char && char ≠ '\\' then (decode? lines false rest).map (char :: ·)
    else none

/-! ### Quotes -/

/-- The closing quotes of a text of several lines, and the quotes right in front of them, which
belong to the text. The three quotes that were found first are not given. -/
def closeLines (quote : Char) : List Char → List Char × List Char
  | first :: second :: rest =>
    if first = quote && second = quote then ([quote, quote], rest)
    else if first = quote then ([quote], second :: rest)
    else ([], first :: second :: rest)
  | [first] => if first = quote then ([quote], []) else ([], [first])
  | [] => ([], [])

/-- The characters up to a closing quote, and what follows it. -/
def spanLine? (quote : Char) (escapes : Bool) : List Char → Option (List Char × List Char)
  | first :: second :: rest =>
    if first = quote then some ([], second :: rest)
    else if escapes && first = '\\' then
      (spanLine? quote escapes rest).map fun (raw, rest) => (first :: second :: raw, rest)
    else
      (spanLine? quote escapes (second :: rest)).map fun (raw, rest) => (first :: raw, rest)
  | [first] => if first = quote then some ([], []) else none
  | [] => none

/-- The characters up to three closing quotes, and what follows them. -/
def spanLines? (quote : Char) (escapes : Bool) : List Char → Option (List Char × List Char)
  | first :: second :: third :: rest =>
    if first = quote && second = quote && third = quote then some (closeLines quote rest)
    else if escapes && first = '\\' then
      (spanLines? quote escapes (third :: rest)).map fun (raw, rest) =>
        (first :: second :: raw, rest)
    else
      (spanLines? quote escapes (second :: third :: rest)).map fun (raw, rest) =>
        (first :: raw, rest)
  | _ => none

/-- The characters between single quotes, if all of them are allowed there. -/
def literal? (lines : Bool) : List Char → Option (List Char)
  | [] => some []
  | '\r' :: '\n' :: rest =>
    if lines then (literal? lines rest).map ('\r' :: '\n' :: ·) else none
  | char :: rest =>
    if isPlain char || (lines && char = '\n') then (literal? lines rest).map (char :: ·) else none

/-- What characters between quotes stand for. -/
def contentBetween? (quote : Char) (lines : Bool) (raw : List Char) : Option (List Char) :=
  if quote = '"' then decode? lines false raw else literal? lines raw

/-- Reads a text on one line after its opening quote. -/
def readLine? (quote : Char) (text : List Char) : Option (String × List Char) := do
  let (raw, rest) ← spanLine? quote (quote = '"') text
  let content ← contentBetween? quote false raw
  return (String.ofList content, rest)

/-- Reads a text of several lines after its three opening quotes. -/
def readLines? (quote : Char) (text : List Char) : Option (String × List Char) := do
  let (raw, rest) ← spanLines? quote (quote = '"') (dropBreak text)
  let content ← contentBetween? quote true raw
  return (String.ofList content, rest)

end RecordQuery.Toml
