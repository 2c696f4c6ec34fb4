/-
This file quotes a text so that it can be shown on one line: in double quotes, with a backslash
before what would end or break the line, and with the code point of every character that cannot be
seen or would melt into the one before it.
-/

import RecordQuery.Text.Extending
import RecordQuery.Text.Printable

namespace RecordQuery.Text

/-- A number in hexadecimal, in small letters. -/
def hexDigits (value : Nat) : List Char :=
  Nat.toDigits 16 value

/-- A character as it stands between the quotes. -/
def quoteChar (char : Char) : List Char :=
  match char with
  | '\x00' => ['\\', '0']
  | '\t' => ['\\', 't']
  | '\r' => ['\\', 'r']
  | '\n' => ['\\', 'n']
  | '\\' => ['\\', '\\']
  | '"' => ['\\', '"']
  | _ =>
    if isExtending char || !isPrintable char then
      ['\\', 'u', '\x7b'] ++ hexDigits char.toNat ++ ['\x7d']
    else [char]

/-- A text in quotes. -/
def quote (text : String) : String :=
  String.ofList ('"' :: text.toList.flatMap quoteChar ++ ['"'])

end RecordQuery.Text
