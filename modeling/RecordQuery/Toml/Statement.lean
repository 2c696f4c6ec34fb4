/-
This file reads the statements of TOML documents.

Every statement stands on a line of its own; only quotes, brackets and braces let it go on. Blanks,
line breaks and comments may stand everywhere between brackets and braces, and a comma may stand
behind the last item. Arrays and tables may be nested only so deep.
-/

import RecordQuery.Toml.Quoted
import RecordQuery.Toml.Scalar

namespace RecordQuery.Toml

/-! ### Blanks and line ends -/

/-- A text without the blanks, line breaks and comments it starts with. -/
def skipFiller (inComment : Bool) : List Char → List Char
  | [] => []
  | '\r' :: '\n' :: rest => skipFiller false rest
  | char :: rest =>
    if char = '\n' then skipFiller false rest
    else if inComment then
      if isPlain char then skipFiller true rest else char :: rest
    else if isSpace char then skipFiller false rest
    else if char = '#' then skipFiller true rest
    else char :: rest

/-- A text without the comment it starts with. -/
def skipComment : List Char → List Char
  | '#' :: rest => rest.dropWhile isPlain
  | text => text

/-- What follows the line that ends here, a comment aside. -/
def endLine? (text : List Char) : Option (List Char) :=
  match skipComment (skipSpaces text) with
  | [] => some []
  | rest => afterBreak? rest

/-! ### Names -/

/-- Whether a character may stand in a name without quotes. -/
def isBare (char : Char) : Bool :=
  char.isAlphanum || char = '_' || char = '-'

/-- Whether a character opens and closes a quoted text. -/
def isQuote (char : Char) : Bool :=
  char = '"' || char = '\''

/-- Whether a text starts with two quotes of this kind. -/
def opensLines (quote : Char) : List Char → Bool
  | first :: second :: _ => first = quote && second = quote
  | _ => false

/-- Reads one name. A quoted name stays on its line. -/
def readName? : List Char → Option (String × List Char)
  | [] => none
  | first :: rest =>
    if isQuote first then
      if opensLines first rest then none else readLine? first rest
    else
      let text := first :: rest
      let name := text.takeWhile isBare
      if name.isEmpty then none else some (String.ofList name, text.dropWhile isBare)

/-- Reads names with dots between them, at most as many as there is fuel. -/
def readDottedName? : Nat → List Char → Option (DottedName × List Char)
  | 0, _ => none
  | fuel + 1, text => do
    let (first, rest) ← readName? text
    match skipSpaces rest with
    | '.' :: rest =>
      let (inner, rest) ← readDottedName? fuel (skipSpaces rest)
      return (⟨first :: inner.path, inner.name⟩, rest)
    | rest => return (⟨[], first⟩, rest)

/-! ### Values -/

/-- Whether a character ends a value without quotes. -/
def endsScalar (char : Char) : Bool :=
  isSpace char || char = '\n' || char = '\r' || char = '#' || char = ',' || char = '=' ||
    char = '[' || char = ']' || char = '\x7b' || char = '\x7d'

/-- The characters of a value without quotes, and what follows them. A blank and a digit go on after
a digit, as between a date and a time. -/
def spanScalar (text : List Char) : List Char × List Char :=
  let (first, rest) := text.span fun char => !endsScalar char
  match first, rest with
  | start :: _, ' ' :: next :: more =>
    if start.isDigit && next.isDigit then
      let (second, rest) := (next :: more).span fun char => !endsScalar char
      (first ++ ' ' :: second, rest)
    else (first, rest)
  | _, _ => (first, rest)

/-- How deep arrays and tables may be nested in a value. -/
def greatestDepth : Nat := 80

mutual

/-- Reads a value, in which arrays and tables may be nested as deep as is given. Every call takes
one unit of fuel. -/
def readValue? : Nat → Nat → List Char → Option (Value × List Char)
  | 0, _, _ => none
  | fuel + 1, depth, text =>
    match text with
    | '[' :: rest =>
      if depth = 0 then none
      else
        (readItems? fuel (depth - 1) (skipFiller false rest)).map fun (items, rest) =>
          (.array items, rest)
    | '\x7b' :: rest =>
      if depth = 0 then none
      else
        (readEntries? fuel (depth - 1) (skipFiller false rest)).map fun (entries, rest) =>
          (.table entries, rest)
    | first :: rest =>
      if isQuote first then
        let content := if opensLines first rest then readLines? first (rest.drop 2)
          else readLine? first rest
        content.map fun (content, rest) => (.text content, rest)
      else
        let (scalar, rest) := spanScalar (first :: rest)
        (readScalar? scalar).map fun value => (value, rest)
    | [] => none

/-- Reads the items of an array up to its end. -/
def readItems? : Nat → Nat → List Char → Option (List Value × List Char)
  | 0, _, _ => none
  | fuel + 1, depth, text =>
    match text with
    | ']' :: rest => some ([], rest)
    | _ =>
      match readValue? fuel depth text with
      | none => none
      | some (item, rest) =>
        match skipFiller false rest with
        | ',' :: rest =>
          (readItems? fuel depth (skipFiller false rest)).map fun (items, rest) =>
            (item :: items, rest)
        | ']' :: rest => some ([item], rest)
        | _ => none

/-- Reads the entries of a table up to its end. -/
def readEntries? : Nat → Nat → List Char → Option (List (DottedName × Value) × List Char)
  | 0, _, _ => none
  | fuel + 1, depth, text =>
    match text with
    | '\x7d' :: rest => some ([], rest)
    | _ =>
      match readDottedName? fuel text with
      | some (name, '=' :: rest) =>
        match readValue? fuel depth (skipSpaces rest) with
        | none => none
        | some (value, rest) =>
          match skipFiller false rest with
          | ',' :: rest =>
            (readEntries? fuel depth (skipFiller false rest)).map fun (entries, rest) =>
              ((name, value) :: entries, rest)
          | '\x7d' :: rest => some ([(name, value)], rest)
          | _ => none
      | _ => none

end

/-! ### Statements -/

/-- Reads a statement without blanks in front. -/
def readStatement? (fuel : Nat) (text : List Char) : Option (Statement × List Char) :=
  match text with
  | '[' :: '[' :: rest =>
    match readDottedName? fuel (skipSpaces rest) with
    | some (name, ']' :: ']' :: rest) => some (.openFurther name, rest)
    | _ => none
  | '[' :: rest =>
    match readDottedName? fuel (skipSpaces rest) with
    | some (name, ']' :: rest) => some (.openTable name, rest)
    | _ => none
  | _ =>
    match readDottedName? fuel text with
    | some (name, '=' :: rest) =>
      (readValue? fuel greatestDepth (skipSpaces rest)).map fun (value, rest) =>
        (.assign name value, rest)
    | _ => none

/-- Reads statements to the end of a text, at most as many as there is fuel. -/
def readStatements? : Nat → List Char → Option (List Statement)
  | 0, _ => none
  | fuel + 1, text =>
    match skipFiller false text with
    | [] => some []
    | text => do
      let (statement, rest) ← readStatement? (fuel + 1) text
      let rest ← endLine? rest
      return statement :: (← readStatements? fuel rest)

/-- The statements of a whole document, in front of which a byte order mark may stand. No more than
two readers are called for one character, so two units of fuel a character are enough. -/
def statements? (text : String) : Option (List Statement) :=
  let characters := match text.toList with
    | '\ufeff' :: rest => rest
    | characters => characters
  readStatements? (2 * characters.length + 2) characters

end RecordQuery.Toml
