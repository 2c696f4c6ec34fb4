/-
This file holds white space as the Unicode property names it, trimming, and the split of a text
into words.
-/

import RecordQuery.Text.CharRange

namespace RecordQuery.Text

/-- The ranges of the property White_Space. -/
def blankRanges : List CharRange :=
  [⟨0x9, 0xd⟩, ⟨0x20, 0x20⟩, ⟨0x85, 0x85⟩, ⟨0xa0, 0xa0⟩, ⟨0x1680, 0x1680⟩, ⟨0x2000, 0x200a⟩,
    ⟨0x2028, 0x2029⟩, ⟨0x202f, 0x202f⟩, ⟨0x205f, 0x205f⟩, ⟨0x3000, 0x3000⟩]

/-- Whether a character is white space. -/
def isBlank (char : Char) : Bool :=
  inRanges blankRanges char

/-- A text without the white space it starts with. -/
def trimStart (text : List Char) : List Char :=
  text.dropWhile isBlank

/-- A text without the white space it ends with. -/
def trimEnd (text : List Char) : List Char :=
  (text.reverse.dropWhile isBlank).reverse

/-- A text without the white space at its ends. -/
def trim (text : List Char) : List Char :=
  trimEnd (trimStart text)

/-- The words of a text that goes on after an unfinished word, whose letters are given last
first. -/
def wordsFrom (letters : List Char) : List Char → List (List Char)
  | [] => if letters.isEmpty then [] else [letters.reverse]
  | char :: rest =>
    if !isBlank char then wordsFrom (char :: letters) rest
    else if letters.isEmpty then wordsFrom [] rest
    else letters.reverse :: wordsFrom [] rest

/-- The longest stretches of a text that hold no white space, in their order. -/
def words (text : List Char) : List (List Char) :=
  wordsFrom [] text

end RecordQuery.Text
