/-
This file splits texts at a separating character and compares them without regard to ASCII case.
-/

namespace RecordQuery.Text

/-- The parts of a text between separators. There is one part more than there are separators. -/
def splitAt (separator : Char) : List Char → List (List Char)
  | [] => [[]]
  | char :: rest =>
    if char = separator then [] :: splitAt separator rest
    else match splitAt separator rest with
      | [] => [[char]]
      | part :: parts => (char :: part) :: parts

/-- Whether two texts differ in nothing but the case of ASCII letters. -/
def sameIgnoringCase (left right : List Char) : Bool :=
  left.map Char.toLower = right.map Char.toLower

end RecordQuery.Text
