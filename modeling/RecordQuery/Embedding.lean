/-
This file reads vectors that are written as numbers with commas between them.
-/

import RecordQuery.Number.Numeral
import RecordQuery.Text.Blank
import RecordQuery.Text.Split

namespace RecordQuery

open Number

/-- A component of a vector that is not a finite number. -/
structure EmbeddingError where
  component : String
deriving DecidableEq

def EmbeddingError.message (error : EmbeddingError) : String :=
  "'" ++ error.component ++ "' is not a finite number."

namespace Embedding

/-- Reads one component, white space at its ends aside. -/
def readComponent (text : List Char) : Except EmbeddingError Single :=
  let component := Text.trim text
  match Numeral.binary? .single component with
  | some number =>
    if number.isFinite then .ok number else .error ⟨String.ofList component⟩
  | none => .error ⟨String.ofList component⟩

/-- Reads a vector. The first component that is not a finite number is reported. -/
def ofText (text : String) : Except EmbeddingError (List Single) :=
  (Text.splitAt ',' text.toList).mapM readComponent

end Embedding

end RecordQuery
