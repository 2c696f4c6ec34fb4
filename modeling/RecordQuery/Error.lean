/-
This file holds the ways in which a query can fail, and their messages.

Faults of a path or a constant show while a query is put together. Faults of evaluation show when
it meets a record.
-/

import RecordQuery.Kind

namespace RecordQuery

/-- Why a path cannot be used where it stands. -/
inductive ResolutionError where
  /-- A segment of the path is empty. -/
  | emptyPath (path : String)
  /-- The host has no field of this name. -/
  | unknownField (segment host : String)
  | notComparable (path : String) (kind : Kind)
  | notText (path : String) (kind : Kind)
  | notVector (path : String) (kind : Kind)
  | notNumeric (path : String) (kind : Kind)
  | notList (path : String) (kind : Kind)
  | notKeyable (path : String) (kind : Kind)
  | notDateTime (path : String) (kind : Kind)
deriving DecidableEq

/-- A constant that has no counterpart of the kind that is expected. -/
structure ConversionError where
  path : String
  expected : Kind
  /-- The name of the kind of the constant. -/
  found : String
deriving DecidableEq

/-- Why a predicate or an aggregate has no answer on a record. -/
inductive EvaluationError where
  | substringOutOfRange (path : String) (start length : UInt64) (available : Nat)
  /-- The path leads through a record that is not there. -/
  | unguardedNullHop (path hop : String)
  | overflow (path : String)
  | kindMismatch (path : String) (expected : Kind) (found : String)
deriving DecidableEq

/-- The steps that refine an ordering and so need one. -/
inductive Refinement where
  | thenBy
  | thenByVectorSimilarity
deriving DecidableEq

/-- Why a query fails. -/
inductive QueryError where
  | resolution (error : ResolutionError)
  | conversion (error : ConversionError)
  | evaluation (error : EvaluationError)
  /-- A refinement without an ordering to refine. -/
  | orderingState (refinement : Refinement)
  /-- The source of the records failed. -/
  | source (message : String)
  /-- The caller gave up before the records were there. -/
  | cancelled
deriving DecidableEq

/-- The start of a message about a path and the kind at its end. -/
def fieldOfType (path : String) (kind : Kind) : String :=
  "Field '" ++ path ++ "' of type " ++ kind.toText

namespace ResolutionError

def message : ResolutionError → String
  | emptyPath path => "Path '" ++ path ++ "' is empty or contains an empty segment."
  | unknownField segment host => "Field '" ++ segment ++ "' does not exist on '" ++ host ++ "'."
  | notComparable path kind => fieldOfType path kind ++ " is not comparable."
  | notText path kind => fieldOfType path kind ++ " must be text for string operators."
  | notVector path kind => fieldOfType path kind ++ " must be a vector for vector operators."
  | notNumeric path kind => fieldOfType path kind ++ " must be numeric."
  | notList path kind => fieldOfType path kind ++ " must be a list."
  | notKeyable path kind => fieldOfType path kind ++ " cannot be used as a grouping key."
  | notDateTime path kind => fieldOfType path kind ++ " must be a date or date-time."

end ResolutionError

def ConversionError.message (error : ConversionError) : String :=
  "Cannot convert " ++ error.found ++ " to " ++ error.expected.toText ++ " for field '" ++
    error.path ++ "'."

namespace EvaluationError

def message : EvaluationError → String
  | substringOutOfRange path start length available =>
    "substring(" ++ toString start ++ ", " ++ toString length ++ ") is out of range for field '" ++
      path ++ "' holding " ++ toString available ++ " characters."
  | unguardedNullHop path hop =>
    "Field '" ++ path ++ "' was read through absent hop '" ++ hop ++ "' without a null guard."
  | overflow path => "Aggregate over field '" ++ path ++ "' overflowed."
  | kindMismatch path expected found =>
    "Field '" ++ path ++ "' is registered as " ++ expected.toText ++ " but produced a " ++ found ++
      " value."

end EvaluationError

/-- The name of a refinement in messages. -/
def Refinement.name : Refinement → String
  | thenBy => "then_by"
  | thenByVectorSimilarity => "then_by_vector_similarity"

namespace QueryError

def message : QueryError → String
  | resolution error => error.message
  | conversion error => error.message
  | evaluation error => error.message
  | orderingState refinement =>
    refinement.name ++ " requires a primary ordering; call order_by first."
  | source text => "Source error: " ++ text
  | cancelled => "Query was cancelled before materialization completed."

end QueryError

end RecordQuery
