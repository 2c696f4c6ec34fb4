/-
This file holds predicates over records as data, when two of them are the same, and how they are
displayed.
-/

import RecordQuery.Key
import RecordQuery.Schema.Path

namespace RecordQuery

open Number

/-- The comparison operators. -/
inductive Comparison where
  | equal
  | notEqual
  | greater
  | greaterOrEqual
  | less
  | lessOrEqual
deriving DecidableEq

namespace Comparison

/-- The operator that holds of two values that are not null exactly where this one does not, as
far as they can be compared. -/
def negate : Comparison → Comparison
  | equal => notEqual
  | notEqual => equal
  | greater => lessOrEqual
  | greaterOrEqual => less
  | less => greaterOrEqual
  | lessOrEqual => greater

def symbol : Comparison → String
  | equal => "=="
  | notEqual => "!="
  | greater => ">"
  | greaterOrEqual => ">="
  | less => "<"
  | lessOrEqual => "<="

/-- Whether an operator asks for an order and not only for equality. -/
def isOrdering : Comparison → Bool
  | equal | notEqual => false
  | _ => true

/-- Whether an operator holds of two values in the given order. -/
def holds : Comparison → Ordering → Bool
  | equal, order => order == .eq
  | notEqual, order => order != .eq
  | greater, order => order == .gt
  | greaterOrEqual, order => order != .lt
  | less, order => order == .lt
  | lessOrEqual, order => order != .gt

/-- Negating an operator twice gives it back. -/
theorem negate_negate (comparison : Comparison) : comparison.negate.negate = comparison := by
  cases comparison <;> rfl

/-- In every order exactly one of an operator and its negation holds. -/
theorem holds_negate (comparison : Comparison) (order : Ordering) :
    comparison.negate.holds order = !comparison.holds order := by
  cases comparison <;> cases order <;> rfl

end Comparison

/-- The ways in which a text can be searched for another. -/
inductive TextTest where
  | contains
  /-- The text is put into lower case first; what is searched for is in lower case already. -/
  | containsIgnoreCase
  | startsWith
  | endsWith
deriving DecidableEq

/-- The name of a text test in displays. -/
def TextTest.name : TextTest → String
  | contains => "contains"
  | containsIgnoreCase => "contains_ignore_case"
  | startsWith => "starts_with"
  | endsWith => "ends_with"

/-- What of a field is compared. -/
inductive View where
  | field
  | absolute
  /-- So many characters of a text from a place on. -/
  | substring (start length : UInt64)
  /-- The date of a date or date-time. -/
  | date
  /-- The distance of a vector from another. -/
  | cosine (query : List Single)

/-- The left side of a comparison: a field, and what of it is compared. -/
structure Operand where
  path : Path
  view : View

/-- A predicate over records. -/
inductive Predicate where
  | const (value : Bool)
  | negation (inner : Predicate)
  | conjunction (left right : Predicate)
  | disjunction (left right : Predicate)
  | comparison (operand : Operand) (operator : Comparison) (value : Value)
  | text (path : Path) (test : TextTest) (needle : String)
  /-- The key of the field is one of a set. -/
  | member (path : Path) (keys : KeySet)
  /-- Some item of the list in the field is the same as a value. -/
  | anyItem (path : Path) (value : Value)

/-! ### Sameness -/

/-- Whether two views are the same. -/
def View.same : View → View → Bool
  | field, field => true
  | absolute, absolute => true
  | substring leftStart leftLength, substring rightStart rightLength =>
    leftStart = rightStart && leftLength = rightLength
  | date, date => true
  | cosine left, cosine right => Value.sameComponents left right
  | _, _ => false

/-- Whether two operands are the same. -/
def Operand.same (left right : Operand) : Bool :=
  left.view.same right.view && left.path.same right.path

/-- Whether two sets of keys have the same keys. -/
def KeySet.same (left right : KeySet) : Bool :=
  Key.sameItems left right

/-- Whether two predicates are built alike, from the same parts. -/
def Predicate.same : Predicate → Predicate → Bool
  | const left, const right => left = right
  | negation left, negation right => left.same right
  | conjunction left left', conjunction right right' => left.same right && left'.same right'
  | disjunction left left', disjunction right right' => left.same right && left'.same right'
  | comparison left leftOperator leftValue, comparison right rightOperator rightValue =>
    left.same right && leftOperator = rightOperator && leftValue.same rightValue
  | text left leftTest leftNeedle, text right rightTest rightNeedle =>
    left.same right && leftTest = rightTest && leftNeedle = rightNeedle
  | member left leftKeys, member right rightKeys => left.same right && leftKeys.same rightKeys
  | anyItem left leftValue, anyItem right rightValue => left.same right && leftValue.same rightValue
  | _, _ => false

/-! ### Display -/

/-- A vector by its length. -/
def vectorText (query : List Single) : String :=
  "vector[" ++ toString query.length ++ "]"

/-- The display of an operand. -/
def Operand.toText (operand : Operand) : String :=
  let path := operand.path.toText
  match operand.view with
  | .field => path
  | .absolute => "abs(" ++ path ++ ")"
  | .substring start length =>
    "substring(" ++ path ++ ", " ++ toString start ++ ", " ++ toString length ++ ")"
  | .date => "date(" ++ path ++ ")"
  | .cosine query => "cosine_distance(" ++ path ++ ", " ++ vectorText query ++ ")"

/-- The display of a predicate. -/
def Predicate.toText : Predicate → String
  | const value => if value then "true" else "false"
  | negation inner => "!(" ++ inner.toText ++ ")"
  | conjunction left right => "(" ++ left.toText ++ " && " ++ right.toText ++ ")"
  | disjunction left right => "(" ++ left.toText ++ " || " ++ right.toText ++ ")"
  | comparison operand operator value =>
    operand.toText ++ " " ++ operator.symbol ++ " " ++ value.toText
  | text path test needle =>
    test.name ++ "(" ++ path.toText ++ ", " ++ Text.quote needle ++ ")"
  | member path keys =>
    path.toText ++ " in [" ++ Value.commaSeparated (keys.map Key.toText) ++ "]"
  | anyItem path value => "any(" ++ path.toText ++ " == " ++ value.toText ++ ")"

/-- The display of a predicate, marked as that of a predicate. -/
def Predicate.toDebugText (predicate : Predicate) : String :=
  "Predicate(" ++ predicate.toText ++ ")"

end RecordQuery
