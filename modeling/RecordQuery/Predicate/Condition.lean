/-
This file turns conditions, as a caller states them, into predicates.

A condition names its field by a path in text and brings constants of its own kind. It is resolved
against a schema: the path must exist and suit the condition, and the constants are converted to
the kind of the field. A condition on a field of a nested record is guarded, so that it is false,
and not a fault, on a record that lacks a record on the way.
-/

import RecordQuery.Predicate.Basic
import RecordQuery.Settings.Basic
import RecordQuery.Text.LowerCase
import RecordQuery.Value.Convert

namespace RecordQuery

open Number Calendar

/-- A condition on one field. -/
inductive Condition where
  | compare (operator : Comparison) (path : String) (value : Value)
  | text (test : TextTest) (path needle : String)
  /-- The field is text and does not pass the test. -/
  | notText (test : TextTest) (path needle : String)
  /-- The key of the field is among those of some values. -/
  | isIn (path : String) (values : List Value)
  /-- The field lies between two values, both included. -/
  | between (path : String) (low high : Value)
  /-- The size of a number is less than a threshold. -/
  | absoluteLessThan (path : String) (threshold : Value)
  /-- A part of a text, counted in characters, equals another text. -/
  | substringEquals (path : String) (start length : UInt64) (expected : String)
  | vectorDistanceLessThan (path : String) (query : List Single) (threshold : Single)
  /-- The date of a date or date-time is this one. -/
  | dateEquals (path : String) (date : Date)
  /-- A list has an item that is the same as a value. -/
  | anyEquals (path : String) (value : Value)

namespace Condition

/-- The field is there and not null. -/
def notNull (path : String) : Condition :=
  compare .notEqual path .null

end Condition

namespace Schema

/-- Resolves a path, and fails as the caller says if the kind at its end does not suit. -/
def resolveSuited (schema : Schema) (path : String) (suits : Kind → Bool)
    (unsuited : String → Kind → ResolutionError) : Except QueryError Path :=
  match schema.resolve path with
  | .error error => .error (.resolution error)
  | .ok path =>
    if suits path.kind then .ok path
    else .error (.resolution (unsuited path.toText path.kind))

/-- Resolves a path of any kind. -/
def resolveAny (schema : Schema) (path : String) : Except QueryError Path :=
  (schema.resolve path).mapError QueryError.resolution

/-- The test that the record at the end of a path is there. -/
def presence (schema : Schema) (path : String) : Except QueryError Predicate :=
  (schema.resolveAny path).map fun path => .comparison ⟨path, .field⟩ .notEqual .null

/-- The conjunction of the tests that some records are there, after the tests before them. -/
def guardFrom (schema : Schema) : Option Predicate → List String →
    Except QueryError (Option Predicate)
  | guard, [] => .ok guard
  | guard, path :: paths =>
    match schema.presence path with
    | .error error => .error error
    | .ok test =>
      guardFrom schema (some (match guard with
        | some guard => .conjunction guard test
        | none => test)) paths

/-- A predicate on the end of a path, after the tests that every record on the way is there. -/
def guarded (schema : Schema) (path : Path) (predicate : Predicate) :
    Except QueryError Predicate :=
  (schema.guardFrom none path.prefixTexts).map fun guard =>
    match guard with
    | some guard => .conjunction guard predicate
    | none => predicate

end Schema

namespace Path

/-- Converts a constant to a kind, on behalf of the field at the end of a path. -/
def convertTo (path : Path) (kind : Kind) (value : Value) : Except QueryError Value :=
  match value.convert? kind with
  | some converted => .ok converted
  | none => .error (.conversion ⟨path.toText, kind, value.kindName⟩)

/-- Converts a constant to the kind of the field at the end of a path. -/
def convertConstant (path : Path) (value : Value) : Except QueryError Value :=
  path.convertTo path.kind value

/-- The keys of some constants, after converting each. -/
def convertKeys (path : Path) : KeySet → List Value → Except QueryError KeySet
  | keys, [] => .ok keys
  | keys, value :: values =>
    match path.convertConstant value with
    | .error error => .error error
    | .ok converted =>
      convertKeys path (match Key.ofValue? converted with
        | some key => keys.insert key
        | none => keys) values

end Path

namespace Condition

/-- What is searched for, in the form that a test wants it. -/
def needleFor (test : TextTest) (needle : String) : String :=
  match test with
  | .containsIgnoreCase => String.ofList (Text.lower needle.toList)
  | _ => needle

/-- The predicate of a condition. -/
def toPredicate (schema : Schema) : Condition → Except QueryError Predicate
  | compare operator path value => do
    let path ←
      if operator.isOrdering then schema.resolveSuited path Kind.isOrdered .notComparable
      else schema.resolveAny path
    let value ← path.convertConstant value
    schema.guarded path (.comparison ⟨path, .field⟩ operator value)
  | text test path needle => do
    let path ← schema.resolveSuited path (· = .text) .notText
    schema.guarded path (.text path test (needleFor test needle))
  | notText test path needle => do
    let path ← schema.resolveSuited path (· = .text) .notText
    schema.guarded path (.negation (.text path test (needleFor test needle)))
  | isIn path values => do
    let path ← schema.resolveSuited path Kind.isKeyable .notKeyable
    let keys ← path.convertKeys [] values
    schema.guarded path (.member path keys)
  | between path low high => do
    let path ← schema.resolveSuited path Kind.isOrdered .notComparable
    let low ← path.convertConstant low
    let high ← path.convertConstant high
    schema.guarded path (.conjunction (.comparison ⟨path, .field⟩ .greaterOrEqual low)
      (.comparison ⟨path, .field⟩ .lessOrEqual high))
  | absoluteLessThan path threshold => do
    let path ← schema.resolveSuited path Kind.isNumeric .notNumeric
    match threshold.number? with
    | some threshold => schema.guarded path (.comparison ⟨path, .absolute⟩ .less (.float threshold))
    | none => .error (.conversion ⟨path.toText, .float, threshold.kindName⟩)
  | substringEquals path start length expected => do
    let path ← schema.resolveSuited path (· = .text) .notText
    schema.guarded path (.comparison ⟨path, .substring start length⟩ .equal (.text expected))
  | vectorDistanceLessThan path query threshold => do
    let path ← schema.resolveSuited path (· = .vector) .notVector
    schema.guarded path (.comparison ⟨path, .cosine query⟩ .less (.float threshold.convert))
  | dateEquals path date => do
    let path ← schema.resolveSuited path (fun kind => kind = .date || kind = .dateTime) .notDateTime
    schema.guarded path (.comparison ⟨path, .date⟩ .equal (.date date))
  | anyEquals path value => do
    let path ← schema.resolveAny path
    match path.kind with
    | .list item =>
      let value ← path.convertTo item value
      schema.guarded path (.anyItem path value)
    | kind => .error (.resolution (.notList path.toText kind))

end Condition

namespace SoftDelete

/-- The test that a flag reads as expected. There is none if the flag has no name, no field of
that name exists, or the field is not a truth value. -/
def flagPredicate (schema : Schema) (field : Option String) (expected : Bool) :
    Except QueryError (Option Predicate) :=
  match field.bind schema.resolve? with
  | none => .ok none
  | some path =>
    if path.kind = .bool then
      ((Condition.compare .equal path.toText (.bool expected)).toPredicate schema).map some
    else .ok none

/-- The test that a record is live: active and not archived, as far as its shape can tell. -/
def livePredicate (guard : SoftDelete) (schema : Schema) :
    Except QueryError (Option Predicate) := do
  let active ← flagPredicate schema guard.activeField true
  let archived ← flagPredicate schema guard.archivedField false
  return match active, archived with
    | some active, some archived => some (.conjunction active archived)
    | some active, none => some active
    | none, some archived => some archived
    | none, none => none

end SoftDelete

end RecordQuery
