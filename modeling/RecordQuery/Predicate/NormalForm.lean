/-
This file brings predicates into the form in which negation stands directly above the tests that
have no negated form of their own: text tests, membership and tests of list items.

The two functions below are the two polarities of one walk. A negation switches between them, a
negated comparison takes the opposite operator, and a negated conjunction or disjunction becomes
the other one of its negated parts, in the same order.
-/

import RecordQuery.Predicate.Basic

namespace RecordQuery.Predicate

mutual

/-- The normal form of a predicate. -/
def normalize : Predicate → Predicate
  | negation inner => inner.negated
  | conjunction left right => conjunction left.normalize right.normalize
  | disjunction left right => disjunction left.normalize right.normalize
  | const value => const value
  | comparison operand operator value => comparison operand operator value
  | text path test needle => text path test needle
  | member path keys => member path keys
  | anyItem path value => anyItem path value

/-- The normal form of the negation of a predicate. -/
def negated : Predicate → Predicate
  | negation inner => inner.normalize
  | conjunction left right => disjunction left.negated right.negated
  | disjunction left right => conjunction left.negated right.negated
  | const value => const (!value)
  | comparison operand operator value => comparison operand operator.negate value
  | text path test needle => negation (text path test needle)
  | member path keys => negation (member path keys)
  | anyItem path value => negation (anyItem path value)

end

/-- The predicates in normal form. -/
inductive IsNormal : Predicate → Prop where
  | const (value : Bool) : IsNormal (const value)
  | conjunction {left right : Predicate} : IsNormal left → IsNormal right →
      IsNormal (conjunction left right)
  | disjunction {left right : Predicate} : IsNormal left → IsNormal right →
      IsNormal (disjunction left right)
  | comparison (operand : Operand) (operator : Comparison) (value : Value) :
      IsNormal (comparison operand operator value)
  | text (path : Path) (test : TextTest) (needle : String) : IsNormal (text path test needle)
  | member (path : Path) (keys : KeySet) : IsNormal (member path keys)
  | anyItem (path : Path) (value : Value) : IsNormal (anyItem path value)
  | notText (path : Path) (test : TextTest) (needle : String) :
      IsNormal (negation (text path test needle))
  | notMember (path : Path) (keys : KeySet) : IsNormal (negation (member path keys))
  | notAnyItem (path : Path) (value : Value) : IsNormal (negation (anyItem path value))

end RecordQuery.Predicate
