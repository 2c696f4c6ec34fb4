/-
This file says where one text occurs in another.
-/

namespace RecordQuery.Text

/-- Whether `needle` occurs in a text, the empty one in every text. -/
def containsText (needle : List Char) : List Char → Bool
  | [] => needle.isEmpty
  | char :: rest => needle.isPrefixOf (char :: rest) || containsText needle rest

/-- A text contains another exactly when that one stands somewhere inside it. -/
theorem containsText_iff {needle text : List Char} :
    containsText needle text ↔ needle <:+: text := by
  induction text with
  | nil => simp [containsText]
  | cons char rest inductionHypothesis =>
    rw [containsText, Bool.or_eq_true, List.isPrefixOf_iff_prefix, inductionHypothesis,
      List.infix_cons_iff]

end RecordQuery.Text
