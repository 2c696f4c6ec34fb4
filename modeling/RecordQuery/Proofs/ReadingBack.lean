/-
This file proves that what is displayed can be used as a constant again.

Truth values, words, identifiers, dates and date-times are displayed in forms that the conversion of
text to their kinds reads, whatever white space is put around them, and it comes to the value that
was displayed. For a date-time that includes its offset, as long as RFC 3339 has a form for it. The
timestamps of a catalog are read from the same forms.
-/

import RecordQuery.Catalog.Timestamp
import RecordQuery.Proofs.CalendarText
import RecordQuery.Proofs.Totals
import RecordQuery.Value.Convert
import RecordQuery.Value.Text

namespace RecordQuery

open Number Calendar

/-! ### White space -/

namespace Text

theorem dropWhile_isBlank_append {blanks text : List Char}
    (blank : ∀ char ∈ blanks, isBlank char = true) (visible : ∀ char ∈ text, IsVisible char)
    (notEmpty : text ≠ []) (rest : List Char) :
    (blanks ++ (text ++ rest)).dropWhile isBlank = text ++ rest := by
  rw [List.dropWhile_append_of_pos blank]
  cases text with
  | nil => exact absurd rfl notEmpty
  | cons first others =>
    have seen := not_isBlank_of_isVisible (visible first List.mem_cons_self)
    rw [List.cons_append, List.dropWhile_cons_of_neg (by rw [seen]; decide)]

/-- White space around a text that has none is trimmed. -/
theorem trim_surrounded {before text after : List Char}
    (blankBefore : ∀ char ∈ before, isBlank char = true)
    (blankAfter : ∀ char ∈ after, isBlank char = true)
    (visible : ∀ char ∈ text, IsVisible char) (notEmpty : text ≠ []) :
    trim (before ++ text ++ after) = text := by
  have blankLast : ∀ char ∈ after.reverse, isBlank char = true :=
    fun char member => blankAfter char (List.mem_reverse.mp member)
  have visibleLast : ∀ char ∈ text.reverse, IsVisible char :=
    fun char member => visible char (List.mem_reverse.mp member)
  have fromEnd := dropWhile_isBlank_append blankLast visibleLast (by simpa using notEmpty) []
  rw [List.append_nil] at fromEnd
  rw [trim, trimStart, List.append_assoc,
    dropWhile_isBlank_append blankBefore visible notEmpty, trimEnd, List.reverse_append, fromEnd,
    List.reverse_reverse]

end Text

/-! ### Identifiers -/

namespace Uuid

theorem length_digits (uuid : Uuid) : uuid.digits.length = 32 := by
  have fits : uuid.number < 16 ^ 32 := Nat.lt_of_lt_of_eq uuid.number_lt (by decide)
  have enough := (Nat.length_toDigits_le_iff (by decide) (by decide)).mpr fits
  rw [digits, List.length_append, List.length_replicate]
  omega

theorem ofDigits?_digits (uuid : Uuid) : ofDigits? uuid.digits = some uuid := by
  rw [ofDigits?, if_pos uuid.length_digits, digits, Radix.number?_zeros_append,
    Radix.number?_toDigits, Option.map_some, ofNat]
  simp only [Nat.mod_eq_of_lt uuid.number_lt]

/-- Thirty-two digits fall into groups of 8, 4, 4, 4 and 12. -/
theorem exists_groups {digits : List Char} (length : digits.length = 32) :
    ∃ first second third fourth fifth : List Char,
      digits = first ++ (second ++ (third ++ (fourth ++ fifth))) ∧
        first.length = 8 ∧ second.length = 4 ∧ third.length = 4 ∧ fourth.length = 4 ∧
          fifth.length = 12 := by
  refine ⟨digits.take 8, (digits.drop 8).take 4, ((digits.drop 8).drop 4).take 4,
    (((digits.drop 8).drop 4).drop 4).take 4, ((digits.drop 8).drop 4).drop 4 |>.drop 4, ?_, ?_⟩
  · simp only [List.take_append_drop]
  · simp [length]

/-- The hyphens are found where they were put, and what is between them is read. -/
theorem ofHyphenated?_hyphenate {digits : List Char} (length : digits.length = 32) :
    ofHyphenated? (hyphenate digits) = ofDigits? digits := by
  obtain ⟨first, second, third, fourth, fifth, rfl, eight, four, fourToo, fourAgain, twelve⟩ :=
    exists_groups length
  have hyphenated : hyphenate (first ++ (second ++ (third ++ (fourth ++ fifth)))) =
      first ++ ('-' :: second ++ ('-' :: third ++ ('-' :: fourth ++ '-' :: fifth))) := by
    simp [hyphenate, List.drop_append, List.drop_of_length_le, eight, four, fourToo, fourAgain]
  rw [hyphenated]
  simp [ofHyphenated?, List.drop_append, List.drop_of_length_le, List.getElem?_append, eight, four,
    fourToo, fourAgain, twelve]

/-- An identifier is read as it was written. -/
theorem ofText?_toText (uuid : Uuid) : ofText? uuid.toText.toList = some uuid := by
  have length : (hyphenate uuid.digits).length = 36 := by
    simp [hyphenate, length_digits]
  rw [toText, String.toList_ofList, ofText?, length]
  exact (ofHyphenated?_hyphenate uuid.length_digits).trans uuid.ofDigits?_digits

theorem isVisible_toText (uuid : Uuid) : ∀ char ∈ uuid.toText.toList, Text.IsVisible char := by
  have digits : ∀ char ∈ uuid.digits, Text.IsVisible char := by
    refine List.forall_mem_append.mpr ⟨fun char member => ?_, Radix.isVisible_toDigits uuid.number⟩
    rw [List.eq_of_mem_replicate member]
    decide
  have taken (count : Nat) : ∀ char ∈ uuid.digits.take count, Text.IsVisible char :=
    fun char member => digits char (List.mem_of_mem_take member)
  have dropped (skipped : Nat) : ∀ char ∈ uuid.digits.drop skipped, Text.IsVisible char :=
    fun char member => digits char (List.mem_of_mem_drop member)
  have group (skipped : Nat) : ∀ char ∈ (uuid.digits.drop skipped).take 4, Text.IsVisible char :=
    fun char member => dropped skipped char (List.mem_of_mem_take member)
  have hyphen : Text.IsVisible '-' := by decide
  rw [toText, String.toList_ofList, hyphenate]
  simp only [List.forall_mem_append, List.forall_mem_cons]
  exact ⟨⟨⟨⟨taken 8, hyphen, group 8⟩, hyphen, group 12⟩, hyphen, group 16⟩, hyphen, dropped 20⟩

end Uuid

/-! ### Values -/

namespace Value

/-- Whether a value of a kind is displayed in a form that text of its kind is read from. Of
date-times these are the ones that RFC 3339 has a form for: of the year zero or later, on a clock
that is whole minutes and less than a day away from UTC. -/
inductive Legible : Kind → Value → Prop
  | bool (held : Bool) : Legible .bool (.bool held)
  | int (word : Int64) : Legible .int (.int word)
  | uuid (held : Uuid) : Legible .uuid (.uuid held)
  | date (held : Date) : Legible .date (.date held)
  | dateTime (held : DateTime) (year : 0 ≤ held.date.year)
      (lessThanDay : held.offset.natAbs < 86400) (wholeMinutes : held.offset.natAbs % 60 = 0) :
      Legible .dateTime (.dateTime held)

/-- The date-time that a value is as the timestamp of a product, if it is one. -/
def timestamp? : Value → Option DateTime
  | dateTime value => some value
  | date value => some (.midnight value)
  | _ => none

variable {kind : Kind} {value : Value}

theorem isRfc3339_of_bounds {held : DateTime} (year : 0 ≤ held.date.year)
    (lessThanDay : held.offset.natAbs < 86400) (wholeMinutes : held.offset.natAbs % 60 = 0) :
    held.isRfc3339 = true := by
  simp [DateTime.isRfc3339, year, lessThanDay, wholeMinutes]

theorem Legible.isVisible (legible : Legible kind value) :
    ∀ char ∈ value.toText.toList, Text.IsVisible char := by
  cases legible with
  | bool held =>
    have all : ((Value.bool held).toText.toList.all fun char =>
        decide (Text.IsVisible char)) = true := by
      cases held <;> rfl
    exact fun char member => of_decide_eq_true (List.all_eq_true.mp all char member)
  | int word => exact Numeral.isVisible_toString
  | uuid held => exact held.isVisible_toText
  | date held => exact held.isVisible_toText
  | dateTime held year lessThanDay wholeMinutes =>
    exact DateTime.isVisible_toText (isRfc3339_of_bounds year lessThanDay wholeMinutes)

/-- What is displayed is read as what it was. -/
theorem ofText?_toText (legible : Legible kind value) :
    ofText? kind value.toText.toList = some value := by
  cases legible with
  | bool held => cases held <;> rfl
  | int word =>
    have read : (Numeral.integer? (toText (int word)).toList).bind wordOfInt? = some word := by
      rw [toText, Numeral.integer?_toString, Option.bind_some, wordOfInt?_eq_some_iff]
    rw [ofText?, read, Option.map_some]
  | uuid held =>
    rw [ofText?, toText, held.ofText?_toText, Option.map_some]
  | date held =>
    rw [ofText?, toText, held.ofText?_toText, Option.map_some]
  | dateTime held year lessThanDay wholeMinutes =>
    rw [ofText?, toText, DateTime.ofRfc3339?_toText
      (isRfc3339_of_bounds year lessThanDay wholeMinutes), Option.map_some]

theorem Legible.convert?_text (legible : Legible kind value) (constant : String) :
    (text constant).convert? kind = ofText? kind (Text.trim constant.toList) := by
  cases legible <;> rfl

/-- A timestamp is read from the display of a date-time or a date. -/
theorem readTimestamp_of_trim (legible : Legible kind value) {moment : DateTime}
    (isMoment : value.timestamp? = some moment) {shown : String}
    (trimmed : Text.trim shown.toList = value.toText.toList) :
    Catalog.readTimestamp shown = .ok moment := by
  cases legible with
  | bool | int | uuid => exact absurd isMoment.symm (Option.some_ne_none moment)
  | date held =>
    obtain rfl := Option.some.inj isMoment
    simp only [Catalog.readTimestamp, trimmed, toText, held.ofText?_toText,
      DateTime.ofRfc3339?_dateText]
  | dateTime held year lessThanDay wholeMinutes =>
    obtain rfl := Option.some.inj isMoment
    have read := DateTime.ofRfc3339?_toText (isRfc3339_of_bounds year lessThanDay wholeMinutes)
    simp only [Catalog.readTimestamp, trimmed, toText, read]

/-- The display of a value, with any white space around it, is converted to the value again, and is
read as a timestamp if it is that of a date-time or of a date, which stands for its midnight. -/
theorem convert?_display (legible : Legible kind value) (before after : String)
    (blankBefore : ∀ char ∈ before.toList, Text.isBlank char = true)
    (blankAfter : ∀ char ∈ after.toList, Text.isBlank char = true) :
    (text (before ++ value.toText ++ after)).convert? kind = some value ∧
      ∀ moment, value.timestamp? = some moment →
        Catalog.readTimestamp (before ++ value.toText ++ after) = .ok moment := by
  have notEmpty : value.toText.toList ≠ [] := by
    intro empty
    have read := ofText?_toText legible
    rw [empty] at read
    cases legible <;> exact absurd read.symm (Option.some_ne_none _)
  have trimmed : Text.trim (before ++ value.toText ++ after).toList = value.toText.toList := by
    rw [String.toList_append, String.toList_append]
    exact Text.trim_surrounded blankBefore blankAfter legible.isVisible notEmpty
  refine ⟨?_, fun moment isMoment => readTimestamp_of_trim legible isMoment trimmed⟩
  rw [legible.convert?_text, trimmed, ofText?_toText legible]

/-- A clock half an hour behind UTC, in the last moments of a leap day, is displayed with its
fraction and is read with its offset, between an ideographic space and a line break. -/
theorem convert?_display_of_leapDay :
    ∃ held : DateTime, held.date.year = 2024 ∧ held.offset = -1800 ∧
      (dateTime held).toText = "2024-02-29T23:59:59.05-00:30" ∧
      (text ("\u3000" ++ "2024-02-29T23:59:59.05-00:30" ++ "\n")).convert? .dateTime =
        some (dateTime held) ∧
      Catalog.readTimestamp ("\u3000" ++ "2024-02-29T23:59:59.05-00:30" ++ "\n") = .ok held := by
  let held : DateTime := ⟨⟨2024, 2, 29, rfl⟩, ⟨23, 59, 59, 50000000, by decide, by decide,
    by decide, by decide⟩, -1800, by decide⟩
  have shown : (dateTime held).toText = "2024-02-29T23:59:59.05-00:30" := by decide +kernel
  have legible : Legible .dateTime (.dateTime held) :=
    .dateTime held (by decide) (by decide) (by decide)
  obtain ⟨converted, read⟩ := convert?_display legible "\u3000" "\n"
    (List.all_eq_true.mp rfl) (List.all_eq_true.mp rfl)
  rw [shown] at converted read
  exact ⟨held, rfl, rfl, shown, converted, read held rfl⟩

end Value

end RecordQuery
