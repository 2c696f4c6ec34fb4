/-
This file proves that dates and date-times are read as they were written.

Each part of the text is read by a reader of its own, which leaves the rest of the text to the next
one. So what is proved of a part holds whatever follows it. A fraction of a second is the exception:
its end is the first character that is no digit, and an offset starts with such a one.
-/

import Mathlib.Data.List.TakeWhile
import Mathlib.Data.Option.Basic
import RecordQuery.Calendar.Rfc3339
import RecordQuery.Proofs.Numerals

namespace RecordQuery.Calendar

open Number

theorem readChar?_self (char : Char) (rest : List Char) :
    readChar? char (char :: rest) = some rest :=
  if_pos rfl

/-! ### Dates -/

namespace Date

theorem daysInMonth_of_gt (year : Int) {month : Nat} (beyond : 12 < month) :
    daysInMonth year month = 0 := by
  unfold daysInMonth
  split <;> omega

theorem month_lt (date : Date) : date.month < 10 ^ 2 := by
  obtain ⟨year, month, day, valid⟩ := date
  show month < 100
  by_contra tooGreat
  simp [isDate, daysInMonth_of_gt year (show 12 < month by omega)] at valid
  omega

theorem daysInMonth_le (year : Int) (month : Nat) : daysInMonth year month ≤ 31 := by
  unfold daysInMonth
  repeat' split
  all_goals decide

theorem day_lt (date : Date) : date.day < 10 ^ 2 := by
  obtain ⟨year, month, day, valid⟩ := date
  have most := daysInMonth_le year month
  simp [isDate] at valid
  show day < 100
  omega

theorem natAbs_year_lt (date : Date) : date.year.natAbs < 10 ^ 4 := by
  obtain ⟨year, month, day, valid⟩ := date
  simp [isDate] at valid
  show year.natAbs < 10000
  omega

theorem ofParts?_self (date : Date) : ofParts? date.year date.month date.day = some date :=
  dif_pos date.valid

/-- The digits of a date, without the sign of its year. -/
def digits (date : Date) : List Char :=
  (padded 4 date.year.natAbs).toList ++ '-' :: ((padded 2 date.month).toList ++
    '-' :: (padded 2 date.day).toList)

theorem toList_toText (date : Date) :
    date.toText.toList = (if date.year < 0 then ['-'] else []) ++ date.digits := by
  unfold toText digits
  split <;> simp

theorem isVisible_digits (date : Date) : ∀ char ∈ date.digits, Text.IsVisible char := by
  refine List.forall_mem_append.mpr ⟨isVisible_padded, List.forall_mem_cons.mpr ⟨by decide, ?_⟩⟩
  exact List.forall_mem_append.mpr
    ⟨isVisible_padded, List.forall_mem_cons.mpr ⟨by decide, isVisible_padded⟩⟩

theorem isVisible_toText (date : Date) : ∀ char ∈ date.toText.toList, Text.IsVisible char := by
  rw [toList_toText]
  refine List.forall_mem_append.mpr ⟨?_, date.isVisible_digits⟩
  split
  · exact List.forall_mem_singleton.mpr (by decide)
  · exact List.forall_mem_nil _

end Date

/-- A date is read as its digits were written, if the sign of its year is known. -/
theorem readDate?_digits (date : Date) (rest : List Char) :
    readDate? (date.year < 0) (date.digits ++ rest) = some (date, rest) := by
  have signed : (if decide (date.year < 0) = true then -(date.year.natAbs : Int)
      else date.year.natAbs) = date.year := by
    split
    · rename_i negative
      rw [decide_eq_true_iff] at negative
      omega
    · rename_i notNegative
      rw [decide_eq_true_iff] at notNegative
      omega
  simp only [Date.digits, List.append_assoc, List.cons_append]
  unfold readDate?
  simp only [readDigits?_padded (by decide) date.natAbs_year_lt, Option.bind_eq_bind,
    Option.bind_some, readChar?_self, readDigits?_padded (by decide) date.month_lt,
    readDigits?_padded (by decide) date.day_lt, signed, Date.ofParts?_self]
  rfl

theorem Date.splitSign_toText (date : Date) :
    Numeral.splitSign date.toText.toList = (decide (date.year < 0), date.digits) := by
  rw [toList_toText]
  split
  · rename_i negative
    rw [decide_eq_true negative, List.singleton_append]
    rfl
  · rename_i notNegative
    have first := all_isDigit_padded 4 date.year.natAbs
    have length := length_padded (by decide) date.natAbs_year_lt
    rw [decide_eq_false notNegative, List.nil_append, digits]
    cases year : (padded 4 date.year.natAbs).toList with
    | nil => simp [year] at length
    | cons digit rest =>
      rw [year] at first
      exact Numeral.splitSign_of_isDigit (List.all_eq_true.mp first digit List.mem_cons_self)

/-- A date is read as it was written. -/
theorem Date.ofText?_toText (date : Date) : Date.ofText? date.toText.toList = some date := by
  have read := readDate?_digits date []
  rw [List.append_nil] at read
  unfold ofText?
  simp only [splitSign_toText, read]

/-! ### Fractions of a second -/

theorem length_fractionDigits_le {nanosecond : Nat} (fits : nanosecond < 10 ^ 9) :
    (fractionDigits nanosecond).length ≤ 9 := by
  have shorter := (Date.padded 9 nanosecond).toList.reverse.dropWhile_sublist (· = '0') |>.length_le
  rw [List.length_reverse, Date.length_padded (by decide) fits] at shorter
  rwa [fractionDigits, List.length_reverse]

/-- The digits of a fraction make up all its places with the zeros that were left off. -/
theorem fractionDigits_append_zeros {nanosecond : Nat} (fits : nanosecond < 10 ^ 9) :
    fractionDigits nanosecond ++ List.replicate (9 - (fractionDigits nanosecond).length) '0' =
      (Date.padded 9 nanosecond).toList := by
  have length := Date.length_padded (by decide) fits
  generalize written : (Date.padded 9 nanosecond).toList = places at length
  have left : fractionDigits nanosecond = (places.reverse.dropWhile (· = '0')).reverse := by
    rw [fractionDigits, written]
  have zeros : places.reverse.takeWhile (· = '0') =
      List.replicate (places.reverse.takeWhile (· = '0')).length '0' :=
    List.eq_replicate_of_mem fun char member => by simpa using List.mem_takeWhile_imp member
  have whole := List.takeWhile_append_dropWhile (p := fun char => decide (char = '0'))
    (l := places.reverse)
  have lengths := congrArg List.length whole
  rw [List.length_append, List.length_reverse, length] at lengths
  have rest : 9 - (fractionDigits nanosecond).length =
      (places.reverse.takeWhile (· = '0')).length := by
    rw [left, List.length_reverse]
    omega
  rw [rest, left]
  refine List.reverse_inj.mp ?_
  rw [List.reverse_append, List.reverse_replicate, List.reverse_reverse, ← zeros, whole]

theorem isDigit_of_mem_fractionDigits {nanosecond : Nat} {char : Char}
    (member : char ∈ fractionDigits nanosecond) : char.isDigit = true := by
  refine List.all_eq_true.mp (Date.all_isDigit_padded 9 nanosecond) char ?_
  rw [fractionDigits, List.mem_reverse] at member
  exact List.mem_reverse.mp ((List.dropWhile_sublist _).subset member)

/-- A fraction as it is written after the seconds: nothing, or a point and its digits. -/
def fractionText (nanosecond : Nat) : List Char :=
  if (fractionDigits nanosecond).isEmpty then [] else '.' :: fractionDigits nanosecond

theorem isVisible_fractionText {nanosecond : Nat} :
    ∀ char ∈ fractionText nanosecond, Text.IsVisible char := by
  unfold fractionText
  split
  · exact List.forall_mem_nil _
  · exact List.forall_mem_cons.mpr ⟨by decide,
      fun char member => Text.isVisible_of_isDigit (isDigit_of_mem_fractionDigits member)⟩

/-- A fraction is read as it was written, up to a character that is neither a digit nor a point. -/
theorem readFraction?_fractionText {nanosecond : Nat} (fits : nanosecond < 10 ^ 9)
    {next : Char} (notDigit : next.isDigit = false) (notPoint : next ≠ '.') (rest : List Char) :
    readFraction? (fractionText nanosecond ++ next :: rest) = some (nanosecond, next :: rest) := by
  have whole := fractionDigits_append_zeros fits
  unfold fractionText
  split
  · rename_i empty
    rw [List.isEmpty_iff.mp empty] at whole
    have zero : nanosecond = 0 := by
      rw [← Date.digitsValue_padded 9 nanosecond, ← whole]
      rfl
    rw [List.nil_append, zero, readFraction?]
    rintro _ point
    exact notPoint (List.cons.inj point).1
  · rename_i notEmpty
    have digits : ((fractionDigits nanosecond) ++ next :: rest).takeWhile Char.isDigit =
        fractionDigits nanosecond := by
      rw [List.takeWhile_append_of_pos fun char => isDigit_of_mem_fractionDigits,
        List.takeWhile_cons_of_neg (by simp [notDigit]), List.append_nil]
    have after : ((fractionDigits nanosecond) ++ next :: rest).dropWhile Char.isDigit =
        next :: rest := by
      rw [List.dropWhile_append_of_pos fun char => isDigit_of_mem_fractionDigits,
        List.dropWhile_cons_of_neg (by simp [notDigit])]
    rw [List.cons_append, readFraction?]
    simp only [Numeral.spanDigits, digits, after, notEmpty, Bool.false_eq_true, if_false,
      List.take_of_length_le (length_fractionDigits_le fits), whole, Date.digitsValue_padded]

/-! ### Offsets -/

/-- An offset as it is written: z for none, or a sign, hours and minutes. -/
def writtenOffset (offset : Int) : String :=
  if offset = 0 then "Z" else DateTime.offsetText offset

theorem toList_writtenOffset (offset : Int) : (writtenOffset offset).toList =
    if offset = 0 then ['Z'] else (if offset < 0 then '-' else '+') ::
      ((Date.padded 2 (offset.natAbs / 3600)).toList ++
        ':' :: (Date.padded 2 (offset.natAbs / 60 % 60)).toList) := by
  unfold writtenOffset DateTime.offsetText
  repeat' split
  all_goals simp

/-- An offset of whole minutes and less than a day is read as it was written. -/
theorem readOffset?_writtenOffset {offset : Int} (lessThanDay : offset.natAbs < 86400)
    (wholeMinutes : offset.natAbs % 60 = 0) :
    readOffset? (writtenOffset offset).toList = some (offset, []) := by
  rw [toList_writtenOffset]
  split
  · rename_i none
    rw [none]
    rfl
  · have hours : offset.natAbs / 3600 < 24 := by omega
    have minutes : offset.natAbs / 60 % 60 < 60 := Nat.mod_lt _ (by decide)
    have read (rest : List Char) := readDigits?_padded (by decide)
      (Nat.lt_trans hours (by decide : 24 < 10 ^ 2)) rest
    have readMinutes := readDigits?_padded (by decide)
      (Nat.lt_trans minutes (by decide : 60 < 10 ^ 2)) []
    rw [List.append_nil] at readMinutes
    have size : ((offset.natAbs / 3600 : Nat) : Int) * 3600 +
        ((offset.natAbs / 60 % 60 : Nat) : Int) * 60 = offset.natAbs := by omega
    -- The sign is taken off by the reader's own test of it.
    split
    · have behind : -(offset.natAbs : Int) = offset := by omega
      simp only [readOffset?, Char.reduceEq, imp_self, guard, decide_true, decide_false,
        Bool.or_true, Bool.and_true, if_true, Option.pure_def, Option.bind_eq_bind,
        Option.bind_some, read, readChar?_self, readMinutes, hours, minutes, size, behind]
    · have ahead : (offset.natAbs : Int) = offset := by omega
      simp only [readOffset?, Char.reduceEq, imp_self, guard, decide_true, decide_false,
        Bool.or_false, Bool.and_true, if_true, if_false, Option.pure_def, Option.bind_eq_bind,
        Option.bind_some, read, readChar?_self, readMinutes, hours, minutes, size, ahead]

/-- An offset starts with a character that cannot belong to a fraction. -/
theorem exists_writtenOffset (offset : Int) :
    ∃ next rest, (writtenOffset offset).toList = next :: rest ∧
      next.isDigit = false ∧ next ≠ '.' := by
  rw [toList_writtenOffset]
  split
  · exact ⟨'Z', [], rfl, by decide, by decide⟩
  · refine ⟨_, _, rfl, ?_⟩
    split <;> decide

theorem isVisible_writtenOffset {offset : Int} :
    ∀ char ∈ (writtenOffset offset).toList, Text.IsVisible char := by
  rw [toList_writtenOffset]
  split
  · exact List.forall_mem_singleton.mpr (by decide)
  · refine List.forall_mem_cons.mpr ⟨?_, List.forall_mem_append.mpr
      ⟨Date.isVisible_padded, List.forall_mem_cons.mpr ⟨by decide, Date.isVisible_padded⟩⟩⟩
    split <;> decide

/-! ### Date-times -/

theorem ClockTime.ofParts?_self (time : ClockTime) :
    ofParts? time.hour time.minute time.second time.nanosecond = some time :=
  dif_pos ⟨time.hour_lt, time.minute_lt, time.second_lt, time.nanosecond_lt⟩

namespace DateTime

variable {value : DateTime}

/-- A clock time as it is written after the date: hours, minutes and seconds with their fraction. -/
def timeText (time : ClockTime) : List Char :=
  (Date.padded 2 time.hour).toList ++ ':' :: ((Date.padded 2 time.minute).toList ++
    ':' :: ((Date.padded 2 time.second).toList ++ fractionText time.nanosecond))

theorem toList_toText (written : value.isRfc3339 = true) :
    value.toText.toList =
      value.date.digits ++ 'T' :: (timeText value.time ++ (writtenOffset value.offset).toList) := by
  have year : ¬value.date.year < 0 := by
    simp [isRfc3339] at written
    omega
  have date : value.date.toText.toList = value.date.digits := by
    rw [Date.toList_toText, if_neg year, List.nil_append]
  unfold toText toRfc3339?
  rw [if_pos written, Option.getD_some]
  unfold timeText fractionText
  cases (fractionDigits value.time.nanosecond).isEmpty <;>
    simp [date, writtenOffset, String.toList_append]

theorem isVisible_toText (written : value.isRfc3339 = true) :
    ∀ char ∈ value.toText.toList, Text.IsVisible char := by
  rw [toList_toText written]
  unfold timeText
  simp only [List.forall_mem_append, List.forall_mem_cons]
  exact ⟨value.date.isVisible_digits, by decide, ⟨Date.isVisible_padded, by decide,
    Date.isVisible_padded, by decide, Date.isVisible_padded, isVisible_fractionText⟩,
    isVisible_writtenOffset⟩

theorem ofParts?_self (value : DateTime) :
    ofParts? value.date value.time value.offset = some value :=
  dif_pos value.offset_le

/-- A date-time that RFC 3339 can write is read as it was written, with its offset. -/
theorem ofRfc3339?_toText (written : value.isRfc3339 = true) :
    ofRfc3339? value.toText.toList = some value := by
  obtain ⟨next, rest, offset, notDigit, notPoint⟩ := exists_writtenOffset value.offset
  have form : 0 ≤ value.date.year ∧ value.offset.natAbs < 86400 ∧
      value.offset.natAbs % 60 = 0 := by
    simpa [isRfc3339, and_assoc] using written
  obtain ⟨year, lessThanDay, wholeMinutes⟩ := form
  have readOffset := readOffset?_writtenOffset lessThanDay wholeMinutes
  have readDate := readDate?_digits value.date
  rw [decide_eq_false (Int.not_lt.mpr year)] at readDate
  have hour := Nat.lt_trans value.time.hour_lt (by decide : 24 < 10 ^ 2)
  have minute := Nat.lt_trans value.time.minute_lt (by decide : 60 < 10 ^ 2)
  have second := Nat.lt_trans value.time.second_lt (by decide : 60 < 10 ^ 2)
  have noLeap : value.time.second ≠ 60 := Nat.ne_of_lt value.time.second_lt
  rw [offset] at readOffset
  rw [toList_toText written, offset, timeText]
  simp only [List.append_assoc, List.cons_append]
  -- What each part leaves of the text is what the next one reads.
  unfold ofRfc3339?
  dsimp only [Option.bind_eq_bind]
  rw [readDate, Option.bind_some]
  dsimp only
  rw [if_pos (by decide), Option.bind_some, readDigits?_padded (by decide) hour, Option.bind_some]
  dsimp only
  rw [readChar?_self, Option.bind_some, readDigits?_padded (by decide) minute, Option.bind_some]
  dsimp only
  rw [readChar?_self, Option.bind_some, readDigits?_padded (by decide) second, Option.bind_some]
  dsimp only
  rw [readFraction?_fractionText value.time.nanosecond_lt notDigit notPoint, Option.bind_some]
  dsimp only
  rw [readOffset, Option.bind_some]
  dsimp only
  rw [if_neg noLeap, ClockTime.ofParts?_self, Option.bind_some, ofParts?_self]
  rfl

/-- A date alone is no date-time. -/
theorem ofRfc3339?_dateText (date : Date) : ofRfc3339? date.toText.toList = none := by
  have readDate := readDate?_digits date []
  rw [List.append_nil] at readDate
  rw [Date.toList_toText]
  unfold ofRfc3339?
  split
  · -- A sign is no digit, so that not even a year is read.
    have unread : readDigits? 4 ('-' :: date.digits) = none := by simp [readDigits?]
    have noDate : readDate? false ('-' :: date.digits) = none := by
      rw [readDate?, unread]
      rfl
    dsimp only [Option.bind_eq_bind, List.singleton_append]
    rw [noDate, Option.bind_none]
  · rename_i notNegative
    rw [decide_eq_false notNegative] at readDate
    dsimp only [Option.bind_eq_bind, List.nil_append]
    rw [readDate, Option.bind_some]
    rfl

end DateTime

end RecordQuery.Calendar
