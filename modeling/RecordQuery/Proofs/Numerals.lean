/-
This file proves that numbers are read as they were written.

They are written in decimal digits, with a minus if they are negative, in so many digits with zeros
in front, or in hexadecimal digits. None of these digits is white space.
-/

import Mathlib.Algebra.Ring.Nat
import RecordQuery.Calendar.Date
import RecordQuery.Number.Radix
import RecordQuery.Text.Blank

namespace RecordQuery

open Calendar

/-! ### Characters that are seen -/

namespace Text

/-- Whether a character is an ASCII character that can be seen. -/
def IsVisible (char : Char) : Prop :=
  0x20 < char.toNat ∧ char.toNat < 0x7f

instance : DecidablePred IsVisible :=
  fun _ => inferInstanceAs (Decidable (_ ∧ _))

theorem not_isBlank_of_isVisible {char : Char} (visible : IsVisible char) :
    isBlank char = false := by
  obtain ⟨least, greatest⟩ := visible
  simp [isBlank, inRanges, blankRanges, CharRange.contains]
  omega

theorem isVisible_of_isDigit {char : Char} (digit : char.isDigit = true) : IsVisible char := by
  obtain ⟨least, greatest⟩ := Char.isDigit_iff_toNat.mp digit
  have zero : '0'.toNat = 48 := rfl
  have nine : '9'.toNat = 57 := rfl
  exact ⟨by omega, by omega⟩

end Text

namespace Number

/-! ### Decimal digits -/

namespace Numeral

theorem digitsValue_eq (digits : List Char) :
    digitsValue digits = Nat.ofDigitChars 10 digits 0 := by
  rw [Nat.ofDigitChars_eq_foldl, digitsValue]
  simp only [Nat.mul_comm 10]

theorem digitsValue_toDigits (number : Nat) : digitsValue (Nat.toDigits 10 number) = number := by
  rw [digitsValue_eq, Nat.ofDigitChars_ten_toDigits]

/-- Zeros in front of a number do not count. -/
theorem digitsValue_zeros_append (zeros : Nat) (digits : List Char) :
    digitsValue (List.replicate zeros '0' ++ digits) = digitsValue digits := by
  rw [digitsValue_eq, digitsValue_eq, Nat.ofDigitChars_append, Nat.ofDigitChars_replicate_zero,
    Nat.mul_zero]

theorem all_isDigit_toDigits (number : Nat) : (Nat.toDigits 10 number).all Char.isDigit = true :=
  List.all_eq_true.mpr fun _ member =>
    Nat.isDigit_of_mem_toDigits (by decide) (by decide) member

/-- A text that starts with a digit has no sign. -/
theorem splitSign_of_isDigit {first : Char} {rest : List Char} (digit : first.isDigit = true) :
    splitSign (first :: rest) = (false, first :: rest) := by
  unfold splitSign
  split
  · rename_i minus
    obtain ⟨rfl, _⟩ := List.cons.inj minus
    contradiction
  · rename_i plus
    obtain ⟨rfl, _⟩ := List.cons.inj plus
    contradiction
  · rfl

theorem splitSign_toDigits (number : Nat) :
    splitSign (Nat.toDigits 10 number) = (false, Nat.toDigits 10 number) := by
  have digits := all_isDigit_toDigits number
  cases written : Nat.toDigits 10 number with
  | nil => exact absurd written Nat.toDigits_ne_nil
  | cons first rest =>
    rw [written] at digits
    exact splitSign_of_isDigit (List.all_eq_true.mp digits first List.mem_cons_self)

theorem integer?_toDigits (number : Nat) :
    integer? (Nat.toDigits 10 number) = some (number : Int) := by
  simp [integer?, splitSign_toDigits, all_isDigit_toDigits, digitsValue_toDigits]

theorem integer?_minus_toDigits (number : Nat) :
    integer? ('-' :: Nat.toDigits 10 number) = some (-(number : Int)) := by
  simp [integer?, splitSign, all_isDigit_toDigits, digitsValue_toDigits]

/-- An integer is written as its digits, after a minus if it is negative. -/
theorem toList_toString_cases (integer : Int) :
    (∃ number : Nat, integer = number ∧ (toString integer).toList = Nat.toDigits 10 number) ∨
      ∃ number : Nat, integer = -number ∧
        (toString integer).toList = '-' :: Nat.toDigits 10 number := by
  cases integer with
  | ofNat number => exact .inl ⟨number, rfl, Nat.toList_repr⟩
  | negSucc number =>
    refine .inr ⟨number + 1, rfl, ?_⟩
    have written : toString (Int.negSucc number) = "-" ++ (number + 1).repr := rfl
    rw [written, String.toList_append, Nat.toList_repr]
    rfl

/-- An integer is read as it was written. -/
theorem integer?_toString (integer : Int) : integer? (toString integer).toList = some integer := by
  rcases toList_toString_cases integer with ⟨number, rfl, written⟩ | ⟨number, rfl, written⟩
  · rw [written, integer?_toDigits]
  · rw [written, integer?_minus_toDigits]

theorem isVisible_toString {integer : Int} :
    ∀ char ∈ (toString integer).toList, Text.IsVisible char := by
  have digits (number : Nat) : ∀ char ∈ Nat.toDigits 10 number, Text.IsVisible char :=
    fun _ member => Text.isVisible_of_isDigit
      (Nat.isDigit_of_mem_toDigits (by decide) (by decide) member)
  rcases toList_toString_cases integer with ⟨number, _, written⟩ | ⟨number, _, written⟩
  · rw [written]
    exact digits number
  · rw [written]
    exact List.forall_mem_cons.mpr ⟨by decide, digits number⟩

end Numeral

/-! ### Hexadecimal digits -/

namespace Radix

theorem digit?_digitChar : ∀ value < 16, digit? 16 (Nat.digitChar value) = some value := by
  decide

theorem isVisible_digitChar : ∀ value < 16, Text.IsVisible (Nat.digitChar value) := by
  decide

theorem number?_append_singleton (radix : Nat) (digits : List Char) (last : Char) :
    number? radix (digits ++ [last]) =
      (number? radix digits).bind fun number =>
        (digit? radix last).map fun value => number * radix + value := by
  unfold number?
  rw [List.mapM_append]
  cases digits.mapM (digit? radix) with
  | none => rfl
  | some values => cases found : digit? radix last <;> simp [found]

/-- Zeros in front of a number do not count. -/
theorem number?_zeros_append (zeros : Nat) (digits : List Char) :
    number? 16 (List.replicate zeros '0' ++ digits) = number? 16 digits := by
  have zero : digit? 16 '0' = some 0 := rfl
  induction zeros with
  | zero => rfl
  | succ zeros inductionHypothesis =>
    rw [← inductionHypothesis, List.replicate_succ, List.cons_append, number?, List.mapM_cons, zero,
      number?]
    cases List.mapM (digit? 16) (List.replicate zeros '0' ++ digits) <;> rfl

/-- A number is read as it was written in hexadecimal digits. -/
theorem number?_toDigits (number : Nat) : number? 16 (Nat.toDigits 16 number) = some number := by
  induction number using Nat.strongRecOn with
  | ind number inductionHypothesis =>
    rw [Nat.toDigits_eq_if (by decide)]
    split
    · rename_i small
      rw [← List.nil_append [_], number?_append_singleton, digit?_digitChar number small]
      simp [number?]
    · rename_i large
      have last : number % 16 < 16 := Nat.mod_lt number (by decide)
      rw [number?_append_singleton, inductionHypothesis (number / 16) (by omega),
        digit?_digitChar _ last, Option.bind_some, Option.map_some, Nat.div_add_mod']

theorem isVisible_toDigits (number : Nat) :
    ∀ char ∈ Nat.toDigits 16 number, Text.IsVisible char := by
  induction number using Nat.strongRecOn with
  | ind number inductionHypothesis =>
    rw [Nat.toDigits_eq_if (by decide)]
    split
    · rename_i small
      exact List.forall_mem_singleton.mpr (isVisible_digitChar number small)
    · rename_i large
      refine List.forall_mem_append.mpr ⟨inductionHypothesis (number / 16) (by omega), ?_⟩
      exact List.forall_mem_singleton.mpr
        (isVisible_digitChar _ (Nat.mod_lt number (by decide)))

end Radix

end Number

/-! ### Digits in a given number -/

namespace Calendar

open Number

variable {width value : Nat}

theorem Date.toList_padded (width value : Nat) :
    (Date.padded width value).toList =
      List.replicate (width - (Nat.toDigits 10 value).length) '0' ++ Nat.toDigits 10 value :=
  String.toList_ofList

theorem Date.length_padded (positive : 0 < width) (fits : value < 10 ^ width) :
    (Date.padded width value).toList.length = width := by
  have enough := (Nat.length_toDigits_le_iff (by decide) positive).mpr fits
  rw [Date.toList_padded, List.length_append, List.length_replicate]
  omega

theorem Date.all_isDigit_padded (width value : Nat) :
    (Date.padded width value).toList.all Char.isDigit = true := by
  rw [Date.toList_padded, List.all_append, Numeral.all_isDigit_toDigits, Bool.and_true]
  exact List.all_eq_true.mpr fun char member => by rw [List.eq_of_mem_replicate member]; rfl

theorem Date.isVisible_padded : ∀ char ∈ (Date.padded width value).toList, Text.IsVisible char :=
  fun char member => Text.isVisible_of_isDigit
    (List.all_eq_true.mp (Date.all_isDigit_padded width value) char member)

theorem Date.digitsValue_padded (width value : Nat) :
    Numeral.digitsValue (Date.padded width value).toList = value := by
  rw [Date.toList_padded, Numeral.digitsValue_zeros_append, Numeral.digitsValue_toDigits]

/-- A number is read as it was written in a given number of digits. -/
theorem readDigits?_padded (positive : 0 < width) (fits : value < 10 ^ width)
    (rest : List Char) :
    readDigits? width ((Date.padded width value).toList ++ rest) = some (value, rest) := by
  have length := Date.length_padded positive fits
  have taken : ((Date.padded width value).toList ++ rest).take width =
      (Date.padded width value).toList := List.take_left' length
  have dropped : ((Date.padded width value).toList ++ rest).drop width = rest :=
    List.drop_left' length
  unfold readDigits?
  simp only [taken, dropped, length, Date.all_isDigit_padded, Date.digitsValue_padded, and_self,
    if_true]

end Calendar

end RecordQuery
