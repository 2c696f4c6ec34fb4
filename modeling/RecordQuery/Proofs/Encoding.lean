/-
This file proves that texts can be searched as bytes.

In UTF-8 a character takes up to four bytes, and none but the first of them can begin a character.
So the bytes of one text stand among those of another only where a character begins, and then they
are read as the characters they were written from. What begins, ends or occurs in a text as bytes
does so as characters, and the other way round.
-/

import Mathlib.Data.List.Infix

namespace RecordQuery.Text

open String (utf8EncodeChar)

/-- The bytes of a text in UTF-8. -/
def encode (text : List Char) : List UInt8 :=
  text.flatMap utf8EncodeChar

@[simp] theorem encode_cons (char : Char) (text : List Char) :
    encode (char :: text) = utf8EncodeChar char ++ encode text := rfl

@[simp] theorem encode_append (first second : List Char) :
    encode (first ++ second) = encode first ++ encode second :=
  List.flatMap_append

/-! ### One character -/

theorem utf8EncodeChar_ne_nil (char : Char) : utf8EncodeChar char ≠ [] := by
  rw [ne_eq, ← List.length_eq_zero_iff, String.length_utf8EncodeChar]
  exact char.utf8Size_pos.ne'

/-- The character that some bytes begin with is read off them. -/
theorem utf8EncodeChar_append_inj {first second : Char} {firstRest secondRest : List UInt8}
    (same : utf8EncodeChar first ++ firstRest = utf8EncodeChar second ++ secondRest) :
    first = second ∧ firstRest = secondRest := by
  have read (char : Char) (rest : List UInt8) :
      (utf8EncodeChar char ++ rest).toByteArray.utf8DecodeChar? 0 = some char := by
    rw [List.toByteArray_append]
    exact ByteArray.utf8DecodeChar?_utf8EncodeChar_append
  obtain rfl : first = second := by
    rw [← Option.some_inj, ← read first firstRest, same, read]
  exact ⟨rfl, List.append_cancel_left same⟩

/-! ### Beginning of a text -/

/-- What a text begins with as bytes it begins with as characters. -/
theorem encode_prefix_iff {part text : List Char} : encode part <+: encode text ↔ part <+: text := by
  refine ⟨fun begins => ?_, ?_⟩
  · induction part generalizing text with
    | nil => exact List.nil_prefix
    | cons char part inductionHypothesis =>
      obtain ⟨rest, whole⟩ := begins
      rw [encode_cons, List.append_assoc] at whole
      cases text with
      | nil =>
        obtain ⟨gone, _⟩ := List.append_eq_nil_iff.mp whole
        exact absurd gone (utf8EncodeChar_ne_nil char)
      | cons other text =>
        obtain ⟨rfl, tails⟩ := utf8EncodeChar_append_inj whole
        exact List.cons_prefix_cons.mpr ⟨rfl, inductionHypothesis ⟨rest, tails⟩⟩
  · rintro ⟨rest, rfl⟩
    exact ⟨encode rest, (encode_append part rest).symm⟩

theorem encode_injective : Function.Injective encode := by
  intro first second same
  have forth : first <+: second := encode_prefix_iff.mp (same ▸ List.prefix_rfl)
  have back : second <+: first := encode_prefix_iff.mp (same ▸ List.prefix_rfl)
  exact forth.eq_of_length (Nat.le_antisymm forth.length_le back.length_le)

/-! ### Inside a text -/

/-- Only the first byte of a character can begin one. -/
theorem eq_nil_of_utf8EncodeChar {char : Char} {byte : UInt8} {before after : List UInt8}
    (whole : utf8EncodeChar char = before ++ byte :: after) (first : byte.IsUTF8FirstByte) :
    before = [] := by
  have inside : before.length < (utf8EncodeChar char).length := by simp [whole]
  have here : (utf8EncodeChar char)[before.length] = byte := by simp [whole]
  rw [← here, UInt8.isUTF8FirstByte_getElem_utf8EncodeChar] at first
  exact List.length_eq_zero_iff.mp first

/-- Bytes at the end of a text that begin as a character does are written from the end of it. -/
theorem exists_suffix_of_encode {text : List Char} {byte : UInt8} {bytes : List UInt8}
    (first : byte.IsUTF8FirstByte) (ends : byte :: bytes <:+ encode text) :
    ∃ rest, rest <:+ text ∧ encode rest = byte :: bytes := by
  induction text with
  | nil => exact absurd (List.suffix_nil.mp ends) (List.cons_ne_nil byte bytes)
  | cons char text inductionHypothesis =>
    have later (ends : byte :: bytes <:+ encode text) :
        ∃ rest, rest <:+ char :: text ∧ encode rest = byte :: bytes := by
      obtain ⟨rest, inside, same⟩ := inductionHypothesis ends
      exact ⟨rest, inside.trans (List.suffix_cons char text), same⟩
    obtain ⟨before, whole⟩ := ends
    rw [encode_cons, List.append_eq_append_iff] at whole
    obtain ⟨within, ofChar, tails⟩ | ⟨between, _, tails⟩ := whole
    · cases within with
      | nil => exact later (tails ▸ List.suffix_rfl)
      | cons head within =>
        obtain ⟨rfl, rfl⟩ := List.cons.inj tails
        obtain rfl := eq_nil_of_utf8EncodeChar ofChar first
        exact ⟨char :: text, List.suffix_rfl, congrArg (· ++ encode text) ofChar⟩
    · exact later (tails ▸ List.suffix_append between _)

/-- The bytes of a text that is not empty begin as a character does. -/
theorem exists_first_of_encode (char : Char) (text : List Char) :
    ∃ byte bytes, byte.IsUTF8FirstByte ∧ encode (char :: text) = byte :: bytes := by
  obtain ⟨byte, bytes, written⟩ := List.exists_cons_of_ne_nil (utf8EncodeChar_ne_nil char)
  have inside : 0 < (utf8EncodeChar char).length := by simp [written]
  have here : (utf8EncodeChar char)[0] = byte := by simp [written]
  refine ⟨byte, bytes ++ encode text, ?_, congrArg (· ++ encode text) written⟩
  rw [← here, UInt8.isUTF8FirstByte_getElem_utf8EncodeChar]

/-- What a text ends with as bytes it ends with as characters. -/
theorem encode_suffix_iff {part text : List Char} : encode part <:+ encode text ↔ part <:+ text := by
  refine ⟨fun ends => ?_, ?_⟩
  · cases part with
    | nil => exact List.nil_suffix
    | cons char part =>
      obtain ⟨byte, bytes, first, written⟩ := exists_first_of_encode char part
      obtain ⟨rest, inside, same⟩ := exists_suffix_of_encode first (written ▸ ends)
      exact encode_injective (same.trans written.symm) ▸ inside
  · rintro ⟨before, rfl⟩
    exact ⟨encode before, (encode_append before part).symm⟩

/-- What occurs in a text as bytes occurs in it as characters. -/
theorem encode_infix_iff {part text : List Char} : encode part <:+: encode text ↔ part <:+: text := by
  refine ⟨fun occurs => ?_, ?_⟩
  · cases part with
    | nil => exact List.nil_infix
    | cons char part =>
      obtain ⟨byte, bytes, first, written⟩ := exists_first_of_encode char part
      obtain ⟨bytesOn, begins, ends⟩ := List.infix_iff_prefix_suffix.mp occurs
      obtain ⟨after, rfl⟩ := begins
      rw [written, List.cons_append] at ends
      obtain ⟨rest, inside, same⟩ := exists_suffix_of_encode first ends
      have here : char :: part <+: rest :=
        encode_prefix_iff.mp ⟨after, by rw [same, written, List.cons_append]⟩
      exact here.isInfix.trans inside.isInfix
  · rintro ⟨before, after, rfl⟩
    exact ⟨encode before, encode after, by simp⟩

end RecordQuery.Text
