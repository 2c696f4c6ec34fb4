/-
This file proves what float constants amount to on fields of integers.

A float constant is converted to the word that it counts as one number with, and if there is none it
is refused. Words are then compared with the word, and drifted floats with the double next to it,
which is the constant again. So equality and membership match what counts as one number with the
constant, and ranges match the numbers within their bounds. All this is exact, but for one double:
the one past the greatest word is taken for the greatest word.
-/

import RecordQuery.Proofs.Identity
import RecordQuery.Proofs.Integers

namespace RecordQuery

open Number

/-! ### What a condition matches -/

/-- Whether a condition can be built and then matches a record, as it stands or in normal form. -/
def Condition.Matches (schema : Schema) (normal : Bool) (record : Record) (condition : Condition) :
    Prop :=
  ∃ predicate, condition.toPredicate schema = .ok predicate ∧
    (if normal then predicate.normalize else predicate).evaluate record = .ok true

/-- Whether two values have keys, and these are the same. -/
def Value.SharesKey (left right : Value) : Prop :=
  ∃ leftKey rightKey, Key.ofValue? left = some leftKey ∧ Key.ofValue? right = some rightKey ∧
    leftKey.same rightKey = true

namespace Condition

variable {schema : Schema} {text : String} {path : Path} {normal : Bool} {record : Record}

/-- A condition that comes to a test matches what passes it. -/
theorem matches_iff_of_realizes {condition : Condition} {predicate : Predicate}
    {test : Record → Bool} (built : condition.toPredicate schema = .ok predicate)
    (realizes : predicate.Realizes test) :
    condition.Matches schema normal record ↔ test record = true := by
  have answers : (if normal then predicate.normalize else predicate).evaluate record =
      .ok (test record) := by
    cases normal with
    | true => exact realizes.normalize record
    | false => exact realizes.evaluate record
  constructor
  · rintro ⟨other, builtToo, held⟩
    obtain rfl : predicate = other := Except.ok.inj (built.symm.trans builtToo)
    exact Except.ok.inj (answers.symm.trans held)
  · intro passed
    exact ⟨predicate, built, answers.trans (congrArg Except.ok passed)⟩

/-- A condition that is built of some part, and comes to a test with it, matches what passes the
test with such a part. -/
theorem matches_iff_exists {condition : Condition} {Part : Type} {suits : Part → Prop}
    {test : Part → Record → Bool}
    (needs : ∀ predicate, condition.toPredicate schema = .ok predicate → ∃ part, suits part)
    (comesTo : ∀ part, suits part → ∃ predicate,
      condition.toPredicate schema = .ok predicate ∧ predicate.Realizes (test part)) :
    condition.Matches schema normal record ↔ ∃ part, suits part ∧ test part record = true := by
  constructor
  · intro matched
    obtain ⟨predicate, built, _⟩ := id matched
    obtain ⟨part, suited⟩ := needs predicate built
    obtain ⟨other, builtToo, realizes⟩ := comesTo part suited
    exact ⟨part, suited, (matches_iff_of_realizes builtToo realizes).mp matched⟩
  · rintro ⟨part, suited, passed⟩
    obtain ⟨predicate, built, realizes⟩ := comesTo part suited
    exact (matches_iff_of_realizes built realizes).mpr passed

/-- A comparison matches what is in its relation with the converted constant. -/
theorem matches_compare_iff {operator : Comparison} (resolved : schema.resolve text = .ok path)
    (suited : operator.isOrdering = true → path.kind.isOrdered = true) (value : Value) :
    (compare operator text value).Matches schema normal record ↔
      ∃ constant, value.convert? path.kind = some constant ∧
        operator.ofSlot (path.read record) constant = true := by
  simp only [← Path.convertConstant_eq_ok_iff]
  refine matches_iff_exists (fun predicate built => ?_)
    fun constant => compare_realizes operator resolved suited
  rw [toPredicate_compare operator resolved suited] at built
  obtain ⟨constant, converted, _⟩ := bind_eq_ok_iff.mp built
  exact ⟨constant, converted⟩

/-- A range matches what is within both of its bounds. -/
theorem matches_between_iff (resolved : schema.resolve text = .ok path)
    (ordered : path.kind.isOrdered = true) (low high : Value) :
    (between text low high).Matches schema normal record ↔
      (compare .greaterOrEqual text low).Matches schema normal record ∧
        (compare .lessOrEqual text high).Matches schema normal record := by
  have matched : (between text low high).Matches schema normal record ↔
      ∃ bounds : Value × Value,
        (path.convertConstant low = .ok bounds.1 ∧ path.convertConstant high = .ok bounds.2) ∧
          (Comparison.greaterOrEqual.ofSlot (path.read record) bounds.1 &&
            Comparison.lessOrEqual.ofSlot (path.read record) bounds.2) = true := by
    refine matches_iff_exists (fun predicate built => ?_)
      fun bounds converted => between_realizes resolved ordered converted.1 converted.2
    rw [toPredicate, Schema.resolveSuited_of_suits resolved ordered] at built
    obtain ⟨same, found, built⟩ := bind_eq_ok_iff.mp built
    obtain rfl : path = same := Except.ok.inj found
    obtain ⟨least, lowConverted, built⟩ := bind_eq_ok_iff.mp built
    obtain ⟨greatest, highConverted, _⟩ := bind_eq_ok_iff.mp built
    exact ⟨(least, greatest), lowConverted, highConverted⟩
  rw [matched, matches_compare_iff resolved fun _ => ordered,
    matches_compare_iff resolved fun _ => ordered]
  simp only [← Path.convertConstant_eq_ok_iff, Bool.and_eq_true_iff]
  constructor
  · rintro ⟨⟨least, greatest⟩, ⟨lowConverted, highConverted⟩, reached, within⟩
    exact ⟨⟨least, lowConverted, reached⟩, ⟨greatest, highConverted, within⟩⟩
  · rintro ⟨⟨least, lowConverted, reached⟩, ⟨greatest, highConverted, within⟩⟩
    exact ⟨(least, greatest), ⟨lowConverted, highConverted⟩, reached, within⟩

/-- The key of what was read is looked up among those of some constants. -/
theorem hasMember_ofList_eq_true_iff {constants : List Value} {slot : Slot} :
    Predicate.hasMember (KeySet.ofList (constants.filterMap Key.ofValue?)) slot = true ↔
      ∃ constant ∈ constants, ∃ leaf, slot = .value leaf ∧ constant.SharesKey leaf := by
  cases slot with
  | value leaf =>
    have found (key : Key) : (KeySet.ofList (constants.filterMap Key.ofValue?)).contains key =
        (constants.filterMap Key.ofValue?).any (·.same key) :=
      KeySet.contains_foldl_insert _ [] key
    simp only [Predicate.hasMember, Option.any_eq_true, found, List.any_eq_true, List.mem_filterMap]
    constructor
    · rintro ⟨leafKey, leafKeyed, key, ⟨constant, member, keyed⟩, same⟩
      exact ⟨constant, member, leaf, rfl, key, leafKey, keyed, leafKeyed, same⟩
    · rintro ⟨constant, member, other, read, key, leafKey, keyed, leafKeyed, same⟩
      obtain rfl := Slot.value.inj read
      exact ⟨leafKey, leafKeyed, key, ⟨constant, member, keyed⟩, same⟩
  | present | unreachable hop => simp [Predicate.hasMember]

/-- Membership matches what has the key of one of the constants, once all of them can be
converted. -/
theorem matches_isIn_iff (resolved : schema.resolve text = .ok path)
    (keyable : path.kind.isKeyable = true) (values : List Value) :
    (isIn text values).Matches schema normal record ↔
      (∀ value ∈ values, ∃ constant, value.convert? path.kind = some constant) ∧
        ∃ value ∈ values, ∃ constant, value.convert? path.kind = some constant ∧
          ∃ leaf, path.read record = .value leaf ∧ constant.SharesKey leaf := by
  have matched : (isIn text values).Matches schema normal record ↔
      ∃ constants, values.mapM path.convertConstant = .ok constants ∧ Predicate.hasMember
        (KeySet.ofList (constants.filterMap Key.ofValue?)) (path.read record) = true := by
    refine matches_iff_exists (fun predicate built => ?_)
      fun constants => isIn_realizes resolved keyable
    rw [toPredicate_isIn resolved keyable, Path.convertKeys_eq_map] at built
    obtain ⟨_, keyed, _⟩ := bind_eq_ok_iff.mp built
    obtain ⟨constants, converted, _⟩ := map_eq_ok_iff.mp keyed
    exact ⟨constants, converted⟩
  simp only [matched, hasMember_ofList_eq_true_iff, ← Path.convertConstant_eq_ok_iff,
    ← exists_mapM_eq_ok_iff]
  constructor
  · rintro ⟨constants, converted, shared⟩
    exact ⟨⟨constants, converted⟩, (exists_mem_iff_of_mapM_eq_ok converted).mp shared⟩
  · rintro ⟨⟨constants, converted⟩, shared⟩
    exact ⟨constants, converted, (exists_mem_iff_of_mapM_eq_ok converted).mpr shared⟩

theorem matches_isIn_singleton_iff (resolved : schema.resolve text = .ok path)
    (keyable : path.kind.isKeyable = true) (value : Value) :
    (isIn text [value]).Matches schema normal record ↔
      ∃ constant, value.convert? path.kind = some constant ∧
        ∃ leaf, path.read record = .value leaf ∧ constant.SharesKey leaf := by
  rw [matches_isIn_iff resolved keyable, List.forall_mem_singleton]
  simp only [List.mem_singleton, exists_eq_left]
  refine and_iff_right_of_imp ?_
  rintro ⟨constant, converted, _⟩
  exact ⟨constant, converted⟩

end Condition

/-! ### Floats on fields of integers -/

namespace Number.Binary

variable {format : BinaryFormat} {left right : Binary format}

theorem any_compare?_greaterOrEqual_iff :
    (left.compare? right).any Comparison.greaterOrEqual.holds = true ↔
      left.isNaN = false ∧ right.isNaN = false ∧ right.ordinal ≤ left.ordinal := by
  unfold compare?
  cases left.isNaN <;> cases right.isNaN <;> simp [Comparison.holds, Int.compare_eq_lt]

theorem any_compare?_lessOrEqual_iff :
    (left.compare? right).any Comparison.lessOrEqual.holds = true ↔
      left.isNaN = false ∧ right.isNaN = false ∧ left.ordinal ≤ right.ordinal := by
  unfold compare?
  cases left.isNaN <;> cases right.isNaN <;> simp [Comparison.holds, Int.compare_eq_gt]

end Number.Binary

/-- An order holds of a value and a word just if they can be compared, and come in that order. -/
theorem Comparison.ofValues_word {operator : Comparison} (ordering : operator.isOrdering = true)
    (leaf : Value) (word : Int64) :
    operator.ofValues leaf (.int word) = (leaf.compare? (.int word)).any operator.holds := by
  rw [ofValues_of_isOrdering ordering]
  cases leaf <;> rfl

namespace Value

variable {number : Double} {word : Int64} {leaf : Value}

/-- Whether a value is a number that is at least a double, or the greatest word if that is the
double past it. -/
def Reaches (number : Double) (leaf : Value) : Prop :=
  (∃ value, leaf.quantity? = some value ∧ number.exact ≤ value) ∨
    number = pastWords ∧ leaf = int Int64.maxValue

/-- Whether a value is a number that is at most a double. -/
def StaysWithin (number : Double) (leaf : Value) : Prop :=
  ∃ value, leaf.quantity? = some value ∧ value ≤ number.exact

/-- What a double becomes is the same as what counts as one number with the double. -/
theorem looselySame_iff_countAsOne (becomes : wordOfDouble? number = some word) :
    leaf.looselySame (.int word) = true ↔ leaf.CountAsOne (.float number) := by
  cases leaf with
  | int own =>
    rw [countAsOne_int_float_iff, becomes, Option.some_inj]
    exact decide_eq_true_iff.trans eq_comm
  | float own =>
    have notNaN := isNaN_of_wordOfDouble? becomes
    rw [countAsOne_float_float_iff, looselySame, Binary.numericEq_iff, Binary.numericEq_iff,
      ordinal_wordToDouble becomes]
    constructor
    · rintro ⟨_, ownNumber, level⟩
      exact ⟨ownNumber, notNaN, level.symm⟩
    · rintro ⟨ownNumber, _, level⟩
      exact ⟨isNaN_wordToDouble word, ownNumber, level.symm⟩
  | _ =>
    refine iff_of_false Bool.false_ne_true ?_
    rintro (⟨value, leafExact, _⟩)
    contradiction

theorem intCast_le_intCast_iff {least greatest : Int} :
    ((least : ℚ) : WithBotTop ℚ) ≤ ((greatest : ℚ) : WithBotTop ℚ) ↔ least ≤ greatest :=
  WithBotTop.coe_le_coe.trans Int.cast_le

/-- What a double becomes is at most the same words as the double, but for the greatest word. -/
theorem word_le_iff_reaches (becomes : wordOfDouble? number = some word) {own : Int64} :
    word.toInt ≤ own.toInt ↔ (int own).Reaches number := by
  have words {value : WithBotTop ℚ} : (int own).quantity? = some value ↔ (own.toInt : ℚ) = value :=
    Option.some_inj
  rcases wordOfDouble?_eq_some_iff_exact.mp becomes with ⟨notNaN, same⟩ | ⟨rfl, rfl⟩
  · simp only [Reaches, words, exists_eq_left', same, intCast_le_intCast_iff]
    refine (or_iff_left_of_imp ?_).symm
    rintro ⟨rfl, past⟩
    rw [Option.some.inj (becomes.symm.trans wordOfDouble?_pastWords), int.inj past]
  · have beyond := own.toInt_le
    have greatest : Int64.maxValue.toInt = 9223372036854775807 := rfl
    simp only [Reaches, words, exists_eq_left', exact_pastWords, intCast_le_intCast_iff, true_and]
    constructor
    · exact fun reached => .inr (congrArg int (Int64.toInt_inj.mp (Int.le_antisymm beyond reached)))
    · rintro (tooGreat | same)
      · omega
      · rw [int.inj same]

theorem greaterOrEqual_ofValues_iff (becomes : wordOfDouble? number = some word) :
    Comparison.greaterOrEqual.ofValues leaf (.int word) = true ↔ leaf.Reaches number := by
  rw [Comparison.ofValues_word rfl]
  cases leaf with
  | int own =>
    have holds : ((int own).compare? (int word)).any Comparison.greaterOrEqual.holds = true ↔
        word.toInt ≤ own.toInt := by
      simp [compare?, Comparison.holds, Int.compare_eq_lt]
    rw [holds, word_le_iff_reaches becomes]
  | float own =>
    have notNaN := isNaN_of_wordOfDouble? becomes
    refine Binary.any_compare?_greaterOrEqual_iff.trans ?_
    rw [ordinal_wordToDouble becomes]
    constructor
    · rintro ⟨ownNumber, _, level⟩
      exact .inl ⟨own.exact, quantity?_float_eq_some_iff.mpr ⟨ownNumber, rfl⟩,
        (Binary.exact_le_exact_iff notNaN ownNumber).mpr level⟩
    · rintro (⟨value, ownExact, level⟩ | ⟨_, same⟩)
      · obtain ⟨ownNumber, rfl⟩ := quantity?_float_eq_some_iff.mp ownExact
        exact ⟨ownNumber, isNaN_wordToDouble word,
          (Binary.exact_le_exact_iff notNaN ownNumber).mp level⟩
      · contradiction
  | _ =>
    refine iff_of_false Bool.false_ne_true ?_
    rintro (⟨value, leafExact, _⟩ | ⟨_, same⟩) <;> contradiction

/-- What a double becomes is at least the words that the double is at least. -/
theorem le_word_iff_staysWithin (becomes : wordOfDouble? number = some word) {own : Int64} :
    own.toInt ≤ word.toInt ↔ (int own).StaysWithin number := by
  have words {value : WithBotTop ℚ} : (int own).quantity? = some value ↔ (own.toInt : ℚ) = value :=
    Option.some_inj
  rcases wordOfDouble?_eq_some_iff_exact.mp becomes with ⟨notNaN, same⟩ | ⟨rfl, rfl⟩
  · simp only [StaysWithin, words, exists_eq_left', same, intCast_le_intCast_iff]
  · have beyond := own.toInt_le
    have greatest : Int64.maxValue.toInt = 9223372036854775807 := rfl
    simp only [StaysWithin, words, exists_eq_left', exact_pastWords, intCast_le_intCast_iff]
    omega

theorem lessOrEqual_ofValues_iff (becomes : wordOfDouble? number = some word) :
    Comparison.lessOrEqual.ofValues leaf (.int word) = true ↔ leaf.StaysWithin number := by
  rw [Comparison.ofValues_word rfl]
  cases leaf with
  | int own =>
    have holds : ((int own).compare? (int word)).any Comparison.lessOrEqual.holds = true ↔
        own.toInt ≤ word.toInt := by
      simp [compare?, Comparison.holds, Int.compare_eq_gt]
    rw [holds, le_word_iff_staysWithin becomes]
  | float own =>
    have notNaN := isNaN_of_wordOfDouble? becomes
    refine Binary.any_compare?_lessOrEqual_iff.trans ?_
    rw [ordinal_wordToDouble becomes]
    constructor
    · rintro ⟨ownNumber, _, level⟩
      exact ⟨own.exact, quantity?_float_eq_some_iff.mpr ⟨ownNumber, rfl⟩,
        (Binary.exact_le_exact_iff ownNumber notNaN).mpr level⟩
    · rintro ⟨value, ownExact, level⟩
      obtain ⟨ownNumber, rfl⟩ := quantity?_float_eq_some_iff.mp ownExact
      exact ⟨ownNumber, isNaN_wordToDouble word,
        (Binary.exact_le_exact_iff ownNumber notNaN).mp level⟩
  | _ =>
    refine iff_of_false Bool.false_ne_true ?_
    rintro ⟨value, leafExact, _⟩
    contradiction

/-- A number has the key of what counts as one number with it. -/
theorem sharesKey_float_iff (notNaN : number.isNaN = false) :
    (float number).SharesKey leaf ↔ leaf.CountAsOne (.float number) := by
  have ordered : (float number).hasNaN = false ∨ leaf.hasNaN = false := .inl notNaN
  rw [CountAsOne.comm]
  constructor
  · rintro ⟨key, leafKey, keyed, leafKeyed, same⟩
    have alike := (Key.same_iff_alikeBy keyed leafKeyed ordered).mp same
    cases leaf <;> first | exact alike | contradiction
  · intro one
    cases leaf with
    | int | float =>
      exact ⟨_, _, rfl, rfl, (Key.same_iff_countAsOne rfl rfl rfl rfl ordered).mpr one⟩
    | _ =>
      rcases one with ⟨value, _, leafExact⟩
      contradiction

/-- A double that becomes a word has the key of the word. -/
theorem sharesKey_word_iff (becomes : wordOfDouble? number = some word) :
    (int word).SharesKey leaf ↔ leaf.CountAsOne (.float number) := by
  have keyed : Key.ofValue? (.float number) = Key.ofValue? (.int word) := by
    refine congrArg some ?_
    rw [Key.ofDouble, becomes]
  rw [← sharesKey_float_iff (isNaN_of_wordOfDouble? becomes), SharesKey, SharesKey, keyed]

end Value

namespace Condition

variable {schema : Schema} {text : String} {path : Path} {normal : Bool} {record : Record}

theorem ofSlot_int_iff {operator : Comparison} {slot : Slot} {word : Int64} :
    operator.ofSlot slot (.int word) = true ↔
      ∃ leaf, slot = .value leaf ∧ operator.ofValues leaf (.int word) = true := by
  cases slot with
  | value leaf => simp [Comparison.ofSlot]
  | present => simp [Comparison.ofSlot, Value.isNull]
  | unreachable hop => simp [Comparison.ofSlot]

/-- A double becomes the words that count as one number with it. -/
theorem convert?_float_eq_some_iff {number : Double} {constant : Value} :
    (Value.float number).convert? .int = some constant ↔
      ∃ word, constant = .int word ∧ Value.CountAsOne (.int word) (.float number) := by
  simp only [Value.countAsOne_int_float_iff]
  rw [Value.convert?, Option.map_eq_some_iff]
  simp only [and_comm, eq_comm]

/-- Whether a double counts as one number with some word, and a path reads as a value that something
is true of. -/
def Meets (path : Path) (record : Record) (number : Double) (suits : Value → Prop) : Prop :=
  (∃ word, Value.CountAsOne (.int word) (.float number)) ∧
    ∃ leaf, path.read record = .value leaf ∧ suits leaf

/-- A comparison with a float matches the values that are in its relation with the word which the
float becomes. -/
theorem matches_compare_float_iff {operator : Comparison} {number : Double} {suits : Value → Prop}
    (resolved : schema.resolve text = .ok path) (integral : path.kind = .int)
    (related : ∀ {word leaf}, wordOfDouble? number = some word →
      (operator.ofValues leaf (.int word) = true ↔ suits leaf)) :
    (compare operator text (.float number)).Matches schema normal record ↔
      Meets path record number suits := by
  have suited : operator.isOrdering = true → path.kind.isOrdered = true := by
    rw [integral]
    exact fun _ => rfl
  rw [matches_compare_iff resolved suited, integral]
  simp only [convert?_float_eq_some_iff, Value.countAsOne_int_float_iff]
  constructor
  · rintro ⟨_, ⟨word, rfl, becomes⟩, passed⟩
    obtain ⟨leaf, read, held⟩ := ofSlot_int_iff.mp passed
    have one := Value.countAsOne_int_float_iff.mpr becomes
    exact ⟨⟨word, one⟩, leaf, read, (related becomes).mp held⟩
  · rintro ⟨⟨word, one⟩, leaf, read, held⟩
    have becomes := Value.countAsOne_int_float_iff.mp one
    exact ⟨.int word, ⟨word, rfl, becomes⟩,
      ofSlot_int_iff.mpr ⟨leaf, read, (related becomes).mpr held⟩⟩

/-- Whether conditions on a field match its value by the numbers that their float constants are. A
range matches as its two bounds do, and membership as that in one of the constants, once all of them
can be converted. -/
structure TakesFloats (schema : Schema) (text : String) (path : Path) (normal : Bool)
    (record : Record) : Prop where
  equals : ∀ number, (compare .equal text (.float number)).Matches schema normal record ↔
    Meets path record number fun leaf => leaf.CountAsOne (.float number)
  atLeast : ∀ number, (compare .greaterOrEqual text (.float number)).Matches schema normal record ↔
    Meets path record number (Value.Reaches number)
  atMost : ∀ number, (compare .lessOrEqual text (.float number)).Matches schema normal record ↔
    Meets path record number (Value.StaysWithin number)
  within : ∀ low high, (between text low high).Matches schema normal record ↔
    (compare .greaterOrEqual text low).Matches schema normal record ∧
      (compare .lessOrEqual text high).Matches schema normal record
  isMember : ∀ number, (isIn text [.float number]).Matches schema normal record ↔
    Meets path record number fun leaf => leaf.CountAsOne (.float number)
  isAmong : ∀ values, (isIn text values).Matches schema normal record ↔
    (∀ value ∈ values, ∃ constant, value.convert? path.kind = some constant) ∧
      ∃ value ∈ values, (isIn text [value]).Matches schema normal record

/-- A float becomes a word just if the two count as one number: if they are the same number, or if
they are the double past the greatest word and that word. Conditions on a field of integers match
accordingly, as they stand and in normal form, whatever the field reads as. -/
theorem takesFloats_of_integers (resolved : schema.resolve text = .ok path)
    (integral : path.kind = .int) (normal : Bool) (record : Record) :
    (∀ number constant, (Value.float number).convert? .int = some constant ↔
        ∃ word, constant = .int word ∧ Value.CountAsOne (.int word) (.float number)) ∧
      TakesFloats schema text path normal record := by
  have ordered : path.kind.isOrdered = true := by
    rw [integral]
    rfl
  have keyable : path.kind.isKeyable = true := by
    rw [integral]
    rfl
  refine ⟨fun _ _ => convert?_float_eq_some_iff, ?_, ?_, ?_, matches_between_iff resolved ordered,
    fun number => ?_, fun values => ?_⟩
  · refine fun number => matches_compare_float_iff resolved integral fun {word leaf} becomes => ?_
    rw [Comparison.equal_ofValues]
    exact Value.looselySame_iff_countAsOne becomes
  · exact fun number =>
      matches_compare_float_iff resolved integral Value.greaterOrEqual_ofValues_iff
  · exact fun number =>
      matches_compare_float_iff resolved integral Value.lessOrEqual_ofValues_iff
  · rw [matches_isIn_singleton_iff resolved keyable, integral]
    simp only [convert?_float_eq_some_iff]
    constructor
    · rintro ⟨_, ⟨word, rfl, one⟩, leaf, read, shared⟩
      have becomes := Value.countAsOne_int_float_iff.mp one
      exact ⟨⟨word, one⟩, leaf, read, (Value.sharesKey_word_iff becomes).mp shared⟩
    · rintro ⟨⟨word, one⟩, leaf, read, same⟩
      have becomes := Value.countAsOne_int_float_iff.mp one
      exact ⟨.int word, ⟨word, rfl, one⟩, leaf, read, (Value.sharesKey_word_iff becomes).mpr same⟩
  · simp only [matches_isIn_singleton_iff resolved keyable]
    exact matches_isIn_iff resolved keyable values

/-- A reading of five is between four and five as floats. -/
theorem takesFloats_of_integers_of_five :
    let schema := (Sample.measured []).schema
    schema.resolve "Reading" = .ok Sample.reading ∧ Sample.reading.kind = .int ∧
      ∀ normal, (between "Reading" (.float 4) (.float 5)).Matches schema normal
        [.value (.int 5)] := by
  intro schema
  have resolved : schema.resolve "Reading" = .ok Sample.reading := rfl
  refine ⟨resolved, rfl, fun normal => ?_⟩
  obtain ⟨_, takes⟩ := takesFloats_of_integers resolved rfl normal [.value (.int 5)]
  have four : Value.CountAsOne (.int 4) (.float 4) :=
    Value.countAsOne_int_float_iff.mpr (by decide +kernel)
  have five : Value.CountAsOne (.int 5) (.float 5) :=
    Value.countAsOne_int_float_iff.mpr (by decide +kernel)
  refine (takes.within _ _).mpr ⟨(takes.atLeast 4).mpr ⟨⟨4, four⟩, .int 5, rfl, ?_⟩,
    (takes.atMost 5).mpr ⟨⟨5, five⟩, .int 5, rfl, ?_⟩⟩
  · exact (Value.word_le_iff_reaches (Value.countAsOne_int_float_iff.mp four)).mp (by decide)
  · exact (Value.le_word_iff_staysWithin (Value.countAsOne_int_float_iff.mp five)).mp (by decide)

end Condition

/-- A float may become a word that is another number. -/
theorem Value.not_convert?_float_exact :
    ¬ ∀ number word, (float number).convert? .int = some (.int word) →
      SameNumber (.int word) (.float number) := by
  intro exactly
  exact not_sameNumber_past
    (exactly _ _ (Condition.convert?_float_eq_some_iff.mpr ⟨_, rfl, .past⟩))

end RecordQuery
