/-
This file says what the score of a product for a textual query is.

All texts of a product are searched together, with a space between one and the next. A word has no
white space, and neither has its lower case, so it is found there just if one of the texts has it:
it cannot reach from one text into another, and lower case does not look across a space. The score
is then the share of the words of a query that some text of the product mentions, and neither the
order of the words nor that of the tags has a part in it.
-/

import RecordQuery.Catalog.Product
import RecordQuery.Proofs.Unrounded
import RecordQuery.Proofs.Words
import RecordQuery.Sample.Person

namespace RecordQuery.Catalog.Product

open Number

variable {product : Product} {word : List Char}

/-! ### Texts that mention a word -/

/-- The texts of a product: its name, its description if there is one, and its tags. -/
def texts (product : Product) : List String :=
  product.name :: (product.description.toList ++ product.tags)

/-- Whether some text of a product holds a word, in whatever case. -/
def Mentions (product : Product) (word : List Char) : Prop :=
  ∃ text ∈ product.texts, Text.lower word <:+: Text.lower text.toList

instance (product : Product) (word : List Char) : Decidable (product.Mentions word) :=
  inferInstanceAs (Decidable (∃ text ∈ product.texts, Text.lower word <:+: Text.lower text.toList))

/-- What is searched is the lower case of each text, with spaces between them. -/
theorem searchText_eq (product : Product) :
    product.searchText = [' '].intercalate
      ((product.name :: product.description.getD "" :: product.tags).map
        fun text => Text.lower text.toList) := by
  have space : " ".toList = [' '] := rfl
  rw [searchText, String.toList_intercalate, space, Text.lower_intercalate, List.map_map]
  rfl

/-- A word is found in what is searched just if some text mentions it. -/
theorem lower_infix_searchText (visible : ∀ char ∈ word, Text.isBlank char = false) :
    Text.lower word <:+: product.searchText ↔ product.Mentions word := by
  have free : ' ' ∉ Text.lower word := by
    intro member
    have blank : Text.isBlank ' ' = true := by decide
    rw [Text.not_isBlank_of_mem_lower visible ' ' member] at blank
    contradiction
  have joined : Text.lower word <:+: product.searchText ↔
      Text.lower word <:+: Text.lower product.name.toList ∨
        Text.lower word <:+: Text.lower (product.description.getD "").toList ∨
          ∃ text ∈ product.tags, Text.lower word <:+: Text.lower text.toList := by
    rw [searchText_eq]
    refine (Text.infix_intercalate_iff free _ _).trans ?_
    simp only [List.map_cons, List.exists_mem_cons_iff, List.mem_map, exists_exists_and_eq_and]
  rw [joined, Mentions, texts, List.exists_mem_cons_iff]
  cases product.description with
  | some description =>
    rw [Option.toList_some, List.singleton_append, List.exists_mem_cons_iff]
    rfl
  | none =>
    -- Only the empty word is found in a description that is missing, and the name has it too.
    have empty : Text.lower word <:+: Text.lower "".toList →
        Text.lower word <:+: Text.lower product.name.toList := by
      intro found
      rw [List.infix_nil.mp found]
      exact List.nil_infix
    rw [Option.getD_none, ← or_assoc, or_iff_left_of_imp empty]
    rfl

/-- The texts of a product mention the same words in whatever order its tags are. -/
theorem mentions_of_perm {tags : List String} (reordered : tags.Perm product.tags) :
    { product with tags := tags }.Mentions word ↔ product.Mentions word :=
  exists_congr fun _ => and_congr_left fun _ =>
    ((reordered.append_left _).cons product.name).mem_iff

/-! ### Scores -/

/-- How many words of a query a product mentions. A word that comes twice counts twice. -/
def hits (product : Product) (query : String) : Nat :=
  (Text.words query.toList).countP (product.Mentions ·)

theorem hits_le_length (product : Product) (query : String) :
    product.hits query ≤ (Text.words query.toList).length :=
  List.countP_le_length

theorem length_filter_queryTerms (product : Product) (query : String) :
    ((queryTerms query).filter fun term => Text.containsText term product.searchText).length =
      product.hits query := by
  rw [← List.countP_eq_length_filter, queryTerms, List.countP_map]
  refine List.countP_congr fun word member => ?_
  rw [Function.comp_apply, Text.containsText_iff, decide_eq_true_iff]
  exact lower_infix_searchText (Text.not_isBlank_of_mem_words member)

/-- The score of a product is the share of the words that it mentions, if there are any. -/
theorem textScore_eq (product : Product) (query : String) :
    product.textScore query =
      if Text.words query.toList = [] then 0
      else Binary.ofInt (product.hits query) / Binary.ofInt (Text.words query.toList).length := by
  have count : (queryTerms query).length = (Text.words query.toList).length := List.length_map _
  unfold textScore
  by_cases none : Text.words query.toList = []
  · rw [if_pos none, queryTerms, none]
    rfl
  · have some : (queryTerms query).isEmpty = false :=
      List.isEmpty_eq_false_iff.mpr (mt List.map_eq_nil_iff.mp none)
    rw [if_neg none]
    simp only [some, length_filter_queryTerms, count, Bool.false_eq_true, if_false]

/-- As long as words can be counted in single precision, the score is their share, rounded once. -/
theorem textScore_eq_ofQuotient {query : String} (some : Text.words query.toList ≠ [])
    (countable : (Text.words query.toList).length ≤ 2 * BinaryFormat.single.binade) :
    product.textScore query =
      Binary.ofQuotient false (product.hits query * BinaryFormat.single.unitsInOne)
        (Text.words query.toList).length := by
  rw [textScore_eq, if_neg some]
  exact Binary.ofInt_div_ofInt Binary.single_room
    ((product.hits_le_length query).trans countable) countable (List.length_pos_iff.mpr some)

/-- The order of the tags has no part in the score. -/
theorem textScore_of_perm_tags {tags : List String} (reordered : tags.Perm product.tags)
    (query : String) :
    { product with tags := tags }.textScore query = product.textScore query := by
  have same : { product with tags := tags }.hits query = product.hits query :=
    List.countP_congr fun word _ => by
      rw [decide_eq_true_iff, decide_eq_true_iff, mentions_of_perm reordered]
  rw [textScore_eq, textScore_eq, same]

/-- The order of the words has no part in the score. -/
theorem textScore_of_perm_words {query other : String}
    (reordered : (Text.words other.toList).Perm (Text.words query.toList)) :
    product.textScore other = product.textScore query := by
  have same : product.hits other = product.hits query := reordered.countP_eq _
  have none : Text.words other.toList = [] ↔ Text.words query.toList = [] := by
    rw [← List.length_eq_zero_iff, reordered.length_eq, List.length_eq_zero_iff]
  simp only [textScore_eq, same, none, reordered.length_eq]

/-- The score of a product is zero for a query of white space alone. For any other it is the number
of words that the product mentions over the number of words, as single precision divides them; up
to two to the power of twenty-four words that is their exact share, rounded once. The words are
what stands between white space, and one is found in all texts searched together just if the name,
the description or a tag holds it by itself. Neither the order of the tags nor that of the words
makes a difference. -/
theorem textScore_is_share_of_words (product : Product) (query : String) :
    (Text.words query.toList =
        (query.toList.splitOnP Text.isBlank).filter fun piece => !piece.isEmpty) ∧
      (∀ word ∈ Text.words query.toList,
        Text.lower word <:+: product.searchText ↔ product.Mentions word) ∧
      (product.textScore query =
        if query.toList.all Text.isBlank then 0
        else Binary.ofInt (product.hits query) / Binary.ofInt (Text.words query.toList).length) ∧
      (Text.words query.toList ≠ [] →
        (Text.words query.toList).length ≤ 2 * BinaryFormat.single.binade →
          product.textScore query =
            Binary.ofQuotient false (product.hits query * BinaryFormat.single.unitsInOne)
              (Text.words query.toList).length) ∧
      (∀ tags : List String, tags.Perm product.tags →
        { product with tags := tags }.textScore query = product.textScore query) ∧
      ∀ other : String, (Text.words other.toList).Perm (Text.words query.toList) →
        product.textScore other = product.textScore query := by
  have blank : Text.words query.toList = [] ↔ query.toList.all Text.isBlank = true := by
    rw [Text.words_eq_nil_iff, List.all_eq_true]
  refine ⟨Text.words_eq _, ?_, ?_, textScore_eq_ofQuotient, ?_, ?_⟩
  · intro word member
    exact lower_infix_searchText (Text.not_isBlank_of_mem_words member)
  · rw [textScore_eq]
    simp only [blank]
  · intro tags reordered
    exact textScore_of_perm_tags reordered query
  · intro other reordered
    exact textScore_of_perm_words reordered

/-- A keyboard without a description. One of its tags ends in a final sigma in lower case. -/
def quietBoard : Product where
  id := .ofNat 1
  sku := "QB-1"
  name := "Quiet Board"
  description := none
  price := 129
  stock := 1
  category := none
  tags := ["wire", "less", "ΟΔΟΣ"]
  embedding := none
  isActive := true
  isArchived := false
  listedAt := Sample.epoch

/-- Three of four words are mentioned, one of them twice; `wireless` would have to be found across
two tags. Neither other tags nor other words change the score by the order they stand in. -/
theorem textScore_of_quietBoard :
    quietBoard.textScore "board\twireless  BOARD οδος" =
        Binary.ofQuotient false (3 * BinaryFormat.single.unitsInOne) 4 ∧
      { quietBoard with tags := ["ΟΔΟΣ", "wire", "less"] }.textScore "board\twireless  BOARD οδος" =
        Binary.ofQuotient false (3 * BinaryFormat.single.unitsInOne) 4 ∧
      quietBoard.textScore "οδος BOARD wireless board" =
        Binary.ofQuotient false (3 * BinaryFormat.single.unitsInOne) 4 := by
  obtain ⟨_, _, _, quotient, reorderedTags, reorderedWords⟩ :=
    textScore_is_share_of_words quietBoard "board\twireless  BOARD οδος"
  have words : Text.words "board\twireless  BOARD οδος".toList =
      ["board".toList, "wireless".toList, "BOARD".toList, "οδος".toList] := by
    decide +kernel
  have three : quietBoard.hits "board\twireless  BOARD οδος" = 3 := by
    decide +kernel
  have some : Text.words "board\twireless  BOARD οδος".toList ≠ [] := by
    rw [words]
    exact List.cons_ne_nil _ _
  have score := quotient some (by rw [words]; decide)
  rw [three, words] at score
  have tags : ["ΟΔΟΣ", "wire", "less"].Perm quietBoard.tags := by
    decide
  have reordered : (Text.words "οδος BOARD wireless board".toList).Perm
      (Text.words "board\twireless  BOARD οδος".toList) := by
    decide +kernel
  exact ⟨score, (reorderedTags _ tags).trans score, (reorderedWords _ reordered).trans score⟩

end RecordQuery.Catalog.Product
