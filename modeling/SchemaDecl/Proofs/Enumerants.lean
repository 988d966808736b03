import Mathlib.Data.List.SplitBy
import Mathlib.Data.List.Pairwise
import SchemaDecl.Proofs.Identifiers
import SchemaDecl.Proofs.Unresolved

/-!
# Telling enumerants apart

An enum value in capitals loses its underscores and becomes one word after the other, each of them
capitalised.  If all words start with a letter they are found again by cutting before every capital
letter, so two such values become the same enumerant only if they have the same words.
-/

namespace SchemaDecl

open Sdl Text

/-! ## Cutting before marked elements -/

namespace Joining

variable {α : Type}

/-- The first element of the block is marked, and none of the others is. -/
def Headed (marked : α → Bool) (block : List α) : Prop :=
  ∃ first rest, block = first :: rest ∧ marked first = true ∧ ∀ other ∈ rest, marked other = false

/-- Cut a list before every marked element. -/
def cutBefore (marked : α → Bool) (elements : List α) : List (List α) :=
  elements.splitBy fun _ next => !marked next

/-- Blocks that start at the marked elements are found again in what they are joined to. -/
theorem cutBefore_flatten {marked : α → Bool} {blocks : List (List α)}
    (headed : ∀ block ∈ blocks, Headed marked block) :
    cutBefore marked blocks.flatten = blocks := by
  refine List.splitBy_flatten ?_ ?_ ?_
  · intro member
    obtain ⟨first, rest, impossible, -⟩ := headed [] member
    cases impossible
  · intro block member
    obtain ⟨first, rest, rfl, -, unmarked⟩ := headed block member
    refine List.Pairwise.isChain (List.pairwise_cons.2 ⟨?_, ?_⟩)
    · exact fun other later => by rw [unmarked other later]; rfl
    · refine List.pairwise_of_forall_mem_list fun _ _ other later => ?_
      rw [unmarked other later]
      rfl
  · refine List.Pairwise.isChain (List.pairwise_of_forall_mem_list ?_)
    intro former isFormer next isNext
    obtain ⟨first, rest, rfl, -, -⟩ := headed former isFormer
    obtain ⟨head, tail, rfl, isMarked, -⟩ := headed next isNext
    refine ⟨List.cons_ne_nil _ _, List.cons_ne_nil _ _, ?_⟩
    rw [List.head_cons, isMarked]
    rfl

end Joining

/-! ## Words of enum values -/

namespace Member

open Joining

/-- The words between underscores. -/
def wordsOf (value : String) : List (List Char) :=
  (value.toList.splitOn '_').filter (· ≠ [])

/-- A name with letters, none of them small, whose words all start with a letter. -/
structure InCapitals (value : String) : Prop where
  isName : IsName value
  someLetter : ∃ char ∈ value.toList, char.isAlpha = true
  noSmallLetter : ∀ char ∈ value.toList, char.isLower = false
  letterFirst : ∀ word ∈ wordsOf value, word.head?.any Char.isAlpha = true

theorem inCapitals_iff {value : String} :
    InCapitals value ↔ IsName value ∧ value.toList.any Char.isAlpha = true ∧
      value.toList.any Char.isLower = false ∧
      (wordsOf value).all (fun word => word.head?.any Char.isAlpha) = true := by
  simp only [List.any_eq_true, List.any_eq_false, Bool.not_eq_true, List.all_eq_true]
  exact ⟨fun ⟨isName, someLetter, noSmallLetter, letterFirst⟩ =>
      ⟨isName, someLetter, noSmallLetter, letterFirst⟩,
    fun ⟨isName, someLetter, noSmallLetter, letterFirst⟩ =>
      ⟨isName, someLetter, noSmallLetter, letterFirst⟩⟩

-- On the characters of the value: a search for one of them must not go through all there are.
instance (value : String) : Decidable (InCapitals value) :=
  decidable_of_iff' _ inCapitals_iff

/-- Empty words leave nothing behind. -/
theorem joinedWords_eq_flatMap_wordsOf (value : String) :
    joinedWords value.toList = ((wordsOf value).map capitalized).flatten := by
  unfold joinedWords wordsOf
  induction value.toList.splitOn '_' with
  | nil => rfl
  | cons word rest inductionHypothesis =>
      rw [List.flatMap_cons, inductionHypothesis]
      by_cases empty : word = []
      · rw [empty, List.filter_cons_of_neg (by decide)]
        rfl
      · rw [List.filter_cons_of_pos (by simpa using empty), List.map_cons, List.flatten_cons]

/-! ## Characters in capitals -/

theorem isUpper_of_isAlpha {char : Char} (letter : char.isAlpha = true)
    (notSmall : char.isLower = false) :
    char.isUpper = true := by
  change (char.isUpper || char.isLower) = true at letter
  rwa [notSmall, Bool.or_false] at letter

/-- The small form of what is no small letter tells what it was. -/
theorem toUpper_toLower {char : Char} (part : isNamePart char = true)
    (notSmall : char.isLower = false) :
    char.toLower.toUpper = char :=
  @forall_isNamePart (fun char => char.isLower = false → char.toLower.toUpper = char) (by decide)
    char part notSmall

theorem not_isUpper_toLower {char : Char} (part : isNamePart char = true) :
    char.toLower.isUpper = false :=
  @forall_isNamePart (fun char => char.toLower.isUpper = false) (by decide) char part

theorem toUpper_of_isUpper {char : Char} (capital : char.isUpper = true) : char.toUpper = char := by
  have part : isNamePart char = true := by
    change (char.isUpper || char.isLower || char.isDigit || char == '_') = true
    rw [capital]
    rfl
  exact @forall_isNamePart (fun char => char.isUpper = true → char.toUpper = char) (by decide) char
    part capital

namespace InCapitals

variable {value : String}

theorem isUpperText (inCapitals : InCapitals value) : isUpperText value.toList = true := by
  have parts := inCapitals.isName.isNamePart
  obtain ⟨letter, member, isLetter⟩ := inCapitals.someLetter
  refine Bool.and_eq_true_iff.2 ⟨List.any_eq_true.2 ⟨letter, member, ?_⟩, List.all_eq_true.2 ?_⟩
  · rw [Text.isUpper, if_pos (lt_of_isSign (isSign_of_isNamePart (parts letter member)))]
    exact isUpper_of_isAlpha isLetter (inCapitals.noSmallLetter letter member)
  · intro char inValue
    have ascii := lt_of_isSign (isSign_of_isNamePart (parts char inValue))
    rw [Text.isLower, Text.isTitle, if_pos ascii, if_pos ascii,
      inCapitals.noSmallLetter char inValue]
    rfl

theorem enumerant_eq (inCapitals : InCapitals value) :
    (enumerant .pascal value).toList = ((wordsOf value).map capitalized).flatten := by
  rw [toList_enumerant, enumerantLetters, inCapitals.isUpperText, ← joinedWords_eq_flatMap_wordsOf]
  rfl

/-- A word starts with a capital letter, and what follows are characters of names but no small
letters. -/
theorem exists_of_mem_wordsOf (inCapitals : InCapitals value) {word : List Char}
    (isWord : word ∈ wordsOf value) :
    ∃ first rest, word = first :: rest ∧ first.isUpper = true ∧
      ∀ char ∈ first :: rest, isNamePart char = true ∧ char.isLower = false := by
  have letter := inCapitals.letterFirst word isWord
  cases word with
  | nil => cases letter
  | cons first rest =>
      have known : ∀ char ∈ first :: rest, isNamePart char = true ∧ char.isLower = false := by
        intro char member
        have inValue := mem_of_mem_splitOn (List.mem_filter.1 isWord).1 member
        exact ⟨inCapitals.isName.isNamePart char inValue, inCapitals.noSmallLetter char inValue⟩
      exact ⟨first, rest, rfl, isUpper_of_isAlpha letter (known first List.mem_cons_self).2, known⟩

/-- A capitalised word has a capital letter at its head and nowhere else, and the word is found
again in it. -/
theorem capitalized_word (inCapitals : InCapitals value) {word : List Char}
    (isWord : word ∈ wordsOf value) :
    Headed Char.isUpper (capitalized word) ∧ (capitalized word).map Char.toUpper = word := by
  obtain ⟨first, rest, rfl, capital, known⟩ := inCapitals.exists_of_mem_wordsOf isWord
  have later : ∀ char ∈ rest, isNamePart char = true ∧ char.isLower = false :=
    (List.forall_mem_cons.1 known).2
  rw [capitalized_eq_cons fun char member => isSign_of_isNamePart (known char member).1,
    toUpper_of_isUpper capital]
  constructor
  · refine ⟨first, rest.map Char.toLower, rfl, capital, List.forall_mem_map.2 ?_⟩
    exact fun char member => not_isUpper_toLower (later char member).1
  · rw [List.map_cons, toUpper_of_isUpper capital, List.map_map, List.cons.injEq]
    refine ⟨rfl, (List.map_congr_left fun char member => ?_).trans rest.map_id⟩
    exact toUpper_toLower (later char member).1 (later char member).2

/-- The words are found again by cutting the enumerant before every capital letter. -/
theorem map_cutBefore_enumerant (inCapitals : InCapitals value) :
    (cutBefore Char.isUpper (enumerant .pascal value).toList).map (List.map Char.toUpper) =
      wordsOf value := by
  rw [inCapitals.enumerant_eq, cutBefore_flatten, List.map_map]
  · refine (List.map_congr_left fun word isWord => ?_).trans (wordsOf value).map_id
    exact (inCapitals.capitalized_word isWord).2
  · exact List.forall_mem_map.2 fun word isWord => (inCapitals.capitalized_word isWord).1

/-- Values have the same enumerant exactly if they have the same words. -/
theorem enumerant_eq_iff {left right : String} (leftInCapitals : InCapitals left)
    (rightInCapitals : InCapitals right) :
    enumerant .pascal left = enumerant .pascal right ↔ wordsOf left = wordsOf right := by
  constructor
  · intro same
    rw [← leftInCapitals.map_cutBefore_enumerant, same, rightInCapitals.map_cutBefore_enumerant]
  · intro same
    rw [← String.toList_inj, leftInCapitals.enumerant_eq, same, rightInCapitals.enumerant_eq]

end InCapitals

end Member

open Member

/-- Values in capitals whose words start with letters have the same enumerant exactly if they have
the same words.  So an enum of such values, no two of them with the same words, is declared with
different enumerants in the order of the values, and this declaration stands in the text of all
items among which the enum is. -/
theorem enumerants_differ_as_words :
    (∀ left right, InCapitals left → InCapitals right →
      (enumerant .pascal left = enumerant .pascal right ↔ wordsOf left = wordsOf right)) ∧
    ∀ (config : Config) (item : Item), config.enumMemberStyle = .pascal → item.kind = .enum →
      (∀ field ∈ item.fields, InCapitals field.name) →
      (item.fields.Pairwise fun first second => wordsOf first.name ≠ wordsOf second.name) →
      ∃ members, item.declaration? config = some (.enumType item.name members) ∧
        List.Forall₂ (fun field member => member = enumerant .pascal field.name)
          item.fields members ∧
        members.Nodup ∧
        ∀ items text, item ∈ items → (render config items).run.value = .ok text →
          (Declaration.enumType item.name members).StandsIn config text := by
  refine ⟨fun left right => InCapitals.enumerant_eq_iff, ?_⟩
  intro config item pascal isEnum inCapitals differ
  have declared : item.declaration? config = some (.enumType item.name
      (item.fields.map fun field => enumerant .pascal field.name)) := by
    rw [Item.declaration?, isEnum, pascal]
  refine ⟨_, declared, ?_, ?_, ?_⟩
  · rw [List.forall₂_map_right_iff, List.forall₂_same]
    exact fun _ _ => rfl
  · refine List.pairwise_map.2 (differ.imp_of_mem ?_)
    intro first second isFirst isSecond otherWords same
    exact otherWords
      (((inCapitals first isFirst).enumerant_eq_iff (inCapitals second isSecond)).1 same)
  · intro items text member rendered
    exact standsIn_of_render rendered _ (List.mem_filterMap.2 ⟨item, member, declared⟩)

/-- An enum whose values differ in where their words end, and in an underscore at the end. -/
def dialItem : Item where
  name := "Dial"
  kind := .enum
  fields := [⟨"NORTH_WEST", none⟩, ⟨"NORTHWEST", none⟩, ⟨"N_ORTH__W3ST_", none⟩]

/-- The values become three enumerants, and further underscores make no other enumerant. -/
theorem enumerants_of_dialItem_differ :
    InCapitals "NORTH_WEST" ∧ InCapitals "__NORTH__WEST_" ∧
      wordsOf "NORTH_WEST" = wordsOf "__NORTH__WEST_" ∧
      enumerant .pascal "NORTH_WEST" = enumerant .pascal "__NORTH__WEST_" ∧
      dialItem.declaration? {} =
        some (.enumType "Dial" ["NorthWest", "Northwest", "NOrthW3st"]) ∧
      ["NorthWest", "Northwest", "NOrthW3st"].Nodup := by
  obtain ⟨sameIff, ofEnum⟩ := enumerants_differ_as_words
  have first : InCapitals "NORTH_WEST" := by decide
  have second : InCapitals "__NORTH__WEST_" := by decide
  have sameWords : wordsOf "NORTH_WEST" = wordsOf "__NORTH__WEST_" := by decide
  obtain ⟨members, declared, -, distinct, -⟩ :=
    ofEnum {} dialItem rfl rfl (by decide) (by decide)
  have known : dialItem.declaration? {} =
      some (.enumType "Dial" ["NorthWest", "Northwest", "NOrthW3st"]) := by decide
  have sameMembers : members = ["NorthWest", "Northwest", "NOrthW3st"] :=
    (Declaration.enumType.inj (Option.some.inj (declared.symm.trans known))).2
  exact ⟨first, second, sameWords, (sameIff _ _ first second).2 sameWords, known,
    sameMembers ▸ distinct⟩

end SchemaDecl
