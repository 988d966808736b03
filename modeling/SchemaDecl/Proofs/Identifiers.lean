import SchemaDecl.Proofs.Generation
import SchemaDecl.Proofs.Merge.Provenance
import SchemaDecl.Proofs.Plural
import SchemaDecl.Proofs.Sdl.Contents

/-!
# Members called by names

Properties are called by names, and so are enumerants that keep their underscores.  An enumerant
that is made of capitalised words consists of letters and digits, but it starts with a digit if only
underscores stand before the first digit of the enum value.
-/

namespace SchemaDecl

open Sdl Text

namespace Member

/-! ## Letters of members -/

/-- The words between underscores, each capitalised, without the underscores. -/
def joinedWords (letters : List Char) : List Char :=
  (letters.splitOn '_').flatMap capitalized

theorem joinedWords_underscore (letters : List Char) :
    joinedWords ('_' :: letters) = joinedWords letters := by
  simp [joinedWords, List.splitOn, List.splitOnP_cons_eq_if_modifyHead]

theorem isNamePart_of_mem_splitOn {letters word : List Char}
    (parts : ∀ char ∈ letters, isNamePart char = true)
    (isWord : word ∈ letters.splitOn '_') :
    ∀ char ∈ word, isNamePart char = true := fun char member =>
  parts char (Joining.mem_of_mem_splitOn isWord member)

theorem isNamePart_capitalized {word : List Char}
    (parts : ∀ char ∈ word, isNamePart char = true) :
    ∀ char ∈ capitalized word, isNamePart char = true := by
  cases word with
  | nil => exact List.forall_mem_nil _
  | cons first rest =>
      rw [capitalized_eq_cons fun char member => isSign_of_isNamePart (parts char member)]
      rw [List.forall_mem_cons] at parts
      rw [List.forall_mem_cons, List.forall_mem_map]
      exact ⟨isNamePart_toUpper parts.1,
        fun char member => isNamePart_toLower (parts.2 char member)⟩

theorem isNamePart_joinedWords {letters : List Char}
    (parts : ∀ char ∈ letters, isNamePart char = true) :
    ∀ char ∈ joinedWords letters, isNamePart char = true := by
  intro char member
  obtain ⟨word, isWord, inWord⟩ := List.mem_flatMap.1 member
  exact isNamePart_capitalized (isNamePart_of_mem_splitOn parts isWord) char inWord

/-- The first letter that is no underscore becomes the first letter of the joined words. -/
theorem head?_joinedWords {letters : List Char}
    (parts : ∀ char ∈ letters, isNamePart char = true) :
    (joinedWords letters).head? = (letters.find? (· != '_')).map Char.toUpper := by
  induction letters with
  | nil => rfl
  | cons first rest inductionHypothesis =>
      by_cases underscore : first = '_'
      · subst underscore
        rw [joinedWords_underscore, inductionHypothesis (List.forall_mem_cons.1 parts).2]
        rfl
      · obtain ⟨word, others, cut⟩ :=
          List.exists_cons_of_ne_nil (List.splitOnP_ne_nil (· == '_') rest)
        have words : (first :: rest).splitOn '_' = (first :: word) :: others := by
          rw [List.splitOn, List.splitOnP_cons_eq_if_modifyHead, cut]
          simp [underscore]
        have signs : ∀ char ∈ first :: word, isSign char = true := fun char member =>
          isSign_of_isNamePart
            (isNamePart_of_mem_splitOn parts (words ▸ List.mem_cons_self) char member)
        rw [joinedWords, words, List.flatMap_cons, capitalized_eq_cons signs]
        simp [underscore]

theorem isName_propertyLetters {letters : List Char} (named : Sdl.isName letters = true) :
    Sdl.isName (propertyLetters letters) = true := by
  cases letters with
  | nil => cases named
  | cons first rest =>
      rw [isName_cons_iff] at named
      have part := isNamePart_of_isNameStart named.1
      rw [propertyLetters_cons, upper_ascii (lt_of_isSign (isSign_of_isNamePart part)),
        List.singleton_append, isName_cons_iff]
      exact ⟨isNameStart_toUpper named.1, named.2⟩

/-- Whether the first letter of a text that is no underscore is a digit. -/
def digitFirst (letters : List Char) : Bool :=
  (letters.find? (· != '_')).any Char.isDigit

/-- A text in capitals has a letter that is no underscore. -/
theorem exists_find?_of_isUpperText {letters : List Char} (capitals : isUpperText letters = true) :
    ∃ first ∈ letters, letters.find? (· != '_') = some first := by
  obtain ⟨letter, member, isCapital⟩ := List.any_eq_true.1 (Bool.and_eq_true_iff.1 capitals).1
  have different : letter ≠ '_' := by
    rintro rfl
    exact absurd isCapital (by decide)
  have found : (letters.find? (· != '_')).isSome = true :=
    List.find?_isSome.2 ⟨letter, member, by simpa using different⟩
  obtain ⟨first, same⟩ := Option.isSome_iff_exists.1 found
  exact ⟨first, List.mem_of_find?_eq_some same, same⟩

/-- An enumerant is called by a name unless its style takes the underscores from the value and a
digit is left in front. -/
theorem isName_enumerantLetters_iff {letters : List Char} (named : Sdl.isName letters = true)
    (style : MemberStyle) :
    Sdl.isName (enumerantLetters style letters) = true ↔
      ¬(style = .pascal ∧ isUpperText letters = true ∧ digitFirst letters = true) := by
  unfold enumerantLetters
  split
  · rename_i kept
    rw [iff_true_left (isName_propertyLetters named)]
    rintro ⟨rfl, capitals, _⟩
    simp [capitals] at kept
  · rename_i joined
    simp only [Bool.or_eq_true, decide_eq_true_eq, not_or, Bool.not_eq_true',
      Bool.not_eq_false] at joined
    have pascal : style = .pascal := by
      cases style with
      | pascal => rfl
      | capitalize => exact absurd rfl joined.1
    have parts := isNamePart_of_isName named
    obtain ⟨first, member, head⟩ := exists_find?_of_isUpperText joined.2
    change Sdl.isName (joinedWords letters) = true ↔ _
    rw [isName_iff_of_parts (isNamePart_joinedWords parts), head?_joinedWords parts, head,
      digitFirst, head]
    simp [pascal, joined.2, isNameStart_toUpper_iff (parts first member)]

end Member

open Member

/-- The style takes the underscores from the enum value, and a digit is left in front. -/
def MemberStyle.Bares (style : MemberStyle) (value : String) : Prop :=
  style = .pascal ∧ isUpperText value.toList = true ∧ digitFirst value.toList = true

instance (style : MemberStyle) (value : String) : Decidable (style.Bares value) :=
  inferInstanceAs (Decidable (_ ∧ _ ∧ _))

theorem Member.isName_property {name : String} (isName : IsName name) :
    IsName (property name) := by
  rw [IsName, toList_property]
  exact isName_propertyLetters isName

theorem Member.isName_enumerant_iff {name : String} (isName : IsName name) (style : MemberStyle) :
    IsName (enumerant style name) ↔ ¬style.Bares name := by
  rw [IsName, toList_enumerant]
  exact isName_enumerantLetters_iff isName style

/-- Whatever the style takes from an enum value, characters of names are left. -/
theorem Member.isNamePart_enumerant {name : String} (isName : IsName name) (style : MemberStyle) :
    enumerant style name ≠ "" ∧ ∀ char ∈ (enumerant style name).toList, isNamePart char = true := by
  constructor
  · exact mt String.toList_eq_nil_iff.2 (visible_enumerant isName.visible style).1
  · rw [toList_enumerant, enumerantLetters]
    split
    · have kept : IsName (property name) := isName_property isName
      exact toList_property name ▸ kept.isNamePart
    · exact isNamePart_joinedWords isName.isNamePart

/-! ## Members of documents -/

/-- The names of the members of a declaration. -/
def Declaration.memberNames : Declaration → List String
  | enumType _ members => members
  | interfaceType _ properties => properties.map Property.name
  | classType _ _ properties => properties.map Property.name

/-- The fields that are collected from a document with names have names. -/
theorem Document.Named.isName_field {document : Document} {item : Item}
    (named : document.Named)
    (member : item ∈ document.definitions.filterMap Definition.given?) :
    ∀ field ∈ item.fields, IsName field.name := by
  obtain ⟨definition, inDocument, gives⟩ := List.mem_filterMap.1 member
  rw [Definition.given?_eq_some_iff] at gives
  have names := named definition inDocument
  have ofFields {type : FieldsType} {fields : List Field}
      (made : type.fields.mapM FieldDefinition.field = .ok fields)
      (typeNames : ∀ name ∈ type.names, IsName name) :
      ∀ field ∈ fields, IsName field.name := by
    intro field inFields
    have listed := List.mem_map_of_mem (f := Field.name) inFields
    rw [(FieldDefinition.names_and_shapes_of_mapM made).1] at listed
    obtain ⟨fieldDefinition, inType, sameName⟩ := List.mem_map.1 listed
    refine typeNames field.name (List.mem_append_right _ (List.mem_flatMap.2 ?_))
    exact ⟨fieldDefinition, inType, sameName ▸ List.mem_cons_self⟩
  rcases Definition.item?_cases gives with ⟨role, type, fields, rfl, made, rfl⟩ |
    ⟨type, fields, rfl, made, rfl⟩ | ⟨role, type, rfl, rfl⟩
  · exact ofFields made names
  · exact ofFields made names
  · intro field inFields
    obtain ⟨value, inValues, rfl⟩ := List.mem_map.1 inFields
    exact names value.name (List.mem_append_right _ (List.mem_map_of_mem inValues))

/-- The fields of merged items have names, too. -/
theorem Document.Named.isName_merged_field {document : Document} {items : List Item} {merged : Item}
    (named : document.Named)
    (collected : (collect (some document)).run.value = .ok items)
    (member : merged ∈ (merge items).value) :
    ∀ field ∈ merged.fields, IsName field.name := by
  intro field inFields
  obtain ⟨source, isSource, inSource⟩ := Merge.exists_source_of_mem_fields member inFields
  rw [((value_collect_eq_ok_iff document items).1 collected).2] at isSource
  exact named.isName_field isSource field inSource

theorem Item.isName_properties {item : Item} (named : ∀ field ∈ item.fields, IsName field.name)
    (config : Config) :
    ∀ name ∈ (item.properties config).map Property.name, IsName name := by
  intro name member
  obtain ⟨property, inItem, rfl⟩ := List.mem_map.1 member
  obtain ⟨field, inFields, given⟩ := List.mem_filterMap.1 inItem
  obtain ⟨shape, _, rfl⟩ := Option.map_eq_some_iff.1 given
  exact Member.isName_property (named field inFields)

/-- The item is an enum, and the style takes the underscores from one of its values so that a digit
is left in front. -/
def Item.Bared (config : Config) (item : Item) : Prop :=
  item.kind = .enum ∧ ∃ field ∈ item.fields, config.enumMemberStyle.Bares field.name

instance (config : Config) (item : Item) : Decidable (item.Bared config) :=
  inferInstanceAs (Decidable (_ ∧ _))

/-- The members of a declaration are called by names unless it is an enum and its style bares one of
the values. -/
theorem Item.isName_memberNames_iff {item : Item} {config : Config} {declaration : Declaration}
    (named : ∀ field ∈ item.fields, IsName field.name)
    (declared : item.declaration? config = some declaration) :
    (∀ name ∈ declaration.memberNames, IsName name) ↔ ¬item.Bared config := by
  unfold declaration? at declared
  unfold Bared
  cases kind : item.kind <;> rw [kind] at declared
  case extension => cases declared
  case interface =>
    cases declared
    exact iff_of_true (item.isName_properties named config) (by simp)
  case object =>
    cases declared
    exact iff_of_true (item.isName_properties named config) (by simp)
  case enum =>
    cases declared
    rw [Declaration.memberNames, List.forall_mem_map]
    simp only [true_and, not_exists, not_and]
    refine forall₂_congr fun field member => ?_
    exact Member.isName_enumerant_iff (named field member) _

/-- Without a declaration there is nothing to bare. -/
theorem Item.not_bared_of_declaration?_eq_none {item : Item} {config : Config}
    (undeclared : item.declaration? config = none) :
    ¬item.Bared config := by
  rintro ⟨kind, -⟩
  unfold declaration? at undeclared
  rw [kind] at undeclared
  cases undeclared

namespace Rendering

theorem isName_memberNames_itemDeclarations_iff {items : List Item}
    (named : ∀ item ∈ items, ∀ field ∈ item.fields, IsName field.name)
    (config : Config) :
    (∀ declaration ∈ itemDeclarations config items,
        ∀ name ∈ declaration.memberNames, IsName name) ↔
      ∀ item ∈ items, ¬item.Bared config := by
  constructor
  · intro called item member
    cases declared : item.declaration? config with
    | none => exact item.not_bared_of_declaration?_eq_none declared
    | some declaration =>
        have listed := List.mem_filterMap.2 ⟨item, member, declared⟩
        exact (Item.isName_memberNames_iff (named item member) declared).1
          (called declaration listed)
  · intro unbared declaration listed
    obtain ⟨item, member, declared⟩ := List.mem_filterMap.1 listed
    exact (Item.isName_memberNames_iff (named item member) declared).2 (unbared item member)

/-- The aggregator of entities with names has properties with names. -/
theorem isName_memberNames_aggregatorOf {config : Config} {entities : List Item}
    {declarations : List Declaration}
    (named : ∀ entity ∈ entities, IsName entity.name)
    (exposed : aggregatorOf config entities = .ok declarations) :
    ∀ declaration ∈ declarations, ∀ name ∈ declaration.memberNames, IsName name := by
  intro declaration member
  obtain ⟨properties, made, rfl⟩ := exists_properties_of_mem_aggregatorOf exposed member
  rw [Declaration.memberNames, List.forall_mem_map]
  refine forall_mem_of_mapM_eq_ok ?_ made
  exact fun entity isEntity _ => isName_of_entityProperty (named entity isEntity)

/-- Items with names have declarations, and all members of these are called by names unless one of
the items is bared. -/
theorem exists_declarations_isName_iff {items : List Item}
    (named : ∀ item ∈ items, IsName item.name)
    (fieldsNamed : ∀ item ∈ items, ∀ field ∈ item.fields, IsName field.name)
    (config : Config) :
    ∃ all, (declarations config items).run.value = .ok all ∧
      ((∀ declaration ∈ all, ∀ name ∈ declaration.memberNames, IsName name) ↔
        ∀ item ∈ items, ¬item.Bared config) := by
  have entitiesNamed : ∀ entity ∈ entities config items, IsName entity.name := fun entity member =>
    named entity (List.mem_filter.1 member).1
  obtain ⟨aggregators, exposed⟩ :=
    exists_aggregatorOf (fun entity member => (entitiesNamed entity member).ne_empty) config
  refine ⟨itemDeclarations config items ++ aggregators, ?_, ?_⟩
  · rw [value_declarations, exposed]
    rfl
  · rw [List.forall_mem_append,
      and_iff_left (isName_memberNames_aggregatorOf entitiesNamed exposed)]
    exact isName_memberNames_itemDeclarations_iff fieldsNamed config

end Rendering

/-- Members are called by names except for one case.  From a name a property gets a name, and an
enumerant gets a text of characters of names, which is a name unless the style bares the enum value:
it takes the underscores from a value in capitals, and a digit is left in front.  A document that is
read from a text or has names otherwise is declared, and all members of all declarations, the
aggregator included, are called by names but those of enums with such values. -/
theorem members_are_names (config : Config) :
    (∀ name, IsName name →
      IsName (property name) ∧ IsName (enumerant .capitalize name) ∧
      ∀ style, enumerant style name ≠ "" ∧
        (∀ char ∈ (enumerant style name).toList, isNamePart char = true) ∧
        (IsName (enumerant style name) ↔ ¬style.Bares name)) ∧
    ∀ (document : Document) (items : List Item),
      (document.Named ∨ ∃ text, Document.ofText text = .ok document) →
      (collect (some document)).run.value = .ok items →
      (∃ all, (Rendering.declarations config (merge items).value).run.value = .ok all ∧
        ((∀ declaration ∈ all, ∀ name ∈ declaration.memberNames, IsName name) ↔
          ∀ merged ∈ (merge items).value, ¬merged.Bared config)) ∧
      ∀ merged ∈ (merge items).value, ∀ declaration,
        merged.declaration? config = some declaration →
        ((∀ name ∈ declaration.memberNames, IsName name) ↔ ¬merged.Bared config) := by
  constructor
  · intro name isName
    have keeps : ¬MemberStyle.capitalize.Bares name := fun bares => nomatch bares.1
    refine ⟨isName_property isName, (isName_enumerant_iff isName _).2 keeps, fun style => ?_⟩
    obtain ⟨nonempty, parts⟩ := isNamePart_enumerant isName style
    exact ⟨nonempty, parts, isName_enumerant_iff isName style⟩
  · intro document items namedOrRead collected
    have named : document.Named := by
      rcases namedOrRead with named | ⟨text, read⟩
      · exact named
      · exact Document.named_of_ofText read collected
    have fieldsNamed : ∀ merged ∈ (merge items).value, ∀ field ∈ merged.fields,
        IsName field.name := fun merged member => named.isName_merged_field collected member
    constructor
    · exact Rendering.exists_declarations_isName_iff (named.isName_merged collected) fieldsNamed
        config
    · intro merged member declaration declared
      exact Item.isName_memberNames_iff (fieldsNamed merged member) declared

/-- An enum in capitals, with a digit behind a letter in an extension that is written before it, and
an entity with a field of that type. -/
def shadeText : String :=
  "extend enum Shade \x7b __GREY_2B \x7d enum Shade \x7b DARK_RED pale \x7d " ++
    "type lamp_2 @entity \x7b _shade: Shade \x7d"

/-- The document of the text. -/
def shadeDocument : Document where
  definitions :=
    [.enum .extension { name := "Shade", values := [{ name := "__GREY_2B" }] },
     .enum .definition { name := "Shade", values := [{ name := "DARK_RED" }, { name := "pale" }] },
     .object .definition
       { name := "lamp_2", directives := [{ name := "entity" }],
         fields := [{ name := "_shade", type := .named "Shade" }] }]

/-- All values of the enum become names, those of its extension included, and so do the field and
the entity. -/
theorem members_of_shadeDocument_are_names :
    IsName (enumerant .pascal "__GREY_2B") ∧ enumerant .pascal "__GREY_2B" = "Grey2b" ∧
      ∃ items all, (collect (some shadeDocument)).run.value = .ok items ∧
        (Rendering.declarations {} (merge items).value).run.value = .ok all ∧
        all.map Declaration.memberNames =
          [["DarkRed", "Pale", "Grey2b"], ["_shade"], ["lamp_2s"]] ∧
        ∀ declaration ∈ all, ∀ name ∈ declaration.memberNames, IsName name := by
  obtain ⟨ofName, ofDocument⟩ := members_are_names {}
  obtain ⟨-, -, ofStyle⟩ := ofName "__GREY_2B" (by decide)
  have collected : (collect (some shadeDocument)).run.value =
      .ok (shadeDocument.definitions.filterMap Definition.given?) := rfl
  obtain ⟨⟨all, declared, called⟩, -⟩ := ofDocument shadeDocument _ (Or.inr ⟨shadeText, rfl⟩)
    collected
  have names : (Rendering.declarations {} (merge (shadeDocument.definitions.filterMap
      Definition.given?)).value).run.value.toOption.map (List.map Declaration.memberNames) =
        some [["DarkRed", "Pale", "Grey2b"], ["_shade"], ["lamp_2s"]] := by decide +kernel
  rw [declared] at names
  exact ⟨(ofStyle .pascal).2.2.2 (by decide), by decide, _, all, collected, declared,
    Option.some.inj names, called.2 (by decide)⟩

/-- A name in capitals whose first letter behind the underscore is a digit loses the underscore. -/
theorem enumerant_of_name_not_isName :
    ¬∀ name style, IsName name → IsName (enumerant style name) := by
  intro always
  have named := always "_1A" .pascal (by decide)
  have bared : enumerant .pascal "_1A" = "1a" := by decide
  exact absurd (bared ▸ named) (by decide)

end SchemaDecl
