import SchemaDecl.Proofs.Acceptance
import SchemaDecl.Proofs.Generation
import SchemaDecl.Proofs.Merge.Absorption

/-!
# Writing extensions into the definition

The extensions of an object or an enum can be written into its definition, in the order in which
they stand in the document, if none of them implements an interface.  `Document.inlined` does so,
and the same text is generated from it.
-/

namespace SchemaDecl

/-! ## Inlined documents -/

/-- Append the elements whose names are not yet present, one after the other. -/
def appendNew {α : Type} (name : α → String) (elements additions : List α) : List α :=
  additions.foldl
    (fun elements addition =>
      if elements.any fun element => name element == name addition then elements
      else elements ++ [addition])
    elements

/-- The type with the new fields and the directives of an extension. -/
def FieldsType.absorb (type extension : FieldsType) : FieldsType :=
  { type with
    directives := type.directives ++ extension.directives
    fields := appendNew FieldDefinition.name type.fields extension.fields }

/-- The enum with the new values and the directives of an extension. -/
def EnumType.absorb (type extension : EnumType) : EnumType :=
  { type with
    directives := type.directives ++ extension.directives
    values := appendNew EnumValue.name type.values extension.values }

namespace Definition

/-- The definition with what an extension of its sort adds. -/
def absorb : Definition → Definition → Definition
  | object role type, object _ extension => object role (type.absorb extension)
  | enum role type, enum _ extension => enum role (type.absorb extension)
  | definition, _ => definition

/-- The definition with what extensions of its sort add, one after the other. -/
def absorbing (extensions : List Definition) (definition : Definition) : Definition :=
  extensions.foldl absorb definition

/-- Whether an object, an interface or an enum of the name is defined. -/
def defines (name : String) (definition : Definition) : Bool :=
  definition.definedName? == some name

/-- Whether an object or an enum of the name is extended. -/
def amends (name : String) (definition : Definition) : Bool :=
  definition.extendedName? == some name

/-- The sort of an object or an enum that implements nothing. -/
def plainSort? : Definition → Option ItemKind
  | object _ type => if type.interfaces = [] then some .object else none
  | enum _ _ => some .enum
  | _ => none

end Definition

namespace Document

/-- The extensions of a name, in order. -/
def extensionsOf (document : Document) (name : String) : List Definition :=
  document.definitions.filter (Definition.amends name)

/-- The document with the extensions of a name written into the first definition of the name. -/
def inlined (name : String) (document : Document) : Document where
  definitions :=
    let first := document.definitions.findIdx (Definition.defines name)
    (document.definitions.modify first (Definition.absorbing (document.extensionsOf name))).filter
      fun definition => !definition.amends name

/-- The first definition of the name is an object or an enum, all extensions of the name are of its
sort, and none of them implements an interface. -/
def Inlinable (document : Document) (name : String) : Prop :=
  ∃ definition sort, document.definitions.find? (Definition.defines name) = some definition ∧
    definition.plainSort? = some sort ∧
    ∀ extension ∈ document.definitions, extension.amends name = true →
      extension.plainSort? = some sort

end Document

/-! ## What an extension adds -/

/-- New elements give new fields. -/
theorem forall₂_appendNew {α : Type} {gives : α → Field → Prop} {elements additions : List α}
    {fields added : List Field}
    (name : α → String)
    (sameName : ∀ element field, gives element field → field.name = name element)
    (first : List.Forall₂ gives elements fields)
    (second : List.Forall₂ gives additions added) :
    List.Forall₂ gives (appendNew name elements additions) (Field.appendMissing fields added) := by
  have samePresent {elements : List α} {fields : List Field}
      (all : List.Forall₂ gives elements fields) (wanted : String) :
      (elements.any fun element => name element == wanted) = Field.present fields wanted := by
    induction all with
    | nil => rfl
    | cons head _ inductionHypothesis =>
        rw [List.any_cons, Field.present_cons, sameName _ _ head, inductionHypothesis]
  induction second generalizing elements fields with
  | nil => simpa [appendNew] using first
  | @cons addition field _ _ head _ inductionHypothesis =>
      rw [appendNew, List.foldl_cons, Field.appendMissing_cons, samePresent first,
        sameName _ _ head]
      apply inductionHypothesis
      split
      · exact first
      · exact List.rel_append first (.cons head .nil)

/-- Adding the collected tags adds all of them. -/
theorem Item.foldl_withTag_foldl (tags kept additions : List String) :
    (additions.foldl withTag kept).foldl withTag tags =
      additions.foldl withTag (kept.foldl withTag tags) := by
  induction additions generalizing kept with
  | nil => rfl
  | cons added rest inductionHypothesis =>
      rw [List.foldl_cons, inductionHypothesis, List.foldl_cons]
      congr 1
      by_cases known : added ∈ kept
      · have arrived : added ∈ kept.foldl withTag tags :=
          (mem_foldl_withTag tags kept added).2 (Or.inr known)
        rw [withTag, if_pos known, withTag, if_pos arrived]
      · rw [withTag, if_neg known, List.foldl_append]
        rfl

theorem directiveNames_append (first second : List Directive) :
    directiveNames (first ++ second) =
      (directiveNames second).foldl Item.withTag (directiveNames first) := by
  simp only [directiveNames_eq_foldl, List.map_append, List.foldl_append,
    Item.foldl_withTag_foldl, List.foldl_nil]

theorem FieldsType.item_absorb {type extension : FieldsType} {item added : Item} {kind : ItemKind}
    (bare : type.interfaces = [])
    (bareExtension : extension.interfaces = [])
    (made : type.item kind type.interfaces = .ok item)
    (addition : extension.item .extension extension.interfaces = .ok added) :
    (type.absorb extension).item kind (type.absorb extension).interfaces =
      .ok (item.absorb added) := by
  obtain ⟨fields, visited, rfl⟩ := (map_eq_ok_iff _ _ item).1 made
  obtain ⟨others, visitedOthers, rfl⟩ := (map_eq_ok_iff _ _ added).1 addition
  rw [mapM_eq_ok_iff] at visited visitedOthers
  have all := forall₂_appendNew FieldDefinition.name
    (fun _ _ gives => (FieldDefinition.name_and_shape_of_field gives).1) visited visitedOthers
  rw [← mapM_eq_ok_iff] at all
  refine (map_eq_ok_iff _ _ _).2 ⟨_, all, ?_⟩
  simp [FieldsType.absorb, Item.absorb, directiveNames_append, bare, bareExtension]

theorem EnumType.item_absorb (type extension : EnumType) (kind : ItemKind) :
    (type.absorb extension).item kind =
      (type.item kind).absorb (extension.item .extension) := by
  let field : EnumValue → Field := fun value => { name := value.name }
  have made (values : List EnumValue) :
      List.Forall₂ (fun value made => field value = made) values (values.map field) := by
    rw [List.forall₂_map_right_iff]
    exact List.forall₂_same.2 fun _ _ => rfl
  have sameName : ∀ value made, field value = made → made.name = value.name := by
    rintro value _ rfl
    rfl
  have joined := forall₂_appendNew EnumValue.name sameName (made type.values)
    (made extension.values)
  have values : (appendNew EnumValue.name type.values extension.values).map field =
      Field.appendMissing (type.values.map field) (extension.values.map field) := by
    rwa [← List.forall₂_map_left_iff, List.forall₂_eq_eq_eq] at joined
  simp only [EnumType.item, EnumType.absorb, Item.absorb, directiveNames_append, List.append_nil]
  rw [← values]

namespace Definition

/-- A definition and the item it gives define one name, or extend it. -/
theorem defines_of_given? {definition : Definition} {item : Item}
    (gives : definition.given? = some item)
    (name : String) :
    definition.defines name = item.defines name ∧ definition.amends name = item.amends name := by
  rw [given?_eq_some_iff] at gives
  rcases item?_cases gives with ⟨role, type, fields, rfl, _, rfl⟩ | ⟨type, fields, rfl, _, rfl⟩ |
    ⟨role, type, rfl, rfl⟩
  · cases role <;>
      simp [defines, amends, definedName?, extendedName?, Item.defines, Item.amends, kindIn]
  · simp [defines, amends, definedName?, extendedName?, Item.defines, Item.amends]
  · cases role <;>
      simp [defines, amends, definedName?, extendedName?, Item.defines, Item.amends, kindIn,
        EnumType.item]

theorem resolves_of_given? {definition : Definition} {item : Item}
    (gives : definition.given? = some item) :
    definition.Resolves :=
  ⟨some item, (given?_eq_some_iff definition item).1 gives⟩

/-- An object or an enum that implements nothing gives such an item. -/
theorem plain_of_plainSort? {definition : Definition} {sort : ItemKind} {item : Item}
    (plain : definition.plainSort? = some sort)
    (gives : definition.given? = some item) :
    item.kind ≠ .interface ∧ item.interfaces = [] := by
  rw [given?_eq_some_iff] at gives
  rcases item?_cases gives with ⟨role, type, fields, rfl, _, rfl⟩ | ⟨type, fields, rfl, _, rfl⟩ |
    ⟨role, type, rfl, rfl⟩
  · refine ⟨by cases role <;> simp [kindIn], ?_⟩
    rw [plainSort?, Option.ite_none_right_eq_some] at plain
    exact plain.1
  · cases plain
  · exact ⟨by cases role <;> simp [kindIn, EnumType.item], rfl⟩

theorem exists_given?_of_plainSort? {definition : Definition} {sort : ItemKind}
    (plain : definition.plainSort? = some sort)
    (resolves : definition.Resolves) :
    ∃ item, definition.given? = some item := by
  apply ((resolves_iff definition).1 resolves).exists_given?
  unfold plainSort? at plain
  split at plain
  · rfl
  · rfl
  · cases plain

/-- The item of a definition absorbs what an extension gives. -/
theorem given?_absorb {definition extension : Definition} {sort : ItemKind} {item added : Item}
    (plain : definition.plainSort? = some sort)
    (plainExtension : extension.plainSort? = some sort)
    (gives : definition.given? = some item)
    (adds : extension.given? = some added)
    (kind : added.kind = .extension) :
    (definition.absorb extension).plainSort? = some sort ∧
      (definition.absorb extension).given? = some (item.absorb added) := by
  rw [given?_eq_some_iff] at gives adds ⊢
  rcases item?_cases gives with ⟨role, type, fields, rfl, visited, rfl⟩ |
    ⟨type, fields, rfl, _, rfl⟩ | ⟨role, type, rfl, rfl⟩
  · rcases item?_cases adds with ⟨otherRole, other, others, rfl, visitedOthers, rfl⟩ |
      ⟨other, others, rfl, _, rfl⟩ | ⟨otherRole, other, rfl, rfl⟩
    · rw [plainSort?, Option.ite_none_right_eq_some] at plain plainExtension
      refine ⟨by simp [absorb, FieldsType.absorb, plainSort?, plain.1, plain.2], ?_⟩
      have made : type.item (kindIn .object role) type.interfaces = .ok _ :=
        (map_eq_ok_iff _ _ _).2 ⟨fields, visited, rfl⟩
      have addition : other.item .extension other.interfaces = .ok _ :=
        (map_eq_ok_iff _ _ _).2 ⟨others, visitedOthers, rfl⟩
      have joined := FieldsType.item_absorb plain.1 plainExtension.1 made addition
      change (some <$> (type.absorb other).item _ (type.absorb other).interfaces).mapError _ = _
      rw [joined, ← kind]
      rfl
    · cases plainExtension
    · rw [plainSort?, Option.ite_none_right_eq_some] at plain
      rw [plainSort?, ← plain.2] at plainExtension
      cases plainExtension
  · cases plain
  · rcases item?_cases adds with ⟨otherRole, other, others, rfl, _, rfl⟩ |
      ⟨other, others, rfl, _, rfl⟩ | ⟨otherRole, other, rfl, rfl⟩
    · rw [plainSort?, Option.ite_none_right_eq_some] at plainExtension
      rw [plainSort?, ← plainExtension.2] at plain
      cases plain
    · cases plainExtension
    · refine ⟨plain, ?_⟩
      have kinds : kindIn .enum otherRole = .extension := kind
      rw [kinds, ← EnumType.item_absorb]
      rfl

/-- The item of a definition absorbs what its extensions give, one after the other. -/
theorem given?_absorbing {extensions : List Definition} {sort : ItemKind} {name : String}
    (resolves : ∀ extension ∈ extensions, extension.Resolves)
    (amends : ∀ extension ∈ extensions, extension.amends name = true)
    (plainExtensions : ∀ extension ∈ extensions, extension.plainSort? = some sort)
    {definition : Definition} {item : Item}
    (plain : definition.plainSort? = some sort)
    (gives : definition.given? = some item) :
    (absorbing extensions definition).given? =
      some (Merge.absorbing (extensions.filterMap given?) item) := by
  induction extensions generalizing definition item with
  | nil => exact gives
  | cons extension rest inductionHypothesis =>
      rw [List.forall_mem_cons] at resolves amends plainExtensions
      obtain ⟨added, adds⟩ := exists_given?_of_plainSort? plainExtensions.1 resolves.1
      have kind := ((Item.amends_iff name added).1
        ((defines_of_given? adds name).2 ▸ amends.1)).2
      obtain ⟨stillPlain, absorbed⟩ := given?_absorb plain plainExtensions.1 gives adds kind
      rw [List.filterMap_cons_some adds]
      exact inductionHypothesis resolves.2 amends.2 plainExtensions.2 stillPlain absorbed

/-- Definitions are selected like the items they give. -/
theorem filterMap_given?_filter (definitions : List Definition) {test : Definition → Bool}
    {itemTest : Item → Bool}
    (same : ∀ definition item, definition.given? = some item → test definition = itemTest item) :
    (definitions.filter test).filterMap given? =
      (definitions.filterMap given?).filter itemTest := by
  induction definitions with
  | nil => rfl
  | cons definition rest inductionHypothesis =>
      cases gives : definition.given? with
      | none =>
          rw [List.filterMap_cons_none gives, ← inductionHypothesis, List.filter_cons]
          split
          · rw [List.filterMap_cons_none gives]
          · rfl
      | some item =>
          rw [List.filterMap_cons_some gives, List.filter_cons, List.filter_cons,
            same definition item gives, ← inductionHypothesis]
          split
          · rw [List.filterMap_cons_some gives]
          · rfl

/-- To change the first definition of a name is to change the base of the name. -/
theorem filterMap_given?_modify {definitions : List Definition} {definition : Definition}
    {first : Item} {name : String}
    (change : Definition → Definition)
    (changeItem : Item → Item)
    (found : definitions.find? (defines name) = some definition)
    (gives : definition.given? = some first)
    (changes : (change definition).given? = some (changeItem first)) :
    ∃ base, (definitions.filterMap given?)[base]? = some first ∧
      (definitions.filterMap given?).findIdx? (Item.defines name) = some base ∧
      (definitions.modify (definitions.findIdx (defines name)) change).filterMap given? =
        (definitions.filterMap given?).modify base changeItem := by
  induction definitions with
  | nil => cases found
  | cons head rest inductionHypothesis =>
      rw [List.find?_cons] at found
      cases definesName : head.defines name with
      | true =>
          rw [definesName] at found
          cases found
          have itemDefines := (defines_of_given? gives name).1.symm.trans definesName
          refine ⟨0, ?_, ?_, ?_⟩
          · rw [List.filterMap_cons_some gives, List.getElem?_cons_zero]
          · rw [List.filterMap_cons_some gives, List.findIdx?_cons, if_pos itemDefines]
          · rw [List.findIdx_cons, definesName, cond_true, List.modify_zero_cons,
              List.filterMap_cons_some changes, List.filterMap_cons_some gives,
              List.modify_zero_cons]
      | false =>
          rw [definesName] at found
          obtain ⟨base, here, isFirst, modified⟩ := inductionHypothesis found
          rw [List.findIdx_cons, definesName, cond_false, List.modify_succ_cons]
          cases headGives : head.given? with
          | none =>
              rw [List.filterMap_cons_none headGives, List.filterMap_cons_none headGives]
              exact ⟨base, here, isFirst, modified⟩
          | some item =>
              have other := (defines_of_given? headGives name).1.symm.trans definesName
              rw [List.filterMap_cons_some headGives, List.filterMap_cons_some headGives]
              refine ⟨base + 1, here, ?_, ?_⟩
              · rw [List.findIdx?_cons, if_neg (by simp [other]), isFirst]
                rfl
              · rw [modified, List.modify_succ_cons]

/-- Every definition resolves after a change of the first definition of a name that resolves. -/
theorem resolves_modify {definitions : List Definition} {name : String}
    {change : Definition → Definition}
    (resolves : ∀ definition ∈ definitions, definition.Resolves)
    (changes : ∀ definition, definitions.find? (defines name) = some definition →
      (change definition).Resolves) :
    ∀ definition ∈ definitions.modify (definitions.findIdx (defines name)) change,
      definition.Resolves := by
  induction definitions with
  | nil => simp
  | cons head rest inductionHypothesis =>
      rw [List.forall_mem_cons] at resolves
      rw [List.findIdx_cons]
      cases definesName : head.defines name with
      | true =>
          rw [cond_true, List.modify_zero_cons, List.forall_mem_cons]
          exact ⟨changes head (by rw [List.find?_cons, definesName]), resolves.2⟩
      | false =>
          rw [cond_false, List.modify_succ_cons, List.forall_mem_cons]
          refine ⟨resolves.1, inductionHypothesis resolves.2 fun definition found => ?_⟩
          exact changes definition (by rw [List.find?_cons, definesName, found])

end Definition

/-! ## The output of inlined documents -/

/-- The items of the inlined document: the base of the name has absorbed its extensions. -/
theorem collect_inlined {document : Document} {items : List Item} {name : String}
    (collected : (collect (some document)).run.value = .ok items)
    (inlinable : document.Inlinable name) :
    ∃ base first, Merge.Plain items name base first ∧
      (collect (some (document.inlined name))).run.value =
        .ok ((items.modify base (Merge.absorbing (Merge.extensionsOf items name))).filter
          fun item => !item.amends name) := by
  obtain ⟨resolves, rfl⟩ := (value_collect_eq_ok_iff document items).1 collected
  obtain ⟨definition, sort, found, plain, plainExtensions⟩ := inlinable
  have member := List.mem_of_find?_eq_some found
  obtain ⟨first, gives⟩ :=
    Definition.exists_given?_of_plainSort? plain (resolves definition member)
  have extensions : (document.extensionsOf name).filterMap Definition.given? =
      Merge.extensionsOf (document.definitions.filterMap Definition.given?) name :=
    Definition.filterMap_given?_filter document.definitions fun _ _ given =>
      (Definition.defines_of_given? given name).2
  have absorbed : (Definition.absorbing (document.extensionsOf name) definition).given? =
      some (Merge.absorbing (Merge.extensionsOf
        (document.definitions.filterMap Definition.given?) name) first) := by
    rw [← extensions]
    refine Definition.given?_absorbing ?_ (fun extension inside =>
      (List.mem_filter.1 inside).2) ?_ plain gives
    · exact fun extension inside => resolves extension (List.mem_filter.1 inside).1
    · exact fun extension inside => plainExtensions extension (List.mem_filter.1 inside).1
        (List.mem_filter.1 inside).2
  obtain ⟨base, here, isFirst, modified⟩ := Definition.filterMap_given?_modify
    (Definition.absorbing (document.extensionsOf name)) (Merge.absorbing _) found gives absorbed
  obtain ⟨kind, bare⟩ := Definition.plain_of_plainSort? plain gives
  refine ⟨base, first, ⟨here, isFirst, kind, bare, ?_⟩, ?_⟩
  · intro extension inItems amends
    obtain ⟨extending, inDocument, given⟩ := List.mem_filterMap.1 inItems
    have extendingAmends := (Definition.defines_of_given? given name).2.trans amends
    exact (Definition.plain_of_plainSort? (plainExtensions extending inDocument extendingAmends)
      given).2
  · rw [value_collect_eq_ok_iff]
    constructor
    · intro other inside
      refine Definition.resolves_modify resolves ?_ other (List.mem_filter.1 inside).1
      intro changed isDefinition
      rw [found, Option.some_inj] at isDefinition
      exact isDefinition ▸ Definition.resolves_of_given? absorbed
    · rw [← modified]
      symm
      apply Definition.filterMap_given?_filter
      intro other item given
      rw [(Definition.defines_of_given? given name).2]

/-- The same text is generated from a document and from the document with the extensions of a name
written into its definition. -/
theorem generate_inlined {document : Document} {items : List Item} {name : String}
    (config : Config)
    (named : document.Named)
    (collected : (collect (some document)).run.value = .ok items)
    (inlinable : document.Inlinable name) :
    ∃ text, (generate config document).run.value = .ok text ∧
      (generate config (document.inlined name)).run.value = .ok text := by
  obtain ⟨text, generated, rendered⟩ := exists_value_generate named collected config
  obtain ⟨base, first, plain, collectedInlined⟩ := collect_inlined collected inlinable
  have modelled : (typeModel (some (document.inlined name))).run.value =
      .ok ((merge items).value.filter fun item => !item.amends name) := by
    rw [value_typeModel, collectedInlined, plain.filter_merge]
    rfl
  refine ⟨text, generated, ?_⟩
  rw [value_generate modelled, value_render_filter, rendered]
  · rfl
  · intro item _ dropped
    rw [Bool.not_eq_false'] at dropped
    exact ((Item.amends_iff name item).1 dropped).2

/-- An object between two of its extensions, which share a field with it and with each other. -/
def extendedDocument : Document where
  definitions :=
    [.object .extension
       { name := "User", directives := [{ name := "entity" }],
         fields := [{ name := "mail", type := .named "String" }] },
     .enum .definition { name := "Role", values := [{ name := "ADMIN" }] },
     .object .definition
       { name := "User", directives := [{ name := "key" }],
         fields := [{ name := "id", type := .nonNull (.named "ID") }] },
     .object .extension { name := "Team", interfaces := ["Node"] },
     .object .extension
       { name := "User", directives := [{ name := "key" }],
         fields :=
           [{ name := "id", type := .named "Int" }, { name := "mail", type := .named "Int" },
            { name := "role", type := .named "Role" }] },
     .interface .definition
       { name := "Node", fields := [{ name := "id", type := .nonNull (.named "ID") }] }]

/-- The definition takes the place of all three, with every field in the form in which it comes
first. -/
theorem generate_inlined_extendedDocument :
    extendedDocument.Named ∧ extendedDocument.Inlinable "User" ∧
      (extendedDocument.inlined "User").definitions =
        [.enum .definition { name := "Role", values := [{ name := "ADMIN" }] },
         .object .definition
           { name := "User",
             directives := [{ name := "key" }, { name := "entity" }, { name := "key" }],
             fields :=
               [{ name := "id", type := .nonNull (.named "ID") },
                { name := "mail", type := .named "String" },
                { name := "role", type := .named "Role" }] },
         .object .extension { name := "Team", interfaces := ["Node"] },
         .interface .definition
           { name := "Node", fields := [{ name := "id", type := .nonNull (.named "ID") }] }] ∧
      ∃ text, (generate {} extendedDocument).run.value = .ok text ∧
        (generate {} (extendedDocument.inlined "User")).run.value = .ok text := by
  have named : extendedDocument.Named := by decide
  have collected : (collect (some extendedDocument)).run.value =
      .ok (extendedDocument.definitions.filterMap Definition.given?) := rfl
  have inlinable : extendedDocument.Inlinable "User" := by
    refine ⟨_, .object, rfl, rfl, ?_⟩
    simp only [extendedDocument, List.forall_mem_cons]
    decide
  exact ⟨named, inlinable, rfl, generate_inlined {} named collected inlinable⟩

end SchemaDecl
