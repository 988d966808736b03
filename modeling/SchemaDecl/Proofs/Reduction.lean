import SchemaDecl.Proofs.Acceptance
import SchemaDecl.Proofs.Generation
import SchemaDecl.Proofs.Merge.Trimming

/-!
# What of a document reaches the output

The output does not depend on definitions without an item, on the arguments of fields, on what
interfaces implement, on directives other than the entity directive, or on what must not be null.
`Document.reduced` leaves all of that out, and the same text is generated from it.
-/

namespace SchemaDecl

/-! ## Reduced documents -/

/-- The reference without its non-null wrappers. -/
def TypeRef.nullable : TypeRef → TypeRef
  | named name => named name
  | list element => list element.nullable
  | nonNull inner => inner.nullable
  | stray part => stray part

/-- Whether a directive marks entities. -/
def Config.isMark (config : Config) (directive : Directive) : Bool :=
  .ofString directive.name == config.entityDirective

/-- The field without arguments, non-null wrappers, and directives that mark nothing. -/
def FieldDefinition.reduced (config : Config) (definition : FieldDefinition) : FieldDefinition :=
  { definition with
    arguments := []
    type := definition.type.nullable
    directives := definition.directives.filter config.isMark }

/-- The type with reduced fields, without directives that mark nothing. -/
def FieldsType.reduced (config : Config) (type : FieldsType) : FieldsType :=
  { type with
    directives := type.directives.filter config.isMark
    fields := type.fields.map (FieldDefinition.reduced config) }

/-- The enum without directives that mark nothing. -/
def EnumType.reduced (config : Config) (type : EnumType) : EnumType :=
  { type with
    directives := type.directives.filter config.isMark
    values := type.values.map fun value =>
      { value with directives := value.directives.filter config.isMark } }

/-- The definition with what its item does not pass on left out. -/
def Definition.reduced (config : Config) : Definition → Definition
  | object role type => object role (type.reduced config)
  | interface role type => interface role { type.reduced config with interfaces := [] }
  | enum role type => enum role (type.reduced config)
  | other => other

/-- The document reduced to definitions with an item, and these to what reaches the output. -/
def Document.reduced (config : Config) (document : Document) : Document where
  definitions :=
    (document.definitions.filter Definition.isModelled).map (Definition.reduced config)

/-! ## Items of reduced definitions -/

/-- The shape without demands for values. -/
def Shape.nullable : Shape → Shape
  | leaf _ name => leaf false name
  | list _ element => list false element.nullable

/-- The field with the nullable form of its shape. -/
def Field.nullable (field : Field) : Field :=
  { field with shape := field.shape.map Shape.nullable }

theorem Field.name_nullable (field : Field) : field.nullable.name = field.name := rfl

/-- The item with nullable fields and no tags but the entity tag. -/
def Item.reduced (config : Config) (item : Item) : Item :=
  item.trimmed Field.nullable fun tag => .ofString tag == config.entityDirective

theorem TypeRef.shapeUnder_nullable {reference : TypeRef} {notNull : Bool} {shape : Shape}
    (resolved : reference.shapeUnder notNull = .ok shape) :
    reference.nullable.shapeUnder false = .ok shape.nullable := by
  induction reference generalizing notNull shape with
  | named name =>
      cases resolved
      rfl
  | list element inductionHypothesis =>
      rw [shapeUnder] at resolved
      cases inside : element.shapeUnder false with
      | error part =>
          rw [inside] at resolved
          cases resolved
      | ok elementShape =>
          rw [inside] at resolved
          cases resolved
          rw [nullable, shapeUnder, inductionHypothesis inside]
          rfl
  | nonNull inner inductionHypothesis => exact inductionHypothesis resolved
  | stray part => cases resolved

theorem FieldDefinition.field_reduced {definition : FieldDefinition} {field : Field}
    (config : Config)
    (visited : definition.field = .ok field) :
    (definition.reduced config).field = .ok field.nullable := by
  unfold FieldDefinition.field at visited
  cases checked : checkReferences (definition.arguments.map InputValue.type) with
  | error part =>
      rw [checked] at visited
      cases visited
  | ok =>
      cases resolved : definition.type.shape with
      | error part =>
          rw [checked, resolved] at visited
          cases visited
      | ok shape =>
          rw [checked, resolved] at visited
          cases visited
          have nullable : (definition.reduced config).type.shape = .ok shape.nullable :=
            TypeRef.shapeUnder_nullable resolved
          unfold FieldDefinition.field
          rw [nullable]
          rfl

theorem FieldDefinition.mapM_field_reduced {definitions : List FieldDefinition}
    {fields : List Field}
    (config : Config)
    (visited : definitions.mapM field = .ok fields) :
    (definitions.map (reduced config)).mapM field = .ok (fields.map Field.nullable) := by
  rw [mapM_eq_ok_iff] at visited ⊢
  rw [List.forall₂_map_left_iff, List.forall₂_map_right_iff]
  exact visited.imp fun definition field => field_reduced config

/-- The entity directive is the one directive that leaves a tag. -/
theorem directiveNames_filter (config : Config) (directives : List Directive) :
    directiveNames (directives.filter config.isMark) =
      (directiveNames directives).filter fun tag => .ofString tag == config.entityDirective := by
  rw [directiveNames_eq_foldl, directiveNames_eq_foldl, Item.filter_foldl_withTag, List.filter_map]
  rfl

theorem EnumType.item_reduced (config : Config) (type : EnumType) (kind : ItemKind) :
    (type.reduced config).item kind = (type.item kind).reduced config := by
  simp [EnumType.item, EnumType.reduced, Item.reduced, Item.trimmed, Field.nullable,
    directiveNames_filter, Function.comp_def]

/-- A reduced definition gives the reduced item. -/
theorem Definition.item?_reduced {definition : Definition} {item : Item} (config : Config)
    (gives : definition.item? = .ok (some item)) :
    (definition.reduced config).item? = .ok (some (item.reduced config)) := by
  rcases item?_cases gives with ⟨role, type, fields, rfl, visited, rfl⟩ |
    ⟨type, fields, rfl, visited, rfl⟩ | ⟨role, type, rfl, rfl⟩
  · have reduced := FieldDefinition.mapM_field_reduced config visited
    change (some <$> (type.reduced config).item (kindIn .object role) type.interfaces).mapError _ =
      _
    rw [FieldsType.item, FieldsType.reduced, reduced, directiveNames_filter]
    rfl
  · have reduced := FieldDefinition.mapM_field_reduced config visited
    change (some <$> FieldsType.item { type.reduced config with interfaces := [] } .interface
      []).mapError _ = _
    rw [FieldsType.item, FieldsType.reduced, reduced, directiveNames_filter]
    rfl
  · rw [← EnumType.item_reduced]
    rfl

/-- The reduced document has the reduced items. -/
theorem collect_reduced {document : Document} {items : List Item} (config : Config)
    (collected : (collect (some document)).run.value = .ok items) :
    (collect (some (document.reduced config))).run.value =
      .ok (items.map (Item.reduced config)) := by
  obtain ⟨resolves, rfl⟩ := (value_collect_eq_ok_iff document items).1 collected
  have wellFormed : ∀ definition ∈ document.definitions, definition.WellFormed :=
    fun definition member => (Definition.resolves_iff definition).1 (resolves definition member)
  have modelled (definition : Definition)
      (member : definition ∈ document.definitions.filter Definition.isModelled) :
      ∃ item, definition.given? = some item ∧
        (definition.reduced config).item? = .ok (some (item.reduced config)) := by
    obtain ⟨inDocument, isModelled⟩ := List.mem_filter.1 member
    obtain ⟨item, gives⟩ := (wellFormed definition inDocument).exists_given? isModelled
    exact ⟨item, gives,
      definition.item?_reduced config ((definition.given?_eq_some_iff item).1 gives)⟩
  have restricted : document.definitions.filterMap Definition.given? =
      (document.definitions.filter Definition.isModelled).filterMap Definition.given? := by
    rw [List.filterMap_filter]
    apply List.filterMap_congr
    intro definition member
    split
    · rfl
    · rename_i unmodelled
      rw [Option.eq_none_iff_forall_ne_some]
      intro item gives
      exact unmodelled (Definition.isModelled_of_describes
        (((wellFormed definition member).given?_eq_some_iff item).1 gives))
  rw [value_collect_eq_ok_iff]
  constructor
  · intro reduced member
    obtain ⟨definition, inModelled, rfl⟩ := List.mem_map.1 member
    obtain ⟨item, _, gives⟩ := modelled definition inModelled
    exact ⟨_, gives⟩
  · rw [restricted, Document.reduced, List.filterMap_map, List.map_filterMap]
    apply List.filterMap_congr
    intro definition member
    obtain ⟨item, given, gives⟩ := modelled definition member
    rw [given, Function.comp_apply, (Definition.given?_eq_some_iff _ _).2 gives, Option.map_some]

/-! ## The output of reduced items -/

theorem Shape.typeName_nullable (config : Config) (shape : Shape) :
    shape.nullable.typeName config = shape.typeName config := by
  induction shape with
  | leaf notNull name => rfl
  | list notNull element inductionHypothesis =>
      rw [nullable, typeName_list, typeName_list, inductionHypothesis]

namespace Item

theorem properties_reduced (config : Config) (item : Item) :
    (item.reduced config).properties config = item.properties config := by
  simp only [properties, reduced, trimmed, List.filterMap_map]
  apply List.filterMap_congr
  intro field _
  simp only [Function.comp_apply, Field.nullable, Option.map_map]
  congr 1
  funext shape
  simp only [Function.comp_apply, Shape.typeName_nullable]

theorem declaration?_reduced (config : Config) (item : Item) :
    (item.reduced config).declaration? config = item.declaration? config := by
  unfold declaration?
  rw [properties_reduced]
  simp only [reduced, trimmed, List.map_map]
  rfl

theorem isEntity_reduced (config : Config) (item : Item) :
    (item.reduced config).isEntity config = item.isEntity config := by
  simp [isEntity, reduced, trimmed, List.any_filter]

end Item

theorem value_render_reduced (config : Config) (items : List Item) :
    (render config (items.map (Item.reduced config))).run.value =
      (render config items).run.value := by
  apply value_render_congr
  · rw [Rendering.itemDeclarations, Rendering.itemDeclarations, List.filterMap_map]
    congr 1
    funext item
    exact item.declaration?_reduced config
  · rw [Rendering.entities, Rendering.entities, List.filter_map, List.map_map]
    simp only [Function.comp_def, Item.isEntity_reduced]
    rfl

/-! ## The output of reduced documents -/

/-- The same text is generated from a document and from the reduced document. -/
theorem generate_reduced {document : Document} {items : List Item} (config : Config)
    (named : document.Named)
    (collected : (collect (some document)).run.value = .ok items) :
    ∃ text, (generate config document).run.value = .ok text ∧
      (generate config (document.reduced config)).run.value = .ok text := by
  obtain ⟨text, generated, rendered⟩ := exists_value_generate named collected config
  refine ⟨text, generated, ?_⟩
  have modelled : (typeModel (some (document.reduced config))).run.value =
      .ok (merge (items.map (Item.reduced config))).value := by
    rw [value_typeModel, collect_reduced config collected]
    rfl
  have merged : (merge (items.map (Item.reduced config))).value =
      (merge items).value.map (Item.reduced config) :=
    Merge.value_merge_trimmed Field.name_nullable items
  rw [value_generate modelled, merged, value_render_reduced, rendered]
  rfl

/-- A document with some of everything that is left out. -/
def ornateDocument : Document where
  definitions :=
    [.schema .definition { roots := [{ type := .named "Query" }] },
     .object .extension
       { name := "User", directives := [{ name := "key" }, { name := "entity" }],
         fields :=
           [{ name := "tags", arguments := [{ name := "first", type := .named "Int" }],
              type := .nonNull (.list (.nonNull (.named "String"))) }] },
     .interface .extension { name := "Node", fields := [{ name := "age", type := .named "Int" }] },
     .interface .definition
       { name := "Node", interfaces := ["Thing"],
         fields := [{ name := "id", type := .nonNull (.named "ID") }] },
     .object .definition { name := "User", interfaces := ["Node"] },
     .scalar .definition { name := "Date" }]

/-- An interface and an object with its extension are left, and the text is the same. -/
theorem generate_reduced_ornateDocument :
    ornateDocument.Named ∧
      (ornateDocument.reduced {}).definitions =
        [.object .extension
           { name := "User", directives := [{ name := "entity" }],
             fields := [{ name := "tags", type := .list (.named "String") }] },
         .interface .definition
           { name := "Node", fields := [{ name := "id", type := .named "ID" }] },
         .object .definition { name := "User", interfaces := ["Node"] }] ∧
      ∃ text, (generate {} ornateDocument).run.value = .ok text ∧
        (generate {} (ornateDocument.reduced {})).run.value = .ok text := by
  have named : ornateDocument.Named := by decide
  have collected : (collect (some ornateDocument)).run.value =
      .ok (ornateDocument.definitions.filterMap Definition.given?) := rfl
  exact ⟨named, rfl, generate_reduced {} named collected⟩

end SchemaDecl
