import Mathlib.Data.List.Sort
import SchemaDecl.Proofs.FileText
import SchemaDecl.Proofs.Inlining
import SchemaDecl.Proofs.Merge.Tags

/-!
# What the aggregator lists

The aggregator has one property for each entity of the document.  An entity is an object of the type
model.  Its directive stands at its own definition or, if it is the first item of its name that is
no extension, at any extension of the name, before or after it.  `Document.IsEntity` says so by the
definitions of the document, without regard to how tags are merged.
-/

namespace SchemaDecl

/-! ## Directives of definitions -/

namespace Definition

/-- The directives of a definition. -/
def directives : Definition → List Directive
  | schema _ block => block.directives
  | directive type => type.directives
  | scalar _ type => type.directives
  | object _ type => type.directives
  | interface _ type => type.directives
  | union _ type => type.directives
  | enum _ type => type.directives
  | inputObject _ type => type.directives
  | stray _ => []

/-- A directive of the name is applied to the definition. -/
def Applies (name : CodeText) (definition : Definition) : Prop :=
  ∃ directive ∈ definition.directives, .ofString directive.name = name

instance (name : CodeText) (definition : Definition) : Decidable (definition.Applies name) :=
  inferInstanceAs
    (Decidable (∃ directive ∈ definition.directives, .ofString directive.name = name))

/-- The tags of an item are the names of the directives of its definition. -/
theorem tags_of_given? {definition : Definition} {item : Item}
    (gives : definition.given? = some item) :
    item.tags = directiveNames definition.directives := by
  rw [given?_eq_some_iff] at gives
  rcases item?_cases gives with ⟨_, _, _, rfl, _, rfl⟩ | ⟨_, _, rfl, _, rfl⟩ | ⟨_, _, rfl, rfl⟩
  · rfl
  · rfl
  · rfl

theorem nodup_tags_of_given? {definition : Definition} {item : Item}
    (gives : definition.given? = some item) :
    item.tags.Nodup := by
  rw [tags_of_given? gives, directiveNames_eq_foldl]
  exact Item.nodup_foldl_withTag List.nodup_nil _

/-- What is applied to a definition is a tag of its item. -/
theorem applies_iff {definition : Definition} {item : Item}
    (gives : definition.given? = some item)
    (name : CodeText) :
    definition.Applies name ↔ ∃ tag ∈ item.tags, .ofString tag = name := by
  have known (tag : String) : tag ∈ item.tags ↔ tag ∈ definition.directives.map Directive.name := by
    rw [tags_of_given? gives, directiveNames_eq_foldl, Item.mem_foldl_withTag,
      or_iff_right List.not_mem_nil]
  simp [known, Applies]

/-- Only the definition of an object gives an object. -/
theorem kind_of_given?_eq_object_iff {definition : Definition} {item : Item}
    (gives : definition.given? = some item) :
    item.kind = .object ↔ ∃ type, definition = object .definition type := by
  rw [given?_eq_some_iff] at gives
  rcases item?_cases gives with ⟨role, _, _, rfl, _, rfl⟩ | ⟨_, _, rfl, _, rfl⟩ |
    ⟨role, _, rfl, rfl⟩
  · cases role <;> simp [kindIn]
  · simp
  · cases role <;> simp [kindIn, EnumType.item]

/-- Extensions of a name give items. -/
theorem isModelled_of_amends {definition : Definition} {name : String}
    (amended : definition.amends name = true) :
    definition.isModelled = true := by
  unfold amends extendedName? at amended
  split at amended
  · rfl
  · rfl
  · cases amended

/-- A directive is applied to an extension of a name if it is a tag of an item that extends the
name. -/
theorem exists_extension_iff {definitions : List Definition}
    (resolves : ∀ definition ∈ definitions, definition.Resolves)
    (name : String) (directive : CodeText) :
    (∃ extension ∈ definitions.filterMap given?, extension.amends name = true ∧
        ∃ tag ∈ extension.tags, .ofString tag = directive) ↔
      ∃ extension ∈ definitions, extension.amends name = true ∧ extension.Applies directive := by
  constructor
  · rintro ⟨extension, member, amends, tagged⟩
    obtain ⟨definition, inside, gives⟩ := List.mem_filterMap.1 member
    exact ⟨definition, inside, (defines_of_given? gives name).2.trans amends,
      (applies_iff gives directive).2 tagged⟩
  · rintro ⟨definition, inside, amends, applies⟩
    have wellFormed := (resolves_iff definition).1 (resolves definition inside)
    obtain ⟨extension, gives⟩ := wellFormed.exists_given? (isModelled_of_amends amends)
    exact ⟨extension, List.mem_filterMap.2 ⟨definition, inside, gives⟩,
      (defines_of_given? gives name).2.symm.trans amends, (applies_iff gives directive).1 applies⟩

end Definition

/-! ## Definitions and merged items -/

namespace Document

/-- The definitions that give items. -/
def modelled (document : Document) : List Definition :=
  document.definitions.filter Definition.isModelled

/-- The object at a position of the type model is an entity: the entity directive is applied to the
definition at the position, or the object is the first item of its name that is no extension, and
the directive is applied to an extension of the name. -/
def IsEntity (document : Document) (config : Config) (model : List Item)
    (position : Fin model.length) : Prop :=
  model[position].kind = .object ∧
    ((∃ definition ∈ document.modelled[position.val]?,
        definition.Applies config.entityDirective) ∨
      model.findIdx? (Item.defines model[position].name) = some position.val ∧
        ∃ extension ∈ document.definitions, extension.amends model[position].name = true ∧
          extension.Applies config.entityDirective)

instance (document : Document) (config : Config) (model : List Item)
    (position : Fin model.length) : Decidable (document.IsEntity config model position) :=
  inferInstanceAs
    (Decidable (model[position].kind = .object ∧
      ((∃ definition ∈ document.modelled[position.val]?,
          definition.Applies config.entityDirective) ∨
        model.findIdx? (Item.defines model[position].name) = some position.val ∧
          ∃ extension ∈ document.definitions, extension.amends model[position].name = true ∧
            extension.Applies config.entityDirective)))

/-- The definition at a position is the first extension of a name that no definition introduces. -/
def IsOrphan (document : Document) (name : String) (position : Nat) : Prop :=
  document.modelled.findIdx? (Definition.defines name) = none ∧
    document.modelled.findIdx? (Definition.amends name) = some position

variable {document : Document} {items : List Item}

/-- The items are those of the definitions that give items. -/
theorem forall₂_modelled (collected : (collect (some document)).run.value = .ok items) :
    List.Forall₂ (fun definition item => definition.given? = some item) document.modelled
      items := by
  obtain ⟨resolves, same⟩ := (value_collect_eq_ok_iff document items).1 collected
  have wellFormed : ∀ definition ∈ document.definitions, definition.WellFormed :=
    fun definition inside => (Definition.resolves_iff definition).1 (resolves definition inside)
  have described := (Definition.filterMap_given?_eq_iff wellFormed items).1 same.symm
  have both := (List.forall₂_and_left _ _).2
    ⟨fun definition inside => wellFormed definition (List.mem_filter.1 inside).1, described⟩
  refine both.imp ?_
  rintro definition item ⟨proper, describes⟩
  exact (proper.given?_eq_some_iff item).2 describes

theorem exists_modelled (collected : (collect (some document)).run.value = .ok items)
    {position : Nat} {item : Item}
    (here : items[position]? = some item) :
    ∃ definition, document.modelled[position]? = some definition ∧
      definition.given? = some item := by
  have aligned := forall₂_modelled collected
  obtain ⟨inside, rfl⟩ := List.getElem?_eq_some_iff.1 here
  have bound : position < document.modelled.length := aligned.length_eq ▸ inside
  exact ⟨_, List.getElem?_eq_getElem bound, aligned.get bound inside⟩

end Document

/-- Lists whose elements correspond are searched alike. -/
theorem findIdx?_eq_of_forall₂ {α β : Type} {related : α → β → Prop} {left : List α}
    {right : List β} {leftTest : α → Bool} {rightTest : β → Bool}
    (all : List.Forall₂ related left right)
    (same : ∀ first second, related first second → leftTest first = rightTest second) :
    left.findIdx? leftTest = right.findIdx? rightTest := by
  induction all with
  | nil => rfl
  | cons head _ inductionHypothesis =>
      rw [List.findIdx?_cons, List.findIdx?_cons, same _ _ head, inductionHypothesis]

namespace Document

variable {document : Document} {items : List Item}

/-- An orphan gives the first extension of a name that no other item has. -/
theorem isOrphan_iff (collected : (collect (some document)).run.value = .ok items)
    (name : String) (position : Nat) :
    document.IsOrphan name position ↔
      items.findIdx? (Item.defines name) = none ∧
        items.findIdx? (Item.amends name) = some position := by
  have aligned := forall₂_modelled collected
  rw [IsOrphan,
    findIdx?_eq_of_forall₂ aligned fun _ _ gives => (Definition.defines_of_given? gives name).1,
    findIdx?_eq_of_forall₂ aligned fun _ _ gives => (Definition.defines_of_given? gives name).2]

/-- A merged item is an object exactly if its definition introduces an object or is an orphan. -/
theorem kind_merged_eq_object_iff
    (collected : (collect (some document)).run.value = .ok items)
    {position : Nat} {merged : Item}
    (there : (merge items).value[position]? = some merged) :
    merged.kind = .object ↔
      (∃ type, document.modelled[position]? = some (.object .definition type)) ∨
        document.IsOrphan merged.name position := by
  obtain ⟨item, here, stands⟩ := Merge.exists_origin_merge there
  obtain ⟨definition, atPosition, gives⟩ := exists_modelled collected here
  have inside := (List.getElem?_eq_some_iff.1 here).1
  rw [isOrphan_iff collected, stands.grows.name, ← Merge.base?_extension_iff_findIdx? here,
    stands.kind, Merge.kindAfter, atPosition]
  simp only [Option.some_inj, ← Definition.kind_of_given?_eq_object_iff gives]
  simp only [inside, and_true]
  split
  · rename_i orphaned
    simp [orphaned]
  · rename_i other
    simp [other]

/-- The entities are the items that the rendering selects. -/
theorem isEntity_iff
    (collected : (collect (some document)).run.value = .ok items)
    (config : Config)
    (position : Fin (merge items).value.length) :
    (merge items).value[position].isEntity config = true ↔
      document.IsEntity config (merge items).value position := by
  obtain ⟨resolves, same⟩ := (value_collect_eq_ok_iff document items).1 collected
  have there : (merge items).value[position.val]? = some (merge items).value[position] :=
    List.getElem?_eq_getElem position.isLt
  unfold IsEntity
  generalize (merge items).value[position] = merged at there ⊢
  obtain ⟨item, here, stands⟩ := Merge.exists_origin_merge there
  obtain ⟨definition, atPosition, gives⟩ := exists_modelled collected here
  have tags := Merge.mem_tags_merge here there
  have own := Definition.applies_iff gives config.entityDirective
  have others := Definition.exists_extension_iff resolves item.name config.entityDirective
  rw [← same] at others
  rw [stands.grows.name, ← others, atPosition]
  simp only [Option.mem_some, exists_eq_left', own, Item.isEntity, Bool.and_eq_true, beq_iff_eq,
    List.any_eq_true, tags]
  refine and_congr_right fun _ => ?_
  constructor
  · rintro ⟨tag, isOwn | ⟨first, extension, member, amends, tagged⟩, named⟩
    · exact Or.inl ⟨tag, isOwn, named⟩
    · exact Or.inr ⟨first, extension, member, amends, tag, tagged, named⟩
  · rintro (⟨tag, isOwn, named⟩ | ⟨first, extension, member, amends, tag, tagged, named⟩)
    · exact ⟨tag, Or.inl isOwn, named⟩
    · exact ⟨tag, Or.inr ⟨first, extension, member, amends, tagged⟩, named⟩

end Document

/-! ## The aggregator -/

/-- The property has the collection of an item as its type and the plural of the item's name as its
name. -/
structure Item.ExposedBy (config : Config) (property : Property) (item : Item) : Prop where
  type : property.type = config.collectionType ++ "<" ++ item.name ++ ">"
  name : Plural.ofWord? item.name = some property.name

theorem Item.ExposedBy.eq {config : Config} {property : Property} {item : Item}
    {name plural : String}
    (exposed : item.ExposedBy config property)
    (called : item.name = name)
    (found : Plural.ofWord? name = some plural) :
    property = ⟨config.collectionType ++ "<" ++ name ++ ">", plural⟩ := by
  subst called
  obtain ⟨type, _⟩ := property
  obtain ⟨rfl, named⟩ := exposed
  rw [found, Option.some_inj] at named
  rw [named]

theorem Rendering.entityProperty_eq_ok_iff (config : Config) (entity : Item) (property : Property) :
    entityProperty config entity = .ok property ↔ entity.ExposedBy config property := by
  rw [entityProperty_eq_ok_iff_exists]
  constructor
  · rintro ⟨plural, found, rfl⟩
    exact ⟨rfl, found⟩
  · intro exposed
    exact ⟨property.name, exposed.name, exposed.eq rfl exposed.name⟩

/-- The selected elements of a list stand at the selected positions. -/
theorem filter_eq_map_finRange {α : Type} (elements : List α) (test : α → Bool) :
    elements.filter test =
      ((List.finRange elements.length).filter fun position => test elements[position]).map
        fun position => elements[position] := by
  conv_lhs => rw [← List.map_getElem_finRange elements]
  rw [List.filter_map]
  rfl

namespace Document

/-- The declaration, if there is one, is the aggregator of the entities.  It has one property for
each of them, in the order of their positions. -/
structure Aggregates (document : Document) (config : Config) (model : List Item)
    (aggregator : Option Declaration) : Prop where
  someEntity : aggregator.isSome = true ↔ ∃ position, document.IsEntity config model position
  listed : ∀ declaration ∈ aggregator,
    ∃ (entities : List (Fin model.length)) (properties : List Property),
      declaration = .classType config.aggregatorName [] properties ∧
      (∀ position, position ∈ entities ↔ document.IsEntity config model position) ∧
      entities.Pairwise (· < ·) ∧
      List.Forall₂ (fun position property => model[position].ExposedBy config property)
        entities properties

variable {document : Document} {items : List Item}

/-- The rendering selects the entities at increasing positions. -/
theorem exists_positions
    (collected : (collect (some document)).run.value = .ok items)
    (config : Config) :
    ∃ positions : List (Fin (merge items).value.length),
      (∀ position, position ∈ positions ↔ document.IsEntity config (merge items).value position) ∧
      positions.Pairwise (· < ·) ∧
      Rendering.entities config (merge items).value =
        positions.map fun position => (merge items).value[position] := by
  refine ⟨_, ?_, ?_, filter_eq_map_finRange (merge items).value (Item.isEntity config)⟩
  · intro position
    rw [List.mem_filter, and_iff_right (List.mem_finRange position),
      isEntity_iff collected config position]
  · exact (List.pairwise_lt_finRange _).filter _

/-- What is declared after the merged items is the aggregator of the entities. -/
theorem exists_aggregates
    (named : document.Named)
    (collected : (collect (some document)).run.value = .ok items)
    (config : Config) :
    ∃ aggregator, document.Aggregates config (merge items).value aggregator ∧
      Rendering.aggregatorOf config (Rendering.entities config (merge items).value) =
        .ok aggregator.toList := by
  obtain ⟨positions, all, inOrder, selected⟩ := exists_positions collected config
  have entitiesNamed : ∀ entity ∈ Rendering.entities config (merge items).value,
      entity.name ≠ "" :=
    fun entity member => named.merged_ne_empty collected entity (List.mem_filter.1 member).1
  obtain ⟨properties, made⟩ := Rendering.exists_mapM_entityProperty entitiesNamed config
  have exposed := (mapM_eq_ok_iff _ _ properties).1 made
  rw [selected, List.forall₂_map_left_iff] at exposed
  rw [Rendering.aggregatorOf, made, selected]
  by_cases nothing : positions = []
  · subst nothing
    refine ⟨none, ⟨?_, fun _ absent => absurd absent (Option.not_mem_none _)⟩, if_pos rfl⟩
    simp [← all]
  · refine ⟨some (.classType config.aggregatorName [] properties), ⟨?_, ?_⟩,
      if_neg (mt List.map_eq_nil_iff.1 nothing)⟩
    · simpa [← all] using List.exists_mem_of_ne_nil positions nothing
    · rintro declaration ⟨⟩
      refine ⟨positions, properties, rfl, all, inOrder, ?_⟩
      exact exposed.imp fun _ _ made => (Rendering.entityProperty_eq_ok_iff config _ _).1 made

end Document

/-- The aggregator lists exactly the entities of a document.  No merged item has a tag twice.  The
objects among the merged items are the objects that the document defines and its orphans.  The text
has an aggregator after all other declarations if there is an entity, and has none otherwise. -/
theorem generate_lists_entities {document : Document} {items : List Item}
    (config : Config)
    (named : document.Named)
    (collected : (collect (some document)).run.value = .ok items) :
    ∃ model aggregator text,
      (typeModel (some document)).run.value = .ok model ∧
      (∀ item ∈ model, item.tags.Nodup) ∧
      (∀ position item, model[position]? = some item →
        (item.kind = .object ↔
          (∃ type, document.modelled[position]? = some (.object .definition type)) ∨
            document.IsOrphan item.name position)) ∧
      document.Aggregates config model aggregator ∧
      (generate config document).run.value = .ok text ∧
      text = Declaration.fileText config
        (Rendering.itemDeclarations config model ++ aggregator.toList) ∧
      ∀ declaration ∈ aggregator, ∃ before,
        text = before ++ declaration.text config ++ "\n" := by
  obtain ⟨aggregator, aggregates, exposed⟩ := Document.exists_aggregates named collected config
  obtain ⟨text, generated, rendered⟩ := exists_value_generate named collected config
  have modelled : (typeModel (some document)).run.value = .ok (merge items).value := by
    rw [value_typeModel, collected]
    rfl
  have distinct : ∀ item ∈ items, item.tags.Nodup := by
    intro item member
    rw [((value_collect_eq_ok_iff document items).1 collected).2] at member
    obtain ⟨definition, _, gives⟩ := List.mem_filterMap.1 member
    exact Definition.nodup_tags_of_given? gives
  have written : text = Declaration.fileText config
      (Rendering.itemDeclarations config (merge items).value ++ aggregator.toList) := by
    rw [value_render, Rendering.value_declarations, exposed] at rendered
    exact (Except.ok.inj rendered).symm
  refine ⟨(merge items).value, aggregator, text, modelled, Merge.nodup_tags_merge distinct,
    fun position item there => Document.kind_merged_eq_object_iff collected there, aggregates,
    generated, written, ?_⟩
  rintro declaration ⟨⟩
  rw [written]
  exact ⟨_, Declaration.fileText_concat config _ declaration⟩

/-- An object whose directive stands at an extension before it, one with a directive of its own, and
two extensions of a name that nothing introduces.  An interface, an enum and a second object of a
name are no entities. -/
def mixedDocument : Document where
  definitions :=
    [.object .extension
       { name := "User", directives := [{ name := "entity" }],
         fields := [{ name := "mail", type := .named "String" }] },
     .interface .definition
       { name := "Node", directives := [{ name := "entity" }],
         fields := [{ name := "id", type := .nonNull (.named "ID") }] },
     .object .definition
       { name := "User", fields := [{ name := "id", type := .nonNull (.named "ID") }] },
     .object .definition
       { name := "Team",
         directives := [{ name := "entity" }, { name := "key" }, { name := "entity" }],
         fields := [{ name := "role", type := .named "Role" }] },
     .enum .definition
       { name := "Role", directives := [{ name := "entity" }], values := [{ name := "ADMIN" }] },
     .object .extension { name := "Log", fields := [{ name := "time", type := .named "Int" }] },
     .object .definition { name := "User" },
     .enum .extension
       { name := "Log", directives := [{ name := "entity" }], values := [{ name := "LATE" }] }]

/-- The three entities are listed in the order in which the objects stand in the type model. -/
theorem generate_lists_entities_mixedDocument :
    mixedDocument.Named ∧ ∃ users teams logs before,
      Plural.ofWord? "User" = some users ∧ Plural.ofWord? "Team" = some teams ∧
      Plural.ofWord? "Log" = some logs ∧
      (generate {} mixedDocument).run.value = .ok
        (before ++
          (Declaration.classType "EntityContext" []
            [⟨"DbSet<User>", users⟩, ⟨"DbSet<Team>", teams⟩, ⟨"DbSet<Log>", logs⟩]).text {} ++
          "\n") := by
  have named : mixedDocument.Named := by decide
  have collected : (collect (some mixedDocument)).run.value =
      .ok (mixedDocument.definitions.filterMap Definition.given?) := rfl
  obtain ⟨model, aggregator, text, modelled, _, _, aggregates, generated, _, last⟩ :=
    generate_lists_entities {} named collected
  have final : (typeModel (some mixedDocument)).run.value = .ok
      (merge (mixedDocument.definitions.filterMap Definition.given?)).value := rfl
  rw [final, Except.ok.injEq] at modelled
  subst modelled
  obtain ⟨declaration, found⟩ := Option.isSome_iff_exists.1
    (aggregates.someEntity.2 ⟨⟨2, by decide⟩, by decide⟩)
  obtain ⟨entities, properties, isClass, all, inOrder, exposed⟩ :=
    aggregates.listed declaration found
  have selected : entities = [⟨2, by decide⟩, ⟨3, by decide⟩, ⟨5, by decide⟩] := by
    apply inOrder.eq_of_mem_iff (by decide)
    intro position
    rw [all]
    revert position
    decide
  rw [selected] at exposed
  obtain _ | ⟨users, _ | ⟨teams, _ | ⟨logs, _ | _⟩⟩⟩ := exposed
  rw [users.eq rfl users.name, teams.eq rfl teams.name, logs.eq rfl logs.name] at isClass
  obtain ⟨before, written⟩ := last declaration found
  subst isClass
  refine ⟨named, _, _, _, before, users.name, teams.name, logs.name, ?_⟩
  rw [generated, written]
  rfl

end SchemaDecl
