import SchemaDecl.Proofs.Collect
import SchemaDecl.Proofs.FileText
import SchemaDecl.Proofs.Plural
import SchemaDecl.Proofs.Rendering

/-!
# Declarations read back from what is rendered

Items with names are rendered as legible declarations, as long as the settings stay on one line, so
the text that is rendered determines the declarations.
-/

namespace SchemaDecl

open CodeText Sdl Text

/-! ## Types -/

theorem mem_of_lookup_eq_some {α β : Type} [BEq α] [LawfulBEq α] {key : α} {value : β}
    {entries : List (α × β)}
    (found : entries.lookup key = some value) :
    (key, value) ∈ entries := by
  obtain ⟨before, after, rfl, _⟩ := List.lookup_eq_some_iff.1 found
  exact List.mem_append_right before List.mem_cons_self

theorem Config.OneLine.scalar {config : Config} (oneLine : config.OneLine) {name : String}
    (named : IsName name) :
    (config.scalar name).OneLine := by
  have defaults : ∀ entry ∈ defaultScalars, '\n' ∉ entry.2.toList := by decide
  unfold Config.scalar scalar?
  cases configured : config.scalars.lookup (.ofString name) with
  | some type => exact oneLine.scalars (.ofString name, type) (mem_of_lookup_eq_some configured)
  | none =>
      cases known : defaultScalars.lookup name with
      | some type =>
          exact oneLine_ofString (defaults (name, type) (mem_of_lookup_eq_some known))
      | none => exact named.visible.filled.2

theorem Shape.oneLine_typeName {config : Config} (oneLine : config.OneLine) {shape : Shape}
    (named : IsName shape.leafName) :
    (shape.typeName config).OneLine := by
  induction shape with
  | leaf notNull name => exact oneLine.scalar named
  | list notNull element inductionHypothesis =>
      have opened := oneLine.listType.append (by decide : (ofString "<").OneLine)
      exact (opened.append (inductionHypothesis named)).append (by decide)

/-! ## Declarations -/

theorem Item.Named.legible_properties {config : Config} {item : Item}
    (named : item.Named)
    (oneLine : config.OneLine) :
    ∀ property ∈ item.properties config, property.Legible := by
  intro property member
  obtain ⟨field, inItem, given⟩ := List.mem_filterMap.1 member
  obtain ⟨shape, shaped, rfl⟩ := Option.map_eq_some_iff.1 given
  constructor
  · exact Shape.oneLine_typeName oneLine (named.leaves field inItem shape shaped)
  · exact Member.visible_property (named.fields field inItem).visible

/-- An item with names has a legible declaration. -/
theorem Item.Named.legible_declaration {config : Config} {item : Item} {declaration : Declaration}
    (named : item.Named)
    (oneLine : config.OneLine)
    (declared : item.declaration? config = some declaration) :
    declaration.Legible := by
  unfold Item.declaration? at declared
  cases kind : item.kind <;> rw [kind] at declared
  case extension => cases declared
  case enum =>
    cases declared
    refine .enumType named.name ?_
    rw [List.forall_mem_map]
    intro field member
    exact Member.visible_enumerant (named.fields field member).visible _
  case interface =>
    cases declared
    exact .interfaceType named.name (named.legible_properties oneLine)
  case object =>
    cases declared
    exact .classType named.name named.interfaces (named.legible_properties oneLine)

namespace Rendering

/-- The property that exposes an entity with a name is legible. -/
theorem legible_entityProperty {config : Config} {entity : Item} {property : Property}
    (named : entity.Named)
    (oneLine : config.OneLine)
    (exposed : entityProperty config entity = .ok property) :
    property.Legible := by
  have called := isName_of_entityProperty named.name exposed
  obtain ⟨plural, -, rfl⟩ := (entityProperty_eq_ok_iff_exists config entity property).1 exposed
  constructor
  · have opened := oneLine.collectionType.append (by decide : (ofString "<").OneLine)
    exact (opened.append named.name.visible.filled.2).append (by decide)
  · exact called.visible

theorem legible_aggregatorOf {config : Config} {entities : List Item} {aggregator : String}
    {declarations : List Declaration}
    (named : ∀ entity ∈ entities, entity.Named)
    (oneLine : config.OneLine)
    (aggregatorName : config.aggregatorName = aggregator)
    (aggregatorNamed : IsName aggregator)
    (exposed : aggregatorOf config entities = .ok declarations) :
    ∀ declaration ∈ declarations, declaration.Legible := by
  intro declaration member
  obtain ⟨properties, made, rfl⟩ := exists_properties_of_mem_aggregatorOf exposed member
  rw [aggregatorName]
  refine .classType aggregatorNamed (List.forall_mem_nil _) (forall_mem_of_mapM_eq_ok ?_ made)
  exact fun entity isEntity _ => legible_entityProperty (named entity isEntity) oneLine

/-- Items with names have legible declarations, and so has their aggregator. -/
theorem exists_legible_declarations {config : Config} {items : List Item} {aggregator : String}
    (named : ∀ item ∈ items, item.Named)
    (oneLine : config.OneLine)
    (aggregatorName : config.aggregatorName = aggregator)
    (aggregatorNamed : IsName aggregator) :
    ∃ all, (declarations config items).run.value = .ok all ∧
      ∀ declaration ∈ all, declaration.Legible := by
  have entitiesNamed : ∀ entity ∈ entities config items, entity.Named := by
    intro entity member
    exact named entity (List.mem_filter.1 member).1
  have someNames : ∀ entity ∈ entities config items, entity.name ≠ "" := by
    intro entity member
    exact (entitiesNamed entity member).name.ne_empty
  obtain ⟨aggregators, exposed⟩ := exists_aggregatorOf someNames config
  refine ⟨itemDeclarations config items ++ aggregators, ?_, List.forall_mem_append.2 ⟨?_, ?_⟩⟩
  · rw [value_declarations, exposed]
    rfl
  · intro declaration member
    obtain ⟨item, inItems, declared⟩ := List.mem_filterMap.1 member
    exact (named item inItems).legible_declaration oneLine declared
  · exact legible_aggregatorOf entitiesNamed oneLine aggregatorName aggregatorNamed exposed

end Rendering

open Declaration Rendering

/-- The text that is rendered determines the declarations.  It holds a paragraph for the imported
namespaces, one for the namespace of the file and one for each declaration, and nothing else. -/
theorem render_determines_declarations {config : Config} {left right : List Item}
    {aggregator : String}
    (oneLine : config.OneLine)
    (aggregatorName : config.aggregatorName = aggregator)
    (aggregatorNamed : IsName aggregator)
    (leftNamed : ∀ item ∈ left, item.Named)
    (rightNamed : ∀ item ∈ right, item.Named)
    (sameText : (render config left).run.value = (render config right).run.value) :
    ∃ text all,
      (render config left).run.value = .ok text ∧
      (declarations config left).run.value = .ok all ∧
      (declarations config right).run.value = .ok all ∧
      text.Holds (fileParagraphs config all) ∧
      ∀ paragraph ∈ fileParagraphs config all, IsParagraph paragraph := by
  obtain ⟨fromLeft, foundLeft, legibleLeft⟩ :=
    exists_legible_declarations leftNamed oneLine aggregatorName aggregatorNamed
  obtain ⟨fromRight, foundRight, legibleRight⟩ :=
    exists_legible_declarations rightNamed oneLine aggregatorName aggregatorNamed
  have paragraphs := isParagraph_fileParagraphs oneLine legibleLeft
  have holdsLeft := holds_fileText paragraphs
  have holdsRight := holds_fileText (isParagraph_fileParagraphs oneLine legibleRight)
  rw [value_render, value_render, foundLeft, foundRight] at sameText
  rw [← Except.ok.inj sameText] at holdsRight
  have sameLines := List.append_cancel_left (holdsLeft.unique holdsRight)
  have same : fromLeft = fromRight := by
    refine Joining.map_inj_on ?_ sameLines
    intro first isLeft second isRight
    exact lines_inj (legibleLeft first isLeft) (legibleRight second isRight)
  refine ⟨fileText config fromLeft, fromLeft, ?_, foundLeft, same ▸ foundRight, holdsLeft,
    paragraphs⟩
  rw [value_render, foundLeft]
  rfl

/-- Settings with a namespace, an import and types of two words. -/
def shopConfig : Config where
  namespaceName := some "Shop.Data"
  usings := ["System"]
  indent := "  "
  enumSeparator := " ,"
  scalars := [("ID", "global::System . Guid")]
  aggregatorName := "ShopContext"

/-- Items with required values, and an extension. -/
def strictItems : List Item :=
  [{ name := "Node", kind := .interface, fields := [⟨"id", some (.leaf true "ID")⟩] },
   { name := "Tag", kind := .extension, fields := [⟨"text", some (.leaf true "String")⟩] },
   { name := "Role", kind := .enum, fields := [⟨"ADMIN", none⟩, ⟨"SUPER_USER", none⟩] },
   { name := "Person", kind := .object, interfaces := ["Node", "Named"], tags := ["key", "entity"],
     fields :=
       [⟨"id", some (.leaf true "ID")⟩, ⟨"roles", some (.list true (.leaf true "Role"))⟩] }]

/-- The same items with values that may be absent, and without the extension. -/
def lenientItems : List Item :=
  [{ name := "Node", kind := .interface, fields := [⟨"id", some (.leaf false "ID")⟩] },
   { name := "Role", kind := .enum, fields := [⟨"ADMIN", none⟩, ⟨"SUPER_USER", none⟩] },
   { name := "Person", kind := .object, interfaces := ["Node", "Named"], tags := ["entity"],
     fields :=
       [⟨"id", some (.leaf false "ID")⟩, ⟨"roles", some (.list false (.leaf true "Role"))⟩] }]

theorem oneLine_shopConfig : shopConfig.OneLine where
  namespaceName := by
    rintro name ⟨⟩
    decide
  usings := by decide
  indent := by decide
  enumSeparator := by decide
  accessors := by decide
  listType := by decide
  scalars := by decide
  collectionType := by decide

/-- Both lists of items give these four declarations, one paragraph each. -/
theorem render_lenientItems_determines_declarations :
    (∀ item ∈ strictItems, item.Named) ∧ (∀ item ∈ lenientItems, item.Named) ∧
      ∃ text all,
        (render shopConfig strictItems).run.value = .ok text ∧
        (declarations shopConfig strictItems).run.value = .ok all ∧
        (declarations shopConfig lenientItems).run.value = .ok all ∧
        text.Holds (fileParagraphs shopConfig all) ∧
        (∀ paragraph ∈ fileParagraphs shopConfig all, IsParagraph paragraph) ∧
        all =
          [.interfaceType "Node" [⟨"global::System . Guid", "Id"⟩],
           .enumType "Role" ["Admin", "SuperUser"],
           .classType "Person" ["Node", "Named"]
             [⟨"global::System . Guid", "Id"⟩, ⟨"List<Role>", "Roles"⟩],
           .classType "ShopContext" [] [⟨"DbSet<Person>", "People"⟩]] := by
  have strictNamed : ∀ item ∈ strictItems, item.Named := by decide
  have lenientNamed : ∀ item ∈ lenientItems, item.Named := by decide
  have sameText : (render shopConfig strictItems).run.value =
      (render shopConfig lenientItems).run.value := value_render_congr (by decide) (by decide)
  have aggregatorName : shopConfig.aggregatorName = ofString "ShopContext" := rfl
  obtain ⟨text, all, rendered, fromStrict, fromLenient, holds, paragraphs⟩ :=
    render_determines_declarations oneLine_shopConfig aggregatorName (by decide) strictNamed
      lenientNamed sameText
  refine ⟨strictNamed, lenientNamed, text, all, rendered, fromStrict, fromLenient, holds,
    paragraphs, ?_⟩
  exact Except.ok.inj (fromStrict.symm.trans (by decide +kernel))

end SchemaDecl
