import Mathlib.Data.List.Forall2
import SchemaDecl.Generation
import SchemaDecl.Proofs.Growth

/-!
# What is collected from a document

Collecting succeeds exactly when every definition can be resolved by itself, and then gives the
items of the definitions in their order.  `Definition.item?_cases` lists the definitions that give
an item together with the items they give.
-/

namespace SchemaDecl

theorem mapM_cons_eq_ok_iff {ε α β : Type} (step : α → Except ε β) (element : α) (rest : List α)
    (results : List β) :
    (element :: rest).mapM step = .ok results ↔
      ∃ result others, step element = .ok result ∧ rest.mapM step = .ok others ∧
        results = result :: others := by
  rw [List.mapM_cons]
  cases step element with
  | error fault => simp [bind, Except.bind]
  | ok result =>
      cases rest.mapM step with
      | error fault => simp [bind, Except.bind]
      | ok others => simp [bind, Except.bind, pure, Except.pure, eq_comm]

/-- Steps over a list succeed exactly when each of them does. -/
theorem mapM_eq_ok_iff {ε α β : Type} (step : α → Except ε β) (elements : List α)
    (results : List β) :
    elements.mapM step = .ok results ↔
      List.Forall₂ (fun element result => step element = .ok result) elements results := by
  induction elements generalizing results with
  | nil =>
      rw [List.forall₂_nil_left_iff, List.mapM_nil]
      constructor
      · rintro ⟨⟩
        rfl
      · rintro rfl
        rfl
  | cons element rest inductionHypothesis =>
      rw [mapM_cons_eq_ok_iff, List.forall₂_cons_left_iff]
      constructor
      · rintro ⟨result, others, first, later, rfl⟩
        exact ⟨result, others, first, (inductionHypothesis others).1 later, rfl⟩
      · rintro ⟨result, others, first, later, rfl⟩
        exact ⟨result, others, first, (inductionHypothesis others).2 later, rfl⟩

/-- What each step gives its result, all results have. -/
theorem forall_mem_of_mapM_eq_ok {ε α β : Type} {step : α → Except ε β} {elements : List α}
    {results : List β} {property : β → Prop}
    (gives : ∀ element ∈ elements, ∀ result, step element = .ok result → property result)
    (made : elements.mapM step = .ok results) :
    ∀ result ∈ results, property result := by
  rw [mapM_eq_ok_iff] at made
  induction made with
  | nil => exact List.forall_mem_nil _
  | cons first _ inductionHypothesis =>
      rw [List.forall_mem_cons] at gives
      exact List.forall_mem_cons.2 ⟨gives.1 _ first, inductionHypothesis gives.2⟩

theorem map_eq_ok_iff {ε α β : Type} (change : α → β) (outcome : Except ε α) (result : β) :
    change <$> outcome = .ok result ↔ ∃ value, outcome = .ok value ∧ change value = result := by
  cases outcome with
  | error fault => simp
  | ok value => simp

theorem mapError_eq_ok_iff {ε δ α : Type} (convert : ε → δ) (outcome : Except ε α) (result : α) :
    outcome.mapError convert = .ok result ↔ outcome = .ok result := by
  cases outcome <;> simp [Except.mapError]

theorem FieldDefinition.name_and_shape_of_field {definition : FieldDefinition} {field : Field}
    (visited : definition.field = .ok field) :
    field.name = definition.name ∧ field.shape.isSome := by
  unfold FieldDefinition.field at visited
  cases checked : checkReferences (definition.arguments.map InputValue.type) with
  | error part =>
      rw [checked] at visited
      cases visited
  | ok =>
      rw [checked] at visited
      cases resolved : definition.type.shape with
      | error part =>
          rw [resolved] at visited
          cases visited
      | ok shape =>
          rw [resolved] at visited
          cases visited
          exact ⟨rfl, rfl⟩

/-- Field definitions give fields with their names, and all have shapes. -/
theorem FieldDefinition.names_and_shapes_of_mapM {definitions : List FieldDefinition}
    {fields : List Field}
    (visited : definitions.mapM field = .ok fields) :
    fields.map Field.name = definitions.map FieldDefinition.name ∧
      ∀ field ∈ fields, field.shape.isSome := by
  rw [mapM_eq_ok_iff] at visited
  induction visited with
  | nil => simp
  | cons first later inductionHypothesis =>
      obtain ⟨name, shape⟩ := name_and_shape_of_field first
      obtain ⟨names, shapes⟩ := inductionHypothesis
      rw [List.map_cons, List.map_cons, name, names]
      exact ⟨rfl, List.forall_mem_cons.2 ⟨shape, shapes⟩⟩

/-- The names of directives are collected like tags. -/
theorem directiveNames_eq_foldl (directives : List Directive) :
    directiveNames directives = (directives.map Directive.name).foldl Item.withTag [] := by
  rw [List.foldl_map]
  rfl

namespace Definition

/-- The item a definition gives if it can be resolved. -/
def given? (definition : Definition) : Option Item :=
  match definition.item? with
  | .ok item => item
  | .error _ => none

/-- Whether a definition can be resolved. -/
def Resolves (definition : Definition) : Prop :=
  ∃ item, definition.item? = .ok item

theorem given?_eq_some_iff (definition : Definition) (item : Item) :
    definition.given? = some item ↔ definition.item? = .ok (some item) := by
  unfold given?
  cases definition.item? with
  | ok result => simp
  | error fault => simp

/-- The name of an object, an interface or an enum that is defined. -/
def definedName? : Definition → Option String
  | object .definition type => some type.name
  | interface .definition type => some type.name
  | enum .definition type => some type.name
  | _ => none

/-- The name of an object or an enum that is extended. -/
def extendedName? : Definition → Option String
  | object .extension type => some type.name
  | enum .extension type => some type.name
  | _ => none

/-- The name of an interface that is defined. -/
def interfaceName? : Definition → Option String
  | interface .definition type => some type.name
  | _ => none

theorem resolve_of_item? {definition : Definition} {item : Option Item}
    (gives : definition.item? = .ok item) :
    definition.resolve = .ok item := by
  cases definition with
  | stray part => cases gives
  | schema | directive | scalar | object | interface | union | enum | inputObject =>
      exact (mapError_eq_ok_iff DocumentFault.reference _ item).1 gives

theorem check_ne_some (references : List TypeRef) (item : Item) :
    check references ≠ .ok (some item) := by
  unfold check
  cases checkReferences references with
  | error fault => simp [bind, Except.bind]
  | ok => simp [bind, Except.bind, pure, Except.pure]

/-- The definitions that give an item, and what they give. -/
theorem item?_cases {definition : Definition} {item : Item}
    (gives : definition.item? = .ok (some item)) :
    (∃ role type fields, definition = object role type ∧
        type.fields.mapM FieldDefinition.field = .ok fields ∧
        item = { name := type.name, kind := kindIn .object role, fields,
                 interfaces := type.interfaces, tags := directiveNames type.directives }) ∨
      (∃ type fields, definition = interface .definition type ∧
        type.fields.mapM FieldDefinition.field = .ok fields ∧
        item = { name := type.name, kind := .interface, fields,
                 tags := directiveNames type.directives }) ∨
      ∃ role type, definition = enum role type ∧ item = type.item (kindIn .enum role) := by
  have resolved := resolve_of_item? gives
  have ofFields {type : FieldsType} {kind : ItemKind} {interfaces : List String}
      (made : some <$> type.item kind interfaces = .ok (some item)) :
      ∃ fields, type.fields.mapM FieldDefinition.field = .ok fields ∧
        item = { name := type.name, kind, fields, interfaces,
                 tags := directiveNames type.directives } := by
    obtain ⟨value, built, same⟩ := (map_eq_ok_iff some _ (some item)).1 made
    rw [Option.some_inj] at same
    subst same
    obtain ⟨fields, visited, equal⟩ := (map_eq_ok_iff _ _ value).1 built
    exact ⟨fields, visited, equal.symm⟩
  cases definition with
  | object role type =>
      obtain ⟨fields, visited, same⟩ := ofFields resolved
      exact Or.inl ⟨role, type, fields, rfl, visited, same⟩
  | interface role type =>
      cases role with
      | definition =>
          obtain ⟨fields, visited, same⟩ := ofFields resolved
          exact Or.inr (Or.inl ⟨type, fields, rfl, visited, same⟩)
      | extension =>
          rw [resolve] at resolved
          cases visited : type.fields.mapM FieldDefinition.field with
          | error fault =>
              rw [visited] at resolved
              cases resolved
          | ok fields =>
              rw [visited] at resolved
              cases resolved
  | enum role type =>
      refine Or.inr (Or.inr ⟨role, type, rfl, ?_⟩)
      simpa [resolve, pure, Except.pure] using resolved.symm
  | scalar role type => simp [resolve, pure, Except.pure] at resolved
  | stray part => simp [resolve, pure, Except.pure] at resolved
  | schema role block => exact absurd resolved (check_ne_some _ item)
  | directive type => exact absurd resolved (check_ne_some _ item)
  | union role type => exact absurd resolved (check_ne_some _ item)
  | inputObject role type => exact absurd resolved (check_ne_some _ item)

/-- A definition and the item it gives have one name, and the item's kind tells what is defined or
extended. -/
theorem name_of_given? {definition : Definition} {item : Item}
    (gives : definition.given? = some item) :
    (item.kind ≠ .extension → definition.definedName? = some item.name) ∧
      (item.kind = .extension → definition.extendedName? = some item.name) ∧
      (item.kind = .interface → definition.interfaceName? = some item.name) := by
  rw [given?_eq_some_iff] at gives
  rcases item?_cases gives with ⟨role, type, fields, rfl, _, rfl⟩ | ⟨type, fields, rfl, _, rfl⟩ |
    ⟨role, type, rfl, rfl⟩
  · cases role <;> simp [kindIn, definedName?, extendedName?]
  · simp [definedName?, interfaceName?]
  · cases role <;> simp [EnumType.item, kindIn, definedName?, extendedName?]

end Definition

namespace Collection

theorem fault_ofDefinitions_eq_none_iff (definitions : List Definition) :
    (ofDefinitions definitions).fault = none ↔
      ∀ definition ∈ definitions, definition.Resolves := by
  induction definitions with
  | nil => simp [ofDefinitions]
  | cons definition rest inductionHypothesis =>
      rw [ofDefinitions, List.forall_mem_cons, ← inductionHypothesis]
      cases outcome : definition.item? with
      | error fault => simp [Definition.Resolves, outcome]
      | ok item => simp [Definition.Resolves, outcome]

theorem items_ofDefinitions {definitions : List Definition}
    (resolves : ∀ definition ∈ definitions, definition.Resolves) :
    (ofDefinitions definitions).items = definitions.filterMap Definition.given? := by
  induction definitions with
  | nil => rfl
  | cons definition rest inductionHypothesis =>
      rw [List.forall_mem_cons] at resolves
      obtain ⟨⟨item, outcome⟩, later⟩ := resolves
      rw [ofDefinitions, outcome]
      cases item with
      | none => simp [Definition.given?, outcome, inductionHypothesis later]
      | some item => simp [Definition.given?, outcome, inductionHypothesis later]

end Collection

theorem value_collect (document : Document) :
    (collect (some document)).run.value =
      match (Collection.ofDefinitions document.definitions).fault with
      | some fault => .error fault
      | none => .ok (Collection.ofDefinitions document.definitions).items := by
  unfold collect Collection.ofDocument
  cases outcome : (Collection.ofDefinitions document.definitions).fault with
  | none => simp [ExceptT.run, ExceptT.mk, outcome]
  | some fault => simp [ExceptT.run, ExceptT.mk, outcome]

/-- Collecting succeeds exactly when every definition can be resolved, and gives their items. -/
theorem value_collect_eq_ok_iff (document : Document) (items : List Item) :
    (collect (some document)).run.value = .ok items ↔
      (∀ definition ∈ document.definitions, definition.Resolves) ∧
        items = document.definitions.filterMap Definition.given? := by
  rw [value_collect, ← Collection.fault_ofDefinitions_eq_none_iff]
  cases outcome : (Collection.ofDefinitions document.definitions).fault with
  | none =>
      have resolves := (Collection.fault_ofDefinitions_eq_none_iff _).1 outcome
      simp [Collection.items_ofDefinitions resolves, eq_comm]
  | some fault => simp

/-- The type model is the merge of what is collected. -/
theorem value_typeModel (document : Option Document) :
    (typeModel document).run.value =
      (collect document).run.value.map fun items => (merge items).value := by
  unfold typeModel
  rw [ExceptT.run_bind, Logged.value_bind]
  cases (collect document).run.value with
  | error fault => rfl
  | ok items => rfl

end SchemaDecl
