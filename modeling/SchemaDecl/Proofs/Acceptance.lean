import SchemaDecl.Proofs.Collect

/-!
# Which documents are collected

A reference is proper if it is a chain of wrappers around a name.  A definition is well formed if it
belongs to the type system and all references in it are proper.  Collecting succeeds exactly for the
documents of well-formed definitions.  It gives the items that the definitions describe; otherwise
it reports the first fault of the first definition that is not well formed.  References count in the
order in which a reader meets them, the arguments of a field before its type.
-/

namespace SchemaDecl

/-! ## References -/

namespace TypeRef

/-- The reference is a chain of wrappers around a name. -/
inductive Proper : TypeRef → Prop
  | named (name : String) : Proper (named name)
  | list {element : TypeRef} : Proper element → Proper (list element)
  | nonNull {inner : TypeRef} : Proper inner → Proper (nonNull inner)

/-- The reference is a chain of wrappers around something that is no type reference. -/
inductive EndsIn (part : Stray) : TypeRef → Prop
  | stray : EndsIn part (stray part)
  | list {element : TypeRef} : EndsIn part element → EndsIn part (list element)
  | nonNull {inner : TypeRef} : EndsIn part inner → EndsIn part (nonNull inner)

theorem proper_list_iff (element : TypeRef) : (list element).Proper ↔ element.Proper :=
  ⟨fun | .list proper => proper, .list⟩

theorem proper_nonNull_iff (inner : TypeRef) : (nonNull inner).Proper ↔ inner.Proper :=
  ⟨fun | .nonNull proper => proper, .nonNull⟩

theorem endsIn_list_iff (part : Stray) (element : TypeRef) :
    (list element).EndsIn part ↔ element.EndsIn part :=
  ⟨fun | .list ends => ends, .list⟩

theorem endsIn_nonNull_iff (part : Stray) (inner : TypeRef) :
    (nonNull inner).EndsIn part ↔ inner.EndsIn part :=
  ⟨fun | .nonNull ends => ends, .nonNull⟩

theorem endsIn_stray_iff (part other : Stray) : (stray other).EndsIn part ↔ other = part :=
  ⟨fun | .stray => rfl, fun same => same ▸ .stray⟩

/-- A reference has a shape exactly if it is proper. -/
theorem exists_shapeUnder_iff (reference : TypeRef) (notNull : Bool) :
    (∃ shape, reference.shapeUnder notNull = .ok shape) ↔ reference.Proper := by
  induction reference generalizing notNull with
  | named name => simp [shapeUnder, Proper.named]
  | list element inductionHypothesis =>
      rw [proper_list_iff, ← inductionHypothesis false, shapeUnder]
      cases element.shapeUnder false with
      | error part => simp [Except.map]
      | ok shape => simp [Except.map]
  | nonNull inner inductionHypothesis =>
      rw [proper_nonNull_iff, ← inductionHypothesis true, shapeUnder]
  | stray part =>
      rw [shapeUnder]
      constructor
      · rintro ⟨_, ⟨⟩⟩
      · rintro ⟨⟩

/-- What stands at the end of a reference without a shape is reported. -/
theorem shapeUnder_eq_error_iff (reference : TypeRef) (notNull : Bool) (part : Stray) :
    reference.shapeUnder notNull = .error part ↔ reference.EndsIn part := by
  induction reference generalizing notNull with
  | named name =>
      rw [shapeUnder]
      constructor <;> rintro ⟨⟩
  | list element inductionHypothesis =>
      rw [endsIn_list_iff, ← inductionHypothesis false, shapeUnder]
      cases element.shapeUnder false with
      | error other => simp [Except.map]
      | ok shape => simp [Except.map]
  | nonNull inner inductionHypothesis =>
      rw [endsIn_nonNull_iff, ← inductionHypothesis true, shapeUnder]
  | stray other => rw [endsIn_stray_iff, shapeUnder, Except.error.injEq]

theorem exists_shape_iff (reference : TypeRef) :
    (∃ shape, reference.shape = .ok shape) ↔ reference.Proper :=
  reference.exists_shapeUnder_iff false

theorem shape_eq_error_iff (reference : TypeRef) (part : Stray) :
    reference.shape = .error part ↔ reference.EndsIn part :=
  reference.shapeUnder_eq_error_iff false part

end TypeRef

/-! ## References in order -/

/-- The first element that is not good is the head, or it is in the tail after a good head. -/
theorem exists_first_cons_iff {α : Type} {good bad : α → Prop} (head : α) (tail : List α) :
    (∃ before found after, head :: tail = before ++ found :: after ∧
      (∀ earlier ∈ before, good earlier) ∧ bad found) ↔
    bad head ∨ good head ∧ ∃ before found after, tail = before ++ found :: after ∧
      (∀ earlier ∈ before, good earlier) ∧ bad found := by
  constructor
  · rintro ⟨before, found, after, split, allGood, isBad⟩
    cases before with
    | nil =>
        obtain ⟨rfl, rfl⟩ := List.cons_eq_cons.1 split
        exact Or.inl isBad
    | cons first others =>
        obtain ⟨rfl, rfl⟩ := List.cons_eq_cons.1 split
        rw [List.forall_mem_cons] at allGood
        exact Or.inr ⟨allGood.1, others, found, after, rfl, allGood.2, isBad⟩
  · rintro (isBad | ⟨first, before, found, after, rfl, allGood, isBad⟩)
    · exact ⟨[], head, tail, rfl, List.forall_mem_nil _, isBad⟩
    · exact ⟨head :: before, found, after, rfl, List.forall_mem_cons.2 ⟨first, allGood⟩, isBad⟩

/-- The first reference that is not proper ends in the given part. -/
def FirstStray (references : List TypeRef) (part : Stray) : Prop :=
  ∃ before reference after, references = before ++ reference :: after ∧
    (∀ earlier ∈ before, earlier.Proper) ∧ reference.EndsIn part

theorem firstStray_cons_iff (reference : TypeRef) (rest : List TypeRef) (part : Stray) :
    FirstStray (reference :: rest) part ↔
      reference.EndsIn part ∨ reference.Proper ∧ FirstStray rest part :=
  exists_first_cons_iff reference rest

theorem checkReferences_cons (reference : TypeRef) (rest : List TypeRef) :
    checkReferences (reference :: rest) =
      reference.shape.bind fun _ => checkReferences rest := by
  change (discard reference.shape >>= fun _ => checkReferences rest) = _
  cases reference.shape <;> rfl

theorem checkReferences_append (first second : List TypeRef) :
    checkReferences (first ++ second) =
      (checkReferences first).bind fun _ => checkReferences second := by
  induction first with
  | nil => rfl
  | cons reference rest inductionHypothesis =>
      rw [List.cons_append, checkReferences_cons, checkReferences_cons, inductionHypothesis]
      cases reference.shape <;> rfl

theorem checkReferences_eq_ok_iff (references : List TypeRef) :
    checkReferences references = .ok () ↔ ∀ reference ∈ references, reference.Proper := by
  induction references with
  | nil => simp [checkReferences, pure, Except.pure]
  | cons reference rest inductionHypothesis =>
      rw [checkReferences_cons, List.forall_mem_cons, ← reference.exists_shape_iff,
        ← inductionHypothesis]
      cases reference.shape with
      | error part => simp [Except.bind]
      | ok shape => simp [Except.bind]

theorem checkReferences_eq_error_iff (references : List TypeRef) (part : Stray) :
    checkReferences references = .error part ↔ FirstStray references part := by
  induction references with
  | nil =>
      constructor
      · rintro ⟨⟩
      · rintro ⟨before, reference, after, split, _⟩
        simp at split
  | cons reference rest inductionHypothesis =>
      rw [checkReferences_cons, firstStray_cons_iff, ← inductionHypothesis,
        ← reference.exists_shape_iff, ← reference.shape_eq_error_iff]
      cases reference.shape with
      | error other => simp [Except.bind]
      | ok shape => simp [Except.bind]

/-! ## References of definitions -/

/-- The references of a field: those of its arguments, then its type. -/
def FieldDefinition.references (definition : FieldDefinition) : List TypeRef :=
  definition.arguments.map InputValue.type ++ [definition.type]

namespace Definition

/-- The references of a definition. -/
def references : Definition → List TypeRef
  | schema _ block => block.roots.map RootType.type
  | directive type => type.arguments.map InputValue.type
  | scalar _ _ => []
  | object _ type => type.fields.flatMap FieldDefinition.references
  | interface _ type => type.fields.flatMap FieldDefinition.references
  | union _ type => type.members
  | enum _ _ => []
  | inputObject _ type => type.fields.map InputValue.type
  | stray _ => []

/-- The definition belongs to the type system and its references are proper. -/
def WellFormed (definition : Definition) : Prop :=
  (∀ part, definition ≠ stray part) ∧ ∀ reference ∈ definition.references, reference.Proper

/-- The first fault of a definition: that it does not belong to the type system, or else the end of
its first reference that is not proper. -/
inductive FirstFault (definition : Definition) : DocumentFault → Prop
  | unsupported {part : Stray} : definition = stray part → FirstFault definition (.unsupported part)
  | reference {part : Stray} :
      FirstStray definition.references part → FirstFault definition (.reference part)

end Definition

/-- A field is made if its references are proper. -/
theorem FieldDefinition.map_field (definition : FieldDefinition) :
    definition.field.map (fun _ => ()) = checkReferences definition.references := by
  rw [references, checkReferences_append, checkReferences_cons]
  change (checkReferences _ >>= fun _ => definition.type.shape >>= _).map _ = _
  cases checkReferences (definition.arguments.map InputValue.type) with
  | error part => rfl
  | ok => cases definition.type.shape <;> rfl

/-- Fields are made if the references of all of them are proper. -/
theorem FieldDefinition.map_mapM_field (definitions : List FieldDefinition) :
    (definitions.mapM field).map (fun _ => ()) =
      checkReferences (definitions.flatMap references) := by
  induction definitions with
  | nil => rfl
  | cons definition rest inductionHypothesis =>
      rw [List.flatMap_cons, checkReferences_append, ← definition.map_field, ← inductionHypothesis,
        List.mapM_cons]
      cases definition.field with
      | error part => rfl
      | ok field => cases rest.mapM FieldDefinition.field <;> rfl

namespace Definition

/-- A definition is resolved by resolving its references in order. -/
theorem map_resolve (definition : Definition) :
    definition.resolve.map (fun _ => ()) = checkReferences definition.references := by
  have checked (references : List TypeRef) :
      (check references).map (fun _ => ()) = checkReferences references := by
    unfold check
    cases checkReferences references <;> rfl
  cases definition with
  | schema role block => exact checked _
  | directive type => exact checked _
  | union role type => exact checked _
  | inputObject role type => exact checked _
  | scalar role type => rfl
  | enum role type => rfl
  | stray part => rfl
  | object role type =>
      rw [references, ← FieldDefinition.map_mapM_field, resolve, FieldsType.item]
      cases type.fields.mapM FieldDefinition.field <;> rfl
  | interface role type =>
      rw [references, ← FieldDefinition.map_mapM_field]
      cases role with
      | definition =>
          rw [resolve, FieldsType.item]
          cases type.fields.mapM FieldDefinition.field <;> rfl
      | extension =>
          rw [resolve]
          cases type.fields.mapM FieldDefinition.field <;> rfl

theorem item?_stray (part : Stray) : (stray part).item? = .error (.unsupported part) := rfl

theorem item?_of_ne_stray {definition : Definition} (typed : ∀ part, definition ≠ stray part) :
    definition.item? = definition.resolve.mapError .reference := by
  cases definition with
  | stray part => exact absurd rfl (typed part)
  | schema | directive | scalar | object | interface | union | enum | inputObject => rfl

/-- A definition can be resolved exactly if it is well formed. -/
theorem resolves_iff (definition : Definition) : definition.Resolves ↔ definition.WellFormed := by
  by_cases typed : ∀ part, definition ≠ stray part
  · rw [Resolves, item?_of_ne_stray typed, WellFormed, and_iff_right typed,
      ← checkReferences_eq_ok_iff, ← definition.map_resolve]
    cases definition.resolve with
    | error part => simp [Except.mapError, Except.map]
    | ok item => simp [Except.mapError, Except.map]
  · obtain ⟨part, rfl⟩ : ∃ part, definition = stray part := by simpa using typed
    rw [Resolves, item?_stray]
    constructor
    · rintro ⟨_, ⟨⟩⟩
    · rintro ⟨typed, _⟩
      exact absurd rfl (typed part)

/-- A definition that cannot be resolved reports its first fault. -/
theorem item?_eq_error_iff (definition : Definition) (fault : DocumentFault) :
    definition.item? = .error fault ↔ definition.FirstFault fault := by
  by_cases typed : ∀ part, definition ≠ stray part
  · rw [item?_of_ne_stray typed]
    have checked := definition.map_resolve
    constructor
    · intro reported
      cases resolved : definition.resolve with
      | ok item => simp [resolved, Except.mapError] at reported
      | error part =>
          rw [resolved, Except.mapError, Except.error.injEq] at reported
          subst reported
          rw [resolved] at checked
          exact .reference ((checkReferences_eq_error_iff _ part).1 checked.symm)
    · rintro (same | first)
      · exact absurd same (typed _)
      · rw [← checkReferences_eq_error_iff, ← checked] at first
        cases resolved : definition.resolve with
        | ok item => simp [resolved, Except.map] at first
        | error other =>
            rw [resolved, Except.map, Except.error.injEq] at first
            rw [first, Except.mapError]
  · obtain ⟨part, rfl⟩ : ∃ part, definition = stray part := by simpa using typed
    rw [item?_stray, Except.error.injEq]
    constructor
    · rintro rfl
      exact .unsupported rfl
    · rintro (same | ⟨before, reference, after, split, _⟩)
      · rw [stray.inj same]
      · simp [references] at split

end Definition

/-! ## Items -/

/-- A field has the name and the shape of its definition. -/
def FieldDefinition.Describes (definition : FieldDefinition) (field : Field) : Prop :=
  field.name = definition.name ∧
    ∃ shape, definition.type.shape = .ok shape ∧ field.shape = some shape

/-- What an item takes over from the head of a definition.  Of its directives an item keeps the
names, each at its first occurrence. -/
structure Item.Heads (item : Item) (name : String) (kind : ItemKind) (interfaces : List String)
    (directives : List Directive) : Prop where
  name : item.name = name
  kind : item.kind = kind
  interfaces : item.interfaces = interfaces
  tags : item.tags = (directives.map Directive.name).eraseDups

namespace Definition

/-- Whether definitions of this form have an item. -/
def isModelled : Definition → Bool
  | object _ _ => true
  | interface .definition _ => true
  | enum _ _ => true
  | _ => false

/-- The item that a definition describes. -/
def Describes : Definition → Item → Prop
  | object .definition type, item =>
      item.Heads type.name .object type.interfaces type.directives ∧
        List.Forall₂ FieldDefinition.Describes type.fields item.fields
  | object .extension type, item =>
      item.Heads type.name .extension type.interfaces type.directives ∧
        List.Forall₂ FieldDefinition.Describes type.fields item.fields
  | interface .definition type, item =>
      item.Heads type.name .interface [] type.directives ∧
        List.Forall₂ FieldDefinition.Describes type.fields item.fields
  | enum .definition type, item =>
      item.Heads type.name .enum [] type.directives ∧
        item.fields = type.values.map fun value => { name := value.name, shape := none }
  | enum .extension type, item =>
      item.Heads type.name .extension [] type.directives ∧
        item.fields = type.values.map fun value => { name := value.name, shape := none }
  | _, _ => False

end Definition

/-- Adding tags keeps every new one at its first occurrence. -/
theorem Item.foldl_withTag_eq_append (tags additions : List String) :
    additions.foldl withTag tags =
      tags ++ (additions.filter fun tag => tag ∉ tags).eraseDups := by
  induction additions generalizing tags with
  | nil => simp
  | cons tag rest inductionHypothesis =>
      rw [List.foldl_cons, withTag]
      by_cases known : tag ∈ tags
      · rw [if_pos known, inductionHypothesis, List.filter_cons_of_neg (by simpa using known)]
      · rw [if_neg known, inductionHypothesis, List.filter_cons_of_pos (by simpa using known),
          List.eraseDups_cons, List.filter_filter, List.append_assoc, List.singleton_append]
        congr 3
        apply List.filter_congr
        intro other _
        rw [Bool.eq_iff_iff]
        simp [and_comm]

theorem directiveNames_eq_eraseDups (directives : List Directive) :
    directiveNames directives = (directives.map Directive.name).eraseDups := by
  rw [directiveNames_eq_foldl, Item.foldl_withTag_eq_append]
  simp

/-- What is made of the head of a definition and of fields has both. -/
theorem Item.eq_iff_heads {name : String} {kind : ItemKind} {fields : List Field}
    {interfaces : List String} {directives : List Directive} (item : Item) :
    { name, kind, fields, interfaces, tags := directiveNames directives } = item ↔
      item.Heads name kind interfaces directives ∧ item.fields = fields := by
  rw [directiveNames_eq_eraseDups]
  constructor
  · rintro rfl
    exact ⟨⟨rfl, rfl, rfl, rfl⟩, rfl⟩
  · obtain ⟨_, _, _, _, _⟩ := item
    rintro ⟨⟨rfl, rfl, rfl, rfl⟩, rfl⟩
    rfl

theorem FieldDefinition.field_eq_ok_iff {definition : FieldDefinition}
    (proper : ∀ reference ∈ definition.references, reference.Proper)
    (field : Field) :
    definition.field = .ok field ↔ definition.Describes field := by
  have arguments : checkReferences (definition.arguments.map InputValue.type) = .ok () :=
    (checkReferences_eq_ok_iff _).2 fun reference member =>
      proper reference (List.mem_append_left _ member)
  have made : definition.field =
      definition.type.shape.map fun shape => { name := definition.name, shape := some shape } := by
    unfold FieldDefinition.field
    rw [arguments]
    cases definition.type.shape <;> rfl
  rw [made, Describes]
  cases definition.type.shape with
  | error part => simp [Except.map]
  | ok shape =>
      obtain ⟨name, fieldShape⟩ := field
      simp [Except.map, eq_comm]

theorem FieldDefinition.mapM_field_eq_ok_iff {definitions : List FieldDefinition}
    (proper : ∀ reference ∈ definitions.flatMap references, reference.Proper)
    (fields : List Field) :
    definitions.mapM field = .ok fields ↔ List.Forall₂ Describes definitions fields := by
  rw [mapM_eq_ok_iff]
  have each : ∀ definition ∈ definitions, ∀ field, definition.field = .ok field ↔
      definition.Describes field := fun definition member =>
    field_eq_ok_iff fun reference inside =>
      proper reference (List.mem_flatMap.2 ⟨definition, member, inside⟩)
  clear proper
  induction definitions generalizing fields with
  | nil => simp
  | cons definition rest inductionHypothesis =>
      rw [List.forall_mem_cons] at each
      simp only [List.forall₂_cons_left_iff, each.1, inductionHypothesis _ each.2]

namespace FieldsType

/-- The item of a type takes over its head and has the fields it describes. -/
theorem item_eq_ok_iff {type : FieldsType}
    (proper : ∀ reference ∈ type.fields.flatMap FieldDefinition.references, reference.Proper)
    (kind : ItemKind) (interfaces : List String) (item : Item) :
    type.item kind interfaces = .ok item ↔
      item.Heads type.name kind interfaces type.directives ∧
        List.Forall₂ FieldDefinition.Describes type.fields item.fields := by
  have made : type.item kind interfaces = (type.fields.mapM FieldDefinition.field).map fun fields =>
      { name := type.name, kind, fields, interfaces, tags := directiveNames type.directives } := rfl
  rw [← FieldDefinition.mapM_field_eq_ok_iff proper, made]
  cases type.fields.mapM FieldDefinition.field with
  | error part => simp [Except.map]
  | ok fields =>
      rw [Except.map, Except.ok.injEq, Except.ok.injEq, Item.eq_iff_heads,
        eq_comm (a := fields)]

end FieldsType

namespace EnumType

theorem item_eq_iff (type : EnumType) (kind : ItemKind) (item : Item) :
    type.item kind = item ↔
      item.Heads type.name kind [] type.directives ∧
        item.fields = type.values.map fun value => { name := value.name, shape := none } := by
  rw [EnumType.item, Item.eq_iff_heads]

end EnumType

namespace Definition

/-- A well-formed definition gives the item it describes. -/
theorem WellFormed.given?_eq_some_iff {definition : Definition}
    (wellFormed : definition.WellFormed)
    (item : Item) :
    definition.given? = some item ↔ definition.Describes item := by
  rw [Definition.given?_eq_some_iff, item?_of_ne_stray wellFormed.1, mapError_eq_ok_iff]
  have proper := wellFormed.2
  have none_ne (references : List TypeRef) : check references = .ok (some item) ↔ False :=
    iff_false_intro (check_ne_some references item)
  cases definition with
  | schema role block => exact none_ne _
  | directive type => exact none_ne _
  | union role type => exact none_ne _
  | inputObject role type => exact none_ne _
  | scalar role type => simp [resolve, pure, Except.pure, Describes]
  | stray part => simp [resolve, pure, Except.pure, Describes]
  | object role type =>
      rw [resolve, map_eq_ok_iff]
      simp only [Option.some_inj, exists_eq_right]
      cases role with
      | definition => exact type.item_eq_ok_iff proper .object type.interfaces item
      | extension => exact type.item_eq_ok_iff proper .extension type.interfaces item
  | interface role type =>
      cases role with
      | definition =>
          rw [resolve, map_eq_ok_iff]
          simp only [Option.some_inj, exists_eq_right]
          exact type.item_eq_ok_iff proper .interface [] item
      | extension =>
          change _ ↔ False
          rw [resolve]
          rw [iff_false]
          intro given
          cases made : type.fields.mapM FieldDefinition.field with
          | error part =>
              rw [made] at given
              cases given
          | ok fields =>
              rw [made] at given
              cases given
  | enum role type =>
      simp only [resolve, pure, Except.pure, Except.ok.injEq, Option.some_inj]
      cases role with
      | definition => exact type.item_eq_iff .enum item
      | extension => exact type.item_eq_iff .extension item

/-- The forms of definitions that have an item. -/
theorem isModelled_of_describes {definition : Definition} {item : Item}
    (describes : definition.Describes item) :
    definition.isModelled = true := by
  unfold Describes at describes
  split at describes
  · rfl
  · rfl
  · rfl
  · rfl
  · rfl
  · exact describes.elim

/-- A well-formed definition of such a form gives an item. -/
theorem WellFormed.exists_given? {definition : Definition}
    (wellFormed : definition.WellFormed)
    (modelled : definition.isModelled = true) :
    ∃ item, definition.given? = some item := by
  obtain ⟨outcome, gives⟩ := (resolves_iff definition).2 wellFormed
  have resolved := resolve_of_item? gives
  cases outcome with
  | some item => exact ⟨item, (Definition.given?_eq_some_iff definition item).2 gives⟩
  | none =>
      exfalso
      unfold isModelled at modelled
      split at modelled
      · obtain ⟨_, _, ⟨⟩⟩ := (map_eq_ok_iff _ _ _).1 resolved
      · obtain ⟨_, _, ⟨⟩⟩ := (map_eq_ok_iff _ _ _).1 resolved
      · cases resolved
      · cases modelled

/-- Well-formed definitions give the items they describe. -/
theorem filterMap_given?_eq_iff {definitions : List Definition}
    (wellFormed : ∀ definition ∈ definitions, definition.WellFormed)
    (items : List Item) :
    definitions.filterMap given? = items ↔
      List.Forall₂ Describes (definitions.filter isModelled) items := by
  induction definitions generalizing items with
  | nil => simp [eq_comm]
  | cons definition rest inductionHypothesis =>
      rw [List.forall_mem_cons] at wellFormed
      obtain ⟨first, later⟩ := wellFormed
      by_cases modelled : definition.isModelled = true
      · obtain ⟨item, gives⟩ := first.exists_given? modelled
        rw [List.filterMap_cons_some gives, List.filter_cons_of_pos modelled,
          List.forall₂_cons_left_iff]
        constructor
        · rintro rfl
          exact ⟨item, _, (first.given?_eq_some_iff item).1 gives,
            (inductionHypothesis later _).1 rfl, rfl⟩
        · rintro ⟨other, others, describes, all, rfl⟩
          rw [← first.given?_eq_some_iff, gives, Option.some_inj] at describes
          rw [describes, (inductionHypothesis later others).2 all]
      · have nothing : definition.given? = none := by
          rw [Option.eq_none_iff_forall_ne_some]
          intro item gives
          exact modelled (isModelled_of_describes ((first.given?_eq_some_iff item).1 gives))
        rw [List.filterMap_cons_none nothing, List.filter_cons_of_neg modelled,
          inductionHypothesis later]

end Definition

/-! ## Documents -/

/-- Collecting fails with the first fault of the first definition that is not well formed. -/
theorem Collection.fault_ofDefinitions_eq_some_iff (definitions : List Definition)
    (fault : DocumentFault) :
    (ofDefinitions definitions).fault = some fault ↔
      ∃ before definition after, definitions = before ++ definition :: after ∧
        (∀ earlier ∈ before, earlier.WellFormed) ∧ definition.FirstFault fault := by
  induction definitions with
  | nil => simp [ofDefinitions]
  | cons definition rest inductionHypothesis =>
      rw [exists_first_cons_iff, ← inductionHypothesis, ← definition.item?_eq_error_iff,
        ← definition.resolves_iff, Definition.Resolves, ofDefinitions]
      cases definition.item? with
      | error reported => simp
      | ok item => simp

/-- Collecting succeeds exactly for the documents of well-formed definitions and gives, in their
order, the items these describe.  It fails exactly for the others, with the first fault of the first
definition that is not well formed. -/
theorem collect_accepts_wellFormed (document : Document) :
    (∀ items, (collect (some document)).run.value = .ok items ↔
      (∀ definition ∈ document.definitions, definition.WellFormed) ∧
        List.Forall₂ Definition.Describes (document.definitions.filter Definition.isModelled)
          items) ∧
      ∀ fault, (collect (some document)).run.value = .error fault ↔
        ∃ before definition after, document.definitions = before ++ definition :: after ∧
          (∀ earlier ∈ before, earlier.WellFormed) ∧ definition.FirstFault fault := by
  constructor
  · intro items
    rw [value_collect_eq_ok_iff]
    simp only [Definition.resolves_iff]
    refine and_congr_right fun wellFormed => ?_
    rw [eq_comm, Definition.filterMap_given?_eq_iff wellFormed]
  · intro fault
    rw [← Collection.fault_ofDefinitions_eq_some_iff, value_collect]
    cases (Collection.ofDefinitions document.definitions).fault with
    | none => simp
    | some other => simp

/-- The argument of a field comes before its type. -/
example :
    (collect (some
      { definitions :=
          [.object .definition
            { name := "User",
              fields :=
                [{ name := "mail", type := .list (.stray (.value .text)),
                   arguments :=
                     [{ name := "first", type := .nonNull (.stray (.node "int_value")) }] }] }]
      })).run.value = .error (.reference (.node "int_value")) := rfl

end SchemaDecl
