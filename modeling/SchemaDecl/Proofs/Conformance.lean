import SchemaDecl.Proofs.Collect
import SchemaDecl.Proofs.Merge.Inheritance

/-!
# Classes conform to their interfaces

A class declares the properties of every interface of its document that it implements.  A property
comes from a field with a shape, and only enums give fields without shapes, so it matters that an
extension shares its name with items of its own sort only.
-/

namespace SchemaDecl

/-! ## Sorts -/

namespace Definition

/-- The sort and the name of what a definition defines or extends, if it gives an item. -/
def subject? : Definition → Option (ItemKind × String)
  | object _ type => some (.object, type.name)
  | interface .definition type => some (.interface, type.name)
  | enum _ type => some (.enum, type.name)
  | _ => none

/-- The interface that a definition defines, if it has the given name. -/
def interfaceNamed? (name : String) : Definition → Option FieldsType
  | interface .definition type => if type.name = name then some type else none
  | _ => none

end Definition

/-- An item that a definition of some sort can give. -/
structure Item.OfSort (sort : ItemKind) (item : Item) : Prop where
  kind : item.kind = sort ∨ item.kind = .extension ∧ sort ≠ .interface
  shaped : sort ≠ .enum → Merge.Shaped item
  implements : sort = .enum → item.interfaces = []

theorem Item.OfSort.kind_eq {sort : ItemKind} {item : Item}
    (ofSort : item.OfSort sort)
    (kind : item.kind ≠ .extension) :
    item.kind = sort := by
  rcases ofSort.kind with same | ⟨isExtension, _⟩
  · exact same
  · exact absurd isExtension kind

/-- A definition gives items of its sort. -/
theorem Definition.exists_sort {definition : Definition} {item : Item}
    (gives : definition.given? = some item) :
    ∃ sort, definition.subject? = some (sort, item.name) ∧ item.OfSort sort := by
  rw [given?_eq_some_iff] at gives
  rcases item?_cases gives with ⟨role, type, fields, rfl, visited, rfl⟩ |
    ⟨type, fields, rfl, visited, rfl⟩ | ⟨role, type, rfl, rfl⟩
  · obtain ⟨_, shapes⟩ := FieldDefinition.names_and_shapes_of_mapM visited
    refine ⟨.object, rfl, ?_, fun _ => shapes, by simp⟩
    cases role <;> simp [kindIn]
  · obtain ⟨_, shapes⟩ := FieldDefinition.names_and_shapes_of_mapM visited
    exact ⟨.interface, rfl, Or.inl rfl, fun _ => shapes, by simp⟩
  · refine ⟨.enum, rfl, ?_, fun other => absurd rfl other, fun _ => rfl⟩
    cases role <;> simp [EnumType.item, kindIn]

namespace Document

/-- Every object or enum extension shares its name only with definitions and extensions of its own
sort. -/
def SortsApart (document : Document) : Prop :=
  ∀ extending ∈ document.definitions, extending.extendedName?.isSome →
    ∀ other ∈ document.definitions,
      other.subject?.map Prod.snd = extending.extendedName? → other.subject? = extending.subject?

instance (document : Document) : Decidable document.SortsApart :=
  inferInstanceAs (Decidable (∀ extending ∈ document.definitions, extending.extendedName?.isSome →
    ∀ other ∈ document.definitions,
      other.subject?.map Prod.snd = extending.extendedName? →
        other.subject? = extending.subject?))

/-- The items that have the name of an extension are of its sort. -/
theorem SortsApart.exists_sort {document : Document} {extension : Item}
    (sorted : document.SortsApart)
    (member : extension ∈ document.definitions.filterMap Definition.given?)
    (kind : extension.kind = .extension) :
    ∃ sort, sort ≠ .interface ∧ ∀ item ∈ document.definitions.filterMap Definition.given?,
      item.name = extension.name → item.OfSort sort := by
  obtain ⟨extending, extendingMember, extendingGives⟩ := List.mem_filterMap.1 member
  obtain ⟨sort, subject, ofSort⟩ := Definition.exists_sort extendingGives
  have extended := (Definition.name_of_given? extendingGives).2.1 kind
  refine ⟨sort, ?_, ?_⟩
  · rcases ofSort.kind with same | ⟨_, noInterface⟩
    · rw [← same, kind]
      decide
    · exact noInterface
  · intro item itemMember sameName
    obtain ⟨giving, givingMember, givingGives⟩ := List.mem_filterMap.1 itemMember
    obtain ⟨other, otherSubject, otherSort⟩ := Definition.exists_sort givingGives
    have same := sorted extending extendingMember (by rw [extended]; rfl) giving givingMember
      (by rw [otherSubject, extended, Option.map_some, sameName])
    rw [otherSubject, subject, Option.some_inj, Prod.mk.injEq] at same
    rw [← same.1]
    exact otherSort

theorem SortsApart.separate {document : Document} (sorted : document.SortsApart) :
    Merge.Separate (document.definitions.filterMap Definition.given?) := by
  intro extension member kind interface interfaceMember interfaceKind sameName
  obtain ⟨sort, noInterface, sameSort⟩ := sorted.exists_sort member kind
  have itsSort := (sameSort interface interfaceMember sameName).kind_eq (by simp [interfaceKind])
  exact noInterface (itsSort.symm.trans interfaceKind)

theorem SortsApart.wellShaped {document : Document} (sorted : document.SortsApart) :
    Merge.WellShaped (document.definitions.filterMap Definition.given?) := by
  have shaped (item : Item) (member : item ∈ document.definitions.filterMap Definition.given?)
      (noExtension : item.kind ≠ .extension) (noEnum : item.kind ≠ .enum) :
      Merge.Shaped item := by
    obtain ⟨definition, _, gives⟩ := List.mem_filterMap.1 member
    obtain ⟨sort, _, ofSort⟩ := Definition.exists_sort gives
    exact ofSort.shaped (ofSort.kind_eq noExtension ▸ noEnum)
  refine ⟨?_, ?_, ?_⟩
  · intro item member kind
    exact shaped item member (by simp [kind]) (by simp [kind])
  · intro item member kind
    exact shaped item member (by simp [kind]) (by simp [kind])
  · intro extension member kind
    obtain ⟨sort, _, sameSort⟩ := sorted.exists_sort member kind
    by_cases isEnum : sort = .enum
    · exact Or.inr fun other otherMember sameName =>
        (sameSort other otherMember sameName).implements isEnum
    · exact Or.inl ((sameSort extension member rfl).shaped isEnum)

/-- The first interface of a name that a document defines. -/
def interfaceType? (document : Document) (name : String) : Option FieldsType :=
  document.definitions.findSome? (Definition.interfaceNamed? name)

end Document

/-! ## Interfaces -/

/-- A definition of an interface that resolves gives an interface with its fields. -/
theorem Definition.given?_interface {type : FieldsType}
    (resolves : (interface .definition type).Resolves) :
    ∃ fields, type.fields.mapM FieldDefinition.field = .ok fields ∧
      (interface .definition type).given? =
        some { name := type.name, kind := .interface, fields,
               tags := directiveNames type.directives } := by
  obtain ⟨outcome, gives⟩ := resolves
  have resolved := resolve_of_item? gives
  obtain ⟨item, built, same⟩ := (map_eq_ok_iff some _ outcome).1 resolved
  subst same
  obtain ⟨fields, visited, equal⟩ := (map_eq_ok_iff _ _ item).1 built
  subst equal
  exact ⟨fields, visited, (given?_eq_some_iff _ _).2 gives⟩

/-- A definition that does not define an interface of a name gives none. -/
theorem Definition.not_interface_of_interfaceNamed?_eq_none {definition : Definition} {item : Item}
    {name : String}
    (other : definition.interfaceNamed? name = none)
    (gives : definition.given? = some item) :
    (item.kind == .interface && item.name == name) = false := by
  rw [given?_eq_some_iff] at gives
  rcases item?_cases gives with ⟨role, type, fields, rfl, _, rfl⟩ | ⟨type, fields, rfl, _, rfl⟩ |
    ⟨role, type, rfl, rfl⟩
  · cases role <;> rfl
  · by_cases same : type.name = name
    · simp [interfaceNamed?, same] at other
    · simp [same]
  · cases role <;> rfl

theorem Definition.eq_of_interfaceNamed?_eq_some {definition : Definition} {name : String}
    {type : FieldsType}
    (found : definition.interfaceNamed? name = some type) :
    definition = interface .definition type ∧ type.name = name := by
  unfold interfaceNamed? at found
  split at found
  · split at found
    · cases found
      exact ⟨rfl, ‹_›⟩
    · cases found
  · cases found

/-- The first interface of a name in a document is the first one among its items. -/
theorem interface?_filterMap_given? {definitions : List Definition} {name : String}
    {type : FieldsType}
    (resolves : ∀ definition ∈ definitions, definition.Resolves)
    (first : definitions.findSome? (Definition.interfaceNamed? name) = some type) :
    ∃ fields, type.fields.mapM FieldDefinition.field = .ok fields ∧
      Merge.interface? (definitions.filterMap Definition.given?) name =
        some { name, kind := .interface, fields, tags := directiveNames type.directives } := by
  induction definitions with
  | nil => cases first
  | cons definition rest inductionHypothesis =>
      rw [List.forall_mem_cons] at resolves
      rw [List.findSome?_cons] at first
      cases found : definition.interfaceNamed? name with
      | some declared =>
          rw [found] at first
          cases first
          obtain ⟨rfl, rfl⟩ := Definition.eq_of_interfaceNamed?_eq_some found
          obtain ⟨fields, visited, gives⟩ := Definition.given?_interface resolves.1
          refine ⟨fields, visited, ?_⟩
          rw [List.filterMap_cons_some gives, Merge.interface?, List.find?_cons_of_pos (by simp)]
      | none =>
          rw [found] at first
          obtain ⟨fields, visited, later⟩ := inductionHypothesis resolves.2 first
          refine ⟨fields, visited, ?_⟩
          cases gives : definition.given? with
          | none => rw [List.filterMap_cons_none gives, later]
          | some item =>
              have passed := Definition.not_interface_of_interfaceNamed?_eq_none found gives
              rw [List.filterMap_cons_some gives, Merge.interface?,
                List.find?_cons_of_neg (by simp [passed])]
              exact later

/-! ## Properties -/

/-- An item whose fields have shapes has one property per field. -/
theorem map_name_properties {item : Item}
    (shaped : Merge.Shaped item)
    (config : Config) :
    (item.properties config).map Property.name =
      item.fields.map fun field => Member.property field.name := by
  rw [Item.properties, List.map_filterMap, ← List.filterMap_eq_map]
  apply List.filterMap_congr
  intro field member
  obtain ⟨shape, hasShape⟩ := Option.isSome_iff_exists.1 (shaped field member)
  rw [hasShape]
  rfl

theorem exists_property_of_hasField {item : Item} {field : String}
    (shaped : Merge.Shaped item)
    (has : item.hasField field = true)
    (config : Config) :
    ∃ property ∈ item.properties config, property.name = Member.property field := by
  obtain ⟨own, member, sameName⟩ := (Field.present_iff item.fields field).1 has
  have named : Member.property field ∈ (item.properties config).map Property.name := by
    rw [map_name_properties shaped config]
    exact List.mem_map.2 ⟨own, member, by rw [sameName]⟩
  exact List.mem_map.1 named

/-- Classes are made of objects. -/
theorem eq_of_declaration?_eq_classType {config : Config} {item : Item} {name : CodeText}
    {bases : List String} {properties : List Property}
    (declared : item.declaration? config = some (.classType name bases properties)) :
    item.kind = .object ∧ bases = item.interfaces ∧ properties = item.properties config := by
  unfold Item.declaration? at declared
  cases kind : item.kind with
  | object =>
      rw [kind, Option.some_inj, Declaration.classType.injEq] at declared
      exact ⟨rfl, declared.2.1.symm, declared.2.2.symm⟩
  | interface | enum | extension => simp [kind] at declared

/-! ## Conformance -/

/-- A merged object has the properties of the interfaces it implements. -/
theorem Merge.exists_property_of_implemented {items : List Item} {merged interface : Item}
    {base : String}
    (separate : Merge.Separate items)
    (wellShaped : Merge.WellShaped items)
    (member : merged ∈ (merge items).value)
    (kind : merged.kind = .object)
    (implemented : base ∈ merged.interfaces)
    (found : Merge.interface? items base = some interface)
    (config : Config) :
    ∀ property ∈ interface.properties config,
      ∃ own ∈ merged.properties config, own.name = property.name := by
  obtain ⟨position, atPosition⟩ := List.mem_iff_getElem?.1 member
  rw [getElem?_merge separate, Option.map_eq_some_iff] at atPosition
  obtain ⟨item, here, rfl⟩ := atPosition
  have shaped := wellShaped.mergedItem here kind implemented
  intro property declared
  obtain ⟨field, inFields, gives⟩ := List.mem_filterMap.1 declared
  obtain ⟨shape, _, rfl⟩ := Option.map_eq_some_iff.1 gives
  have has := hasField_of_implemented here kind implemented found inFields
  exact exists_property_of_hasField shaped has config

/-- Every class of a type model has the properties of the interfaces it names as bases.  The first
interface of a name that the document defines is the one the model has, and it declares a property
for each field it was defined with. -/
theorem typeModel_classes_conform {document : Document} {items : List Item} (config : Config)
    (collected : (collect (some document)).run.value = .ok items)
    (sorted : document.SortsApart) :
    ∃ model : List Item, (typeModel (some document)).run.value = .ok model ∧
      ∀ item ∈ model, ∀ name bases properties,
        item.declaration? config = some (.classType name bases properties) →
        ∀ base ∈ bases, ∀ type, document.interfaceType? base = some type →
          ∃ interface declared, Merge.interface? model base = some interface ∧
            interface.declaration? config = some (.interfaceType base declared) ∧
            declared.map Property.name =
              type.fields.map (fun field => Member.property field.name) ∧
            ∀ property ∈ declared, ∃ own ∈ properties, own.name = property.name := by
  obtain ⟨resolves, rfl⟩ := (value_collect_eq_ok_iff document items).1 collected
  refine ⟨_, by rw [value_typeModel, collected]; rfl, ?_⟩
  intro item member name bases properties rendered base isBase type defined
  obtain ⟨kind, rfl, rfl⟩ := eq_of_declaration?_eq_classType rendered
  obtain ⟨fields, visited, found⟩ := interface?_filterMap_given? resolves defined
  obtain ⟨names, shapes⟩ := FieldDefinition.names_and_shapes_of_mapM visited
  refine ⟨_, _, (Merge.interface?_merge sorted.separate base).trans found, rfl, ?_, ?_⟩
  · refine (map_name_properties ?_ config).trans ?_
    · exact shapes
    · have renamed := congrArg (List.map Member.property) names
      rw [List.map_map, List.map_map] at renamed
      exact renamed
  · exact Merge.exists_property_of_implemented sorted.separate sorted.wellShaped member kind
      isBase found config

/-- A promoted orphan and an object whose extension follows it, in front of their interfaces. -/
def lateInterfaces : Document where
  definitions :=
    [.object .extension { name := "Team", interfaces := ["Node"] },
     .enum .extension { name := "Colour", values := [{ name := "RED" }] },
     .object .definition
       { name := "User", interfaces := ["Named"],
         fields := [{ name := "mail", type := .named "String" }] },
     .object .extension { name := "User", interfaces := ["Node"] },
     .object .extension
       { name := "Team", fields := [{ name := "size", type := .named "Int" }] },
     .interface .definition
       { name := "Node", fields := [{ name := "id", type := .nonNull (.named "ID") }] },
     .interface .definition
       { name := "Named", fields := [{ name := "name", type := .named "String" }] }]

/-- The property of `Node` reaches the class of the promoted orphan and that of the object. -/
theorem typeModel_lateInterfaces_classes_conform :
    lateInterfaces.SortsApart ∧
      ∃ model : List Item, (typeModel (some lateInterfaces)).run.value = .ok model ∧
        ∃ team user : Item, model[0]? = some team ∧ model[2]? = some user ∧
          team.declaration? {} = some (.classType "Team" ["Node"] (team.properties {})) ∧
          user.declaration? {} = some (.classType "User" ["Named", "Node"] (user.properties {})) ∧
          (∃ own ∈ team.properties {}, own.name = Member.property "id") ∧
          ∃ own ∈ user.properties {}, own.name = Member.property "id" := by
  have collected : (collect (some lateInterfaces)).run.value =
      .ok (lateInterfaces.definitions.filterMap Definition.given?) := rfl
  have sorted : lateInterfaces.SortsApart := by decide
  obtain ⟨model, value, conform⟩ := typeModel_classes_conform {} collected sorted
  have merged : (merge (lateInterfaces.definitions.filterMap Definition.given?)).value = model :=
    Except.ok.inj value
  have inherits {item : Item} {name : CodeText} {bases : List String} {properties : List Property}
      (member : item ∈ model)
      (rendered : item.declaration? {} = some (.classType name bases properties))
      (named : "Node" ∈ bases) :
      ∃ own ∈ properties, own.name = Member.property "id" := by
    obtain ⟨_, declared, _, _, names, all⟩ :=
      conform item member name bases properties rendered "Node" named _ rfl
    have declares : Member.property "id" ∈ declared.map Property.name := by
      rw [names]
      exact List.mem_singleton_self _
    obtain ⟨property, inDeclared, sameName⟩ := List.mem_map.1 declares
    rw [← sameName]
    exact all property inDeclared
  have atTeam : model[0]? = some
      { name := "Team", kind := .object, interfaces := ["Node"],
        fields := [{ name := "id", shape := some (.leaf true "ID") },
          { name := "size", shape := some (.leaf false "Int") }] } := by
    rw [← merged]
    decide
  have atUser : model[2]? = some
      { name := "User", kind := .object, interfaces := ["Named", "Node"],
        fields := [{ name := "mail", shape := some (.leaf false "String") },
          { name := "name", shape := some (.leaf false "String") },
          { name := "id", shape := some (.leaf true "ID") }] } := by
    rw [← merged]
    decide
  exact ⟨sorted, model, value, _, _, atTeam, atUser, rfl, rfl,
    inherits (List.mem_of_getElem? atTeam) rfl (by decide),
    inherits (List.mem_of_getElem? atUser) rfl (by decide)⟩

end SchemaDecl
