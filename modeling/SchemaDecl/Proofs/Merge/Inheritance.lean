import SchemaDecl.Proofs.Merge.Union

/-!
# What objects inherit

Whatever brought an interface to an object, its own definition, an extension folded before or after
the object's visit, or a promoted extension, the object ends with the fields of the interface.
Where an extension without shapes shares its name only with items that implement nothing, all fields
of an object that implements something have shapes.
-/

namespace SchemaDecl

namespace Merge

theorem present_inherited {items : List Item} {names : List String} {name : String}
    {interface : Item} {field : Field}
    (implemented : name ∈ names)
    (declared : interface? items name = some interface)
    (member : field ∈ interface.fields) :
    Field.present (inherited items names) field.name = true :=
  Field.present_of_mem ((mem_inherited_iff items names field).2
    ⟨name, implemented, interface, declared, member⟩)

/-- A merged object has the fields of every interface it implements. -/
theorem hasField_of_implemented {items : List Item} {position : Nat} {item : Item}
    {name : String} {interface : Item} {field : Field}
    (here : items[position]? = some item)
    (kind : (mergedItem items position item).kind = .object)
    (implemented : name ∈ (mergedItem items position item).interfaces)
    (declared : interface? items name = some interface)
    (member : field ∈ interface.fields) :
    (mergedItem items position item).hasField field.name = true := by
  have own (names : List String) (named : name ∈ names) :
      Field.present (inherited items names) field.name = true :=
    present_inherited named declared member
  have folded (part : List Item)
      (named : name ∈ (extensionsOf part item.name).flatMap Item.interfaces) :
      Field.present (contributed items (extensionsOf part item.name)) field.name = true :=
    present_contributed_of_inherited (fun _ => kind_of_mem_extensionsOf) (own _ named)
  rw [kind_mergedItem] at kind
  unfold mergedItem at implemented ⊢
  by_cases isBase : base? items item.name = some position
  · rw [if_pos isBase] at implemented ⊢
    simp only [List.flatMap_append, List.mem_append] at implemented
    cases itemKind : item.kind with
    | object =>
        simp only [Item.hasField, Field.present_appendMissing, Field.present_append,
          Bool.or_eq_true]
        -- Interfaces known at the visit are inherited then; later ones come with their extension.
        rcases implemented with known | before | after
        · exact Or.inr (Or.inl (Or.inr (own _ (List.mem_append_left _ known))))
        · exact Or.inr (Or.inl (Or.inl (folded _ before)))
        · exact Or.inr (Or.inr (folded _ after))
    | extension =>
        rw [extensionsOf_take_base here itemKind isBase] at implemented
        simp only [Item.hasField, Field.present_appendMissing, Field.present_append,
          Bool.or_eq_true]
        rcases implemented with known | before | after
        · exact Or.inr (Or.inl (own _ known))
        · cases before
        · exact Or.inr (Or.inr (folded _ after))
    | enum => simp [itemKind] at kind
    | interface => simp [itemKind] at kind
  · rw [if_neg isBase] at implemented ⊢
    rw [if_neg fun all => isBase all.2] at kind
    simp only [kind] at implemented ⊢
    simp only [Item.hasField, Field.present_appendMissing, Bool.or_eq_true]
    exact Or.inr (own _ implemented)

/-! ## Shapes -/

/-- Whether all fields of an item have shapes. -/
def Shaped (item : Item) : Prop :=
  ∀ field ∈ item.fields, field.shape.isSome

/-- Objects and interfaces have shapes, and an extension without shapes shares its name only with
items that implement nothing. -/
structure WellShaped (items : List Item) : Prop where
  objects : ∀ item ∈ items, item.kind = .object → Shaped item
  interfaces : ∀ item ∈ items, item.kind = .interface → Shaped item
  extensions : ∀ extension ∈ items, extension.kind = .extension →
    Shaped extension ∨ ∀ other ∈ items, other.name = extension.name → other.interfaces = []

theorem WellShaped.inherited {items : List Item} {names : List String} {field : Field}
    (shaped : WellShaped items)
    (member : field ∈ inherited items names) :
    field.shape.isSome := by
  obtain ⟨name, _, interface, declared, inFields⟩ := (mem_inherited_iff items names field).1 member
  have inItems := List.mem_of_find?_eq_some declared
  have holds := List.find?_some declared
  simp only [Bool.and_eq_true, beq_iff_eq] at holds
  exact shaped.interfaces interface inItems holds.1 field inFields

theorem WellShaped.contributed {items extensions : List Item} {field : Field}
    (shaped : WellShaped items)
    (all : ∀ extension ∈ extensions, Shaped extension)
    (member : field ∈ contributed items extensions) :
    field.shape.isSome := by
  obtain ⟨extension, inside, inFields⟩ := List.mem_flatMap.1 member
  rcases Field.mem_of_mem_appendMissing inFields with own | passed
  · exact all extension inside field own
  · exact shaped.inherited passed

/-- The extensions that a base absorbs are extensions of its name. -/
theorem mem_absorbed {items : List Item} {position : Nat} {name : String} {extension : Item}
    (member : extension ∈ extensionsOf (items.take position) name ++
      extensionsOf (items.drop (position + 1)) name) :
    extension ∈ items ∧ extension.name = name ∧ extension.kind = .extension := by
  rcases List.mem_append.1 member with before | after
  · obtain ⟨inPart, amends⟩ := List.mem_filter.1 before
    exact ⟨List.mem_of_mem_take inPart, (Item.amends_iff name extension).1 amends⟩
  · obtain ⟨inPart, amends⟩ := List.mem_filter.1 after
    exact ⟨List.mem_of_mem_drop inPart, (Item.amends_iff name extension).1 amends⟩

/-- Every interface of a merged item was implemented by an item of its name. -/
theorem exists_implementing {items : List Item} {position : Nat} {item : Item} {name : String}
    (here : items[position]? = some item)
    (implemented : name ∈ (mergedItem items position item).interfaces) :
    ∃ other ∈ items, other.name = item.name ∧ name ∈ other.interfaces := by
  have member := List.mem_of_getElem? here
  unfold mergedItem at implemented
  split at implemented
  · rcases List.mem_append.1 implemented with own | taken
    · exact ⟨item, member, rfl, own⟩
    · obtain ⟨extension, absorbed, inside⟩ := List.mem_flatMap.1 taken
      obtain ⟨inItems, sameName, _⟩ := mem_absorbed absorbed
      exact ⟨extension, inItems, sameName, inside⟩
  · split at implemented <;> exact ⟨item, member, rfl, implemented⟩

theorem mem_contributed_append {items before after : List Item} {field : Field} :
    field ∈ contributed items (before ++ after) ↔
      field ∈ contributed items before ∨ field ∈ contributed items after := by
  rw [contributed, List.flatMap_append, List.mem_append]
  rfl

/-- Every field of a merged item is its own, inherited, or contributed by an extension it absorbs.
-/
theorem mem_fields_mergedItem {items : List Item} {position : Nat} {item : Item} {field : Field}
    (inFields : field ∈ (mergedItem items position item).fields) :
    field ∈ item.fields ∨ (∃ names, field ∈ inherited items names) ∨
      field ∈ contributed items (extensionsOf (items.take position) item.name ++
        extensionsOf (items.drop (position + 1)) item.name) := by
  rw [mem_contributed_append]
  unfold mergedItem at inFields
  split at inFields
  · rcases Field.mem_of_mem_appendMissing inFields with own | gained
    · exact Or.inl own
    · refine Or.inr ?_
      split at gained
      · rw [List.mem_append, List.mem_append] at gained
        rcases gained with (before | passed) | after
        · exact Or.inr (Or.inl before)
        · exact Or.inl ⟨_, passed⟩
        · exact Or.inr (Or.inr after)
      · rcases List.mem_append.1 gained with passed | after
        · exact Or.inl ⟨_, passed⟩
        · exact Or.inr (Or.inr after)
      · exact Or.inr (List.mem_append.1 gained)
      · cases gained
  · split at inFields
    · exact (Field.mem_of_mem_appendMissing inFields).imp_right fun passed => Or.inl ⟨_, passed⟩
    · exact (Field.mem_of_mem_appendMissing inFields).imp_right fun passed => Or.inl ⟨_, passed⟩
    · exact Or.inl inFields
    · exact Or.inl inFields

/-- A merged object that implements an interface has shapes. -/
theorem WellShaped.mergedItem {items : List Item} {position : Nat} {item : Item} {name : String}
    (shaped : WellShaped items)
    (here : items[position]? = some item)
    (kind : (mergedItem items position item).kind = .object)
    (implemented : name ∈ (mergedItem items position item).interfaces) :
    Shaped (mergedItem items position item) := by
  have member := List.mem_of_getElem? here
  obtain ⟨source, sourceMember, sameName, named⟩ := exists_implementing here implemented
  -- An extension without shapes would rule out the implementing item.
  have extensionShaped (extension : Item) (inItems : extension ∈ items)
      (extends' : extension.name = item.name) (isExtension : extension.kind = .extension) :
      Shaped extension := by
    rcases shaped.extensions extension inItems isExtension with shapes | bare
    · exact shapes
    · rw [bare source sourceMember (sameName.trans extends'.symm)] at named
      cases named
  have itemShaped : Shaped item := by
    rw [kind_mergedItem] at kind
    by_cases isExtension : item.kind = .extension
    · exact extensionShaped item member rfl isExtension
    · rw [if_neg fun all => isExtension all.1] at kind
      exact shaped.objects item member kind
  intro field inFields
  rcases mem_fields_mergedItem inFields with own | ⟨names, passed⟩ | given
  · exact itemShaped field own
  · exact shaped.inherited passed
  · refine shaped.contributed ?_ given
    intro extension absorbed
    obtain ⟨inItems, sameName, isExtension⟩ := mem_absorbed absorbed
    exact extensionShaped extension inItems sameName isExtension

end Merge

end SchemaDecl
