import SchemaDecl.Proofs.Merge.ClosedForm

/-!
# Bases as unions

Where the items that are no extensions have different names, the base of a name ends as the union of
all items of the name: their field names and those they inherit, their tags and their interfaces.
`Gathers` says so without mention of positions, so it holds of every order of the items.
-/

namespace SchemaDecl

namespace Merge

/-- The items that are no extensions have different names. -/
def Distinct (items : List Item) : Prop :=
  items.Pairwise fun left right =>
    left.kind ≠ .extension → right.kind ≠ .extension → left.name ≠ right.name

theorem Distinct.perm {left right : List Item}
    (distinct : Distinct left)
    (perm : left.Perm right) :
    Distinct right := by
  refine (perm.pairwise_iff ?_).1 distinct
  intro first second apart secondKind firstKind
  exact (apart firstKind secondKind).symm

/-- Two positions that define one name are the same. -/
theorem Distinct.position_eq {items : List Item} {name : String} {left right : Nat}
    {first second : Item}
    (distinct : Distinct items)
    (atLeft : items[left]? = some first)
    (atRight : items[right]? = some second)
    (firstDefines : first.defines name = true)
    (secondDefines : second.defines name = true) :
    left = right := by
  obtain ⟨leftBound, firstEqual⟩ := List.getElem?_eq_some_iff.1 atLeft
  obtain ⟨rightBound, secondEqual⟩ := List.getElem?_eq_some_iff.1 atRight
  have apart := List.pairwise_iff_getElem.1 distinct
  obtain ⟨firstName, firstKind⟩ := (Item.defines_iff name first).1 firstDefines
  obtain ⟨secondName, secondKind⟩ := (Item.defines_iff name second).1 secondDefines
  rcases Nat.lt_trichotomy left right with before | equal | after
  · have different := apart left right leftBound rightBound before
    rw [firstEqual, secondEqual] at different
    exact absurd (firstName.trans secondName.symm) (different firstKind secondKind)
  · exact equal
  · have different := apart right left rightBound leftBound after
    rw [firstEqual, secondEqual] at different
    exact absurd (secondName.trans firstName.symm) (different secondKind firstKind)

/-- Two items that define one name are the same. -/
theorem Distinct.eq_of_mem {items : List Item} {name : String} {first second : Item}
    (distinct : Distinct items)
    (firstMember : first ∈ items)
    (secondMember : second ∈ items)
    (firstDefines : first.defines name = true)
    (secondDefines : second.defines name = true) :
    first = second := by
  obtain ⟨left, atLeft⟩ := List.mem_iff_getElem?.1 firstMember
  obtain ⟨right, atRight⟩ := List.mem_iff_getElem?.1 secondMember
  have same := distinct.position_eq atLeft atRight firstDefines secondDefines
  subst same
  rw [atLeft, Option.some_inj] at atRight
  exact atRight

/-- All items of a name but its base are extensions. -/
theorem Distinct.extension_of_ne_base {items : List Item} {base position : Nat}
    {first item : Item}
    (distinct : Distinct items)
    (here : items[base]? = some first)
    (isBase : base? items first.name = some base)
    (there : items[position]? = some item)
    (other : position ≠ base)
    (sameName : item.name = first.name) :
    item.kind = .extension := by
  by_contra kind
  have defines := (Item.defines_iff first.name item).2 ⟨sameName, kind⟩
  by_cases firstKind : first.kind = .extension
  · have onlyExtensions := ((base?_eq_some_iff_orphan here firstKind).1 isBase).1
    exact kind (onlyExtensions item (List.mem_of_getElem? there) sameName)
  · exact other (distinct.position_eq there here defines
      ((Item.defines_iff first.name first).2 ⟨rfl, firstKind⟩))

/-- The items of a name are its base between the extensions before and after it. -/
theorem Distinct.filter_name_eq {items : List Item} {position : Nat} {item : Item}
    (distinct : Distinct items)
    (here : items[position]? = some item)
    (isBase : base? items item.name = some position) :
    items.filter (fun other => other.name == item.name) =
      extensionsOf (items.take position) item.name ++
        item :: extensionsOf (items.drop (position + 1)) item.name := by
  obtain ⟨bound, atPosition⟩ := List.getElem?_eq_some_iff.1 here
  have split : items.take position ++ item :: items.drop (position + 1) = items := by
    rw [← atPosition, ← List.drop_eq_getElem_cons bound, List.take_append_drop]
  have asExtension {other : Item} {place : Nat} (there : items[place]? = some other)
      (apart : place ≠ position) :
      (other.name == item.name) = other.amends item.name := by
    by_cases sameName : other.name = item.name
    · have kind := distinct.extension_of_ne_base here isBase there apart sameName
      simp [Item.amends, sameName, kind]
    · simp [Item.amends, sameName]
  have front : (items.take position).filter (fun other => other.name == item.name) =
      extensionsOf (items.take position) item.name := by
    apply List.filter_congr
    intro other member
    obtain ⟨place, atPlace⟩ := List.mem_iff_getElem?.1 member
    have before := (List.getElem?_eq_some_iff.1 atPlace).1
    rw [List.length_take] at before
    rw [List.getElem?_take_of_lt (by omega)] at atPlace
    exact asExtension atPlace (by omega)
  have back : (items.drop (position + 1)).filter (fun other => other.name == item.name) =
      extensionsOf (items.drop (position + 1)) item.name := by
    apply List.filter_congr
    intro other member
    obtain ⟨place, atPlace⟩ := List.mem_iff_getElem?.1 member
    rw [List.getElem?_drop] at atPlace
    exact asExtension atPlace (by omega)
  calc
    items.filter (fun other => other.name == item.name) =
        (items.take position ++ item :: items.drop (position + 1)).filter
          (fun other => other.name == item.name) := by rw [split]
    _ = extensionsOf (items.take position) item.name ++
          item :: extensionsOf (items.drop (position + 1)) item.name := by
      rw [List.filter_append, List.filter_cons_of_pos (by simp), front, back]

theorem Distinct.mem_and_name_iff {items : List Item} {position : Nat} {item : Item}
    (distinct : Distinct items)
    (here : items[position]? = some item)
    (isBase : base? items item.name = some position)
    (other : Item) :
    other ∈ items ∧ other.name = item.name ↔
      other = item ∨
        other ∈ extensionsOf (items.take position) item.name ∨
          other ∈ extensionsOf (items.drop (position + 1)) item.name := by
  have members := congrArg (other ∈ ·) (distinct.filter_name_eq here isBase)
  simp only [List.mem_filter, beq_iff_eq, List.mem_append, List.mem_cons, eq_iff_iff] at members
  rw [members]
  exact or_left_comm

/-! ## What an item passes on -/

/-- An item has a field or inherits it. -/
def Receives (items : List Item) (item : Item) (field : String) : Prop :=
  item.hasField field = true ∨
    (item.kind = .object ∨ item.kind = .extension) ∧
      Field.present (inherited items item.interfaces) field = true

theorem present_flatMap {α : Type} (elements : List α) (fields : α → List Field) (name : String) :
    Field.present (elements.flatMap fields) name = true ↔
      ∃ element ∈ elements, Field.present (fields element) name = true := by
  simp only [Field.present_iff, List.mem_flatMap]
  constructor
  · rintro ⟨field, ⟨element, member, inFields⟩, sameName⟩
    exact ⟨element, member, field, inFields, sameName⟩
  · rintro ⟨element, member, field, inFields, sameName⟩
    exact ⟨field, ⟨element, member, inFields⟩, sameName⟩

theorem receives_extension {items : List Item} {extension : Item}
    (kind : extension.kind = .extension)
    (field : String) :
    Field.present (Field.appendMissing extension.fields
        (inherited items extension.interfaces)) field = true ↔
      Receives items extension field := by
  rw [Field.present_appendMissing, Bool.or_eq_true, Receives, kind]
  simp [Item.hasField]

/-- Extensions contribute what each of them receives. -/
theorem present_contributed {items extensions : List Item}
    (kinds : ∀ extension ∈ extensions, extension.kind = .extension)
    (field : String) :
    Field.present (contributed items extensions) field = true ↔
      ∃ extension ∈ extensions, Receives items extension field := by
  rw [contributed, present_flatMap]
  constructor
  · rintro ⟨extension, member, present⟩
    exact ⟨extension, member, (receives_extension (kinds extension member) field).1 present⟩
  · rintro ⟨extension, member, receives⟩
    exact ⟨extension, member, (receives_extension (kinds extension member) field).2 receives⟩

/-- What extensions inherit is part of what they contribute. -/
theorem present_contributed_of_inherited {items extensions : List Item} {field : String}
    (kinds : ∀ extension ∈ extensions, extension.kind = .extension)
    (present : Field.present (inherited items (extensions.flatMap Item.interfaces)) field = true) :
    Field.present (contributed items extensions) field = true := by
  rw [inherited, List.flatMap_assoc, present_flatMap] at present
  obtain ⟨extension, member, inherits⟩ := present
  exact (present_contributed kinds field).2
    ⟨extension, member, Or.inr ⟨Or.inr (kinds extension member), inherits⟩⟩

theorem kind_of_mem_extensionsOf {items : List Item} {name : String} {extension : Item}
    (member : extension ∈ extensionsOf items name) :
    extension.kind = .extension :=
  ((Item.amends_iff name extension).1 (List.mem_filter.1 member).2).2

/-- The fields of a merged base come from the items of its name. -/
theorem hasField_mergedItem {items : List Item} {position : Nat} {item : Item}
    (separate : Separate items)
    (distinct : Distinct items)
    (here : items[position]? = some item)
    (isBase : base? items item.name = some position)
    (field : String) :
    (mergedItem items position item).hasField field = true ↔
      ∃ other ∈ items, other.name = item.name ∧ Receives items other field := by
  have frontKinds : ∀ extension ∈ extensionsOf (items.take position) item.name,
      extension.kind = .extension := fun _ => kind_of_mem_extensionsOf
  have backKinds : ∀ extension ∈ extensionsOf (items.drop (position + 1)) item.name,
      extension.kind = .extension := fun _ => kind_of_mem_extensionsOf
  have named : (∃ other ∈ items, other.name = item.name ∧ Receives items other field) ↔
      Receives items item field ∨
        (∃ other ∈ extensionsOf (items.take position) item.name, Receives items other field) ∨
          ∃ other ∈ extensionsOf (items.drop (position + 1)) item.name,
            Receives items other field := by
    simp only [← and_assoc, distinct.mem_and_name_iff here isBase, or_and_right, exists_or,
      exists_eq_left]
  rw [named, ← present_contributed frontKinds, ← present_contributed backKinds, Item.hasField,
    mergedItem, if_pos isBase]
  cases kind : item.kind with
  | object =>
      -- What the extensions before the base inherit has come with them already.
      have repeated : Field.present (inherited items
            ((extensionsOf (items.take position) item.name).flatMap Item.interfaces)) field = true →
          Field.present (contributed items (extensionsOf (items.take position) item.name)) field =
            true := present_contributed_of_inherited frontKinds
      simp only [Field.present_appendMissing, Field.present_append, inherited_append,
        Bool.or_eq_true, Receives, kind, Item.hasField, true_or, true_and]
      grind
  | enum =>
      simp only [Field.present_appendMissing, Field.present_append, Bool.or_eq_true, Receives,
        kind, Item.hasField, reduceCtorEq, or_self, false_and, or_false]
  | extension =>
      rw [extensionsOf_take_base here kind isBase]
      simp only [Field.present_appendMissing, Field.present_append, Bool.or_eq_true, Receives,
        kind, Item.hasField, or_true, true_and, contributed, List.flatMap_nil,
        Field.present_nil, Bool.false_eq_true, false_or]
      grind
  | interface =>
      have member := List.mem_of_getElem? here
      rw [extensionsOf_interface separate member kind fun other => List.mem_of_mem_take,
        extensionsOf_interface separate member kind fun other => List.mem_of_mem_drop]
      simp [Receives, kind, Item.hasField, contributed]

/-! ## The union -/

/-- What the base of a name is after merging, whatever the order of the items. -/
structure Gathers (items : List Item) (name : String) (merged : Item) : Prop where
  kind :
    (∃ item ∈ items, item.defines name = true ∧ merged.kind = item.kind) ∨
      (∀ item ∈ items, item.name = name → item.kind = .extension) ∧ merged.kind = .object
  fields : ∀ field, merged.hasField field = true ↔
    ∃ item ∈ items, item.name = name ∧ Receives items item field
  tags : ∀ tag, tag ∈ merged.tags ↔ ∃ item ∈ items, item.name = name ∧ tag ∈ item.tags
  interfaces : merged.interfaces.Perm
    ((items.filter fun item => item.name == name).flatMap Item.interfaces)

/-- The base of a name gathers the items of the name. -/
theorem gathers_mergedItem {items : List Item} {position : Nat} {item : Item}
    (separate : Separate items)
    (distinct : Distinct items)
    (here : items[position]? = some item)
    (isBase : base? items item.name = some position) :
    Gathers items item.name (mergedItem items position item) where
  kind := by
    rw [mergedItem, if_pos isBase]
    by_cases kind : item.kind = .extension
    · rw [if_pos kind]
      exact Or.inr ⟨((base?_eq_some_iff_orphan here kind).1 isBase).1, rfl⟩
    · rw [if_neg kind]
      exact Or.inl ⟨item, List.mem_of_getElem? here, (Item.defines_iff _ _).2 ⟨rfl, kind⟩, rfl⟩
  fields := hasField_mergedItem separate distinct here isBase
  tags := by
    intro tag
    rw [mergedItem, if_pos isBase, Item.mem_foldl_withTag, List.mem_flatMap]
    simp only [← and_assoc, distinct.mem_and_name_iff here isBase, or_and_right, exists_or,
      exists_eq_left, List.mem_append]
  interfaces := by
    rw [distinct.filter_name_eq here isBase, mergedItem, if_pos isBase]
    exact (List.perm_middle.symm.flatMap_right Item.interfaces)

/-- Interfaces are found in any order of the items. -/
theorem interface?_perm {left right : List Item}
    (distinct : Distinct left)
    (perm : left.Perm right)
    (name : String) :
    interface? left name = interface? right name := by
  let test : Item → Bool := fun item => item.kind == .interface && item.name == name
  have defines {item : Item} (holds : test item = true) : item.defines name = true := by
    simp only [test, Bool.and_eq_true, beq_iff_eq] at holds
    rw [Item.defines_iff, holds.1]
    exact ⟨holds.2, by decide⟩
  change left.find? test = right.find? test
  cases found : left.find? test with
  | none =>
      rw [List.find?_eq_none] at found
      symm
      rw [List.find?_eq_none]
      exact fun item member => found item (perm.mem_iff.2 member)
  | some item =>
      have holds := List.find?_some found
      have member := perm.mem_iff.1 (List.mem_of_find?_eq_some found)
      obtain ⟨other, search⟩ :=
        Option.isSome_iff_exists.1 (List.find?_isSome.2 ⟨item, member, holds⟩)
      have same : other = item :=
        (distinct.perm perm).eq_of_mem (List.mem_of_find?_eq_some search) member
          (defines (List.find?_some search)) (defines holds)
      rw [search, same]

theorem receives_perm {left right : List Item}
    (distinct : Distinct left)
    (perm : left.Perm right)
    (item : Item)
    (field : String) :
    Receives left item field ↔ Receives right item field := by
  have sameInherited : inherited left item.interfaces = inherited right item.interfaces := by
    simp only [inherited, interface?_perm distinct perm]
  rw [Receives, Receives, sameInherited]

/-- What gathers the items of a name gathers them in any order. -/
theorem Gathers.perm {left right : List Item} {name : String} {merged : Item}
    (gathers : Gathers left name merged)
    (distinct : Distinct left)
    (perm : left.Perm right) :
    Gathers right name merged where
  kind := by
    simpa only [perm.mem_iff] using gathers.kind
  fields := by
    intro field
    rw [gathers.fields]
    simp only [perm.mem_iff, receives_perm distinct perm]
  tags := by
    intro tag
    rw [gathers.tags]
    simp only [perm.mem_iff]
  interfaces :=
    gathers.interfaces.trans ((perm.filter _).flatMap_right Item.interfaces)

/-- The union of the items of a name is unique but for the order of fields, tags and interfaces. -/
theorem Gathers.agree {items : List Item} {name : String} {first second : Item}
    (left : Gathers items name first)
    (right : Gathers items name second)
    (distinct : Distinct items) :
    first.kind = second.kind ∧
      (∀ field, first.hasField field = second.hasField field) ∧
      (∀ tag, tag ∈ first.tags ↔ tag ∈ second.tags) ∧
      first.interfaces.Perm second.interfaces := by
  refine ⟨?_, ?_, ?_, left.interfaces.trans right.interfaces.symm⟩
  · rcases left.kind with ⟨item, member, defines, leftKind⟩ | ⟨onlyExtensions, leftKind⟩
    · rcases right.kind with ⟨other, otherMember, otherDefines, rightKind⟩ | ⟨onlyExtensions, _⟩
      · have same := distinct.eq_of_mem member otherMember defines otherDefines
        rw [leftKind, rightKind, same]
      · obtain ⟨sameName, kind⟩ := (Item.defines_iff name item).1 defines
        exact absurd (onlyExtensions item member sameName) kind
    · rcases right.kind with ⟨other, otherMember, otherDefines, _⟩ | ⟨_, rightKind⟩
      · obtain ⟨sameName, kind⟩ := (Item.defines_iff name other).1 otherDefines
        exact absurd (onlyExtensions other otherMember sameName) kind
      · rw [leftKind, rightKind]
  · intro field
    rw [Bool.eq_iff_iff, left.fields, right.fields]
  · intro tag
    rw [left.tags, right.tags]

/-! ## The one item that is no extension -/

/-- A list that passes a test at one position only. -/
theorem filter_eq_singleton {α : Type} {elements : List α} {test : α → Bool} {position : Nat}
    {element : α}
    (here : elements[position]? = some element)
    (only : ∀ place other, elements[place]? = some other →
      (test other = true ↔ place = position)) :
    elements.filter test = [element] := by
  obtain ⟨bound, atPosition⟩ := List.getElem?_eq_some_iff.1 here
  have front : (elements.take position).filter test = [] := by
    rw [List.filter_eq_nil_iff]
    intro other member holds
    obtain ⟨place, atPlace⟩ := List.mem_iff_getElem?.1 member
    have before := (List.getElem?_eq_some_iff.1 atPlace).1
    rw [List.length_take] at before
    rw [List.getElem?_take_of_lt (by omega)] at atPlace
    have same := (only place other atPlace).1 holds
    omega
  have back : (elements.drop (position + 1)).filter test = [] := by
    rw [List.filter_eq_nil_iff]
    intro other member holds
    obtain ⟨place, atPlace⟩ := List.mem_iff_getElem?.1 member
    rw [List.getElem?_drop] at atPlace
    have same := (only (position + 1 + place) other atPlace).1 holds
    omega
  calc
    elements.filter test =
        (elements.take position ++ element :: elements.drop (position + 1)).filter test := by
      rw [← atPosition, ← List.drop_eq_getElem_cons bound, List.take_append_drop]
    _ = [element] := by
      rw [List.filter_append, List.filter_cons_of_pos ((only position element here).2 rfl),
        front, back, List.nil_append]

theorem name_mergedItem (items : List Item) (position : Nat) (item : Item) :
    (mergedItem items position item).name = item.name := by
  unfold mergedItem
  split
  · rfl
  · split <;> rfl

theorem kind_mergedItem (items : List Item) (position : Nat) (item : Item) :
    (mergedItem items position item).kind =
      if item.kind = .extension ∧ base? items item.name = some position then .object
      else item.kind := by
  unfold mergedItem
  by_cases isBase : base? items item.name = some position
  · simp [isBase]
  · rw [if_neg isBase, if_neg fun all => isBase all.2]
    split <;> rfl

/-- After merging, the base of a name is its only item that is no extension. -/
theorem filter_defines_merge {items : List Item} {position : Nat} {item : Item}
    (separate : Separate items)
    (distinct : Distinct items)
    (here : items[position]? = some item)
    (isBase : base? items item.name = some position) :
    (merge items).value.filter (Item.defines item.name) = [mergedItem items position item] := by
  apply filter_eq_singleton
  · rw [getElem?_merge separate, here, Option.map_some]
  · intro place merged atPlace
    rw [getElem?_merge separate, Option.map_eq_some_iff] at atPlace
    obtain ⟨other, there, rfl⟩ := atPlace
    rw [Item.defines_iff, name_mergedItem, kind_mergedItem]
    constructor
    · rintro ⟨sameName, kind⟩
      by_contra elsewhere
      have isExtension :=
        distinct.extension_of_ne_base here isBase there elsewhere sameName
      rw [if_neg, isExtension] at kind
      · exact kind rfl
      · rintro ⟨_, otherBase⟩
        rw [sameName, isBase, Option.some_inj] at otherBase
        exact elsewhere otherBase.symm
    · rintro rfl
      rw [here, Option.some_inj] at there
      subst there
      refine ⟨rfl, ?_⟩
      by_cases kind : item.kind = .extension
      · rw [if_pos ⟨kind, isBase⟩]
        decide
      · rw [if_neg fun all => kind all.1]
        exact kind

end Merge

end SchemaDecl
