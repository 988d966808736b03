import Mathlib.Data.List.Basic
import SchemaDecl.Proofs.Merge.Visit

/-!
# Bases

The base of a name is its first item that is no extension or, without such an item, its first
extension.  Visits never change which item that is: before its own visit a base that is an extension
is an orphan, afterwards it is an object that absorbs the extensions behind it.  `Standing` relates
an item to what it is after a number of visits, whatever the items are.
-/

namespace SchemaDecl

namespace Item

/-- Whether an item has a name and is no extension. -/
def defines (name : String) (item : Item) : Bool :=
  item.name == name && item.kind != .extension

/-- Whether an item is an extension of a name. -/
def amends (name : String) (item : Item) : Bool :=
  item.name == name && item.kind == .extension

theorem defines_iff (name : String) (item : Item) :
    item.defines name = true ↔ item.name = name ∧ item.kind ≠ .extension := by
  simp [defines]

theorem amends_iff (name : String) (item : Item) :
    item.amends name = true ↔ item.name = name ∧ item.kind = .extension := by
  simp [amends]

end Item

namespace Merge

/-- The position of the base of a name: the first item of the name that is no extension or, if there
is none, the first extension of the name. -/
def base? (items : List Item) (name : String) : Option Nat :=
  (items.findIdx? (Item.defines name)).or (items.findIdx? (Item.amends name))

/-- A search finds the first position that passes the test. -/
theorem findIdx?_eq_some_iff_first {α : Type} (elements : List α) (test : α → Bool)
    (position : Nat) :
    elements.findIdx? test = some position ↔
      (∃ element, elements[position]? = some element ∧ test element = true) ∧
        ∀ earlier < position, ∀ element, elements[earlier]? = some element →
          test element = false := by
  rw [List.findIdx?_eq_some_iff_getElem]
  constructor
  · rintro ⟨bound, holds, first⟩
    refine ⟨⟨elements[position], List.getElem?_eq_getElem bound, holds⟩, ?_⟩
    intro earlier before element here
    obtain ⟨_, equal⟩ := List.getElem?_eq_some_iff.1 here
    rw [← equal]
    simpa using first earlier before
  · rintro ⟨⟨element, here, holds⟩, first⟩
    obtain ⟨bound, equal⟩ := List.getElem?_eq_some_iff.1 here
    refine ⟨bound, equal ▸ holds, ?_⟩
    intro earlier before
    have earlierBound : earlier < elements.length := Nat.lt_trans before bound
    simp [first earlier before elements[earlier] (List.getElem?_eq_getElem earlierBound)]

theorem exists_of_findIdx? {α : Type} {elements : List α} {test : α → Bool} {position : Nat}
    (found : elements.findIdx? test = some position) :
    ∃ element, elements[position]? = some element :=
  ((findIdx?_eq_some_iff_first elements test position).1 found).1.imp fun _ element => element.1

/-- What a search finds passes the test. -/
theorem holds_of_findIdx? {α : Type} {elements : List α} {test : α → Bool} {position : Nat}
    {element : α}
    (found : elements.findIdx? test = some position)
    (here : elements[position]? = some element) :
    test element = true := by
  obtain ⟨⟨first, atPosition, holds⟩, _⟩ :=
    (findIdx?_eq_some_iff_first elements test position).1 found
  rw [here, Option.some_inj] at atPosition
  exact atPosition ▸ holds

/-- The base of an extension is looked up by its name. -/
theorem baseIndex?_extension (items : List Item) {extension : Item}
    (kind : extension.kind = .extension) :
    baseIndex? items extension = items.findIdx? (Item.defines extension.name) := by
  unfold baseIndex? Item.defines
  rw [kind]

/-- A name has a base exactly when an item has it. -/
theorem exists_base? {items : List Item} {item : Item} (member : item ∈ items) :
    ∃ base, base? items item.name = some base := by
  apply Option.isSome_iff_exists.1
  rw [base?, Option.isSome_or, List.findIdx?_isSome, List.findIdx?_isSome, Bool.or_eq_true,
    List.any_eq_true, List.any_eq_true]
  by_cases kind : item.kind = .extension
  · exact Or.inr ⟨item, member, (Item.amends_iff item.name item).2 ⟨rfl, kind⟩⟩
  · exact Or.inl ⟨item, member, (Item.defines_iff item.name item).2 ⟨rfl, kind⟩⟩

/-- The two ways in which an item is the base of a name. -/
theorem base?_cases {items : List Item} {name : String} {base : Nat}
    (found : base? items name = some base) :
    items.findIdx? (Item.defines name) = some base ∨
      items.findIdx? (Item.defines name) = none ∧
        items.findIdx? (Item.amends name) = some base := by
  unfold base? at found
  cases defined : items.findIdx? (Item.defines name) with
  | none =>
      rw [defined, Option.none_or] at found
      exact Or.inr ⟨rfl, found⟩
  | some first =>
      rw [defined, Option.some_or] at found
      exact Or.inl found

theorem name_of_base? {items : List Item} {name : String} {base : Nat} {item : Item}
    (found : base? items name = some base)
    (here : items[base]? = some item) :
    item.name = name := by
  rcases base?_cases found with defined | ⟨_, amended⟩
  · exact ((Item.defines_iff name item).1 (holds_of_findIdx? defined here)).1
  · exact ((Item.amends_iff name item).1 (holds_of_findIdx? amended here)).1

/-- A base is the position of an item. -/
theorem exists_getElem?_of_base? {items : List Item} {name : String} {base : Nat}
    (found : base? items name = some base) :
    ∃ first, items[base]? = some first := by
  rcases base?_cases found with defined | ⟨_, amended⟩
  · exact exists_of_findIdx? defined
  · exact exists_of_findIdx? amended

/-- Every item has the name of an item that is the base of the name. -/
theorem exists_base_item {items : List Item} {item : Item} (member : item ∈ items) :
    ∃ (base : Nat) (first : Item), base? items item.name = some base ∧
      items[base]? = some first ∧ first.name = item.name := by
  obtain ⟨base, found⟩ := exists_base? member
  obtain ⟨first, atBase⟩ := exists_getElem?_of_base? found
  exact ⟨base, first, found, atBase, name_of_base? found atBase⟩

/-- An extension is the base of its name exactly when a search finds no other item of the name and
finds the extension first. -/
theorem base?_extension_iff_findIdx? {items : List Item} {position : Nat} {item : Item}
    (here : items[position]? = some item) :
    item.kind = .extension ∧ base? items item.name = some position ↔
      items.findIdx? (Item.defines item.name) = none ∧
        items.findIdx? (Item.amends item.name) = some position := by
  constructor
  · rintro ⟨kind, found⟩
    rcases base?_cases found with defined | orphaned
    · exact absurd kind ((Item.defines_iff _ item).1 (holds_of_findIdx? defined here)).2
    · exact orphaned
  · rintro ⟨undefined, amended⟩
    refine ⟨((Item.amends_iff _ item).1 (holds_of_findIdx? amended here)).2, ?_⟩
    rw [base?, undefined, Option.none_or, amended]

/-- An extension is the base of its name exactly when it is the first item of its name among
extensions and no other item has the name. -/
theorem base?_eq_some_iff_orphan {items : List Item} {position : Nat} {extension : Item}
    (here : items[position]? = some extension)
    (kind : extension.kind = .extension) :
    base? items extension.name = some position ↔
      (∀ item ∈ items, item.name = extension.name → item.kind = .extension) ∧
        ∀ earlier < position, ∀ item, items[earlier]? = some item →
          item.name = extension.name → item.kind ≠ .extension := by
  have searched := base?_extension_iff_findIdx? here
  rw [and_iff_right kind] at searched
  rw [searched, List.findIdx?_eq_none_iff, findIdx?_eq_some_iff_first]
  refine and_congr ?_ ?_
  · refine forall₂_congr fun item _ => ?_
    simp [Item.defines]
  · rw [and_iff_right ⟨extension, here, (Item.amends_iff _ _).2 ⟨rfl, kind⟩⟩]
    refine forall₂_congr fun earlier _ => forall₂_congr fun item _ => ?_
    simp [Item.amends]

/-! ## Kinds after a number of visits -/

/-- The kind of the item at a position after a number of visits. -/
def kindAfter (items : List Item) (count position : Nat) (item : Item) : ItemKind :=
  if item.kind = .extension ∧ base? items item.name = some position ∧ position < count then .object
  else item.kind

/-- What an item is after a number of visits.  An extension waits unchanged for its own visit. -/
structure Standing (items : List Item) (count position : Nat) (item current : Item) : Prop where
  grows : item.Grows current
  kind : current.kind = kindAfter items count position item
  waiting : item.kind = .extension → count ≤ position → current = item

/-- The items that are no extensions after a number of visits. -/
theorem Standing.defines_iff {items : List Item} {count position : Nat} {item current : Item}
    (standing : Standing items count position item current)
    (name : String) :
    current.defines name = true ↔
      item.name = name ∧
        (item.kind = .extension → base? items name = some position ∧ position < count) := by
  rw [Item.defines_iff, standing.grows.name, standing.kind, kindAfter]
  constructor
  · rintro ⟨sameName, different⟩
    refine ⟨sameName, ?_⟩
    intro isExtension
    by_contra waits
    rw [if_neg (by rw [sameName]; exact fun all => waits all.2)] at different
    exact different isExtension
  · rintro ⟨sameName, promoted⟩
    refine ⟨sameName, ?_⟩
    by_cases isExtension : item.kind = .extension
    · rw [if_pos ⟨isExtension, sameName ▸ promoted isExtension⟩]
      decide
    · rw [if_neg fun all => isExtension all.1]
      exact isExtension

section

variable {items state : List Item} {count base : Nat} {name : String} {first : Item}

/-- Where all items stand, there is nothing but these items. -/
theorem exists_origin_of_standing {position : Nat} {current : Item}
    (standing : ∀ position item, items[position]? = some item →
      ∃ current, state[position]? = some current ∧ Standing items count position item current)
    (sameLength : state.length = items.length)
    (there : state[position]? = some current) :
    ∃ item, items[position]? = some item ∧ Standing items count position item current := by
  have bound : position < items.length := sameLength ▸ (List.getElem?_eq_some_iff.1 there).1
  have here := List.getElem?_eq_getElem bound
  obtain ⟨other, atPosition, stands⟩ := standing position items[position] here
  rw [there, Option.some_inj] at atPosition
  exact ⟨items[position], here, atPosition ▸ stands⟩

/-- As long as the base of a name waits as an extension, the name has nothing but extensions. -/
theorem findIdx?_defines_of_waiting
    (origin : ∀ position current, state[position]? = some current →
      ∃ item, items[position]? = some item ∧ Standing items count position item current)
    (found : base? items name = some base)
    (here : items[base]? = some first)
    (kind : first.kind = .extension)
    (waits : count ≤ base) :
    state.findIdx? (Item.defines name) = none := by
  rw [List.findIdx?_eq_none_iff]
  intro current member
  obtain ⟨position, atPosition⟩ := List.mem_iff_getElem?.1 member
  obtain ⟨item, atItem, stands⟩ := origin position current atPosition
  by_contra holds
  rw [Bool.not_eq_false, stands.defines_iff] at holds
  have sameName := name_of_base? found here
  obtain ⟨allExtensions, _⟩ := (base?_eq_some_iff_orphan here kind).1 (sameName ▸ found)
  have isExtension : item.kind = .extension :=
    allExtensions item (List.mem_of_getElem? atItem) (holds.1.trans sameName.symm)
  obtain ⟨isBase, before⟩ := holds.2 isExtension
  rw [found, Option.some_inj] at isBase
  omega

/-- What stands before the base of a name does not define the name. -/
theorem defines_eq_false_of_lt_base {position : Nat} {item current : Item}
    (found : base? items name = some base)
    (before : position < base)
    (here : items[position]? = some item)
    (stands : Standing items count position item current) :
    current.defines name = false := by
  by_contra holds
  rw [Bool.not_eq_false, stands.defines_iff] at holds
  have isDefinition : item.kind ≠ .extension := by
    intro isExtension
    have isBase := (holds.2 isExtension).1
    rw [found, Option.some_inj] at isBase
    omega
  have defines : item.defines name = true := (Item.defines_iff _ _).2 ⟨holds.1, isDefinition⟩
  rcases base?_cases found with defined | ⟨undefined, _⟩
  · have fails := ((findIdx?_eq_some_iff_first items (Item.defines name) base).1 defined).2
      position before item here
    simp [fails] at defines
  · have fails := List.findIdx?_eq_none_iff.1 undefined item (List.mem_of_getElem? here)
    simp [fails] at defines

/-- The first item of a name that is no extension is always the base, once there is one. -/
theorem findIdx?_defines_of_standing
    (standing : ∀ position item, items[position]? = some item →
      ∃ current, state[position]? = some current ∧ Standing items count position item current)
    (sameLength : state.length = items.length)
    (found : base? items name = some base)
    (here : items[base]? = some first) :
    state.findIdx? (Item.defines name) =
      if first.kind = .extension ∧ count ≤ base then none else some base := by
  have origin : ∀ position current, state[position]? = some current →
      ∃ item, items[position]? = some item ∧ Standing items count position item current :=
    fun _ _ there => exists_origin_of_standing standing sameLength there
  by_cases waits : first.kind = .extension ∧ count ≤ base
  · rw [if_pos waits]
    exact findIdx?_defines_of_waiting origin found here waits.1 waits.2
  · rw [if_neg waits, findIdx?_eq_some_iff_first]
    obtain ⟨current, atBase, stands⟩ := standing base first here
    refine ⟨⟨current, atBase, (stands.defines_iff name).2 ⟨name_of_base? found here, ?_⟩⟩, ?_⟩
    · intro isExtension
      exact ⟨found, by by_contra late; exact waits ⟨isExtension, by omega⟩⟩
    · intro earlier before other atEarlier
      obtain ⟨item, atItem, standsEarlier⟩ := origin earlier other atEarlier
      exact defines_eq_false_of_lt_base found before atItem standsEarlier

end

end Merge

end SchemaDecl
