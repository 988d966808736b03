import SchemaDecl.Proofs.Merge.Inheritance
import SchemaDecl.Proofs.Merge.Restriction

/-!
# Merging again

Merged items are resolved: objects and extensions have the fields of the interfaces they implement,
and the base of a name contains the extensions of the name.  There is nothing left to take over from
them but interfaces, which are appended whether they are known or not.  So each further merge
appends the interfaces of its extensions to every base and changes nothing else.
-/

namespace SchemaDecl

namespace Merge

variable {items : List Item}

/-! ## Resolved items -/

/-- Nothing is missing: objects and extensions have the fields they inherit, and the first item of a
name that is no extension contains the extensions of the name. -/
structure Resolved (items : List Item) : Prop where
  separate : Separate items
  inherits : ∀ item ∈ items, item.kind = .object ∨ item.kind = .extension →
    ∀ field ∈ inherited items item.interfaces, item.hasField field.name = true
  covered : ∀ extension ∈ items, extension.kind = .extension →
    ∃ base, items.find? (Item.defines extension.name) = some base ∧ base.Covers extension

theorem Separate.value_merge (separate : Separate items) : Separate (merge items).value := by
  have origin {merged : Item} (member : merged ∈ (merge items).value)
      (kind : merged.kind ≠ .object) :
      ∃ item ∈ items, item.name = merged.name ∧ item.kind = merged.kind := by
    obtain ⟨position, there⟩ := List.mem_iff_getElem?.1 member
    obtain ⟨item, here, stands⟩ := exists_origin_merge there
    exact ⟨item, List.mem_of_getElem? here, stands.grows.name.symm, stands.kind_eq kind⟩
  intro extension member kind interface interfaceMember interfaceKind
  obtain ⟨extending, extendingMember, extendingName, sameKind⟩ := origin member (by simp [kind])
  obtain ⟨declared, declaredMember, declaredName, sameInterface⟩ :=
    origin interfaceMember (by simp [interfaceKind])
  rw [← extendingName, ← declaredName]
  exact separate extending extendingMember (sameKind.trans kind) declared declaredMember
    (sameInterface.trans interfaceKind)

theorem inherited_merge (separate : Separate items) (names : List String) :
    inherited (merge items).value names = inherited items names := by
  simp only [inherited, interface?_merge separate]

/-- Merging resolves the items. -/
theorem resolved_merge (separate : Separate items) : Resolved (merge items).value where
  separate := separate.value_merge
  inherits := by
    intro merged member kind field inherits
    rw [inherited_merge separate] at inherits
    obtain ⟨position, there⟩ := List.mem_iff_getElem?.1 member
    rw [getElem?_merge separate, Option.map_eq_some_iff] at there
    obtain ⟨item, here, rfl⟩ := there
    rcases kind with isObject | isExtension
    · obtain ⟨name, implemented, interface, declared, inFields⟩ :=
        (mem_inherited_iff items _ field).1 inherits
      exact hasField_of_implemented here isObject implemented declared inFields
    · -- What is still an extension has taken over what it inherits and nothing else.
      have itemKind : item.kind = .extension ∧ base? items item.name ≠ some position := by
        rw [kind_mergedItem] at isExtension
        split at isExtension
        · cases isExtension
        · rename_i waits
          exact ⟨isExtension, fun isBase => waits ⟨isExtension, isBase⟩⟩
      simp only [mergedItem, if_neg itemKind.2, itemKind.1] at inherits ⊢
      rw [Item.hasField, Field.present_appendMissing, Field.present_of_mem inherits, Bool.or_true]
  covered := by
    intro extension member kind
    obtain ⟨position, there⟩ := List.mem_iff_getElem?.1 member
    have origin := there
    rw [getElem?_merge separate, Option.map_eq_some_iff] at origin
    obtain ⟨item, here, same⟩ := origin
    have sameName : extension.name = item.name := by
      rw [← same, name_mergedItem]
    rw [sameName]
    exact covers_merged here there kind

/-! ## Merging resolved items -/

/-- What merging a number of times makes of the item at a position, if the items are resolved. -/
def repeated (items : List Item) (count position : Nat) (item : Item) : Item :=
  if items.findIdx? (Item.defines item.name) = some position then
    { item with
      interfaces := item.interfaces ++
        (List.replicate count ((extensionsOf items item.name).flatMap Item.interfaces)).flatten }
  else item

/-- The extensions of a name stand before and after its base. -/
theorem extensionsOf_eq_append {position : Nat} {item : Item}
    (here : items[position]? = some item)
    (kind : item.kind ≠ .extension)
    (name : String) :
    extensionsOf items name =
      extensionsOf (items.take position) name ++ extensionsOf (items.drop (position + 1)) name := by
  obtain ⟨bound, atPosition⟩ := List.getElem?_eq_some_iff.1 here
  have passed : ¬item.amends name = true := fun amends =>
    kind ((Item.amends_iff name item).1 amends).2
  calc
    extensionsOf items name =
        extensionsOf (items.take position ++ item :: items.drop (position + 1)) name := by
      rw [← atPosition, ← List.drop_eq_getElem_cons bound, List.take_append_drop]
    _ = extensionsOf (items.take position) name ++
          extensionsOf (items.drop (position + 1)) name := by
      rw [extensionsOf, List.filter_append, List.filter_cons_of_neg passed]
      rfl

namespace Resolved

/-- The base of a name is no extension. -/
theorem base?_eq (resolved : Resolved items) {item : Item} (member : item ∈ items) :
    base? items item.name = items.findIdx? (Item.defines item.name) := by
  have isSome : (items.findIdx? (Item.defines item.name)).isSome := by
    rw [List.findIdx?_isSome, List.any_eq_true]
    by_cases kind : item.kind = .extension
    · obtain ⟨base, found, _⟩ := resolved.covered item member kind
      exact ⟨base, List.mem_of_find?_eq_some found, List.find?_some found⟩
    · exact ⟨item, member, (Item.defines_iff item.name item).2 ⟨rfl, kind⟩⟩
  rw [base?, Option.or_of_isSome isSome]

/-- The base of a name contains every extension of the name. -/
theorem covers (resolved : Resolved items) {position : Nat} {item extension : Item}
    (here : items[position]? = some item)
    (isBase : items.findIdx? (Item.defines item.name) = some position)
    (member : extension ∈ extensionsOf items item.name) :
    item.Covers extension := by
  obtain ⟨inItems, amends⟩ := List.mem_filter.1 member
  obtain ⟨sameName, kind⟩ := (Item.amends_iff item.name extension).1 amends
  obtain ⟨base, found, covers⟩ := resolved.covered extension inItems kind
  rw [sameName, List.find?_eq_bind_findIdx?_getElem?, isBase, Option.bind_some, here,
    Option.some_inj] at found
  exact found ▸ covers

/-- The base of a name has the fields that its extensions contribute. -/
theorem hasField_of_contributed (resolved : Resolved items) {position : Nat} {item : Item}
    {part : List Item} {field : Field}
    (here : items[position]? = some item)
    (isBase : items.findIdx? (Item.defines item.name) = some position)
    (contained : part ⊆ extensionsOf items item.name)
    (given : field ∈ contributed items part) :
    item.hasField field.name = true := by
  obtain ⟨extension, inPart, inFields⟩ := List.mem_flatMap.1 given
  have member := contained inPart
  have covers := resolved.covers here isBase member
  rcases Field.mem_of_mem_appendMissing inFields with own | passed
  · exact covers.fields field own
  · have kind := kind_of_mem_extensionsOf member
    have has := resolved.inherits extension (List.mem_filter.1 member).1 (Or.inr kind) field passed
    obtain ⟨known, knownMember, sameName⟩ := (Field.present_iff extension.fields field.name).1 has
    exact sameName ▸ covers.fields known knownMember

/-- The base of a name has the fields of all interfaces that its extensions implement. -/
theorem hasField_of_inherited (resolved : Resolved items) {position : Nat} {item : Item}
    {part : List Item} {field : Field}
    (here : items[position]? = some item)
    (isBase : items.findIdx? (Item.defines item.name) = some position)
    (isObject : item.kind = .object)
    (contained : part ⊆ extensionsOf items item.name)
    (passed : field ∈ inherited items (item.interfaces ++ part.flatMap Item.interfaces)) :
    item.hasField field.name = true := by
  obtain ⟨name, implemented, interface, declared, inFields⟩ :=
    (mem_inherited_iff items _ field).1 passed
  have own : name ∈ item.interfaces := by
    rcases List.mem_append.1 implemented with own | taken
    · exact own
    · obtain ⟨extension, inPart, named⟩ := List.mem_flatMap.1 taken
      exact (resolved.covers here isBase (contained inPart)).interfaces name named
  exact resolved.inherits item (List.mem_of_getElem? here) (Or.inl isObject) field
    ((mem_inherited_iff items _ field).2 ⟨name, own, interface, declared, inFields⟩)

/-- The base of a name gains nothing but interfaces. -/
theorem mergedItem_base (resolved : Resolved items) {position : Nat} {item : Item}
    (here : items[position]? = some item)
    (isBase : items.findIdx? (Item.defines item.name) = some position) :
    mergedItem items position item =
      { item with
        interfaces := item.interfaces ++
          (extensionsOf items item.name).flatMap Item.interfaces } := by
  have kind := ((Item.defines_iff item.name item).1 (holds_of_findIdx? isBase here)).2
  have parts := extensionsOf_eq_append here kind item.name
  have front : extensionsOf (items.take position) item.name ⊆ extensionsOf items item.name := by
    rw [parts]
    exact List.subset_append_left _ _
  have back : extensionsOf (items.drop (position + 1)) item.name ⊆
      extensionsOf items item.name := by
    rw [parts]
    exact List.subset_append_right _ _
  have sameTags : ((extensionsOf items item.name).flatMap Item.tags).foldl Item.withTag
      item.tags = item.tags := by
    apply Item.foldl_withTag_eq_self
    intro tag inTags
    obtain ⟨extension, member, tagged⟩ := List.mem_flatMap.1 inTags
    exact (resolved.covers here isBase member).tags tag tagged
  have contributes {part : List Item} (contained : part ⊆ extensionsOf items item.name) :
      ∀ field ∈ contributed items part, Field.present item.fields field.name = true :=
    fun _ => resolved.hasField_of_contributed here isBase contained
  rw [mergedItem, resolved.base?_eq (List.mem_of_getElem? here), if_pos isBase]
  dsimp only
  rw [← parts, sameTags, if_neg kind]
  congr 1
  apply Field.appendMissing_eq_self
  cases itemKind : item.kind with
  | extension => exact absurd itemKind kind
  | interface => exact List.forall_mem_nil _
  | enum => exact List.forall_mem_append.2 ⟨contributes front, contributes back⟩
  | object =>
      have inherits : ∀ field ∈ inherited items (item.interfaces ++
          (extensionsOf (items.take position) item.name).flatMap Item.interfaces),
          Field.present item.fields field.name = true :=
        fun _ => resolved.hasField_of_inherited here isBase itemKind front
      exact List.forall_mem_append.2
        ⟨List.forall_mem_append.2 ⟨contributes front, inherits⟩, contributes back⟩

/-- Other items gain nothing. -/
theorem mergedItem_of_ne_base (resolved : Resolved items) {position : Nat} {item : Item}
    (here : items[position]? = some item)
    (other : items.findIdx? (Item.defines item.name) ≠ some position) :
    mergedItem items position item = item := by
  have member := List.mem_of_getElem? here
  have same (inherits : item.kind = .object ∨ item.kind = .extension) :
      Field.appendMissing item.fields (inherited items item.interfaces) = item.fields :=
    Field.appendMissing_eq_self (resolved.inherits item member inherits)
  rw [mergedItem, resolved.base?_eq member, if_neg other]
  split
  · rename_i kind
    rw [same (Or.inl kind)]
  · rename_i kind
    rw [same (Or.inr kind)]
  · rfl
  · rfl

/-- Merging resolved items appends the interfaces of its extensions to each base. -/
theorem value_merge (resolved : Resolved items) :
    (merge items).value = items.mapIdx (repeated items 1) := by
  apply List.ext_getElem?
  intro position
  rw [getElem?_merge resolved.separate, List.getElem?_mapIdx]
  cases here : items[position]? with
  | none => rfl
  | some item =>
      rw [Option.map_some, Option.map_some, Option.some_inj, repeated]
      split
      · rename_i isBase
        rw [resolved.mergedItem_base here isBase, List.replicate_one, List.flatten_singleton]
      · rename_i other
        rw [resolved.mergedItem_of_ne_base here other]

end Resolved

/-! ## Any number of merges -/

@[simp] theorem name_repeated (items : List Item) (count position : Nat) (item : Item) :
    (repeated items count position item).name = item.name := by
  unfold repeated
  split <;> rfl

@[simp] theorem kind_repeated (items : List Item) (count position : Nat) (item : Item) :
    (repeated items count position item).kind = item.kind := by
  unfold repeated
  split <;> rfl

theorem mapIdx_repeated_zero (items : List Item) : items.mapIdx (repeated items 0) = items := by
  have unchanged (position : Nat) (item : Item) : repeated items 0 position item = item := by
    simp [repeated]
  rw [List.mapIdx_eq_iff]
  intro position
  rw [funext (unchanged position)]
  exact Option.map_id'.symm

/-- Extensions gain nothing. -/
theorem repeated_extension {position : Nat} {item : Item}
    (here : items[position]? = some item)
    (kind : item.kind = .extension)
    (count : Nat) :
    repeated items count position item = item := by
  apply if_neg
  intro isBase
  exact ((Item.defines_iff item.name item).1 (holds_of_findIdx? isBase here)).2 kind

theorem findIdx?_defines_mapIdx_repeated (items : List Item) (count : Nat) (name : String) :
    (items.mapIdx (repeated items count)).findIdx? (Item.defines name) =
      items.findIdx? (Item.defines name) := by
  have through (list : List Item) : list.findIdx? (Item.defines name) =
      (list.map (Item.defines name)).findIdx? id := by
    rw [List.findIdx?_map]
    rfl
  have same : (items.mapIdx (repeated items count)).map (Item.defines name) =
      items.map (Item.defines name) := by
    apply List.ext_getElem?
    intro position
    rw [List.getElem?_map, List.getElem?_mapIdx, List.getElem?_map, Option.map_map]
    congr 1
    funext item
    simp [Item.defines]
  rw [through, through items, same]

theorem extensionsOf_mapIdx_repeated (items : List Item) (count : Nat) (name : String) :
    extensionsOf (items.mapIdx (repeated items count)) name = extensionsOf items name := by
  apply filter_mapIdx_eq_filter
  · intro position item _
    simp [Item.amends]
  · intro position item here amends
    exact repeated_extension here ((Item.amends_iff name item).1 amends).2 count

/-- One more merge appends the interfaces once more. -/
theorem mapIdx_repeated_succ (items : List Item) (count : Nat) :
    (items.mapIdx (repeated items count)).mapIdx
        (repeated (items.mapIdx (repeated items count)) 1) =
      items.mapIdx (repeated items (count + 1)) := by
  rw [List.mapIdx_mapIdx]
  congr 1
  funext position item
  rw [Function.comp_apply, repeated, name_repeated, findIdx?_defines_mapIdx_repeated,
    extensionsOf_mapIdx_repeated]
  unfold repeated
  split
  · dsimp only
    rw [List.replicate_one, List.flatten_singleton, List.replicate_succ', List.flatten_append,
      List.flatten_singleton, ← List.append_assoc]
  · rfl

theorem resolved_iterate (separate : Separate items) (count : Nat) :
    Resolved ((fun state => (merge state).value)^[count] (merge items).value) := by
  induction count with
  | zero => exact resolved_merge separate
  | succ count inductionHypothesis =>
      rw [Function.iterate_succ_apply']
      exact resolved_merge inductionHypothesis.separate

/-- Merging the merged items again, any number of times, keeps everything but interfaces: each merge
appends to the first item of a name that is no extension the interfaces of all items of the name
that are extensions still. -/
theorem iterate_merge_eq_mapIdx_repeated (items : List Item) (separate : Separate items)
    (count : Nat) :
    (fun state => (merge state).value)^[count] (merge items).value =
      (merge items).value.mapIdx (repeated (merge items).value count) := by
  induction count with
  | zero => exact (mapIdx_repeated_zero (merge items).value).symm
  | succ count inductionHypothesis =>
      have resolved := resolved_iterate separate count
      rw [Function.iterate_succ_apply', resolved.value_merge, inductionHypothesis,
        mapIdx_repeated_succ]

/-- Two more merges of the interleaved items append the interfaces of the first extension to the
object twice, and those of the second orphan to the first. -/
theorem iterate_merge_interleavedItems :
    Separate interleavedItems ∧
      (fun state => (merge state).value)^[2] (merge interleavedItems).value =
        (merge interleavedItems).value.mapIdx (repeated (merge interleavedItems).value 2) ∧
      ((fun state => (merge state).value)^[2] (merge interleavedItems).value)[1]? = some
        { name := "User", kind := .object,
          fields := [{ name := "name" }, { name := "rank" }, { name := "id" }, { name := "title" },
            { name := "mail" }],
          interfaces := ["Named", "Node", "Node", "Node"], tags := ["entity"] } ∧
      ((fun state => (merge state).value)^[2] (merge interleavedItems).value)[3]? = some
        { name := "Team", kind := .object,
          fields := [{ name := "name" }, { name := "title" }, { name := "size" }, { name := "id" }],
          interfaces := ["Named", "Node", "Node", "Node"] } := by
  have separate : Separate interleavedItems := by decide
  have again := iterate_merge_eq_mapIdx_repeated interleavedItems separate 2
  refine ⟨separate, again, ?_, ?_⟩
  · rw [again]
    decide
  · rw [again]
    decide

end Merge

end SchemaDecl
