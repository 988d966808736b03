import SchemaDecl.Proofs.Collect
import SchemaDecl.Proofs.Merge.Union

/-!
# Independence of the order of definitions

Reordering the definitions of a document reorders what is collected, and what merging makes of the
base of a name does not depend on the order of the items.  The type models of two orders therefore
agree name by name, but for the order of fields, tags and interfaces.
-/

namespace SchemaDecl

namespace Merge

theorem Separate.perm {left right : List Item}
    (separate : Separate left)
    (perm : left.Perm right) :
    Separate right := by
  intro extension member kind interface interfaceMember interfaceKind
  exact separate extension (perm.mem_iff.2 member) kind interface
    (perm.mem_iff.2 interfaceMember) interfaceKind

/-- After merging, one item of each name is no extension, and it gathers the items of the name. -/
theorem exists_gathers {items : List Item} {name : String}
    (separate : Separate items)
    (distinct : Distinct items)
    (occurs : ∃ item ∈ items, item.name = name) :
    ∃ merged, (merge items).value.filter (Item.defines name) = [merged] ∧
      Gathers items name merged := by
  obtain ⟨item, member, rfl⟩ := occurs
  obtain ⟨base, first, found, atBase, sameName⟩ := exists_base_item member
  rw [← sameName] at found ⊢
  exact ⟨mergedItem items base first, filter_defines_merge separate distinct atBase found,
    gathers_mergedItem separate distinct atBase found⟩

/-- Merging keeps how many items have a name. -/
theorem countP_name_merge (items : List Item) (name : String) :
    (merge items).value.countP (fun item => item.name == name) =
      items.countP fun item => item.name == name := by
  have through (list : List Item) :
      list.countP (fun item => item.name == name) = (list.map Item.name).countP (· == name) := by
    rw [List.countP_map]
    rfl
  rw [through, names_merge, ← through]

/-- The merged items of two orders agree name by name. -/
theorem merge_perm_agree {left right : List Item} {name : String}
    (separate : Separate left)
    (distinct : Distinct left)
    (perm : left.Perm right)
    (occurs : ∃ item ∈ left, item.name = name) :
    ∃ first second : Item, (merge left).value.filter (Item.defines name) = [first] ∧
      (merge right).value.filter (Item.defines name) = [second] ∧
      first.kind = second.kind ∧
      (∀ field, first.hasField field = second.hasField field) ∧
      (∀ tag, tag ∈ first.tags ↔ tag ∈ second.tags) ∧
      first.interfaces.Perm second.interfaces := by
  obtain ⟨first, onlyFirst, leftGathers⟩ := exists_gathers separate distinct occurs
  have occursRight : ∃ item ∈ right, item.name = name := by
    simpa only [perm.mem_iff] using occurs
  obtain ⟨second, onlySecond, rightGathers⟩ :=
    exists_gathers (separate.perm perm) (distinct.perm perm) occursRight
  exact ⟨first, second, onlyFirst, onlySecond,
    (leftGathers.perm distinct perm).agree rightGathers (distinct.perm perm)⟩

end Merge

/-! ## Documents -/

/-- The items of definitions whose names are different have different names. -/
theorem distinct_filterMap_given? {definitions : List Definition}
    (distinct : (definitions.filterMap Definition.definedName?).Nodup) :
    Merge.Distinct (definitions.filterMap Definition.given?) := by
  rw [List.Nodup, List.pairwise_filterMap] at distinct
  rw [Merge.Distinct, List.pairwise_filterMap]
  refine distinct.imp ?_
  intro left right different first leftGives second rightGives firstKind secondKind
  exact different first.name ((Definition.name_of_given? leftGives).1 firstKind)
    second.name ((Definition.name_of_given? rightGives).1 secondKind)

/-- Where no extended name is that of an interface, no extension is named like one. -/
theorem separate_filterMap_given? {definitions : List Definition}
    (apart : ∀ name ∈ definitions.filterMap Definition.extendedName?,
      name ∉ definitions.filterMap Definition.interfaceName?) :
    Merge.Separate (definitions.filterMap Definition.given?) := by
  intro extension member kind interface interfaceMember interfaceKind sameName
  obtain ⟨extending, extendingMember, extendingGives⟩ := List.mem_filterMap.1 member
  obtain ⟨defining, definingMember, definingGives⟩ := List.mem_filterMap.1 interfaceMember
  have extended : extension.name ∈ definitions.filterMap Definition.extendedName? :=
    List.mem_filterMap.2
      ⟨extending, extendingMember, (Definition.name_of_given? extendingGives).2.1 kind⟩
  have defined : interface.name ∈ definitions.filterMap Definition.interfaceName? :=
    List.mem_filterMap.2
      ⟨defining, definingMember, (Definition.name_of_given? definingGives).2.2 interfaceKind⟩
  exact apart extension.name extended (sameName ▸ defined)

/-- The type models of a document and of any order of its definitions agree: every name has as many
items in one as in the other and exactly one that is no extension, and these two have one kind, the
same field names, the same tags and the same interfaces as often. -/
theorem typeModel_perm_agree {left right : Document} {items : List Item}
    (collected : (collect (some left)).run.value = .ok items)
    (distinct : (left.definitions.filterMap Definition.definedName?).Nodup)
    (apart : ∀ name ∈ left.definitions.filterMap Definition.extendedName?,
      name ∉ left.definitions.filterMap Definition.interfaceName?)
    (perm : left.definitions.Perm right.definitions) :
    ∃ leftModel rightModel : List Item,
      (typeModel (some left)).run.value = .ok leftModel ∧
      (typeModel (some right)).run.value = .ok rightModel ∧
      ∀ name,
        leftModel.countP (fun item => item.name == name) =
          rightModel.countP (fun item => item.name == name) ∧
        ((∃ item ∈ leftModel, item.name = name) →
          ∃ first second : Item, leftModel.filter (Item.defines name) = [first] ∧
            rightModel.filter (Item.defines name) = [second] ∧
            first.kind = second.kind ∧
            (∀ field, first.hasField field = second.hasField field) ∧
            (∀ tag, tag ∈ first.tags ↔ tag ∈ second.tags) ∧
            first.interfaces.Perm second.interfaces) := by
  obtain ⟨resolves, rfl⟩ := (value_collect_eq_ok_iff left items).1 collected
  have collectedRight : (collect (some right)).run.value =
      .ok (right.definitions.filterMap Definition.given?) :=
    (value_collect_eq_ok_iff right _).2
      ⟨fun definition member => resolves definition (perm.mem_iff.2 member), rfl⟩
  have itemsPerm := perm.filterMap Definition.given?
  refine ⟨_, _, by rw [value_typeModel, collected]; rfl,
    by rw [value_typeModel, collectedRight]; rfl, ?_⟩
  intro name
  refine ⟨?_, ?_⟩
  · rw [Merge.countP_name_merge, Merge.countP_name_merge]
    exact itemsPerm.countP_eq _
  · rintro ⟨merged, member, named⟩
    have nameMember := List.mem_map_of_mem (f := Item.name) member
    rw [Merge.names_merge] at nameMember
    obtain ⟨item, itemMember, sameName⟩ := List.mem_map.1 nameMember
    exact Merge.merge_perm_agree (separate_filterMap_given? apart)
      (distinct_filterMap_given? distinct) itemsPerm ⟨item, itemMember, sameName.trans named⟩

/-- Two orphans of one name and an object with an extension, in front of their interface. -/
def scatteredDocument : Document where
  definitions :=
    [.object .extension
       { name := "Team", fields := [{ name := "size", type := .named "Int" }] },
     .object .extension
       { name := "User", interfaces := ["Node"], directives := [{ name := "entity" }] },
     .object .definition
       { name := "User", fields := [{ name := "name", type := .named "String" }] },
     .object .extension { name := "Team", interfaces := ["Node"] },
     .interface .definition
       { name := "Node", fields := [{ name := "id", type := .nonNull (.named "ID") }] }]

/-- The same definitions backwards. -/
def scatteredDocumentBackwards : Document where
  definitions := scatteredDocument.definitions.reverse

/-- Backwards the other orphan is promoted, and the fields come in another order. -/
theorem typeModel_scatteredDocument_agree :
    (scatteredDocument.definitions.filterMap Definition.definedName?).Nodup ∧
      (∀ name ∈ scatteredDocument.definitions.filterMap Definition.extendedName?,
        name ∉ scatteredDocument.definitions.filterMap Definition.interfaceName?) ∧
      ∃ leftModel rightModel : List Item,
        (typeModel (some scatteredDocument)).run.value = .ok leftModel ∧
        (typeModel (some scatteredDocumentBackwards)).run.value = .ok rightModel ∧
        ∃ first second : Item, leftModel.filter (Item.defines "Team") = [first] ∧
          rightModel.filter (Item.defines "Team") = [second] ∧
          first.fields.map Field.name = ["size", "id"] ∧
          second.fields.map Field.name = ["id", "size"] ∧
          (∀ field, first.hasField field = second.hasField field) ∧
          first.interfaces.Perm second.interfaces := by
  have collected : (collect (some scatteredDocument)).run.value =
      .ok (scatteredDocument.definitions.filterMap Definition.given?) := rfl
  have perm : scatteredDocument.definitions.Perm scatteredDocumentBackwards.definitions :=
    (List.reverse_perm scatteredDocument.definitions).symm
  have distinct : (scatteredDocument.definitions.filterMap Definition.definedName?).Nodup := by
    decide
  refine ⟨distinct, by decide, ?_⟩
  obtain ⟨leftModel, rightModel, leftValue, rightValue, agree⟩ :=
    typeModel_perm_agree collected distinct (by decide) perm
  have leftMerged : (merge (scatteredDocument.definitions.filterMap Definition.given?)).value =
      leftModel := Except.ok.inj leftValue
  have rightMerged :
      (merge (scatteredDocumentBackwards.definitions.filterMap Definition.given?)).value =
        rightModel := Except.ok.inj rightValue
  subst leftMerged rightMerged
  obtain ⟨first, second, onlyFirst, onlySecond, _, fields, _, interfaces⟩ :=
    (agree "Team").2 (by decide)
  have firstFields : ([first].map fun item => item.fields.map Field.name) = [["size", "id"]] := by
    rw [← onlyFirst]
    decide
  have secondFields : ([second].map fun item => item.fields.map Field.name) = [["id", "size"]] := by
    rw [← onlySecond]
    decide
  exact ⟨_, _, leftValue, rightValue, first, second, onlyFirst, onlySecond,
    List.singleton_inj.1 firstFields, List.singleton_inj.1 secondFields, fields, interfaces⟩

end SchemaDecl
