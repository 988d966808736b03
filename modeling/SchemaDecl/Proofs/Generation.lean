import SchemaDecl.Proofs.Collect
import SchemaDecl.Proofs.Merge.Retention
import SchemaDecl.Proofs.Naming
import SchemaDecl.Proofs.Rendering

/-!
# What is generated from a document

The text that is generated is the rendering of the merged items.  A document with names that can be
collected always yields a text.
-/

namespace SchemaDecl

open Sdl

/-- What is generated from a document is the rendering of its type model. -/
theorem value_generate {config : Config} {document : Document} {model : List Item}
    (modelled : (typeModel (some document)).run.value = .ok model) :
    (generate config document).run.value =
      (render config model).run.value.mapError .rendering := by
  have converted : ((typeModel (some document)).mapFault GenerationFault.document).run.value =
      .ok model := by
    change (typeModel (some document)).run.value.mapError GenerationFault.document = _
    rw [modelled]
    rfl
  unfold generate
  rw [Attempt.value_bind]
  change (((typeModel (some document)).mapFault GenerationFault.document >>= _ :
    Attempt GenerationFault CodeText).run.value) = _
  rw [Attempt.value_bind, converted, Except.bind, Attempt.value_bind]
  change ((render config model).run.value.mapError _).bind _ = _
  cases (render config model).run.value <;> rfl

/-- Definitions with names give items with names. -/
theorem Document.Named.isName_item {document : Document} {item : Item}
    (named : document.Named)
    (member : item ∈ document.definitions.filterMap Definition.given?) :
    IsName item.name := by
  obtain ⟨definition, inDocument, gives⟩ := List.mem_filterMap.1 member
  rw [Definition.given?_eq_some_iff] at gives
  refine named definition inDocument item.name ?_
  rcases Definition.item?_cases gives with ⟨role, type, fields, rfl, _, rfl⟩ |
    ⟨type, fields, rfl, _, rfl⟩ | ⟨role, type, rfl, rfl⟩
  · exact List.mem_cons_self
  · exact List.mem_cons_self
  · exact List.mem_cons_self

/-- Merged items have names, too. -/
theorem Document.Named.isName_merged {document : Document} {items : List Item}
    (named : document.Named)
    (collected : (collect (some document)).run.value = .ok items) :
    ∀ merged ∈ (merge items).value, IsName merged.name := by
  intro merged member
  have inNames := List.mem_map_of_mem (f := Item.name) member
  rw [Merge.names_merge] at inNames
  obtain ⟨item, inItems, sameName⟩ := List.mem_map.1 inNames
  rw [((value_collect_eq_ok_iff document items).1 collected).2] at inItems
  exact sameName ▸ named.isName_item inItems

theorem Document.Named.merged_ne_empty {document : Document} {items : List Item}
    (named : document.Named)
    (collected : (collect (some document)).run.value = .ok items) :
    ∀ merged ∈ (merge items).value, merged.name ≠ "" := fun merged member =>
  (named.isName_merged collected merged member).ne_empty

/-- From a document with names some text is generated. -/
theorem exists_value_generate {document : Document} {items : List Item}
    (named : document.Named)
    (collected : (collect (some document)).run.value = .ok items)
    (config : Config) :
    ∃ text, (generate config document).run.value = .ok text ∧
      (render config (merge items).value).run.value = .ok text := by
  have modelled : (typeModel (some document)).run.value = .ok (merge items).value := by
    rw [value_typeModel, collected]
    rfl
  obtain ⟨text, rendered⟩ := exists_value_render (named.merged_ne_empty collected) config
  refine ⟨text, ?_, rendered⟩
  rw [value_generate modelled, rendered]
  rfl

end SchemaDecl
