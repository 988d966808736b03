import Mathlib.Data.List.Basic
import SchemaDecl.Rendering

/-!
# What rendering depends on

Of the items only the declarations and the names of the entities matter, so extensions can be left
out.  Rendering fails at nothing but an entity without a name.
-/

namespace SchemaDecl

theorem Logged.value_mapM {α β : Type} (step : α → Logged β) (elements : List α) :
    (elements.mapM step).value = elements.map fun element => (step element).value := by
  induction elements with
  | nil => rfl
  | cons element rest inductionHypothesis =>
      rw [List.mapM_cons, value_bind, value_bind, value_pure, inductionHypothesis, List.map_cons]

namespace Rendering

/-- The declarations of the items without the aggregator. -/
def itemDeclarations (config : Config) (items : List Item) : List Declaration :=
  items.filterMap (Item.declaration? config)

/-- The entities among the items. -/
def entities (config : Config) (items : List Item) : List Item :=
  items.filter (Item.isEntity config)

/-- The aggregator of some entities, if there are any. -/
def aggregatorOf (config : Config) (entities : List Item) : Except RenderFault (List Declaration) :=
  if entities = [] then .ok []
  else (entities.mapM (entityProperty config)).map fun properties =>
    [.classType config.aggregatorName [] properties]

/-- An entity is exposed by the plural of its name. -/
theorem entityProperty_eq_ok_iff_exists (config : Config) (entity : Item) (property : Property) :
    entityProperty config entity = .ok property ↔
      ∃ plural, Plural.ofWord? entity.name = some plural ∧
        property = ⟨config.collectionType ++ "<" ++ entity.name ++ ">", plural⟩ := by
  unfold entityProperty
  cases Plural.ofWord? entity.name with
  | none => simp
  | some plural => simp [eq_comm]

theorem value_declare (config : Config) (item : Item) :
    (declare config item).value = item.declaration? config := by
  unfold declare
  cases item.declaration? config <;> rfl

theorem value_aggregator (config : Config) (items : List Item) :
    (aggregator config items).run.value.map Option.toList =
      aggregatorOf config (entities config items) := by
  unfold aggregator aggregatorOf entities
  split
  · rename_i nothing
    rw [if_pos nothing]
    rfl
  · rename_i found
    rw [if_neg found]
    change Except.map _ (ExceptT.run (aggregator.liftExcept _ >>= _)).value = _
    cases (items.filter (Item.isEntity config)).mapM (entityProperty config) <;> rfl

/-- The aggregator has no properties but those that expose the entities. -/
theorem exists_properties_of_mem_aggregatorOf {config : Config} {entities : List Item}
    {declarations : List Declaration} {declaration : Declaration}
    (exposed : aggregatorOf config entities = .ok declarations)
    (member : declaration ∈ declarations) :
    ∃ properties, entities.mapM (entityProperty config) = .ok properties ∧
      declaration = .classType config.aggregatorName [] properties := by
  unfold aggregatorOf at exposed
  split at exposed
  · cases exposed
    cases member
  · cases made : entities.mapM (entityProperty config) with
    | error fault =>
        rw [made] at exposed
        cases exposed
    | ok properties =>
        rw [made] at exposed
        cases exposed
        exact ⟨properties, rfl, List.mem_singleton.1 member⟩

/-- The declarations of the items come first, then the aggregator. -/
theorem value_declarations (config : Config) (items : List Item) :
    (declarations config items).run.value =
      (aggregatorOf config (entities config items)).map (itemDeclarations config items ++ ·) := by
  have declared : (items.mapM (declare config)).value.reduceOption =
      itemDeclarations config items := by
    change List.filterMap id _ = _
    rw [Logged.value_mapM, List.filterMap_map]
    congr 1
    funext item
    exact value_declare config item
  rw [← value_aggregator, ← declared]
  unfold declarations
  rw [Attempt.value_bind, ExceptT.run_lift, map_eq_pure_bind, Logged.value_bind, Logged.value_pure,
    Except.bind, Attempt.value_bind]
  cases (aggregator config items).run.value <;> rfl

/-- Entities are exposed by their names alone. -/
theorem aggregatorOf_congr {config : Config} {left right : List Item}
    (sameNames : left.map Item.name = right.map Item.name) :
    aggregatorOf config left = aggregatorOf config right := by
  have through (items : List Item) : items.mapM (entityProperty config) =
      (items.map Item.name).mapM fun name => entityProperty config { name, kind := .object } := by
    rw [List.mapM_map]
    rfl
  have sameEmpty : left = [] ↔ right = [] := by
    rw [← List.map_eq_nil_iff (l := left), sameNames, List.map_eq_nil_iff]
  simp only [aggregatorOf, sameEmpty, through, sameNames]

/-- Entities with names can be exposed. -/
theorem exists_mapM_entityProperty {entities : List Item}
    (named : ∀ entity ∈ entities, entity.name ≠ "")
    (config : Config) :
    ∃ properties, entities.mapM (entityProperty config) = .ok properties := by
  induction entities with
  | nil => exact ⟨[], rfl⟩
  | cons entity rest inductionHypothesis =>
      rw [List.forall_mem_cons] at named
      obtain ⟨properties, others⟩ := inductionHypothesis named.2
      obtain ⟨plural, found⟩ : ∃ plural, Plural.ofWord? entity.name = some plural := by
        rw [← Option.ne_none_iff_exists']
        exact mt (Plural.ofWord?_eq_none_iff entity.name).1 named.1
      rw [List.mapM_cons, entityProperty, found, others]
      exact ⟨_, rfl⟩

theorem exists_aggregatorOf {entities : List Item}
    (named : ∀ entity ∈ entities, entity.name ≠ "")
    (config : Config) :
    ∃ declarations, aggregatorOf config entities = .ok declarations := by
  obtain ⟨properties, found⟩ := exists_mapM_entityProperty named config
  unfold aggregatorOf
  rw [found]
  split
  · exact ⟨_, rfl⟩
  · exact ⟨_, rfl⟩

end Rendering

open Rendering

theorem value_render (config : Config) (items : List Item) :
    (render config items).run.value =
      (declarations config items).run.value.map (Declaration.fileText config) := by
  unfold render
  rw [Attempt.value_bind]
  cases (declarations config items).run.value <;> rfl

/-- Items with the same declarations and the same entities are rendered alike. -/
theorem value_render_congr {config : Config} {left right : List Item}
    (sameDeclarations : itemDeclarations config left = itemDeclarations config right)
    (sameEntities :
      (entities config left).map Item.name = (entities config right).map Item.name) :
    (render config left).run.value = (render config right).run.value := by
  rw [value_render, value_render, value_declarations, value_declarations, sameDeclarations,
    aggregatorOf_congr sameEntities]

/-- Items with names can be rendered. -/
theorem exists_value_render {items : List Item}
    (named : ∀ item ∈ items, item.name ≠ "")
    (config : Config) :
    ∃ text, (render config items).run.value = .ok text := by
  have entitiesNamed : ∀ entity ∈ entities config items, entity.name ≠ "" := fun entity member =>
    named entity (List.mem_filter.1 member).1
  obtain ⟨aggregator, found⟩ := exists_aggregatorOf entitiesNamed config
  rw [value_render, value_declarations, found]
  exact ⟨_, rfl⟩

/-- Extensions are not rendered. -/
theorem value_render_filter {items : List Item} {keep : Item → Bool}
    (dropped : ∀ item ∈ items, keep item = false → item.kind = .extension)
    (config : Config) :
    (render config (items.filter keep)).run.value = (render config items).run.value := by
  apply value_render_congr
  · rw [Rendering.itemDeclarations, Rendering.itemDeclarations, List.filterMap_filter]
    apply List.filterMap_congr
    intro item member
    cases kept : keep item with
    | true => rfl
    | false => simp [Item.declaration?, dropped item member kept]
  · rw [Rendering.entities, Rendering.entities, List.filter_filter]
    congr 1
    apply List.filter_congr
    intro item member
    cases kept : keep item with
    | true => simp
    | false => simp [Item.isEntity, dropped item member kept]

end SchemaDecl
