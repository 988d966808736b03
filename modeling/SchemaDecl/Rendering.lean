import SchemaDecl.Declaration
import SchemaDecl.Item
import SchemaDecl.Log
import SchemaDecl.Plural

/-!
# Declarations of items

An interface, an enum and an object each become one declaration; an item that is still an extension
becomes none.  Objects that carry the entity tag are collected by one more class, the aggregator,
with a property per entity.
-/

namespace SchemaDecl

/-- What makes items impossible to render. -/
inductive RenderFault where
  /-- An entity without a name has no plural. -/
  | unnamedEntity
  deriving DecidableEq, Repr

namespace Shape

/-- The type a shape is rendered as. -/
def typeName (config : Config) : Shape → CodeText
  | leaf _ name => config.scalar name
  | list _ element => config.listType ++ "<" ++ element.typeName config ++ ">"

@[simp] theorem typeName_leaf (config : Config) (notNull : Bool) (name : String) :
    (leaf notNull name).typeName config = config.scalar name := rfl

@[simp] theorem typeName_list (config : Config) (notNull : Bool) (element : Shape) :
    (list notNull element).typeName config =
      config.listType ++ "<" ++ element.typeName config ++ ">" := rfl

end Shape

namespace Item

/-- The properties of an item: one per field that has a shape. -/
def properties (config : Config) (item : Item) : List Property :=
  item.fields.filterMap fun field =>
    field.shape.map fun shape => ⟨shape.typeName config, Member.property field.name⟩

/-- The declaration of an item, unless it is an extension. -/
def declaration? (config : Config) (item : Item) : Option Declaration :=
  match item.kind with
  | .enum =>
      some (.enumType item.name
        (item.fields.map fun field => Member.enumerant config.enumMemberStyle field.name))
  | .interface => some (.interfaceType item.name (item.properties config))
  | .object => some (.classType item.name item.interfaces (item.properties config))
  | .extension => none

/-- Whether an item is exposed by the aggregator. -/
def isEntity (config : Config) (item : Item) : Bool :=
  item.kind == .object && item.tags.any fun tag => .ofString tag == config.entityDirective

end Item

namespace Rendering

/-- The declaration of an item; the absence of one is told. -/
def declare (config : Config) (item : Item) : Logged (Option Declaration) :=
  match item.declaration? config with
  | some declaration => return some declaration
  | none => do
      Logged.tell (.skippedItem item.kind.label item.name)
      return none

/-- The property that exposes an entity. -/
def entityProperty (config : Config) (entity : Item) : Except RenderFault Property :=
  match Plural.ofWord? entity.name with
  | none => .error .unnamedEntity
  | some name => .ok ⟨config.collectionType ++ "<" ++ entity.name ++ ">", name⟩

/-- The class that exposes the entities, or none without entities. -/
def aggregator (config : Config) (items : List Item) :
    Attempt RenderFault (Option Declaration) :=
  match items.filter (·.isEntity config) with
  | [] => return none
  | entities => do
      Attempt.tell (.entities (entities.map Item.name))
      let properties ← liftExcept (entities.mapM (entityProperty config))
      return some (.classType config.aggregatorName [] properties)
where
  /-- Use an outcome as an attempt that tells nothing. -/
  liftExcept {α : Type} (outcome : Except RenderFault α) : Attempt RenderFault α :=
    ExceptT.mk (pure outcome)

/-- All declarations of the items, the aggregator last. -/
def declarations (config : Config) (items : List Item) :
    Attempt RenderFault (List Declaration) := do
  let declared ← ExceptT.lift (items.mapM (declare config))
  let aggregator ← aggregator config items
  let all := declared.reduceOption ++ aggregator.toList
  Attempt.tell (.rendered all.length)
  return all

end Rendering

/-- The text of the file that declares the items. -/
def render (config : Config) (items : List Item) : Attempt RenderFault CodeText := do
  let declarations ← Rendering.declarations config items
  return Declaration.fileText config declarations

end SchemaDecl
