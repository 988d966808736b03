import SchemaDecl.Document
import SchemaDecl.Item
import SchemaDecl.Log

/-!
# Collecting items from a document

Objects, interfaces, enums and the extensions of objects and enums each give one item; the other
definitions of the type system give none.  Either way every type reference in a definition is
resolved, so that the first faulty reference or unsupported definition ends the collection.  Items
of the definitions before the fault are kept.
-/

namespace SchemaDecl

/-- What makes a document impossible to collect. -/
inductive DocumentFault where
  /-- A definition outside the type system. -/
  | unsupported (part : Stray)
  /-- A type reference that is none. -/
  | reference (part : Stray)
  deriving DecidableEq, Repr

namespace DocumentFault

/-- The message of a fault. -/
def message : DocumentFault → String
  | unsupported part => s!"Unsupported definition: {part.kind}"
  | reference part => s!"Unexpected type reference node: {part.className}"

end DocumentFault

/-- Resolve the references one after the other and drop their shapes. -/
def checkReferences (references : List TypeRef) : Except Stray Unit :=
  references.forM fun reference => discard reference.shape

/-- The field a definition declares.  The types of its arguments are resolved first. -/
def FieldDefinition.field (definition : FieldDefinition) : Except Stray Field := do
  checkReferences (definition.arguments.map InputValue.type)
  let shape ← definition.type.shape
  return { name := definition.name, shape := some shape }

namespace FieldsType

/-- The item of the given kind that an object or an interface declares. -/
def item (type : FieldsType) (kind : ItemKind) (interfaces : List String) : Except Stray Item := do
  let fields ← type.fields.mapM FieldDefinition.field
  return { name := type.name, kind, fields, interfaces, tags := directiveNames type.directives }

end FieldsType

namespace EnumType

/-- The item of the given kind that an enum declares. -/
def item (type : EnumType) (kind : ItemKind) : Item :=
  { name := type.name
    kind
    fields := type.values.map fun value => { name := value.name }
    tags := directiveNames type.directives }

end EnumType

namespace Definition

/-- The kind of the item of an object or enum declaration. -/
def kindIn (kind : ItemKind) : Role → ItemKind
  | .definition => kind
  | .extension => .extension

/-- Resolve the references of a definition that gives no item. -/
def check (references : List TypeRef) : Except Stray (Option Item) := do
  checkReferences references
  return none

/-- The item of a definition of the type system, if it gives one. -/
def resolve : Definition → Except Stray (Option Item)
  | schema _ block => check (block.roots.map RootType.type)
  | directive type => check (type.arguments.map InputValue.type)
  | scalar _ _ => return none
  | object role type => some <$> type.item (kindIn .object role) type.interfaces
  | interface .definition type => some <$> type.item .interface []
  | interface .extension type => do
      discard (type.fields.mapM FieldDefinition.field)
      return none
  | union _ type => check type.members
  | enum role type => return some (type.item (kindIn .enum role))
  | inputObject _ type => check (type.fields.map InputValue.type)
  | stray _ => return none

/-- The item of a definition, if it gives one, or what is wrong with it. -/
def item? : Definition → Except DocumentFault (Option Item)
  | stray part => .error (.unsupported part)
  | definition => definition.resolve.mapError .reference

/-- What is told when a definition without an item is reached. -/
def notice : Definition → Option Event
  | directive type => some (.skippedDirective type.name)
  | scalar _ type => some (.skippedScalar type.name)
  | interface .extension type => some (.skippedInterfaceExtension type.name)
  | union _ type => some (.skippedUnion type.name)
  | inputObject _ type => some (.skippedInputObject type.name)
  | _ => none

end Definition

/-- What a run over definitions has collected: the items before the first fault, and the fault. -/
structure Collection where
  items : List Item
  fault : Option DocumentFault
  events : List Event
  deriving Repr

namespace Collection

/-- Run over definitions up to the first fault. -/
def ofDefinitions : List Definition → Collection
  | [] => ⟨[], none, []⟩
  | definition :: rest =>
      match definition.item? with
      | .error fault => ⟨[], some fault, definition.notice.toList⟩
      | .ok item =>
          let later := ofDefinitions rest
          ⟨item.toList ++ later.items, later.fault, definition.notice.toList ++ later.events⟩

/-- Run over a document.  Nothing is told of a document that is absent. -/
def ofDocument : Option Document → Collection
  | none => ⟨[], none, []⟩
  | some document =>
      let collection := ofDefinitions document.definitions
      match collection.fault with
      | some _ => collection
      | none =>
          { collection with
            events := collection.events ++
              [.visited document.definitions.length collection.items.length] }

end Collection

/-- The items of a document in order. -/
def collect (document : Option Document) : Attempt DocumentFault (List Item) :=
  let collection := Collection.ofDocument document
  ExceptT.mk
    ⟨match collection.fault with
      | some fault => .error fault
      | none => .ok collection.items,
     collection.events⟩

end SchemaDecl
