import SchemaDecl.Document
import SchemaDecl.Item
import SchemaDecl.Sdl.Lexer

/-!
# Names

A name is a letter or an underscore, followed by letters, digits and underscores.  `Document.Named`
and `Item.Named` say that everything in a document or an item is called by a name.
-/

namespace SchemaDecl

namespace Sdl

/-- Whether a text is a name of the schema language. -/
def isName : List Char → Bool
  | [] => false
  | first :: rest => isNameStart first && rest.all isNamePart

/-- The string is a name of the schema language. -/
def IsName (text : String) : Prop :=
  isName text.toList = true

instance (text : String) : Decidable (IsName text) :=
  inferInstanceAs (Decidable (isName text.toList = true))

theorem IsName.ne_empty {text : String} (isName : IsName text) : text ≠ "" := by
  rintro rfl
  cases isName

/-- A name may also go on with the character it starts with. -/
theorem isNamePart_of_isNameStart {char : Char} (start : isNameStart char = true) :
    isNamePart char = true := by
  simp only [isNameStart, isNamePart, Char.isAlphanum, Bool.or_eq_true] at start ⊢
  exact start.imp_left .inl

theorem isName_cons_iff (first : Char) (rest : List Char) :
    isName (first :: rest) = true ↔
      isNameStart first = true ∧ ∀ char ∈ rest, isNamePart char = true := by
  rw [isName, Bool.and_eq_true, List.all_eq_true]

theorem isNamePart_of_isName {letters : List Char} (named : isName letters = true) :
    ∀ char ∈ letters, isNamePart char = true := by
  cases letters with
  | nil => exact List.forall_mem_nil _
  | cons first rest =>
      rw [isName_cons_iff] at named
      exact List.forall_mem_cons.2 ⟨isNamePart_of_isNameStart named.1, named.2⟩

theorem IsName.isNamePart {text : String} (isName : IsName text) :
    ∀ char ∈ text.toList, isNamePart char = true :=
  isNamePart_of_isName isName

theorem IsName.not_mem {text : String} (isName : IsName text) {char : Char}
    (other : Sdl.isNamePart char = false) :
    char ∉ text.toList := fun member => by
  rw [isName.isNamePart char member] at other
  cases other

end Sdl

open Sdl

/-- The names in a reference. -/
def TypeRef.names : TypeRef → List String
  | named name => [name]
  | list element => element.names
  | nonNull inner => inner.names
  | stray _ => []

/-- The names of a field and its type. -/
def FieldDefinition.names (definition : FieldDefinition) : List String :=
  definition.name :: definition.type.names

/-- The names in an object type or an interface type. -/
def FieldsType.names (type : FieldsType) : List String :=
  type.name :: type.interfaces ++ type.directives.map Directive.name ++
    type.fields.flatMap FieldDefinition.names

/-- The names in an enum type. -/
def EnumType.names (type : EnumType) : List String :=
  type.name :: type.directives.map Directive.name ++ type.values.map EnumValue.name

/-- The names in a definition that can reach an item. -/
def Definition.names : Definition → List String
  | object _ type => type.names
  | interface .definition type => type.names
  | enum _ type => type.names
  | _ => []

/-- All names that can reach an item are names of the schema language. -/
def Document.Named (document : Document) : Prop :=
  ∀ definition ∈ document.definitions, ∀ name ∈ definition.names, IsName name

instance (document : Document) : Decidable document.Named :=
  inferInstanceAs
    (Decidable (∀ definition ∈ document.definitions, ∀ name ∈ definition.names, IsName name))

/-- The item, its fields, their types and its interfaces are called by names. -/
structure Item.Named (item : Item) : Prop where
  name : IsName item.name
  fields : ∀ field ∈ item.fields, IsName field.name
  leaves : ∀ field ∈ item.fields, ∀ shape, field.shape = some shape → IsName shape.leafName
  interfaces : ∀ interface ∈ item.interfaces, IsName interface

instance (item : Item) : Decidable item.Named :=
  decidable_of_iff (IsName item.name ∧ (∀ field ∈ item.fields, IsName field.name) ∧
      (∀ field ∈ item.fields, ∀ shape ∈ field.shape, IsName shape.leafName) ∧
      ∀ interface ∈ item.interfaces, IsName interface)
    ⟨fun ⟨name, fields, leaves, interfaces⟩ => ⟨name, fields, leaves, interfaces⟩,
      fun named => ⟨named.name, named.fields, named.leaves, named.interfaces⟩⟩

end SchemaDecl
