import SchemaDecl.Shape

/-!
# Type items

An item is one interface, object, enum or extension of a schema, with its fields, the interfaces it
implements and its tags.  `Field.missing` selects the fields a list lacks, each name once; all
growth of an item's fields goes through it.
-/

namespace SchemaDecl

/-- A named field.  An enum value has no shape. -/
structure Field where
  name : String
  shape : Option Shape := none
  deriving DecidableEq, Repr

namespace Field

/-- Whether a list has a field of the given name. -/
def present (fields : List Field) (name : String) : Bool :=
  fields.any fun field => field.name == name

/-- The fields whose names are not yet present, each name at its first occurrence. -/
def missing (fields : List Field) : List Field → List Field
  | [] => []
  | field :: rest =>
      if present fields field.name then missing fields rest
      else field :: missing (fields ++ [field]) rest

/-- Append the fields whose names are not yet present. -/
def appendMissing (fields additions : List Field) : List Field :=
  fields ++ missing fields additions

@[simp] theorem present_append (left right : List Field) (name : String) :
    present (left ++ right) name = (present left name || present right name) := by
  simp [present]

@[simp] theorem missing_nil (fields : List Field) : missing fields [] = [] := rfl

theorem missing_cons (fields rest : List Field) (field : Field) :
    missing fields (field :: rest) =
      if present fields field.name then missing fields rest
      else field :: missing (fields ++ [field]) rest := rfl

@[simp] theorem appendMissing_nil (fields : List Field) : appendMissing fields [] = fields := by
  simp [appendMissing]

theorem appendMissing_cons (fields rest : List Field) (field : Field) :
    appendMissing fields (field :: rest) =
      appendMissing (if present fields field.name then fields else fields ++ [field]) rest := by
  by_cases known : present fields field.name <;> simp [appendMissing, missing_cons, known]

end Field

/-- The kinds of items. -/
inductive ItemKind where
  | interface
  | object
  | enum
  | extension
  deriving DecidableEq, Repr

namespace ItemKind

/-- The word for a kind. -/
def label : ItemKind → String
  | interface => "interface"
  | object => "object"
  | enum => "enum"
  | extension => "extension"

/-- All kinds, in the order in which they are counted. -/
def all : List ItemKind :=
  [interface, object, enum, extension]

/-- The kind with the given word. -/
def ofLabel? (word : String) : Option ItemKind :=
  all.find? fun kind => kind.label == word

@[simp] theorem ofLabel?_label (kind : ItemKind) : ofLabel? kind.label = some kind := by
  cases kind <;> decide

end ItemKind

/-- One interface, object, enum or extension of a schema. -/
structure Item where
  name : String
  kind : ItemKind
  fields : List Field := []
  interfaces : List String := []
  tags : List String := []
  deriving DecidableEq, Repr

namespace Item

/-- Whether the item has a field of the given name. -/
def hasField (item : Item) (name : String) : Bool :=
  Field.present item.fields name

/-- Append the fields whose names the item lacks. -/
def appendMissing (item : Item) (fields : List Field) : Item :=
  { item with fields := Field.appendMissing item.fields fields }

/-- The number of fields that `appendMissing` appends. -/
def missingCount (item : Item) (fields : List Field) : Nat :=
  (Field.missing item.fields fields).length

/-- Add a tag to a list of tags that lacks it. -/
def withTag (tags : List String) (tag : String) : List String :=
  if tag ∈ tags then tags else tags ++ [tag]

/-- Add a tag the item lacks. -/
def addTag (item : Item) (tag : String) : Item :=
  { item with tags := withTag item.tags tag }

/-- Take over the fields, interfaces and tags of an extension. -/
def absorb (base extension : Item) : Item :=
  { base with
    fields := Field.appendMissing base.fields extension.fields
    interfaces := base.interfaces ++ extension.interfaces
    tags := extension.tags.foldl withTag base.tags }

/-- The length of the item's fields grows by the number of missing fields. -/
theorem length_appendMissing (item : Item) (fields : List Field) :
    (item.appendMissing fields).fields.length = item.fields.length + item.missingCount fields := by
  simp [appendMissing, missingCount, Field.appendMissing]

end Item

end SchemaDecl
