import SchemaDecl.Data.Check
import SchemaDecl.Item

/-!
# Items as data

Items, fields and shapes are written as mappings with all their parts.  Reading checks the data:
names must be texts, flags truth values, lists lists, and a shape must be either a list with an
element or a leaf with a name.  Parts with a default may be left out, and unknown parts are ignored.
Shapes are neither written nor read beyond a number of levels.
-/

namespace SchemaDecl

/-- Names as data. -/
def Data.ofNames (names : List String) : Data :=
  .list (names.map fun name => .text (.ofString name))

/-- The number of levels of shapes that data can have.  What a shape is part of counts as a
level. -/
def levelLimit : Nat := 255

/-- Why something cannot be written as data. -/
inductive WriteFault where
  | tooDeep
  deriving DecidableEq, Repr

/-- The message of a fault. -/
def WriteFault.message : WriteFault → String
  | tooDeep => "Maximum serialization depth exceeded"

namespace Shape

/-- Whether a shape below a number of levels can be written. -/
def fits (level : Nat) (shape : Shape) : Bool :=
  level + shape.depth < levelLimit

/-- A shape as data. -/
def toData : Shape → Data
  | leaf notNull name =>
      .ofFields
        [("is_not_null", .boolean notNull),
         ("is_list", .boolean false),
         ("element_shape", .null),
         ("scalar_name", .text name)]
  | list notNull element =>
      .ofFields
        [("is_not_null", .boolean notNull),
         ("is_list", .boolean true),
         ("element_shape", element.toData),
         ("scalar_name", .null)]

/-- Put the parts of a shape together.  A list needs an element and no name, a leaf needs a name and
no element. -/
def ofParts (notNull isList : Bool) (element : Option Shape) (name : Option String) :
    Checked Shape :=
  if isList then
    match element, name with
    | some element, none => .valid (list notNull element)
    | _, _ => .issue (.valueError "A list shape needs an element shape and no scalar name")
  else
    match element, name with
    | none, some name => .valid (leaf notNull name)
    | _, _ => .issue (.valueError "A non-list shape needs a scalar name and no element shape")

/-- Check the parts of a shape given the check of its element. -/
def ofEntries (entries : List (Data × Data)) (element : Checked (Option Shape)) : Checked Shape :=
  Checked.andThen
    (Prod.mk <$> (Prod.mk <$> Data.optional entries "is_not_null" false Data.asBoolean
        <*> Data.optional entries "is_list" false Data.asBoolean)
      <*> (Prod.mk <$> element
        <*> Data.optional entries "scalar_name" none (Data.asOptional Data.asString)))
    fun parts => ofParts parts.1.1 parts.1.2 parts.2.1 parts.2.2

/-- Check data below a number of levels that should be a shape. -/
def ofDataAt (level : Nat) : Data → Checked Shape
  | .mapping entries =>
      ofEntries entries <|
        match _ : Data.field? "element_shape" entries with
        | none => .valid none
        | some .null => .valid none
        | some element =>
            Checked.under (.name "element_shape") <|
              if level + 1 < levelLimit then some <$> ofDataAt (level + 1) element
              else .issue .recursionDepthExceeded
  | _ => .issue .modelType
termination_by data => sizeOf data
decreasing_by
  have smaller := Data.sizeOf_field? ‹_›
  simp
  omega

/-- Check data that should be a shape. -/
def ofData (data : Data) : Checked Shape :=
  ofDataAt 0 data

/-- A shape as data, unless it is too deep. -/
def write (shape : Shape) : Except WriteFault Data :=
  if shape.fits 0 then .ok shape.toData else .error .tooDeep

end Shape

namespace Field

/-- A field as data. -/
def toData (field : Field) : Data :=
  .ofFields
    [("name", .text field.name),
     ("shape", (field.shape.map Shape.toData).getD .null)]

/-- Check data that should be a shape, or none for the absent value. -/
def shapeOfData : Data → Checked (Option Shape)
  | .null => .valid none
  | data => some <$> Shape.ofDataAt 1 data

/-- Check data that should be a field. -/
def ofData : Data → Checked Field
  | .mapping entries =>
      Field.mk <$> Data.required entries "name" Data.asString
        <*> Data.optional entries "shape" none shapeOfData
  | _ => .issue .modelType

/-- Whether a field can be written. -/
def fits (field : Field) : Bool :=
  field.shape.all (Shape.fits 1)

end Field

namespace ItemKind

/-- Check data that should be a kind of items. -/
def ofData : Data → Checked ItemKind
  | .text word =>
      match word.toString?.bind ofLabel? with
      | some kind => .valid kind
      | none => .issue .enum
  | _ => .issue .enum

end ItemKind

namespace Item

/-- An item as data. -/
def toData (item : Item) : Data :=
  .ofFields
    [("name", .text item.name),
     ("kind", .text item.kind.label),
     ("fields", .list (item.fields.map Field.toData)),
     ("implemented_interfaces", .ofNames item.interfaces),
     ("tags", .ofNames item.tags)]

/-- Check data that should be fields. -/
def fieldsOfData : Data → Checked (List Field)
  | .list elements => Checked.elements Field.ofData 0 elements
  | _ => .issue .listType

/-- Check data that should be an item. -/
def ofData : Data → Checked Item
  | .mapping entries =>
      Item.mk <$> Data.required entries "name" Data.asString
        <*> Data.required entries "kind" ItemKind.ofData
        <*> Data.optional entries "fields" [] fieldsOfData
        <*> Data.optional entries "implemented_interfaces" [] (Data.asList Data.asString)
        <*> Data.optional entries "tags" [] (Data.asList Data.asString)
  | _ => .issue .modelType

/-- An item as data, unless it is too deep. -/
def write (item : Item) : Except WriteFault Data :=
  if item.fields.all Field.fits then .ok item.toData else .error .tooDeep

end Item

end SchemaDecl
