import SchemaDecl.Config
import SchemaDecl.Item

/-!
# Unresolved type names

A leaf name is resolved by an entry of the scalar map or by an item of that name.  The names that
neither resolves are listed once each, in the order in which they are first used.
-/

namespace SchemaDecl

/-- The leaf names of an item's fields, in order. -/
def Item.leafNames (item : Item) : List String :=
  item.fields.filterMap fun field => field.shape.map Shape.leafName

/-- Whether the settings map a leaf name or an item has it. -/
def isResolved (config : Config) (items : List Item) (name : String) : Bool :=
  (config.scalar? name).isSome || items.any fun item => item.name == name

/-- The leaf names that are neither mapped nor declared, each at its first use. -/
def unresolved (config : Config) (items : List Item) : List String :=
  (items.flatMap Item.leafNames).foldl
    (fun found name =>
      if isResolved config items name ∨ name ∈ found then found else found ++ [name])
    []

end SchemaDecl
