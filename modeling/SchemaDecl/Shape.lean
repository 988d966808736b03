/-!
# Shapes of field types

The type of a field is a list of elements of some shape or a leaf named by the schema, and at each
level a value may be required.  Every shape is well formed: a list has an element and no name of its
own, a leaf has a name and no element.
-/

namespace SchemaDecl

/-- The shape of a field's type. -/
inductive Shape where
  /-- A scalar, or a reference to an interface, an object or an enum. -/
  | leaf (notNull : Bool) (name : String)
  /-- A list whose elements have one shape. -/
  | list (notNull : Bool) (element : Shape)
  deriving DecidableEq, Repr, Inhabited

namespace Shape

/-- Whether a value must be present at the outermost level. -/
def notNull : Shape → Bool
  | leaf notNull _ => notNull
  | list notNull _ => notNull

/-- Whether the outermost level is a list. -/
def isList : Shape → Bool
  | leaf _ _ => false
  | list _ _ => true

/-- The name at the innermost level. -/
def leafName : Shape → String
  | leaf _ name => name
  | list _ element => element.leafName

/-- The number of lists around the leaf. -/
def depth : Shape → Nat
  | leaf _ _ => 0
  | list _ element => element.depth + 1

@[simp] theorem leafName_leaf (notNull : Bool) (name : String) :
    (leaf notNull name).leafName = name := rfl

@[simp] theorem leafName_list (notNull : Bool) (element : Shape) :
    (list notNull element).leafName = element.leafName := rfl

@[simp] theorem depth_leaf (notNull : Bool) (name : String) : (leaf notNull name).depth = 0 := rfl

@[simp] theorem depth_list (notNull : Bool) (element : Shape) :
    (list notNull element).depth = element.depth + 1 := rfl

end Shape

end SchemaDecl
