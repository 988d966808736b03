import SchemaDecl.Stray
import SchemaDecl.Shape

/-!
# Schema documents

A document is a list of definitions: the type system definitions and their extensions, and whatever
else stands among them.  A type reference is a chain of non-null and list wrappers around a name; in
a tree built by hand the chain may end in something else.
-/

namespace SchemaDecl

/-- A reference to a type. -/
inductive TypeRef where
  | named (name : String)
  | list (element : TypeRef)
  | nonNull (inner : TypeRef)
  /-- Something that is no type reference. -/
  | stray (part : Stray)
  deriving DecidableEq, Repr, Inhabited

namespace TypeRef

/-- The shape of a reference whose enclosing non-null wrapper, if any, has been taken off.  Several
wrappers at one level count as one. -/
def shapeUnder (notNull : Bool) : TypeRef → Except Stray Shape
  | named name => .ok (.leaf notNull name)
  | list element => (element.shapeUnder false).map (.list notNull)
  | nonNull inner => inner.shapeUnder true
  | stray part => .error part

/-- The shape of a reference, or the part of the chain that is no type reference. -/
def shape (reference : TypeRef) : Except Stray Shape :=
  reference.shapeUnder false

end TypeRef

/-- A value written in a schema. -/
inductive Value where
  | variable (name : String)
  | int (digits : String)
  | float (digits : String)
  | string (text : String)
  | boolean (value : Bool)
  | null
  | enum (name : String)
  | list (values : List Value)
  | object (fields : List (String × Value))
  deriving Repr

/-- A directive applied to a definition, with its arguments. -/
structure Directive where
  name : String
  arguments : List (String × Value) := []
  deriving Repr

/-- A typed name: an argument of a field or a directive, or a field of an input object. -/
structure InputValue where
  name : String
  type : TypeRef
  description : Option String := none
  default : Option Value := none
  directives : List Directive := []
  deriving Repr

/-- A field of an object or an interface. -/
structure FieldDefinition where
  name : String
  arguments : List InputValue := []
  type : TypeRef
  description : Option String := none
  directives : List Directive := []
  deriving Repr

/-- A value of an enum. -/
structure EnumValue where
  name : String
  description : Option String := none
  directives : List Directive := []
  deriving Repr

/-- The kinds of operations. -/
inductive Operation where
  | query
  | mutation
  | subscription
  deriving DecidableEq, Repr

/-- The type at which a kind of operation starts. -/
structure RootType where
  operation : Operation := .query
  type : TypeRef
  deriving Repr

/-- A schema block. -/
structure SchemaBlock where
  directives : List Directive := []
  roots : List RootType := []
  description : Option String := none
  deriving Repr

/-- The declaration of a directive. -/
structure DirectiveType where
  name : String
  arguments : List InputValue := []
  directives : List Directive := []
  repeatable : Bool := false
  locations : List String := []
  description : Option String := none
  deriving Repr

/-- A scalar type. -/
structure ScalarType where
  name : String
  directives : List Directive := []
  description : Option String := none
  deriving Repr

/-- An object type or an interface type. -/
structure FieldsType where
  name : String
  interfaces : List String := []
  directives : List Directive := []
  fields : List FieldDefinition := []
  description : Option String := none
  deriving Repr

/-- A union type. -/
structure UnionType where
  name : String
  directives : List Directive := []
  members : List TypeRef := []
  description : Option String := none
  deriving Repr

/-- An enum type. -/
structure EnumType where
  name : String
  directives : List Directive := []
  values : List EnumValue := []
  description : Option String := none
  deriving Repr

/-- An input object type. -/
structure InputObjectType where
  name : String
  directives : List Directive := []
  fields : List InputValue := []
  description : Option String := none
  deriving Repr

/-- Whether a declaration introduces its subject or adds to it. -/
inductive Role where
  | definition
  | extension
  deriving DecidableEq, Repr

/-- A top-level part of a document. -/
inductive Definition where
  | schema (role : Role) (block : SchemaBlock)
  | directive (type : DirectiveType)
  | scalar (role : Role) (type : ScalarType)
  | object (role : Role) (type : FieldsType)
  | interface (role : Role) (type : FieldsType)
  | union (role : Role) (type : UnionType)
  | enum (role : Role) (type : EnumType)
  | inputObject (role : Role) (type : InputObjectType)
  /-- Anything else, such as an operation. -/
  | stray (part : Stray)
  deriving Repr

/-- A document. -/
structure Document where
  definitions : List Definition
  deriving Repr

/-- The names of the directives applied to a definition, each at its first occurrence. -/
def directiveNames (directives : List Directive) : List String :=
  directives.foldl
    (fun names directive =>
      if directive.name ∈ names then names else names ++ [directive.name])
    []

end SchemaDecl
