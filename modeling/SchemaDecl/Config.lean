import SchemaDecl.Member
import SchemaDecl.Text.CodePoint

/-!
# Settings for declarations

The settings give the spelling of the declarations.  `Config.scalar` maps the leaf names of a schema
to the names of types: a configured entry comes first, then a default, and any other name stands for
itself.  The texts among the settings can hold surrogates.
-/

namespace SchemaDecl

/-- Settings for declarations. -/
structure Config where
  namespaceName : Option CodeText := none
  usings : List CodeText := []
  indent : CodeText := "    "
  enumSeparator : CodeText := ","
  enumMemberStyle : MemberStyle := .pascal
  accessors : CodeText := "\x7b get; set; \x7d"
  listType : CodeText := "List"
  scalars : List (CodeText × CodeText) := []
  entityDirective : CodeText := "entity"
  aggregatorName : CodeText := "EntityContext"
  collectionType : CodeText := "DbSet"
  deriving DecidableEq, Repr

namespace Config

/-- The types of the leaf names that need no configuration. -/
def defaultScalars : List (String × String) :=
  [("ID", "Guid"),
   ("String", "string"),
   ("Boolean", "bool"),
   ("Int", "int"),
   ("Float", "float"),
   ("Byte", "byte"),
   ("Short", "short"),
   ("Long", "long"),
   ("Decimal", "decimal"),
   ("Url", "Uri"),
   ("DateTime", "DateTime"),
   ("Date", "DateTime"),
   ("Uuid", "Guid"),
   ("Any", "object")]

/-- The configured or default type of a leaf name. -/
def scalar? (config : Config) (name : String) : Option CodeText :=
  (config.scalars.lookup (.ofString name)).or ((defaultScalars.lookup name).map .ofString)

/-- The type of a leaf name. -/
def scalar (config : Config) (name : String) : CodeText :=
  (config.scalar? name).getD name

/-- Whether a leaf name needs no configuration. -/
def isDefault (name : CodeText) : Bool :=
  name.toString?.any fun name => (defaultScalars.lookup name).isSome

/-- All mapped leaf names with their types: the defaults, where a configured entry takes the place
of a default, then the other configured entries. -/
def scalarMap (config : Config) : List (CodeText × CodeText) :=
  (defaultScalars.map fun entry => (.ofString entry.1, config.scalar entry.1)) ++
    config.scalars.filter fun entry => !isDefault entry.1

end Config

end SchemaDecl
