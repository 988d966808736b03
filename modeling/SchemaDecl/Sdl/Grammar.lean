import SchemaDecl.Document
import SchemaDecl.Sdl.Lexer
import SchemaDecl.Sdl.Reader

/-!
# The grammar of schema texts

`Document.ofText` reads a text as a document of the type system, its extensions, and executable
definitions; of the latter only the kind is kept.  `TypeRef.ofText` reads a text that is one type
reference.  Lists, objects and selection sets may be nested up to a limit; each reader of something
nested gets the room that is left.
-/

namespace SchemaDecl.Sdl

open Reader

/-- How deeply lists, objects and selection sets may be nested. -/
def maxNesting : Nat := 200

/-! ## References and values -/

/-- A reference to a named type. -/
def namedType : Reader TypeRef :=
  TypeRef.named <$> name

/-- A type reference, given a reader for the elements of lists if there is room for a list. -/
def typeRefWith (element : Option (Reader TypeRef)) : Reader TypeRef := do
  let inner ←
    if ← skipMark .bracketLeft then
      match element with
      | none => fail .nestedTooDeeply
      | some element => do
          let reference ← element
          expectMark .bracketRight
          pure (TypeRef.list reference)
    else namedType
  if ← skipMark .bang then return .nonNull inner else return inner

/-- A type reference with room for a number of nested lists. -/
def typeRefIn : Nat → Reader TypeRef
  | 0 => typeRefWith none
  | room + 1 => typeRefWith (some (typeRefIn room))

/-- A type reference. -/
def typeRef : Reader TypeRef :=
  typeRefIn maxNesting

/-- The value that a name stands for. -/
def namedValue (text : String) : Value :=
  match text with
  | "true" => .boolean true
  | "false" => .boolean false
  | "null" => .null
  | text => .enum text

/-- A variable. -/
def variableName : Reader String := do
  expectMark .dollar
  name

/-- Fail at a variable that stands in a constant. -/
def variableInConstant {α : Type} : Reader α := do
  match (← lookahead).head? with
  | some (.name text) => fail (.variableInConstant text)
  | _ => unexpected

/-- A value, given a reader for the values inside of it if there is room for any. -/
def valueWith (nested : Option (Reader Value)) (constant : Bool) : Reader Value := do
  match ← head with
  | some (.mark .bracketLeft) =>
      match nested with
      | none => fail .nestedTooDeeply
      | some nested => Value.list <$> anyBetween .bracketLeft .bracketRight nested
  | some (.mark .braceLeft) =>
      match nested with
      | none => fail .nestedTooDeeply
      | some nested =>
          Value.object <$> anyBetween .braceLeft .braceRight do
            let field ← name
            expectMark .colon
            let value ← nested
            return (field, value)
  | some (.int digits) =>
      advance
      return .int digits
  | some (.float digits) =>
      advance
      return .float digits
  | some (.string text) =>
      advance
      return .string text
  | some (.blockString text) =>
      advance
      return .string text
  | some (.name text) =>
      advance
      return namedValue text
  | some (.mark .dollar) =>
      if constant then variableInConstant else Value.variable <$> variableName
  | _ => unexpected

/-- A value with room for a number of nested values. -/
def valueIn (constant : Bool) : Nat → Reader Value
  | 0 => valueWith none constant
  | room + 1 => valueWith (some (valueIn constant room)) constant

/-- The arguments of a directive or a field. -/
def argumentsIn (constant : Bool) (room : Nat) : Reader (List (String × Value)) :=
  optionalBetween .parenLeft .parenRight do
    let argument ← name
    expectMark .colon
    let value ← valueIn constant room
    return (argument, value)

/-- Applied directives. -/
def directivesIn (constant : Bool) (room : Nat) : Reader (List Directive) :=
  whileMark .atSign do
    expectMark .atSign
    let directive ← name
    let arguments ← argumentsIn constant room
    return { name := directive, arguments }

/-- Directives applied to a part of the type system. -/
def directives : Reader (List Directive) :=
  directivesIn true maxNesting

/-- A constant value. -/
def constant : Reader Value :=
  valueIn true maxNesting

/-! ## Executable definitions -/

/-- A selection, given a reader for selection sets inside of it and the room that they leave. -/
def selectionWith (selections : Reader Unit) (room : Nat) : Reader Unit := do
  if ← skipMark .spread then
    if ← skipKeyword "on" then
      let _ ← namedType
      let _ ← directivesIn false room
      selections
    else
      match ← head with
      | some (.name _) =>
          advance
          let _ ← directivesIn false room
      | _ =>
          let _ ← directivesIn false room
          selections
  else
    let _ ← name
    if ← skipMark .colon then
      let _ ← name
    let _ ← argumentsIn false room
    let _ ← directivesIn false room
    if ← peekMark .braceLeft then selections

/-- A selection set with room for a number of nested sets. -/
def selectionSetIn : Nat → Reader Unit
  | 0 => fail .nestedTooDeeply
  | room + 1 =>
      discard (anyBetween .braceLeft .braceRight (selectionWith (selectionSetIn room) room))

/-- A selection set. -/
def selectionSet : Reader Unit :=
  selectionSetIn maxNesting

/-- A description, if there is one. -/
def description : Reader (Option String) := do
  match ← head with
  | some (.string text) =>
      advance
      return some text
  | some (.blockString text) =>
      advance
      return some text
  | _ => return none

/-- A kind of operation. -/
def operation : Reader Operation := do
  let start ← place
  match ← name with
  | "query" => return .query
  | "mutation" => return .mutation
  | "subscription" => return .subscription
  | text => failAt start (.unexpected (some (.name text)))

/-- A variable of an operation. -/
def variableDefinition : Reader Unit := do
  let _ ← description
  let _ ← variableName
  expectMark .colon
  let _ ← typeRef
  if ← skipMark .equals then
    let _ ← constant
  let _ ← directives

/-- An operation. -/
def operationDefinition : Reader Definition := do
  if ← peekMark .braceLeft then
    selectionSet
  else
    let _ ← description
    let _ ← operation
    match ← head with
    | some (.name _) => advance
    | _ => pure ()
    let _ ← optionalBetween .parenLeft .parenRight variableDefinition
    let _ ← directivesIn false maxNesting
    selectionSet
  return .stray (.node "operation_definition")

/-- The name of a fragment, which is not the word before its type. -/
def fragmentName : Reader String := do
  if (← head).bind Lexeme.content? = some "on" then unexpected
  else name

/-- A fragment. -/
def fragmentDefinition : Reader Definition := do
  let _ ← description
  expectKeyword "fragment"
  let _ ← fragmentName
  expectKeyword "on"
  let _ ← namedType
  let _ ← directivesIn false maxNesting
  selectionSet
  return .stray (.node "fragment_definition")

/-! ## The type system -/

/-- The start of a definition or an extension: its description, where it may have one, and the words
that introduce it. -/
def introduction (role : Role) (keyword : String) : Reader (Option String) := do
  match role with
  | .definition =>
      let description ← description
      expectKeyword keyword
      return description
  | .extension =>
      expectKeyword "extend"
      expectKeyword keyword
      return none

/-- An extension must add something. -/
def requireContent (role : Role) (empty : Bool) : Reader Unit := do
  if role = .extension ∧ empty then unexpected

/-- The type at which a kind of operation starts. -/
def rootType : Reader RootType := do
  let operation ← operation
  expectMark .colon
  let type ← namedType
  return { operation, type }

/-- A schema block. -/
def schema (role : Role) : Reader Definition := do
  let description ← introduction role "schema"
  let directives ← directives
  let roots ← match role with
    | .definition => someBetween .braceLeft .braceRight rootType
    | .extension => optionalBetween .braceLeft .braceRight rootType
  requireContent role (directives.isEmpty && roots.isEmpty)
  return .schema role { description, directives, roots }

/-- A scalar type. -/
def scalarType (role : Role) : Reader Definition := do
  let description ← introduction role "scalar"
  let name ← name
  let directives ← directives
  requireContent role directives.isEmpty
  return .scalar role { name, description, directives }

/-- An argument of a field or a directive, or a field of an input object. -/
def inputValue : Reader InputValue := do
  let description ← description
  let name ← name
  expectMark .colon
  let type ← typeRef
  let default ← if ← skipMark .equals then some <$> constant else pure none
  let directives ← directives
  return { name, type, description, default, directives }

/-- The arguments of a field or a directive. -/
def argumentDefinitions : Reader (List InputValue) :=
  optionalBetween .parenLeft .parenRight inputValue

/-- A field of an object or an interface. -/
def fieldDefinition : Reader FieldDefinition := do
  let description ← description
  let name ← name
  let arguments ← argumentDefinitions
  expectMark .colon
  let type ← typeRef
  let directives ← directives
  return { name, arguments, type, description, directives }

/-- The names of the interfaces that a type implements. -/
def implementedInterfaces : Reader (List String) := do
  if ← skipKeyword "implements" then separatedBy .ampersand name else return []

/-- An object type or an interface type, after the words that introduce it. -/
def fieldsType (role : Role) (description : Option String) : Reader FieldsType := do
  let name ← name
  let interfaces ← implementedInterfaces
  let directives ← directives
  let fields ← optionalBetween .braceLeft .braceRight fieldDefinition
  requireContent role (interfaces.isEmpty && directives.isEmpty && fields.isEmpty)
  return { name, interfaces, directives, fields, description }

/-- An object type. -/
def objectType (role : Role) : Reader Definition := do
  let description ← introduction role "type"
  Definition.object role <$> fieldsType role description

/-- An interface type. -/
def interfaceType (role : Role) : Reader Definition := do
  let description ← introduction role "interface"
  Definition.interface role <$> fieldsType role description

/-- A union type. -/
def unionType (role : Role) : Reader Definition := do
  let description ← introduction role "union"
  let name ← name
  let directives ← directives
  let members ← if ← skipMark .equals then separatedBy .pipe namedType else pure []
  requireContent role (directives.isEmpty && members.isEmpty)
  return .union role { name, directives, members, description }

/-- The words that stand for values and cannot be enum values. -/
def reservedWords : List String :=
  ["true", "false", "null"]

/-- The name of an enum value. -/
def enumValueName : Reader String := do
  match ← head with
  | some found =>
      if found.content?.any (reservedWords.contains ·) then fail (.reservedEnumValue found)
      else name
  | none => name

/-- A value of an enum. -/
def enumValue : Reader EnumValue := do
  let description ← description
  let name ← enumValueName
  let directives ← directives
  return { name, description, directives }

/-- An enum type. -/
def enumType (role : Role) : Reader Definition := do
  let description ← introduction role "enum"
  let name ← name
  let directives ← directives
  let values ← optionalBetween .braceLeft .braceRight enumValue
  requireContent role (directives.isEmpty && values.isEmpty)
  return .enum role { name, directives, values, description }

/-- An input object type. -/
def inputObjectType (role : Role) : Reader Definition := do
  let description ← introduction role "input"
  let name ← name
  let directives ← directives
  let fields ← optionalBetween .braceLeft .braceRight inputValue
  requireContent role (directives.isEmpty && fields.isEmpty)
  return .inputObject role { name, directives, fields, description }

/-- The places where a directive may be applied. -/
def directiveLocations : List String :=
  ["QUERY", "MUTATION", "SUBSCRIPTION", "FIELD", "FRAGMENT_DEFINITION", "FRAGMENT_SPREAD",
   "INLINE_FRAGMENT", "VARIABLE_DEFINITION", "FRAGMENT_VARIABLE_DEFINITION", "SCHEMA", "SCALAR",
   "OBJECT", "FIELD_DEFINITION", "ARGUMENT_DEFINITION", "INTERFACE", "UNION", "ENUM", "ENUM_VALUE",
   "INPUT_OBJECT", "INPUT_FIELD_DEFINITION", "DIRECTIVE_DEFINITION"]

/-- A place where a directive may be applied. -/
def directiveLocation : Reader String := do
  let start ← place
  let text ← name
  if directiveLocations.contains text then return text
  else failAt start (.unexpected (some (.name text)))

/-- The declaration of a directive. -/
def directiveType : Reader Definition := do
  let description ← introduction .definition "directive"
  expectMark .atSign
  let name ← name
  let arguments ← argumentDefinitions
  let directives ← directives
  let repeatable ← skipKeyword "repeatable"
  expectKeyword "on"
  let locations ← separatedBy .pipe directiveLocation
  return .directive { name, arguments, directives, repeatable, locations, description }

/-- An extension of a directive, of which only the kind is kept. -/
def directiveExtension : Reader Definition := do
  let _ ← introduction .extension "directive"
  expectMark .atSign
  let _ ← name
  let directives ← directives
  requireContent .extension directives.isEmpty
  return .stray (.node "directive_extension")

/-! ## Documents -/

/-- The definitions of the type system by the word that introduces them. -/
def typeSystemReader? (role : Role) (word : String) : Option (Reader Definition) :=
  match word with
  | "schema" => some (schema role)
  | "scalar" => some (scalarType role)
  | "type" => some (objectType role)
  | "interface" => some (interfaceType role)
  | "union" => some (unionType role)
  | "enum" => some (enumType role)
  | "input" => some (inputObjectType role)
  | "directive" =>
      match role with
      | .definition => some directiveType
      | .extension => some directiveExtension
  | _ => none

/-- Fail because nothing goes on with the first of some tokens ahead. -/
def unexpectedAhead {α : Type} (tokens : Tokens) : Reader α :=
  failAt tokens.offset (.unexpected tokens.head?)

/-- An extension. -/
def extension : Reader Definition := do
  let ahead ← lookahead
  match ahead.head? with
  | some (.name word) => (typeSystemReader? .extension word).getD (unexpectedAhead ahead)
  | _ => unexpectedAhead ahead

/-- Whether the current token can be a description. -/
def peekDescription : Reader Bool := do
  match ← head with
  | some (.string _) => return true
  | some (.blockString _) => return true
  | _ => return false

/-- The definitions that are no part of the type system, by the word that introduces them. -/
def executableReader? (word : String) : Option (Reader Definition) :=
  if word = "fragment" then some fragmentDefinition
  else if word = "query" ∨ word = "mutation" ∨ word = "subscription" then some operationDefinition
  else none

/-- A definition whose introducing word, if it is one, is at the front of `ahead`. -/
def definitionBy (described : Bool) (ahead : Tokens) : Reader Definition :=
  match ahead.head? with
  | some (.name word) =>
      match (typeSystemReader? .definition word).or (executableReader? word) with
      | some reader => reader
      | none =>
          if described then fail .describedOther
          else if word = "extend" then extension
          else unexpectedAhead ahead
  | some (.mark .braceLeft) =>
      if described then fail .describedShorthand else operationDefinition
  | _ => unexpectedAhead ahead

/-- A top-level part of a document. -/
def definition : Reader Definition := do
  let described ← peekDescription
  let ahead ← if described then lookahead else get
  definitionBy described ahead

/-- Whether the tokens are at their end. -/
def atEnd : Reader Bool := do
  return (← head).isNone

/-- One or more definitions. -/
def document : Reader Document := do
  let definitions ← elementsUntil atEnd definition (← rounds)
  return { definitions }

/-- A text that is one type reference. -/
def wholeTypeRef : Reader TypeRef := do
  let reference ← typeRef
  finish
  return reference

end SchemaDecl.Sdl

namespace SchemaDecl

/-- Read a text as a document. -/
def Document.ofText (text : String) : Except Sdl.Fault Document :=
  Sdl.document.run (Sdl.Tokens.ofText text)

/-- Read a text as a type reference. -/
def TypeRef.ofText (text : String) : Except Sdl.Fault TypeRef :=
  Sdl.wholeTypeRef.run (Sdl.Tokens.ofText text)

end SchemaDecl
