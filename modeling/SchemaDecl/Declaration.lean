import SchemaDecl.Config

/-!
# Declarations

A declaration is an enum, an interface or a class of the output.  Its text is a header, an opening
brace, one line per member and a closing brace.  A file holds the lines that import namespaces, the
line that names its own, and the declarations with an empty line between them.
-/

namespace SchemaDecl

/-- A property of a class or an interface. -/
structure Property where
  type : CodeText
  name : String
  deriving DecidableEq, Repr

/-- A declaration of the output. -/
inductive Declaration where
  | enumType (name : String) (members : List String)
  | interfaceType (name : String) (properties : List Property)
  | classType (name : CodeText) (bases : List String) (properties : List Property)
  deriving DecidableEq, Repr

namespace Declaration

/-- The first line. -/
def header : Declaration → CodeText
  | enumType name _ => "public enum " ++ name
  | interfaceType name _ => "public interface " ++ name
  | classType name [] _ => "public class " ++ name
  | classType name bases _ => "public class " ++ name ++ " : " ++ ", ".intercalate bases

/-- A property after the indentation and the modifiers. -/
def propertyText (config : Config) (property : Property) : CodeText :=
  property.type ++ " " ++ property.name ++ " " ++ config.accessors

/-- The lines between the braces. -/
def memberLines (config : Config) : Declaration → List CodeText
  | enumType _ members =>
      members.map fun (member : String) => config.indent ++ member ++ config.enumSeparator
  | interfaceType _ properties =>
      properties.map fun property => config.indent ++ propertyText config property
  | classType _ _ properties =>
      properties.map fun property => config.indent ++ "public " ++ propertyText config property

/-- The text of a declaration, without a final line break. -/
def text (config : Config) (declaration : Declaration) : CodeText :=
  let closing : CodeText := "\x7d"
  .intercalate "\n" (declaration.header :: "\x7b" :: declaration.memberLines config ++ [closing])

/-- The lines before the declarations of a file. -/
def preamble (config : Config) : CodeText :=
  let usings :=
    if config.usings = [] then .empty
    else CodeText.join (config.usings.map fun name => "using " ++ name ++ ";\n") ++ "\n"
  match config.namespaceName with
  | none => usings
  | some name => if name = .empty then usings else usings ++ "namespace " ++ name ++ ";\n\n"

/-- The text with exactly one line break at its end. -/
def endLine (text : CodeText) : CodeText :=
  let lineEnd := CodePoint.character '\n'
  ⟨(text.points.reverse.dropWhile (· == lineEnd)).reverse ++ [lineEnd]⟩

/-- The text of a file. -/
def fileText (config : Config) (declarations : List Declaration) : CodeText :=
  let text := preamble config ++ .intercalate "\n\n" (declarations.map (·.text config))
  if text = .empty then .empty else endLine text

end Declaration

end SchemaDecl
