import SchemaDecl.Log
import SchemaDecl.Schema.Files
import SchemaDecl.Sdl.Excerpt
import SchemaDecl.Sdl.Grammar
import SchemaDecl.Text.Line
import SchemaDecl.Text.Utf8

/-!
# Loading schemas

The files that some paths stand for are read in order, and each has to be a schema text by itself.
A directory among them is read as one text of all schema files below it.  Then the texts are put one
after the other, a line end after each, and the whole is read as one document.
-/

namespace SchemaDecl

/-- Why there is no schema to work on. -/
inductive LoadFault where
  /-- The bytes of a file are no text. -/
  | encoding (fault : Utf8.Fault)
  /-- The text of a file is no schema text by itself. -/
  | file (name : String) (text : String) (fault : Sdl.Fault)
  /-- There is nothing but blanks in what the paths stand for. -/
  | nothing (paths : List Path)
  /-- The texts of the files together are no schema text. -/
  | document (text : String) (fault : Sdl.Fault)

namespace LoadFault

/-- The message of a fault, with an excerpt of a faulty text. -/
def message : LoadFault → String
  | encoding fault => fault.message
  | file name text fault => "Could not load " ++ name ++ ":\n" ++ fault.report text
  | nothing paths => "No GraphQL definitions found in: " ++ ", ".intercalate (paths.map Path.text)
  | document text fault => fault.report text

end LoadFault

/-- The text of a file, with line feeds at the line ends. -/
def readText (content : List UInt8) : Except Utf8.Fault String :=
  (fun text => String.ofList (Text.unifyLineEnds text.toList)) <$> Utf8.decode content

/-- The text of a file, which has to be a schema text. -/
def readSchemaText (name : String) (content : List UInt8) : Except LoadFault String := do
  let text ← (readText content).mapError .encoding
  let _ ← (Document.ofText text).mapError (.file name text)
  return text

/-- Whether a name ends as that of a schema file, in letters of either case. -/
def isSchemaNameAnyCase (name : String) : Bool :=
  isSchemaName (String.ofList (name.toList.map Char.toLower))

namespace FileTree

/-- The schema files below a directory, named by the path to them, in the order of these names. -/
def filesWithin (tree : FileTree) (path : Path) (location : Location) :
    List (String × List UInt8) :=
  let files := (tree.below location).filterMap fun entry =>
    match entry.2 with
    | .file content =>
        if entry.1.getLast?.any isSchemaNameAnyCase then some ((path.extend entry.1).text, content)
        else none
    | .directory => none
  files.mergeSort fun left right => left.1 ≤ right.1

/-- The schema text a path stands for. -/
def schemaTextOf (tree : FileTree) (path : Path) : Except LoadFault String :=
  match tree.find? path with
  | none => .ok ""
  | some (location, .file content) => readSchemaText (tree.fullPath location) content
  | some (location, .directory) => do
      let texts ← (tree.filesWithin path location).mapM fun file => readSchemaText file.1 file.2
      return "\n".intercalate texts

/-- The texts of the schema files that some paths stand for, with a line end after each. -/
def schemaText (tree : FileTree) (paths : List Path) : Except LoadFault String := do
  let texts ← (tree.schemaFiles paths).mapM tree.schemaTextOf
  return String.join (texts.map fun text => text ++ "\n")

/-- The document of the schema files that some paths stand for. -/
def readDocument (tree : FileTree) (paths : List Path) : Except LoadFault Document := do
  let text ← tree.schemaText paths
  if Text.isBlank text then throw (.nothing paths)
  (Document.ofText text).mapError (.document text)

/-- Read the document of some paths and tell its size. -/
def loadDocument (tree : FileTree) (paths : List Path) : Attempt LoadFault Document := do
  let document ← ExceptT.mk (pure (tree.readDocument paths))
  Attempt.tell (.parsed document.definitions.length paths.length)
  return document

end FileTree

end SchemaDecl
