import SchemaDecl.Config.Load
import SchemaDecl.Console
import SchemaDecl.Data.Json
import SchemaDecl.Generation
import SchemaDecl.Item.Data
import SchemaDecl.Schema.Load
import SchemaDecl.Unresolved

/-!
# Jobs

A job is one thing the program does: declare the types of a schema, write its type model, or count
the items of the model.  It reads files and makes a product.  Nothing is written before the product
is complete.
-/

namespace SchemaDecl.Command

/-- What the program is to do. -/
inductive Job where
  /-- Write declarations for a schema to a file.  The two names replace those of the settings. -/
  | declarations (schemas : List Path) (output : Path) (config : Option Path)
      (namespaceName aggregatorName : Option String)
  /-- Write or print the type model of a schema. -/
  | model (schemas : List Path) (output : Option Path)
  /-- Print how many items of each kind the type model of a schema has. -/
  | counts (schemas : List Path) (config : Option Path)
  deriving DecidableEq, Repr

/-- Why a job cannot be done. -/
inductive JobFault where
  | config (fault : ConfigFault)
  | load (fault : LoadFault)
  | document (fault : DocumentFault)
  | rendering (fault : RenderFault)
  | file (fault : FileFault)
  /-- The text of the file to write has surrogates in it. -/
  | surrogate (fault : Utf8.SurrogateFault)
  | printing (fault : Console.TagFault)

/-- What a job leads to. -/
structure Product where
  /-- The file to write and its text. -/
  file : Option (Path × CodeText) := none
  /-- What is printed after that, or why it cannot be. -/
  printed : Except Console.TagFault String

/-- The settings with other names for the namespace and the aggregator.  An empty name replaces
nothing. -/
def override (config : Config) (namespaceName aggregatorName : Option String) : Config :=
  let given (name : Option String) : Option CodeText :=
    (name.filter (· != "")).map .ofString
  { config with
    namespaceName := (given namespaceName).or config.namespaceName
    aggregatorName := (given aggregatorName).getD config.aggregatorName }

/-- The type model of a document.  An unsupported definition is told. -/
def checkedModel (document : Document) : Attempt JobFault (List Item) :=
  ExceptT.mk do
    match ← (typeModel (some document)).run with
    | .ok items => return .ok items
    | .error fault =>
        match fault with
        | .unsupported part => Logged.tell (.unsupportedDefinition part.kind)
        | .reference _ => pure ()
        return .error (.document fault)

/-- The type model of the schema that some paths stand for. -/
def loadModel (tree : FileTree) (schemas : List Path) : Attempt JobFault (List Item) := do
  let document ← (tree.loadDocument schemas).mapFault .load
  checkedModel document

/-- The text of a type model. -/
def modelText (items : List Item) : String :=
  (Data.ofFields [("items", .list (items.map Item.toData))]).toJson

/-- The line that says how many items of a kind there are. -/
def countLine (items : List Item) (kind : ItemKind) : String :=
  Console.layOut
    (kind.label ++ ": " ++ toString (items.countP fun item => item.kind = kind)).toList

/-- What is printed when a file has been written. -/
def writtenNotice (what : String) (output : Path) : Except Console.TagFault String :=
  Console.print ("[green]✓[/green] " ++ what ++ " written to " ++ output.text)

/-- What is printed when there are type names that nothing stands for. -/
def unresolvedHint : String :=
  "They are rendered by name; add a 'scalars' entry to the codegen config to map them."

namespace Job

/-- Do a job up to its product. -/
def product (tree : FileTree) : Job → Attempt JobFault Product
  | declarations schemas output config namespaceName aggregatorName => do
      let config ← (Config.load tree config).mapFault .config
      let config := override config namespaceName aggregatorName
      let items ← loadModel tree schemas
      let text ← (render config items).mapFault .rendering
      return { file := some (output, text), printed := writtenNotice "C# declarations" output }
  | model schemas output => do
      let items ← loadModel tree schemas
      let text := modelText items
      match output with
      | none => return { printed := .ok (text ++ "\n") }
      | some output =>
          return { file := some (output, text), printed := writtenNotice "Type model" output }
  | counts schemas config => do
      let config ← (Config.load tree config).mapFault .config
      let items ← loadModel tree schemas
      let counted :=
        Console.rule "Type Model Item Counts" ++ String.join (ItemKind.all.map (countLine items))
      let names := unresolved config items
      if names = [] then return { printed := .ok counted }
      Attempt.tell (.undeclaredTypes names)
      return { printed := .ok (counted ++ Console.layOut unresolvedHint.toList) }

end Job

/-- Write the file of a product, if it has one.  A file is left empty if its text has no bytes. -/
def Product.write (product : Product) (tree : FileTree) : FileTree × Except JobFault Unit :=
  match product.file with
  | none => (tree, .ok ())
  | some (path, text) =>
      let encoded := Utf8.encodeText text
      match tree.write path (encoded.toOption.getD []) with
      | .error fault => (tree, .error (.file fault))
      | .ok tree => (tree, (fun _ => ()) <$> encoded.mapError .surrogate)

end SchemaDecl.Command
