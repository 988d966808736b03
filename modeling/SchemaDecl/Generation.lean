import SchemaDecl.Collect
import SchemaDecl.Merge
import SchemaDecl.Rendering

/-!
# From documents to declarations

The type model of a document is its merged items.  What is generated from a document is the text of
the declarations of its type model.
-/

namespace SchemaDecl

/-- The merged items of a document. -/
def typeModel (document : Option Document) : Attempt DocumentFault (List Item) := do
  let items ← collect document
  ExceptT.lift (merge items)

/-- Why nothing can be generated from a document. -/
inductive GenerationFault where
  | document (fault : DocumentFault)
  | rendering (fault : RenderFault)
  deriving DecidableEq, Repr

/-- The text of the declarations of a document. -/
def generate (config : Config) (document : Document) : Attempt GenerationFault CodeText := do
  Attempt.tell (.transforming document.definitions.length)
  let items ← (typeModel (some document)).mapFault .document
  let text ← (render config items).mapFault .rendering
  Attempt.tell .converted
  return text

end SchemaDecl
