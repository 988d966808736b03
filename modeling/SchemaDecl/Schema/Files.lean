import SchemaDecl.FileTree

/-!
# Schema files

A path to a file stands for that file, whatever its name.  A path to a directory stands for all
entries below it whose names end as those of schema files do; an entry can be a directory, too.  The
paths that some paths stand for are listed in order, each of them once.
-/

namespace SchemaDecl

/-- The ends of the names of schema files. -/
def schemaSuffixes : List String :=
  [".graphql", ".graphqls", ".gql"]

/-- Whether a name ends as that of a schema file. -/
def isSchemaName (name : String) : Bool :=
  schemaSuffixes.any fun ending => ending.toList.isSuffixOf name.toList

/-- Whether the last of some names ends as that of a schema file. -/
def isSchemaLocation (location : Location) : Bool :=
  location.getLast?.any isSchemaName

namespace FileTree

/-- The paths one path stands for, in the order of the tree. -/
def schemaPaths (tree : FileTree) (path : Path) : List Path :=
  match tree.find? path with
  | none => []
  | some (_, .file _) => [path]
  | some (location, .directory) =>
      ((tree.below location).filter fun entry => isSchemaLocation entry.1).map fun entry =>
        path.extend entry.1

/-- The paths that some paths stand for, in order and each of them once. -/
def schemaFiles (tree : FileTree) (paths : List Path) : List Path :=
  Path.ordered (paths.flatMap tree.schemaPaths)

/-- Whether a directory below that of a path cannot be searched because the path to it is too
long. -/
def hidesDirectory (tree : FileTree) (path : Path) : Bool :=
  match tree.find? path with
  | some (location, .directory) =>
      (tree.below location).any fun entry =>
        entry.2.isDirectory && pathLimit ≤ (path.extend entry.1).text.utf8ByteSize
  | _ => false

/-- Whether a path is too long to be followed or searched. -/
def exceedsLimits (tree : FileTree) (path : Path) : Bool :=
  tree.isTooLong path || tree.hidesDirectory path

/-- The paths that some paths stand for, unless one of those is too long to be followed or
searched. -/
def resolveSchemas (tree : FileTree) (paths : List Path) : Except FileFault (List Path) :=
  if paths.any tree.exceedsLimits then .error .tooLong else .ok (tree.schemaFiles paths)

end FileTree

end SchemaDecl
