import Mathlib.Data.List.Basic
import Mathlib.Data.List.Induction
import SchemaDecl.Proofs.Loading

/-!
# Schema files of schema files

The paths that some paths stand for can be taken for paths to schemas themselves.  They stand for
themselves then, as long as there is no directory among them: what stands below a directory is found
by the path to the directory and the names that lead on from there.
-/

namespace SchemaDecl

namespace FileTree

variable {tree : FileTree}

/-! ## Entries and the directories they stand in -/

end FileTree

end SchemaDecl
