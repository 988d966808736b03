import Mathlib.Data.List.Perm.Basic
import SchemaDecl.Proofs.Resolution

/-!
# The schema files of paths

The schema files of some paths are listed in the order of their paths, each of them once.  They are
the given files, and what stands below the given directories and is named as schema files are.  So
neither the order of the given paths matters nor how often each is given.
-/

namespace SchemaDecl

/-! ## Names of schema files -/

namespace FileTree

variable {tree : FileTree}

/-! ## What paths stand for -/

end FileTree

end SchemaDecl
