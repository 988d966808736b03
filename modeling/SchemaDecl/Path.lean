/-!
# Paths

A path is a list of parts.  Its text has slashes between them.  Empty parts and parts that are a
single dot are left out when a text is read; a part of two dots stays, and a slash at the head of a
text is a part of its own.  Paths are ordered by their parts.
-/

namespace SchemaDecl

/-- A list of parts that lead from a directory to a file or a directory. -/
structure Path where
  parts : List String
  deriving DecidableEq, Repr

namespace Path

/-- The pieces of a text between slashes. -/
def split : List Char → List (List Char)
  | [] => [[]]
  | '/' :: rest => [] :: split rest
  | character :: rest =>
      match split rest with
      | [] => [[character]]
      | first :: later => (character :: first) :: later

/-- The parts of a text between slashes, empty ones included. -/
def partsOfText (text : String) : List String :=
  (split text.toList).map String.ofList

/-- The part for the slashes at the head of a text. -/
def head? : List Char → Option String
  | '/' :: '/' :: '/' :: _ => some "/"
  | '/' :: '/' :: _ => some "//"
  | '/' :: _ => some "/"
  | _ => none

/-- The path a text stands for. -/
def ofText (text : String) : Path :=
  ⟨(head? text.toList).toList ++ (partsOfText text).filter fun part => part != "" && part != "."⟩

/-- The text of a path. -/
def text (path : Path) : String :=
  match path.parts with
  | [] => "."
  | first :: rest =>
      if first = "/" ∨ first = "//" then first ++ "/".intercalate rest
      else "/".intercalate (first :: rest)

/-- The parts after the slashes at the head of a path, if it has any there. -/
def fromRoot? (path : Path) : Option (List String) :=
  match path.parts with
  | first :: rest => if first = "/" ∨ first = "//" then some rest else none
  | [] => none

/-- The path to something below a directory. -/
def extend (path : Path) (parts : List String) : Path :=
  ⟨path.parts ++ parts⟩

/-- The path without its last part. -/
def parent (path : Path) : Path :=
  ⟨path.parts.dropLast⟩

/-- Paths are compared part by part. -/
instance : LT Path := ⟨fun left right => left.parts < right.parts⟩

instance (left right : Path) : Decidable (left < right) :=
  inferInstanceAs (Decidable (left.parts < right.parts))

theorem lt_iff {left right : Path} : left < right ↔ left.parts < right.parts := Iff.rfl

/-- Put a path in its place among ordered paths, unless it is there. -/
def insert (path : Path) : List Path → List Path
  | [] => [path]
  | first :: rest =>
      if path < first then path :: first :: rest
      else if path = first then first :: rest
      else first :: insert path rest

/-- The given paths in order, each of them once. -/
def ordered (paths : List Path) : List Path :=
  paths.foldr insert []

end Path

end SchemaDecl
