/-!
# Misplaced parts of a document

A document tree can hold, where a definition or a type reference belongs, a node of another kind or
a plain value.  Reports name such a part by its kind.
-/

namespace SchemaDecl

/-- The kinds of plain values. -/
inductive ValueKind where
  | null
  | boolean
  | integer
  | float
  | text
  | date
  | timestamp
  | bytes
  | set
  | pair
  | sequence
  | mapping
  deriving DecidableEq, Repr, Inhabited

namespace ValueKind

/-- The word for a kind of value in reports. -/
def label : ValueKind → String
  | null => "NoneType"
  | boolean => "bool"
  | integer => "int"
  | float => "float"
  | text => "str"
  | date => "date"
  | timestamp => "datetime"
  | bytes => "bytes"
  | set => "set"
  | pair => "tuple"
  | sequence => "list"
  | mapping => "dict"

end ValueKind

/-- Something that stands in a document where it does not belong. -/
inductive Stray where
  /-- A node; its kind is a phrase of lower-case words joined by underscores. -/
  | node (kind : String)
  /-- A value that is no node at all. -/
  | value (kind : ValueKind)
  deriving DecidableEq, Repr, Inhabited

namespace Stray

/-- The letters of a phrase of words joined by underscores, each word with a capital first letter.
-/
def joinCapitalised (phrase : List Char) : List Char :=
  (phrase.splitOn '_').flatMap fun word =>
    match word with
    | [] => []
    | char :: rest => char.toUpper :: rest

/-- The kind of a stray part in words, as definitions are named. -/
def kind : Stray → String
  | node kind => kind
  | value kind => kind.label

/-- The class of a stray part, as type references are named: the words of a node's kind run
together. -/
def className : Stray → String
  | node kind => String.ofList (joinCapitalised kind.toList) ++ "Node"
  | value kind => kind.label

end Stray

end SchemaDecl
