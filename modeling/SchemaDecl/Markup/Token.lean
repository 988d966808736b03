import SchemaDecl.Text.CodePoint

/-!
# Tokens of markup

Besides what is written, the tokens mark where block collections begin and end and which nodes are
keys.
-/

namespace SchemaDecl.Markup

/-- A line that tells how to read a document. -/
inductive Directive where
  | version (major : Nat)
  | tag (handle text : List Char)
  | other
  deriving DecidableEq, Repr

/-- A token of markup. -/
inductive Token where
  | directive (directive : Directive)
  | documentStart
  | documentEnd
  | sequenceStart
  | mappingStart
  | blockEnd
  | entry
  | key
  | value
  | flowSequenceStart
  | flowSequenceEnd
  | flowMappingStart
  | flowMappingEnd
  | comma
  | alias (name : List Char)
  | anchor (name : List Char)
  /-- A tag, given by a handle and a suffix, or by itself. -/
  | tag (handle : Option (List Char)) (suffix : List Char)
  | scalar (plain : Bool) (text : CodeText)
  deriving DecidableEq, Repr

end SchemaDecl.Markup
