/-!
# Line ends

A line ends with a line feed, a carriage return, or both in this order.  Texts that are read have a
line feed in place of each.
-/

namespace SchemaDecl.Text

/-- Write every line end as a line feed. -/
def unifyLineEnds : List Char → List Char
  | [] => []
  | '\r' :: '\n' :: rest => '\n' :: unifyLineEnds rest
  | '\r' :: rest => '\n' :: unifyLineEnds rest
  | character :: rest => character :: unifyLineEnds rest

/-- Whether a text has only blanks and line ends. -/
def isBlank (text : String) : Bool :=
  text.toList.all Char.isWhitespace

end SchemaDecl.Text
