import SchemaDecl.Text.WordTable

/-!
# Words

Words are made of letters, numerals and underscores.
-/

namespace SchemaDecl.Text

/-- Whether a character can be part of a word. -/
def isWordChar (char : Char) : Bool :=
  if char.toNat < 128 then char.isAlphanum || char == '_'
  else wordRanges.any fun range => range.1 ≤ char.toNat && char.toNat ≤ range.2

end SchemaDecl.Text
