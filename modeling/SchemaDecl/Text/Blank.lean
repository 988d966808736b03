/-!
# Blank characters

Blanks are the characters that separate words: spaces of any width, tabs, line ends, and the
separators among the control characters.
-/

namespace SchemaDecl.Text

/-- The ranges of code points of blanks, by first and last member. -/
def blankRanges : List (Nat × Nat) :=
  [(0x09, 0x0D), (0x1C, 0x20), (0x85, 0x85), (0xA0, 0xA0), (0x1680, 0x1680), (0x2000, 0x200A),
   (0x2028, 0x2029), (0x202F, 0x202F), (0x205F, 0x205F), (0x3000, 0x3000)]

/-- Whether a character is a blank. -/
def isBlankChar (char : Char) : Bool :=
  blankRanges.any fun range => range.1 ≤ char.toNat && char.toNat ≤ range.2

/-- A text without the blanks at its head. -/
def trimStart (text : List Char) : List Char :=
  text.dropWhile isBlankChar

/-- A text without the blanks at its end. -/
def trimEnd (text : List Char) : List Char :=
  (text.reverse.dropWhile isBlankChar).reverse

/-- A text without the blanks at its head and at its end. -/
def trim (text : List Char) : List Char :=
  trimEnd (trimStart text)

/-- The words of a text, given the beginning of the first word. -/
def wordsFrom (word : List Char) : List Char → List (List Char)
  | [] => if word = [] then [] else [word]
  | char :: rest =>
      if isBlankChar char then (if word = [] then [] else [word]) ++ wordsFrom [] rest
      else wordsFrom (word ++ [char]) rest

/-- The words of a text, without the blanks between them. -/
def words (text : List Char) : List (List Char) :=
  wordsFrom [] text

end SchemaDecl.Text
