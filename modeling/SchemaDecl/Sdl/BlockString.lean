/-!
# The text of block strings

A block string loses the indentation that all its lines but the first share, and the blank lines
before and after its text.
-/

namespace SchemaDecl.Sdl

/-- A blank or a tab. -/
def isIndentation (char : Char) : Bool :=
  char == ' ' || char == '\t'

/-- The number of blanks and tabs at the head of a line. -/
def indentation (line : List Char) : Nat :=
  (line.takeWhile isIndentation).length

/-- Whether a line holds nothing but blanks and tabs. -/
def isBlankLine (line : List Char) : Bool :=
  line.all isIndentation

/-- The indentation that all lines with a text share, if there are any. -/
def sharedIndentation (lines : List (List Char)) : Option Nat :=
  ((lines.filter fun line => !isBlankLine line).map indentation).min?

/-- Take the shared indentation off every line but the first. -/
def withoutIndentation : List (List Char) → List (List Char)
  | [] => []
  | first :: rest =>
      match sharedIndentation rest with
      | none => first :: rest.map fun _ => []
      | some width => first :: rest.map (List.drop width)

/-- Drop the blank lines before and after the text. -/
def withoutBlankEnds (lines : List (List Char)) : List (List Char) :=
  ((lines.dropWhile isBlankLine).reverse.dropWhile isBlankLine).reverse

/-- The text of a block string with the given lines. -/
def blockText (lines : List (List Char)) : List Char :=
  ['\n'].intercalate (withoutBlankEnds (withoutIndentation lines))

end SchemaDecl.Sdl
