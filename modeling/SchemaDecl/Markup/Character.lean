/-!
# Characters of markup

Lines end at a line feed, a next-line character, or a line or paragraph separator; carriage returns
have been replaced before.  A scalar ends where a blank, a tab, a line end or the end of the text
follows one of a few signs.
-/

namespace SchemaDecl.Markup

/-- Characters that end a line. -/
def isBreak (char : Char) : Bool :=
  char == '\n' || char == '\u0085' || char == '\u2028' || char == '\u2029'

/-- The text of a line end inside a scalar: a next-line character is a line feed. -/
def breakText (char : Char) : Char :=
  if char = '\u0085' then '\n' else char

/-- A blank, a tab or a line end. -/
def isSpace (char : Char) : Bool :=
  char == ' ' || char == '\t' || isBreak char

/-- A blank or a line end. -/
def isPlainGap (char : Char) : Bool :=
  char == ' ' || isBreak char

/-- Whether a blank, a tab, a line end or the end of the text comes first. -/
def spaceFirst : List Char → Bool
  | [] => true
  | char :: _ => isSpace char

/-- Whether a blank, a line end or the end of the text comes first. -/
def gapFirst : List Char → Bool
  | [] => true
  | char :: _ => isPlainGap char

/-- Whether a line that separates documents begins here. -/
def startsSeparator (text : List Char) : Bool :=
  (text.take 3 == ['-', '-', '-'] || text.take 3 == ['.', '.', '.']) && spaceFirst (text.drop 3)

/-- Characters of the names of anchors and of directives. -/
def isWordPart (char : Char) : Bool :=
  char.isAlphanum || char == '-' || char == '_'

/-- Characters that may occur in a text at all. -/
def isPrintable (char : Char) : Bool :=
  let code := char.toNat
  code == 0x9 || code == 0xa || code == 0xd || (0x20 ≤ code && code ≤ 0x7e) || code == 0x85 ||
    (0xa0 ≤ code && code ≤ 0xfffd) || 0x10000 ≤ code

end SchemaDecl.Markup
