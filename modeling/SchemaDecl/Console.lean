import SchemaDecl.Console.Tagged

/-!
# Lines on the console

The console has a fixed number of columns.  A longer line is broken between words, and a word that
is longer than a line is cut.  The blanks between two words stay at the end of the line before the
break, but not beyond the width.
-/

namespace SchemaDecl.Console

/-- The number of columns on a line. -/
def width : Nat := 80

/-! ## Words -/

/-- The words of a text, each with the blanks after it, given the beginning of the first word and
whether a blank has closed it.  Blanks at the head of the text belong to the first word. -/
def wordsFrom (word : List Char) (closed : Bool) : List Char → List (List Char)
  | [] => if word = [] then [] else [word]
  | char :: rest =>
      if Text.isBlankChar char then
        wordsFrom (word ++ [char]) (word.any fun earlier => !Text.isBlankChar earlier) rest
      else if closed then word :: wordsFrom [char] false rest
      else wordsFrom (word ++ [char]) false rest

/-- The words of a text, each with the blanks after it. -/
def words (text : List Char) : List (List Char) :=
  wordsFrom [] false text

/-! ## Lines -/

/-- The indices where pieces begin, given that of the first. -/
def starts (index : Nat) : List (List Char) → List Nat
  | [] => []
  | piece :: rest => index :: starts (index + piece.length) rest

/-- The indices before which lines are broken that are made of words, given the index of the first
word and the columns that are taken on its line. -/
def breaks (size index columns : Nat) : List (List Char) → List Nat
  | [] => []
  | word :: rest =>
      let needed := textWidth (Text.trimEnd word)
      let next := index + word.length
      if columns + needed ≤ size then breaks size next (columns + textWidth word) rest
      else if size < needed then
        let pieces := cut size word
        ((starts index pieces).filter (· ≠ 0)) ++
          breaks size next (textWidth (pieces.getLast?.getD [])) rest
      else if columns ≠ 0 ∧ index ≠ 0 then index :: breaks size next (textWidth word) rest
      else breaks size next columns rest

/-- The lines that a line is broken into. -/
def broken (line : Styled) : List Styled :=
  let line := line.expandTabs
  (line.divide (breaks width 0 0 (words line.text))).map fun part =>
    (part.clip width).clipColumns width

/-- The lines of a text as they are printed, without the line ends. -/
def laidOut (styled : Styled) : List Styled :=
  styled.lines.flatMap broken

/-- Lines as they are printed, with a line end after each. -/
def linesText (lines : List Styled) : String :=
  String.ofList (lines.flatMap fun line => line.shown width ++ ['\n'])

/-- A text without styles as it is printed. -/
def layOut (text : List Char) : String :=
  linesText (laidOut { text })

/-- A text with tags as it is printed. -/
def print (text : String) : Except TagFault String := do
  let styled ← tagged text.toList
  let lines := laidOut styled.highlighted
  lines.forM fun line => line.checkStyles.mapError .style
  return linesText lines

/-- A title between two rules that fill the line. -/
def rule (title : String) : String :=
  let left := (width - title.length - 2) / 2
  let right := width - title.length - 2 - left
  String.ofList (List.replicate left '─') ++ " " ++ title ++ " " ++
    String.ofList (List.replicate right '─') ++ "\n"

end SchemaDecl.Console
