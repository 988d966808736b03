import SchemaDecl.Sdl.Fault

/-!
# Excerpts of faulty texts

The full report of a fault shows the line it is on with its neighbours, and a caret under the
column.  A very long line is shown in pieces instead, without its neighbours.
-/

namespace SchemaDecl.Sdl

/-- Put blanks before a text until it has a given width. -/
def padLeft (width : Nat) (text : List Char) : List Char :=
  List.replicate (width - text.length) ' ' ++ text

/-- Rows with labels aligned to the right, a bar, and a text after a blank unless it is empty. -/
def rows (entries : List (List Char × List Char)) : List Char :=
  let width := (entries.map fun entry => entry.1.length).foldl max 0
  ['\n'].intercalate <| entries.map fun entry =>
    padLeft width entry.1 ++ (if entry.2 = [] then [] else ' ' :: entry.2)

/-- The label of the row for a line. -/
def rowLabel (line : Nat) : List Char :=
  (toString line).toList ++ [' ', '|']

/-- Cut a text into pieces of a given size, the last of which may be shorter. -/
def pieces (size : Nat) : Nat → List Char → List (List Char)
  | 0, _ => []
  | _, [] => []
  | bound + 1, text => text.take size :: pieces size bound (text.drop size)

/-- The rows for a line that is shown with its neighbours. -/
def neighbourRows (all : List (List Char)) (position : Position) (line : List Char) :
    List (List Char × List Char) :=
  let before :=
    if position.line ≤ 1 then []
    else (all[position.line - 2]?.toList).map fun text => (rowLabel (position.line - 1), text)
  let after := (all[position.line]?.toList).map fun text => (rowLabel (position.line + 1), text)
  before ++
    [(rowLabel position.line, line), (['|'], padLeft position.column ['^'])] ++ after

/-- The number of characters in a piece of a very long line. -/
def pieceSize : Nat := 80

/-- The rows for a very long line: its pieces up to the one with the caret, and one more.  A caret
behind the end of the line belongs to the last piece. -/
def pieceRows (position : Position) (line : List Char) : List (List Char × List Char) :=
  let parts := pieces pieceSize line.length line
  let index := min ((position.column - 1) / pieceSize) (parts.length - 1)
  let shown := (parts.take (index + 1)).tail.map fun part => (['|'], part)
  let next := (parts[index + 1]?.toList).map fun part => (['|'], part)
  (rowLabel position.line, parts.headD []) :: shown ++
    [(['|'], padLeft (position.column - index * pieceSize) ['^'])] ++ next

/-- The full report of a fault: its message, its position, and the excerpt. -/
def Fault.report (fault : Fault) (text : String) : String :=
  let position := fault.position text
  let all := lines text.toList
  let line := (all[position.line - 1]?).getD []
  let entries := if line.length > 120 then pieceRows position line
    else neighbourRows all position line
  fault.message ++ "\n\nGraphQL request:" ++ toString position.line ++ ":" ++
    toString position.column ++ "\n" ++ String.ofList (rows entries)

end SchemaDecl.Sdl
