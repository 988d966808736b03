import SchemaDecl.Console.Highlight
import SchemaDecl.Console.Style
import SchemaDecl.Console.Width

/-!
# Texts with styles

Ranges of a text carry styles.  Ranges can overlap and can be empty.  When a text is cut into parts,
each part keeps what its characters carry, and empty ranges are lost.
-/

namespace SchemaDecl.Console

/-- A range of characters that carries a style. -/
structure Span where
  start : Nat
  stop : Nat
  /-- The description of the style, unless it is known to be one. -/
  style : Option (List Char) := none
  deriving DecidableEq, Repr

/-- A text with ranges that carry styles. -/
structure Styled where
  text : List Char := []
  spans : List Span := []
  deriving DecidableEq, Repr

namespace Span

/-- The part of a span between two indices, unless it is empty. -/
def between? (first last : Nat) (span : Span) : Option Span :=
  let start := span.start - first
  let stop := min (span.stop - first) (last - first)
  if start < stop then some { span with start, stop } else none

/-- The part of a span before an index, unless it begins there. -/
def before? (limit : Nat) (span : Span) : Option Span :=
  if span.start < limit then some { span with stop := min limit span.stop } else none

/-- A span further to the right. -/
def shift (distance : Nat) (span : Span) : Span :=
  { span with start := span.start + distance, stop := span.stop + distance }

end Span

namespace Styled

/-- The part of a text between two indices. -/
def between (styled : Styled) (first last : Nat) : Styled where
  text := (styled.text.drop first).take (last - first)
  spans := styled.spans.filterMap (Span.between? first last)

/-- The parts of a text between ascending indices.  Without any the text stays as it is. -/
def divide (styled : Styled) : List Nat → List Styled
  | [] => [styled]
  | cuts => List.zipWith styled.between (0 :: cuts) (cuts ++ [styled.text.length])

/-- The beginning of a text of a length. -/
def before (styled : Styled) (limit : Nat) : Styled where
  text := styled.text.take limit
  spans := styled.spans.filterMap (Span.before? limit)

/-- Texts one after the other. -/
def join : List Styled → Styled
  | [] => {}
  | first :: rest =>
      let later := join rest
      { text := first.text ++ later.text
        spans := first.spans ++ later.spans.map (Span.shift first.text.length) }

/-- The indices of a character in a text, the first character of which has an index. -/
def indicesOf (char : Char) (index : Nat) : List Char → List Nat
  | [] => []
  | first :: rest =>
      (if first = char then [index] else []) ++ indicesOf char (index + 1) rest

/-- The lines of a text without the line ends between them. -/
def lines (styled : Styled) : List Styled :=
  let cuts := (indicesOf '\n' 0 styled.text).flatMap fun index => [index, index + 1]
  if cuts = [] then [styled]
  else (styled.divide cuts).filter fun line => line.text != ['\n']

/-! ## Tabs -/

/-- The number of columns from one tab stop to the next. -/
def tabSize : Nat := 8

/-- A text with blanks at its end, which carry what its last character carries. -/
def pad (styled : Styled) (count : Nat) : Styled where
  text := styled.text ++ List.replicate count ' '
  spans := styled.spans.map fun span =>
    if styled.text.length ≤ span.stop then { span with stop := span.stop + count } else span

/-- Fill parts that end with a tab up to the next tab stop, given the column where they begin. -/
def fillTabs (column : Nat) : List Styled → List Styled
  | [] => []
  | part :: rest =>
      if part.text.getLast? = some '\t' then
        let blank := { part with text := part.text.dropLast ++ [' '] }
        let reached := column + textWidth blank.text
        let stop := (reached + (tabSize - 1)) / tabSize * tabSize
        blank.pad (stop - reached) :: fillTabs stop rest
      else part :: fillTabs (column + textWidth part.text) rest

/-- A line with blanks in the places of tabs. -/
def expandTabs (styled : Styled) : Styled :=
  match indicesOf '\t' 1 styled.text with
  | [] => styled
  | cuts => join (fillTabs 0 (styled.divide cuts))

/-! ## Sizes -/

/-- A line without those blanks at its end that are beyond a number of characters. -/
def clip (size : Nat) (styled : Styled) : Styled :=
  let limit := max size (Text.trimEnd styled.text).length
  if limit < styled.text.length then styled.before limit else styled

/-- A line without what is beyond a number of columns. -/
def clipColumns (size : Nat) (styled : Styled) : Styled :=
  let text := Console.clipColumns size styled.text
  if text.length < styled.text.length then { styled.before text.length with text }
  else { styled with text }

/-! ## Pieces -/

/-- The indices where a style begins or ends, in order and each of them once. -/
def borders (styled : Styled) : List Nat :=
  let places := 0 :: styled.text.length :: styled.spans.flatMap fun span => [span.start, span.stop]
  (places.mergeSort (· ≤ ·)).eraseDups

/-- The pieces of a text between borders. -/
def pieces (styled : Styled) : List (List Char) :=
  let borders := styled.borders
  List.zipWith (fun first last => (styled.text.drop first).take (last - first)) borders
    borders.tail

/-- The number of columns that pieces take, measured one by one. -/
def columns : List (List Char) → Nat
  | [] => 0
  | piece :: rest => textWidth piece + columns rest

/-- Pieces that fit into a number of columns.  The first that reaches the bound is cut there, and
the others are left out. -/
def fittingPieces (size : Nat) : List (List Char) → List (List Char)
  | [] => []
  | piece :: rest =>
      if textWidth piece < size then piece :: fittingPieces (size - textWidth piece) rest
      else [Console.clipColumns size piece]

/-- What is printed of a line with a number of columns. -/
def shown (size : Nat) (styled : Styled) : List Char :=
  if columns styled.pieces ≤ size then styled.text
  else (fittingPieces size styled.pieces).flatten

/-! ## Styles -/

/-- Check that the styles of a text can be read.  A description of no style does no harm. -/
def checkStyles (styled : Styled) : Except StyleFault Unit :=
  styled.spans.forM fun span =>
    match span.style with
    | none => .ok ()
    | some description => Functor.discard (normalForm description)

/-- A text with its highlights, which come before all other spans. -/
def highlighted (styled : Styled) : Styled :=
  { styled with
    spans := ((highlights styled.text).map fun range => ⟨range.1, range.2, none⟩) ++
      styled.spans }

end Styled

end SchemaDecl.Console
