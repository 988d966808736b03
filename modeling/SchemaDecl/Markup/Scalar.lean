import SchemaDecl.Markup.Character
import SchemaDecl.Markup.Fault

/-!
# Scalars

A scalar is written plainly, in single or double quotes, or as a block of lines.  Line ends inside
of a plain or quoted scalar are folded: a single one becomes a blank, and of several the first is
dropped.  Each reader returns the text and how many characters it takes.
-/

namespace SchemaDecl.Markup

/-- What has been passed over since the last character of a scalar. -/
inductive Gap where
  | none
  | blanks (text : List Char)
  /-- Line ends: the first, and the others. -/
  | lines (first : Char) (more : List Char)
  /-- A line end that has been escaped, and others after it. -/
  | joined (more : List Char)
  deriving DecidableEq, Repr

namespace Gap

/-- The text that a gap stands for if the scalar goes on. -/
def text : Gap → List Char
  | none => []
  | blanks text => text
  | lines first more => (if first ≠ '\n' then [first] else if more = [] then [' '] else []) ++ more
  | joined more => more

/-- Pass over a blank or a tab.  At the beginning of a line they do not count. -/
def addBlank (char : Char) : Gap → Gap
  | none => blanks [char]
  | blanks text => blanks (text ++ [char])
  | gap => gap

/-- Pass over a line end. -/
def addBreak (char : Char) : Gap → Gap
  | lines first more => lines first (more ++ [breakText char])
  | joined more => joined (more ++ [breakText char])
  | _ => lines (breakText char) []

end Gap

/-! ## Plain scalars -/

/-- Whether a plain scalar ends before a character that is no blank and no line end. -/
def endsPlain (inFlow : Bool) (char : Char) (rest : List Char) : Bool :=
  char == '\t' ||
    (char == ':' &&
        (spaceFirst rest || (inFlow && (rest.head?.any ",[]\x7b\x7d".toList.contains)))) ||
    (inFlow && ",?[]\x7b\x7d".toList.contains char)

/-- Read a plain scalar.  Outside of flow collections its lines must reach the column `margin`.  The
reader is at a column; `pending` characters have been passed over since its last one. -/
def plainFrom (inFlow : Bool) (margin column pending : Nat) (gap : Gap) :
    List Char → List Char × Nat
  | [] => ([], 0)
  | char :: rest =>
      if isBreak char then
        if startsSeparator rest then ([], 0)
        else plainFrom inFlow margin 0 (pending + 1) (gap.addBreak char) rest
      else if char = ' ' then
        plainFrom inFlow margin (column + 1) (pending + 1) (gap.addBlank char) rest
      else if gap ≠ .none ∧ (char = '#' ∨ (!inFlow ∧ column < margin)) then ([], 0)
      else if endsPlain inFlow char rest then ([], 0)
      else
        let (text, taken) := plainFrom inFlow margin (column + 1) 0 .none rest
        (gap.text ++ char :: text, pending + 1 + taken)

/-! ## Quoted scalars -/

/-- The character that one character after a backslash stands for. -/
def escape? (char : Char) : Option Char :=
  [('0', '\x00'), ('a', '\x07'), ('b', '\x08'), ('t', '\t'), ('\t', '\t'), ('n', '\n'),
   ('v', '\x0b'), ('f', '\x0c'), ('r', '\r'), ('e', '\x1b'), (' ', ' '), ('"', '"'), ('\\', '\\'),
   ('/', '/'), ('N', '\u0085'), ('_', '\u00a0'), ('L', '\u2028'), ('P', '\u2029')].lookup char

/-- The number of hexadecimal digits after a letter that introduces a code point. -/
def codeLength? (char : Char) : Option Nat :=
  [('x', 2), ('u', 4), ('U', 8)].lookup char

/-- The value of a hexadecimal digit. -/
def hexDigit? (char : Char) : Option Nat :=
  if char.isDigit then some (char.toNat - '0'.toNat)
  else if 'a' ≤ char ∧ char ≤ 'f' then some (char.toNat - 'a'.toNat + 10)
  else if 'A' ≤ char ∧ char ≤ 'F' then some (char.toNat - 'A'.toNat + 10)
  else none

/-- The code that is written in all of the given digits. -/
def code? (length : Nat) (digits : List Char) : Option Nat := do
  guard (digits.length = length)
  digits.foldlM (fun code digit => (hexDigit? digit).map (code * 16 + ·)) 0

/-- Why no scalar in quotes can be read. -/
inductive QuoteFault where
  /-- The text ends before the scalar. -/
  | unclosed
  | invalid (fault : MarkupFault)

/-- What a backslash and the characters after it stand for. -/
inductive Escape where
  /-- A code point, and how many characters after the backslash it takes. -/
  | point (point : CodePoint) (length : Nat)
  /-- A line end that is left out. -/
  | lineEnd
  | fault (fault : QuoteFault)

namespace Escape

/-- No escape has this form. -/
def unknown : Escape :=
  fault (.invalid .form)

/-- The first code that is not even looked at. -/
def wordLimit : Nat := 0x80000000

/-- What a code stands for, given how many characters it takes. -/
def ofCode (code length : Nat) : Escape :=
  match CodePoint.ofCode? code with
  | some value => point value length
  | none => fault (.invalid (.literal (if wordLimit ≤ code then .tooLarge else .character)))

/-- Read a code in a number of digits. -/
def readCode (count : Nat) (text : List Char) : Escape :=
  let digits := text.take count
  match code? count digits with
  | some code => ofCode code (count + 1)
  | none =>
      if digits.length < count ∧ digits.all (fun digit => (hexDigit? digit).isSome) then
        fault .unclosed
      else unknown

/-- Read what follows a backslash. -/
def read : List Char → Escape
  | [] => fault .unclosed
  | char :: rest =>
      if isBreak char then if startsSeparator rest then unknown else lineEnd
      else
        match escape? char, codeLength? char with
        | some image, _ => point (.character image) 1
        | none, some count => readCode count rest
        | none, none => unknown

end Escape

/-- A quoted scalar that has been read. -/
structure Quoted where
  points : List CodePoint := []
  /-- How many characters it takes. -/
  length : Nat := 0

/-- A quoted scalar with more in front, which takes one character. -/
def Quoted.after (points : List CodePoint) (quoted : Quoted) : Quoted :=
  { points := points ++ quoted.points
    length := quoted.length + 1 }

/-- The code points that a gap stands for if the scalar goes on. -/
def Gap.points (gap : Gap) : List CodePoint :=
  gap.text.map .character

/-- Read a quoted scalar after its opening quote; `skip` characters belong to what has been read. -/
def quotedFrom (double : Bool) (skip : Nat) (gap : Gap) : List Char → Except QuoteFault Quoted
  | [] => .error .unclosed
  | char :: rest =>
      let goOn (points : List CodePoint) (skip : Nat) (gap : Gap) :=
        Quoted.after points <$> quotedFrom double skip gap rest
      let stop : Except QuoteFault Quoted := .ok { points := gap.points, length := 1 }
      match skip with
      | skip + 1 => goOn [] skip gap
      | 0 =>
          if isBreak char then
            if startsSeparator rest then .error (.invalid .form)
            else goOn [] 0 (gap.addBreak char)
          else if char = ' ' ∨ char = '\t' then goOn [] 0 (gap.addBlank char)
          else if double ∧ char = '"' then stop
          else if double ∧ char = '\\' then
            match Escape.read rest with
            | .point point length => goOn (gap.points ++ [point]) length .none
            | .lineEnd => goOn gap.points 1 (.joined [])
            | .fault fault => .error fault
          else if !double ∧ char = '\'' then
            if rest.head? = some '\'' then goOn (gap.points ++ [.character '\'']) 1 .none
            else stop
          else goOn (gap.points ++ [.character char]) 0 .none

/-! ## Block scalars -/

/-- A line with the character that ends it; the last line of a text may have none. -/
abbrev Line := List Char × Option Char

/-- The lines of a text, the first of which starts with the given characters, backwards. -/
def linesFrom (start : List Char) : List Char → List Line
  | [] => [(start.reverse, none)]
  | char :: rest =>
      if isBreak char then (start.reverse, some char) :: linesFrom [] rest
      else linesFrom (char :: start) rest

/-- The number of characters of a line. -/
def lineLength (line : Line) : Nat :=
  line.1.length + (if line.2.isSome then 1 else 0)

/-- What becomes of the line ends after the text of a block. -/
inductive Chomping where
  /-- One is kept. -/
  | clip
  /-- None is kept. -/
  | strip
  /-- All are kept. -/
  | keep
  deriving DecidableEq, Repr

/-- The chomping that a sign asks for. -/
def Chomping.ofChar? (char : Char) : Option Chomping :=
  if char = '+' then some keep else if char = '-' then some strip else none

/-- The number that a digit from one to nine stands for. -/
def increment? (char : Char) : Option Nat :=
  if char.isDigit ∧ char ≠ '0' then some (char.toNat - '0'.toNat) else none

/-- Read the signs in the head of a block: how it ends and how much it is indented. -/
def blockSigns (text : List Char) : Chomping × Option Nat × List Char :=
  match text with
  | [] => (.clip, none, [])
  | first :: rest =>
      match Chomping.ofChar? first, rest with
      | some chomping, second :: others =>
          match increment? second with
          | some increment => (chomping, some increment, others)
          | none => (chomping, none, rest)
      | some chomping, [] => (chomping, none, [])
      | none, _ =>
          match increment? first with
          | none => (.clip, none, text)
          | some increment =>
              match rest with
              | second :: others =>
                  match Chomping.ofChar? second with
                  | some chomping => (chomping, some increment, others)
                  | none => (.clip, some increment, rest)
              | [] => (.clip, some increment, [])

/-- Whether a line holds nothing more than blanks and a comment. -/
def isIgnorable (text : List Char) : Bool :=
  gapFirst text && match text.dropWhile (· == ' ') with
    | [] => true
    | char :: _ => char == '#'

/-- The number of blanks at the head of a line. -/
def blanksOf (line : List Char) : Nat :=
  (line.takeWhile (· == ' ')).length

/-- The indentation of a block that does not state it: the largest one up to its first text. -/
def blockIndentation : List Line → Nat
  | [] => 0
  | (text, ending) :: rest =>
      if blanksOf text = text.length ∧ ending.isSome then max text.length (blockIndentation rest)
      else blanksOf text

/-- Whether a text starts with something other than a blank or a tab. -/
def startsFlush : List Char → Bool
  | [] => true
  | char :: _ => !(char == ' ' || char == '\t')

/-- The lines of a block read so far. -/
structure BlockState where
  /-- Whether the last line with a text starts flush, and how it ends. -/
  last : Option (Bool × Option Char) := none
  /-- The empty lines after it. -/
  breaks : List Char := []

/-- What stands between the last line with a text and the next. -/
def BlockState.joint (folded : Bool) (state : BlockState) (next : List Char) : List Char :=
  match state.last with
  | none => state.breaks
  | some (flush, ending) =>
      (if folded ∧ ending = some '\n' ∧ flush ∧ startsFlush next then
          (if state.breaks = [] then [' '] else [])
        else ending.toList) ++ state.breaks

/-- What stands after the last line with a text. -/
def BlockState.tail (chomping : Chomping) (state : BlockState) : List Char :=
  let ending := (state.last.bind (·.2)).toList
  match chomping with
  | .strip => []
  | .clip => ending
  | .keep => ending ++ state.breaks

/-- Read the lines of a block with a given indentation. -/
def blockLines (folded : Bool) (chomping : Chomping) (width : Nat) (state : BlockState) :
    List Line → List Char × Nat
  | [] => (state.tail chomping, 0)
  | (line, ending) :: rest =>
      let text := line.drop (min width (blanksOf line))
      let taken := lineLength (line, ending)
      match text, ending with
      | [], none => (state.tail chomping, 0)
      | [], some char =>
          let (later, count) :=
            blockLines folded chomping width
              { state with breaks := state.breaks ++ [breakText char] } rest
          (later, taken + count)
      | _ :: _, _ =>
          if blanksOf line < width then (state.tail chomping, 0)
          else
            let (later, count) :=
              blockLines folded chomping width
                { last := some (startsFlush text, ending.map breakText) } rest
            (state.joint folded text ++ text ++ later, taken + count)

/-- Read a block scalar after its sign, inside of something indented by less than `margin`. -/
def blockScalar (folded : Bool) (margin : Nat) (text : List Char) : Option (List Char × Nat) :=
  match linesFrom [] text with
  | [] => none
  | head :: body =>
      let (chomping, increment, rest) := blockSigns head.1
      if isIgnorable rest then
        let least := max 1 margin
        let width := match increment with
          | some increment => least + increment - 1
          | none => max least (blockIndentation body)
        let (text, taken) := blockLines folded chomping width {} body
        some (text, lineLength head + taken)
      else none

end SchemaDecl.Markup
