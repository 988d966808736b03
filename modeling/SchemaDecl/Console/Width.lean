import SchemaDecl.Console.WidthTable

/-!
# Columns that texts take

A text takes as many columns as its characters, with two exceptions.  A joiner lets the character
after it take none, and a selector lets the character before it take the two columns of an emoji.
-/

namespace SchemaDecl.Console

/-- Whether a code point is in one of some ranges. -/
def inRanges (ranges : List (Nat × Nat)) (char : Char) : Bool :=
  ranges.any fun range => range.1 ≤ char.toNat && char.toNat ≤ range.2

/-- The number of columns that a character takes by itself. -/
def charWidth (char : Char) : Nat :=
  if 0x20 ≤ char.toNat ∧ char.toNat < 0x7f then 1
  else if inRanges zeroRanges char then 0
  else if inRanges wideRanges char then 2
  else 1

/-- The character that joins those around it. -/
def joiner : Char := '\u200D'

/-- The character that makes an emoji of the one before it. -/
def selector : Char := '\uFE0F'

/-- The columns that a selector adds after a character. -/
def gain (last : Option Char) : Nat :=
  if last.any (inRanges emojiRanges) then 1 else 0

/-- The columns that a text takes, given the last character before it that takes any.  The first
`skip` characters do not count. -/
def widthFrom (skip : Nat) (last : Option Char) : List Char → Nat
  | [] => 0
  | char :: rest =>
      match skip with
      | skip + 1 => widthFrom skip last rest
      | 0 =>
          if char = joiner then widthFrom 1 last rest
          else if char = selector then gain last + widthFrom 0 none rest
          else
            charWidth char + widthFrom 0 (if charWidth char = 0 then last else some char) rest

/-- The number of columns that a text takes. -/
def textWidth (text : List Char) : Nat :=
  widthFrom 0 none text

/-! ## Signs -/

/-- Characters that are not cut apart, and the columns they take together. -/
structure Sign where
  chars : List Char
  columns : Nat

/-- Add a character to the last of some signs, which come backwards. -/
def extendLast (char : Char) (columns : Nat) : List Sign → List Sign
  | [] => [⟨[char], 0⟩]
  | last :: others => ⟨last.chars ++ [char], last.columns + columns⟩ :: others

/-- The signs of a text after those read before, which come backwards.  The next `joined` characters
belong to the last sign. -/
def signsFrom (read : List Sign) (joined : Nat) (last : Option Char) : List Char → List Sign
  | [] => read.reverse
  | char :: rest =>
      match joined with
      | joined + 1 => signsFrom (extendLast char 0 read) joined last rest
      | 0 =>
          if char = joiner then
            signsFrom (extendLast char 0 read) (if read.isEmpty then 0 else 1) last rest
          else if char = selector then signsFrom (extendLast char (gain last) read) 0 none rest
          else if charWidth char = 0 then signsFrom (extendLast char 0 read) 0 last rest
          else signsFrom (⟨[char], charWidth char⟩ :: read) 0 (some char) rest

/-- The signs of a text. -/
def signs (text : List Char) : List Sign :=
  signsFrom [] 0 none text

/-- Cut signs into pieces that take a number of columns at most, given the beginning of the first
piece. -/
def cutFrom (size : Nat) (piece : List Char) (columns : Nat) : List Sign → List (List Char)
  | [] => [piece]
  | sign :: rest =>
      if columns + sign.columns ≤ size then
        cutFrom size (piece ++ sign.chars) (columns + sign.columns) rest
      else piece :: cutFrom size sign.chars sign.columns rest

/-- Cut a text into pieces that take a number of columns at most. -/
def cut (size : Nat) (text : List Char) : List (List Char) :=
  cutFrom size [] 0 (signs text)

/-- The signs that fit into a number of columns.  A blank takes the place of half a sign. -/
def fitting (size : Nat) : List Sign → List Char
  | [] => []
  | sign :: rest =>
      if size = 0 then []
      else if sign.columns ≤ size then sign.chars ++ fitting (size - sign.columns) rest
      else [' ']

/-- A text without what is beyond a number of columns. -/
def clipColumns (size : Nat) (text : List Char) : List Char :=
  if textWidth text ≤ size then text else fitting size (signs text)

end SchemaDecl.Console
