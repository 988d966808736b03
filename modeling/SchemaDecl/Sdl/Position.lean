/-!
# Positions in a text

A position is a line and a column, both counted from one.  A line ends at a line feed, at a carriage
return, or at the two together.
-/

namespace SchemaDecl.Sdl

/-- A line and a column, both counted from one. -/
structure Position where
  line : Nat
  column : Nat
  deriving DecidableEq, Repr

namespace Position

/-- The position `offset` characters after a given one.  A line break counts as passed once its
first character is. -/
def advance (line column : Nat) : Nat → List Char → Position
  | 0, _ => ⟨line, column⟩
  | _ + 1, [] => ⟨line, column⟩
  | 1, '\r' :: '\n' :: _ => ⟨line + 1, 0⟩
  | offset + 2, '\r' :: '\n' :: rest => advance (line + 1) 1 offset rest
  | offset + 1, char :: rest =>
      if char = '\n' ∨ char = '\r' then advance (line + 1) 1 offset rest
      else advance line (column + 1) offset rest

/-- The position of the character at an offset of a text. -/
def ofOffset (text : List Char) (offset : Nat) : Position :=
  advance 1 1 offset text

@[simp] theorem ofOffset_zero (text : List Char) : ofOffset text 0 = ⟨1, 1⟩ := by
  simp [ofOffset, advance]

end Position

/-- Put a character at the head of the first line. -/
def startLine (char : Char) : List (List Char) → List (List Char)
  | [] => [[char]]
  | first :: later => (char :: first) :: later

/-- The lines of a text; there is always at least one. -/
def lines : List Char → List (List Char)
  | [] => [[]]
  | '\r' :: '\n' :: rest => [] :: lines rest
  | char :: rest =>
      if char = '\n' ∨ char = '\r' then [] :: lines rest else startLine char (lines rest)

end SchemaDecl.Sdl
