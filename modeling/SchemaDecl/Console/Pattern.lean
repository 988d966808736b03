/-!
# Patterns of characters

A pattern tells which parts of a text are looked for.  Where it can be found in several ways, the
first is chosen: the first of two alternatives, and of repetitions the longest or the shortest one.
Places in a pattern can be marked, and what is looked for are the ranges of these marks.
-/

namespace SchemaDecl.Console

/-- A pattern of characters. -/
inductive Pattern where
  /-- One character of a kind. -/
  | one (holds : Char → Bool)
  /-- A place by the character before it and the one after it. -/
  | between (holds : Option Char → Option Char → Bool)
  /-- One pattern after the other. -/
  | next (first second : Pattern)
  /-- The first pattern, or else the second. -/
  | either (first second : Pattern)
  /-- A pattern a number of times, as often as possible or as rarely. -/
  | times (least : Nat) (most : Option Nat) (eager : Bool) (inner : Pattern)
  /-- A pattern with a mark on what it is found in. -/
  | marked (inner : Pattern)

/-- A range of characters, by the indices of its first one and of the one after its last. -/
abbrev Range := Nat × Nat

/-- A place in a text. -/
structure Place where
  before : Option Char := none
  rest : List Char
  index : Nat := 0
  /-- The ranges that have been marked on the way. -/
  marks : List Range := []

namespace Place

/-- The place after the next character. -/
def pass (place : Place) (char : Char) (rest : List Char) : Place :=
  { place with before := some char, rest, index := place.index + 1 }

/-- The place with a mark on the characters before it from an index on. -/
def mark (place : Place) (start : Nat) : Place :=
  { place with marks := (start, place.index) :: place.marks }

/-- The first of each group of places that have the same index, given the indices before. -/
def firstOfEach (seen : List Nat) : List Place → List Place
  | [] => []
  | place :: rest =>
      if seen.contains place.index then firstOfEach seen rest
      else place :: firstOfEach (place.index :: seen) rest

/-- The places that steps lead to, each step further than the one before. -/
def repeated (step : Place → List Place) (eager : Bool) (least : Nat) : Nat → Place → List Place
  | 0, place => if least = 0 then [place] else []
  | most + 1, place =>
      let further :=
        ((step place).filter fun after => place.index < after.index).flatMap
          (repeated step eager (least - 1) most)
      if least ≠ 0 then further else if eager then further ++ [place] else place :: further

end Place

namespace Pattern

/-- The places where a pattern can end that begins at a place, the first choice first. -/
def ends : Pattern → Place → List Place
  | one holds, place =>
      match place.rest with
      | [] => []
      | char :: rest => if holds char then [place.pass char rest] else []
  | between holds, place => if holds place.before place.rest.head? then [place] else []
  | next first second, place =>
      Place.firstOfEach [] ((first.ends place).flatMap fun middle => second.ends middle)
  | either first second, place => first.ends place ++ second.ends place
  | times least most eager inner, place =>
      Place.repeated (fun here => inner.ends here) eager least (most.getD place.rest.length) place
  | marked inner, place => (inner.ends place).map fun after => after.mark place.index

/-- The marks of a pattern wherever it is found from a place on.  What has been found is passed over
before the pattern is looked for again. -/
def marksFrom (pattern : Pattern) : Nat → Place → List Range
  | 0, _ => []
  | bound + 1, place =>
      match place.rest with
      | [] => []
      | char :: rest =>
          match (pattern.ends place).find? fun after => place.index < after.index with
          | some after => after.marks ++ marksFrom pattern bound { after with marks := [] }
          | none => marksFrom pattern bound (place.pass char rest)

/-- The marks of a pattern in a text, those that are empty left out. -/
def marks (pattern : Pattern) (text : List Char) : List Range :=
  (pattern.marksFrom text.length { rest := text }).filter fun range => range.1 < range.2

/-! ## Common patterns -/

/-- A character of a kind, written as a pattern. -/
def oneOf (chars : String) : Pattern :=
  one chars.toList.contains

/-- The characters of a text, one after the other. -/
def exactly : List Char → Pattern
  | [] => between fun _ _ => true
  | [char] => one (· == char)
  | char :: rest => next (one (· == char)) (exactly rest)

/-- The characters of a word, one after the other. -/
def word (text : String) : Pattern :=
  exactly text.toList

/-- Patterns one after the other. -/
def all : List Pattern → Pattern
  | [] => between fun _ _ => true
  | [pattern] => pattern
  | pattern :: rest => next pattern (all rest)

/-- The first of some patterns that is found. -/
def anyOf : List Pattern → Pattern
  | [] => between fun _ _ => false
  | [pattern] => pattern
  | pattern :: rest => either pattern (anyOf rest)

/-- A pattern once or not at all. -/
def maybe (inner : Pattern) : Pattern :=
  times 0 (some 1) true inner

/-- A pattern any number of times. -/
def many (inner : Pattern) : Pattern :=
  times 0 none true inner

/-- A pattern once or more often. -/
def several (inner : Pattern) : Pattern :=
  times 1 none true inner

/-- A pattern any number of times, but as rarely as possible. -/
def few (inner : Pattern) : Pattern :=
  times 0 none false inner

/-- A pattern a number of times between two bounds. -/
def upTo (least most : Nat) (inner : Pattern) : Pattern :=
  times least (some most) true inner

/-- A pattern a fixed number of times. -/
def fixed (count : Nat) (inner : Pattern) : Pattern :=
  times count (some count) true inner

end Pattern

end SchemaDecl.Console
