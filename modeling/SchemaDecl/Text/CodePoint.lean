/-!
# Texts of code points

A code point is a character, or a surrogate: half of a pair of UTF-16 units, which is no character
by itself.  A text of code points can hold surrogates, where a string cannot.  Such a text can be
worked with like any other, but it has no bytes.
-/

namespace SchemaDecl

/-- A character or a surrogate. -/
inductive CodePoint where
  | character (char : Char)
  /-- The surrogate of the code `0xD800 + offset`. -/
  | surrogate (offset : Fin 0x800)
  deriving DecidableEq, Repr

namespace CodePoint

/-- The code of the first surrogate. -/
def firstSurrogate : Nat := 0xD800

/-- The first code that is beyond those of code points. -/
def codeLimit : Nat := 0x110000

/-- The code of a code point. -/
def code : CodePoint → Nat
  | character char => char.toNat
  | surrogate offset => firstSurrogate + offset

/-- The code point of a code. -/
def ofCode? (code : Nat) : Option CodePoint :=
  if code.isValidChar then some (character (Char.ofNat code))
  else if firstSurrogate ≤ code ∧ code < codeLimit then
    some (surrogate (Fin.ofNat 0x800 (code - firstSurrogate)))
  else none

/-- The character that a code point is. -/
def char? : CodePoint → Option Char
  | character char => some char
  | surrogate _ => none

/-- The character that stands in for surrogates. -/
def replacement : Char := '\uFFFD'

/-- A code point as a character.  Surrogates are replaced. -/
def charOrReplacement (point : CodePoint) : Char :=
  point.char?.getD replacement

end CodePoint

/-- A text of code points. -/
structure CodeText where
  points : List CodePoint
  deriving DecidableEq, Repr, Inhabited

namespace CodeText

/-- The text of some characters. -/
def ofChars (chars : List Char) : CodeText :=
  ⟨chars.map .character⟩

/-- A string as a text of code points. -/
def ofString (text : String) : CodeText :=
  ofChars text.toList

/-- A string is a text without surrogates. -/
instance : Coe String CodeText := ⟨ofString⟩

/-- Texts are joined by joining their code points. -/
instance : Append CodeText := ⟨fun left right => ⟨left.points ++ right.points⟩⟩

/-- The text without code points. -/
def empty : CodeText := ⟨[]⟩

/-- Texts one after the other. -/
def join (texts : List CodeText) : CodeText :=
  ⟨texts.flatMap points⟩

/-- Texts one after the other, with another between them. -/
def intercalate (separator : CodeText) (texts : List CodeText) : CodeText :=
  ⟨separator.points.intercalate (texts.map points)⟩

/-- The characters of a text, unless there are surrogates in it. -/
def chars? (text : CodeText) : Option (List Char) :=
  text.points.mapM CodePoint.char?

/-- The string that a text is, unless there are surrogates in it. -/
def toString? (text : CodeText) : Option String :=
  text.chars?.map String.ofList

/-- Whether there are surrogates in a text. -/
def hasSurrogate (text : CodeText) : Bool :=
  text.points.any fun point => point.char?.isNone

/-- The characters of a text.  Surrogates are replaced. -/
def replaced (text : CodeText) : List Char :=
  text.points.map CodePoint.charOrReplacement

@[simp] theorem points_append (left right : CodeText) :
    (left ++ right).points = left.points ++ right.points := rfl

@[simp] theorem points_ofString (text : String) :
    (ofString text).points = text.toList.map .character := rfl

@[simp] theorem chars?_ofChars (chars : List Char) : (ofChars chars).chars? = some chars := by
  induction chars with
  | nil => rfl
  | cons first rest ih =>
      have tail : (rest.map CodePoint.character).mapM CodePoint.char? = some rest := ih
      simp [chars?, ofChars, CodePoint.char?, tail]

@[simp] theorem toString?_ofString (text : String) : (ofString text).toString? = some text := by
  simp [toString?, ofString]

theorem ofString_injective {left right : String} (same : ofString left = ofString right) :
    left = right := by
  have strings := congrArg toString? same
  simpa using strings

@[simp] theorem ofString_inj {left right : String} :
    ofString left = ofString right ↔ left = right :=
  ⟨ofString_injective, fun same => same ▸ rfl⟩

end CodeText

end SchemaDecl
