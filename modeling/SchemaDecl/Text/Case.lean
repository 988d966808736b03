import SchemaDecl.Text.CaseTable

/-!
# Letter case of characters and texts

A character maps to one or more characters of the other case.  ASCII characters are treated apart
from the tables, so that a statement about plain names does not depend on them.  In a text, the
lower case of a capital sigma depends on its place: at the end of a word it is the final form.
-/

namespace SchemaDecl.Text

/-- Look a code point up in a table of shifts. -/
def shift? (runs : List ShiftRun) (code : Nat) : Option Char :=
  (runs.find? fun run => run.holds code).map fun run => Char.ofNat (Int.toNat (code + run.shift))

/-- Look a code point up in a table of sequences, then in a table of shifts. -/
def mapping? (sequences : List (Nat × List Nat)) (shifts : List ShiftRun) (char : Char) :
    Option (List Char) :=
  ((sequences.lookup char.toNat).map fun codes => codes.map Char.ofNat).or
    ((shift? shifts char.toNat).map fun image => [image])

/-- The upper-case form of a character. -/
def upper (char : Char) : List Char :=
  if char.toNat < 128 then [char.toUpper]
  else (mapping? upperSequences upperShifts char).getD [char]

/-- The lower-case form of a character, wherever it stands. -/
def lower (char : Char) : List Char :=
  if char.toNat < 128 then [char.toLower]
  else (mapping? lowerSequences lowerShifts char).getD [char]

/-- The form of a character at the head of a capitalised word. -/
def title (char : Char) : List Char :=
  if char.toNat < 128 then [char.toUpper]
  else (mapping? titleSequences titleShifts char).getD (upper char)

/-- Whether a code point is a member of one of the runs. -/
def inRuns (runs : List Run) (char : Char) : Bool :=
  runs.any fun run => run.holds char.toNat

/-- Whether a character is an upper-case letter. -/
def isUpper (char : Char) : Bool :=
  if char.toNat < 128 then char.isUpper else inRuns uppercaseRuns char

/-- Whether a character is a lower-case letter. -/
def isLower (char : Char) : Bool :=
  if char.toNat < 128 then char.isLower else inRuns lowercaseRuns char

/-- Whether a character is a titlecase letter.  There is none in ASCII. -/
def isTitle (char : Char) : Bool :=
  if char.toNat < 128 then false else inRuns titlecaseRuns char

/-- Whether a character has case. -/
def isCased (char : Char) : Bool :=
  isUpper char || isLower char || isTitle char

/-- Whether a character leaves the word around it connected, as an apostrophe does. -/
def isIgnorable (char : Char) : Bool :=
  inRuns ignorableRuns char

/-- Whether the first character that is not ignorable has case. -/
def startsCased (text : List Char) : Bool :=
  match text.dropWhile isIgnorable with
  | [] => false
  | char :: _ => isCased char

/-- Whether the word before a place goes on after `char`, given whether it reached `char`. -/
def casedAfter (cased : Bool) (char : Char) : Bool :=
  if isIgnorable char then cased else isCased char

/-- The lower-case form of a text; `cased` tells whether a word with case ends before it. -/
def lowerFrom (cased : Bool) : List Char → List Char
  | [] => []
  | char :: rest =>
      (if char = 'Σ' then [if cased && !startsCased rest then 'ς' else 'σ'] else lower char) ++
        lowerFrom (casedAfter cased char) rest

/-- The lower-case form of a text. -/
def lowered (text : List Char) : List Char :=
  lowerFrom false text

/-- The upper-case form of a text. -/
def uppered (text : List Char) : List Char :=
  text.flatMap upper

/-- The text with its first character in title case and the others in lower case. -/
def capitalized : List Char → List Char
  | [] => []
  | char :: rest => title char ++ lowerFrom (casedAfter false char) rest

/-- Whether a text has an upper-case letter and no letter of another case. -/
def isUpperText (text : List Char) : Bool :=
  text.any isUpper && text.all fun char => !(isLower char || isTitle char)

@[simp] theorem lowerFrom_nil (cased : Bool) : lowerFrom cased [] = [] := rfl

@[simp] theorem uppered_nil : uppered [] = [] := rfl

@[simp] theorem uppered_cons (char : Char) (rest : List Char) :
    uppered (char :: rest) = upper char ++ uppered rest := by
  simp [uppered]

@[simp] theorem capitalized_nil : capitalized [] = [] := rfl

theorem upper_ascii {char : Char} (ascii : char.toNat < 128) : upper char = [char.toUpper] := by
  simp [upper, ascii]

theorem lower_ascii {char : Char} (ascii : char.toNat < 128) : lower char = [char.toLower] := by
  simp [lower, ascii]

theorem title_ascii {char : Char} (ascii : char.toNat < 128) : title char = [char.toUpper] := by
  simp [title, ascii]

end SchemaDecl.Text
