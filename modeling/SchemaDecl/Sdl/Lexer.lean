import SchemaDecl.Sdl.BlockString
import SchemaDecl.Sdl.Token

/-!
# Reading tokens

`Tokens.ofText` reads a text from left to right.  Each token is read with all of the remaining text
in view, and the reader tells how many characters the token takes; these are then passed over one by
one.  A fault ends the tokens and is kept with its offset.
-/

namespace SchemaDecl.Sdl

/-- A fault of a token, at a number of characters after the start of what is read. -/
abbrev FaultAt := LexicalFault × Nat

/-- Characters that separate tokens. -/
def isIgnored (char : Char) : Bool :=
  char == ' ' || char == '\t' || char == '\n' || char == '\r' || char == ',' || char == '\uFEFF'

/-- Characters that end a line. -/
def isLineBreak (char : Char) : Bool :=
  char == '\n' || char == '\r'

/-- Characters a name may start with. -/
def isNameStart (char : Char) : Bool :=
  char.isAlpha || char == '_'

/-- Characters a name may go on with. -/
def isNamePart (char : Char) : Bool :=
  char.isAlphanum || char == '_'

/-! ## Numbers -/

/-- The number of digits at the head of a text, of which there must be one.  A fault is reported
`offset` characters after the start of the number. -/
def digitCount (offset : Nat) (text : List Char) : Except FaultAt Nat :=
  match (text.takeWhile Char.isDigit).length with
  | 0 => .error (.missingDigit text.head?, offset)
  | count => .ok count

/-- The length of the integer part at the head of a text. -/
def integerLength (offset : Nat) : List Char → Except FaultAt Nat
  | '0' :: next :: _ =>
      if next.isDigit then .error (.digitAfterZero next, offset + 1) else .ok 1
  | ['0'] => .ok 1
  | text => digitCount offset text

/-- The length of the fractional part at the head of a text. -/
def fractionLength (offset : Nat) : List Char → Except FaultAt Nat
  | '.' :: rest => (digitCount (offset + 1) rest).map (· + 1)
  | _ => .ok 0

/-- The length of the exponent after its letter. -/
def signedLength (offset : Nat) : List Char → Except FaultAt Nat
  | '+' :: rest => (digitCount (offset + 1) rest).map (· + 1)
  | '-' :: rest => (digitCount (offset + 1) rest).map (· + 1)
  | text => digitCount offset text

/-- The length of the exponent at the head of a text. -/
def exponentLength (offset : Nat) : List Char → Except FaultAt Nat
  | 'e' :: rest => (signedLength (offset + 1) rest).map (· + 1)
  | 'E' :: rest => (signedLength (offset + 1) rest).map (· + 1)
  | _ => .ok 0

/-- A number may not run into a point or a name. -/
def checkNumberEnd (offset : Nat) : List Char → Except FaultAt Unit
  | char :: _ =>
      if char == '.' || isNameStart char then .error (.missingDigit (some char), offset) else .ok ()
  | [] => .ok ()

/-- The number at the head of a text, with its length. -/
def readNumber (text : List Char) : Except FaultAt (Lexeme × Nat) := do
  let sign := if text.head? = some '-' then 1 else 0
  let integer ← integerLength sign (text.drop sign)
  let afterInteger := sign + integer
  let fraction ← fractionLength afterInteger (text.drop afterInteger)
  let afterFraction := afterInteger + fraction
  let exponent ← exponentLength afterFraction (text.drop afterFraction)
  let length := afterFraction + exponent
  checkNumberEnd length (text.drop length)
  let digits := String.ofList (text.take length)
  return (if fraction + exponent = 0 then .int digits else .float digits, length)

/-! ## Strings -/

/-- The value of a hexadecimal digit. -/
def hexDigit? (char : Char) : Option Nat :=
  if char.isDigit then some (char.toNat - '0'.toNat)
  else if 'a' ≤ char ∧ char ≤ 'f' then some (char.toNat - 'a'.toNat + 10)
  else if 'A' ≤ char ∧ char ≤ 'F' then some (char.toNat - 'A'.toNat + 10)
  else none

/-- The number that hexadecimal digits stand for. -/
def hexNumber? (digits : List Char) : Option Nat :=
  digits.foldlM (fun number digit => (hexDigit? digit).map (number * 16 + ·)) 0

/-- The character with a code point, unless it is a surrogate or too large. -/
def scalar? (code : Nat) : Option Char :=
  if code.isValidChar then some (Char.ofNat code) else none

/-- The character that one character after a backslash stands for. -/
def simpleEscape? (char : Char) : Option Char :=
  match char with
  | '"' => some '"'
  | '\\' => some '\\'
  | '/' => some '/'
  | 'b' => some '\x08'
  | 'f' => some '\x0c'
  | 'n' => some '\n'
  | 'r' => some '\r'
  | 't' => some '\t'
  | _ => none

/-- The number that exactly four hexadecimal digits at the head of a text stand for. -/
def fourDigits? (text : List Char) : Option Nat :=
  if (text.take 4).length = 4 then hexNumber? (text.take 4) else none

/-- The code point of a pair of surrogates. -/
def surrogatePair? (high low : Nat) : Option Nat :=
  if 0xd800 ≤ high ∧ high < 0xdc00 ∧ 0xdc00 ≤ low ∧ low < 0xe000 then
    some (0x10000 + (high - 0xd800) * 0x400 + (low - 0xdc00))
  else none

/-- Read a second escape of a pair of surrogates whose first one has been read. -/
def trailingEscape? (high : Nat) : List Char → Option Char
  | '\\' :: 'u' :: rest => do
      let low ← fourDigits? rest
      let code ← surrogatePair? high low
      scalar? code
  | _ => none

/-- Read an escape with four digits, given what follows its letter. -/
def fixedEscape (rest : List Char) : Except LexicalFault (Char × Nat) :=
  let fault := LexicalFault.invalidUnicodeEscape (String.ofList ('\\' :: 'u' :: rest.take 4))
  match fourDigits? rest with
  | none => .error fault
  | some code =>
      match scalar? code with
      | some char => .ok (char, 5)
      | none =>
          match trailingEscape? code (rest.drop 4) with
          | some char => .ok (char, 11)
          | none => .error fault

/-- Read an escape with its digits in braces, given what follows the opening brace. -/
def bracedEscape (rest : List Char) : Except LexicalFault (Char × Nat) :=
  let window := rest.take 9
  let digits := window.takeWhile fun char => (hexDigit? char).isSome
  let next := window[digits.length]?
  let fault := LexicalFault.invalidUnicodeEscape
    (String.ofList ('\\' :: 'u' :: '\x7b' :: digits ++ next.toList))
  if digits = [] ∨ next ≠ some '\x7d' then .error fault
  else
    match (hexNumber? digits).bind scalar? with
    | some char => .ok (char, digits.length + 3)
    | none => .error fault

/-- Read an escape, given what follows the backslash: the character and how many it takes. -/
def readEscape : List Char → Except LexicalFault (Char × Nat)
  | 'u' :: '\x7b' :: rest => bracedEscape rest
  | 'u' :: rest => fixedEscape rest
  | char :: _ =>
      match simpleEscape? char with
      | some image => .ok (image, 1)
      | none => .error (.invalidEscape (String.ofList ['\\', char]))
  | [] => .error (.invalidEscape "\\")

/-- Read a string after its opening quote: its characters and how many it takes.  The first `skip`
characters belong to an escape that has been read. -/
def stringFrom (taken skip : Nat) : List Char → Except FaultAt (List Char × Nat)
  | [] => .error (.unterminatedString, taken)
  | char :: rest =>
      match skip with
      | skip + 1 => stringFrom (taken + 1) skip rest
      | 0 =>
          if char = '"' then .ok ([], taken + 1)
          else if isLineBreak char then .error (.unterminatedString, taken)
          else if char = '\\' then
            match readEscape rest with
            | .error fault => .error (fault, taken)
            | .ok (image, size) =>
                (stringFrom (taken + 1) size rest).map fun result => (image :: result.1, result.2)
          else (stringFrom (taken + 1) 0 rest).map fun result => (char :: result.1, result.2)

/-- Read the lines of a block string after its opening quotes, and how many characters they take.
The current line is given backwards; the first `skip` characters have been read. -/
def blockFrom (taken skip : Nat) (line : List Char) :
    List Char → Except FaultAt (List (List Char) × Nat)
  | [] => .error (.unterminatedString, taken)
  | char :: rest =>
      match skip with
      | skip + 1 => blockFrom (taken + 1) skip line rest
      | 0 =>
          if char = '"' ∧ rest.take 2 = ['"', '"'] then .ok ([line.reverse], taken + 3)
          else if char = '\\' ∧ rest.take 3 = ['"', '"', '"'] then
            blockFrom (taken + 1) 3 ('"' :: '"' :: '"' :: line) rest
          else if isLineBreak char then
            let skip := if char = '\r' ∧ rest.head? = some '\n' then 1 else 0
            (blockFrom (taken + 1) skip [] rest).map fun result =>
              (line.reverse :: result.1, result.2)
          else blockFrom (taken + 1) 0 (char :: line) rest

/-- Read a string or a block string, given what follows its first quote. -/
def readString : List Char → Except FaultAt (Lexeme × Nat)
  | '"' :: '"' :: rest =>
      (blockFrom 3 0 [] rest).map fun result =>
        (.blockString (String.ofList (blockText result.1)), result.2)
  | rest =>
      (stringFrom 1 0 rest).map fun result => (.string (String.ofList result.1), result.2)

/-! ## Texts -/

/-- Read what starts with a point, given what follows it. -/
def readPoint : List Char → Except FaultAt (Lexeme × Nat)
  | '.' :: '.' :: _ => .ok (.mark .spread, 3)
  | '.' :: _ => .error (.doubleDot, 0)
  | rest =>
      match rest.takeWhile Char.isDigit with
      | [] => .error (.unexpectedCharacter '.', 0)
      | digits => .error (.missingInteger (String.ofList digits), 0)

/-- Read the token that starts with a given character and its length, given what follows. -/
def readLexeme (char : Char) (rest : List Char) : Except FaultAt (Lexeme × Nat) :=
  if isNameStart char then
    let word := char :: rest.takeWhile isNamePart
    .ok (.name (String.ofList word), word.length)
  else if char.isDigit || char == '-' then readNumber (char :: rest)
  else if char = '"' then readString rest
  else if char = '.' then readPoint rest
  else if char = '\'' then .error (.singleQuote, 0)
  else
    match Mark.ofChar? char with
    | some mark => .ok (.mark mark, 1)
    | none => .error (.unexpectedCharacter char, 0)

namespace Tokens

/-- Read a text that starts at an offset.  Its first `skip` characters belong to what has been read.
-/
def readFrom (offset skip : Nat) : List Char → Tokens
  | [] => ⟨[], ⟨none, offset⟩⟩
  | char :: rest =>
      match skip with
      | skip + 1 => Tokens.readFrom (offset + 1) skip rest
      | 0 =>
          if isIgnored char then Tokens.readFrom (offset + 1) 0 rest
          else if char = '#' then
            Tokens.readFrom (offset + 1) (rest.takeWhile fun char => !isLineBreak char).length rest
          else
            match readLexeme char rest with
            | .error (fault, place) => ⟨[], ⟨some fault, offset + place⟩⟩
            | .ok (lexeme, length) =>
                (Tokens.readFrom (offset + 1) (length - 1) rest).cons ⟨lexeme, offset⟩

/-- The tokens of a text. -/
def ofText (text : String) : Tokens :=
  Tokens.readFrom 0 0 text.toList

end Tokens

end SchemaDecl.Sdl
