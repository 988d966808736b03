import SchemaDecl.Sdl.Token
import SchemaDecl.Sdl.Position

/-!
# Faults of schema texts

A fault has a cause and an offset.  The causes are those of the lexer and those of the grammar; the
wording of all of them is here.
-/

namespace SchemaDecl.Sdl

/-- A character as reports name it: itself between quotes if it is printable ASCII, its code point
otherwise. -/
def describeChar (char : Char) : String :=
  if char = '"' then "'\"'"
  else if 0x20 ≤ char.toNat ∧ char.toNat ≤ 0x7e then "'" ++ char.toString ++ "'"
  else "U+" ++ codePoint char.toNat
where
  /-- A code point in upper-case hexadecimal digits, at least four. -/
  codePoint (code : Nat) : String :=
    let digits := (Nat.toDigits 16 code).map Char.toUpper
    String.ofList (List.replicate (4 - digits.length) '0' ++ digits)

/-- What is named for the end of a text. -/
def endName : String := "<EOF>"

namespace LexicalFault

/-- The wording of a lexical fault. -/
def message : LexicalFault → String
  | unexpectedCharacter char => "Unexpected character: " ++ describeChar char ++ "."
  | singleQuote =>
      "Unexpected single quote character ('), did you mean to use a double quote (\")?"
  | doubleDot => "Unexpected '..', did you mean '...'?"
  | missingInteger digits =>
      "Invalid number, expected digit before '.', did you mean '0." ++ digits ++ "'?"
  | digitAfterZero char =>
      "Invalid number, unexpected digit after 0: " ++ describeChar char ++ "."
  | missingDigit char =>
      "Invalid number, expected digit but got: " ++
        (match char with
          | none => endName
          | some char => describeChar char) ++ "."
  | unterminatedString => "Unterminated string."
  | invalidEscape text => "Invalid character escape sequence: '" ++ text ++ "'."
  | invalidUnicodeEscape text => "Invalid Unicode escape sequence: '" ++ text ++ "'."

end LexicalFault

/-- A token, or the end of the text, as reports name it. -/
def describeFound : Option Lexeme → String
  | none => endName
  | some lexeme => lexeme.describe

/-- Why a text is no schema. -/
inductive Cause where
  | lexical (fault : LexicalFault)
  /-- One token was called for and another found. -/
  | expected (wanted : String) (found : Option Lexeme)
  /-- No rule goes on with the token found. -/
  | unexpected (found : Option Lexeme)
  | variableInConstant (name : String)
  | reservedEnumValue (found : Lexeme)
  | describedShorthand
  | describedOther
  | nestedTooDeeply
  deriving DecidableEq, Repr

namespace Cause

/-- The wording of a cause. -/
def message : Cause → String
  | lexical fault => fault.message
  | expected wanted found => "Expected " ++ wanted ++ ", found " ++ describeFound found ++ "."
  | unexpected found => "Unexpected " ++ describeFound found ++ "."
  | variableInConstant name => "Unexpected variable '$" ++ name ++ "' in constant value."
  | reservedEnumValue found =>
      found.describe ++ " is reserved and cannot be used for an enum value."
  | describedShorthand =>
      "Unexpected description, descriptions are not supported on shorthand queries."
  | describedOther => "Unexpected description, only GraphQL definitions support descriptions."
  | nestedTooDeeply => "Document is nested too deeply. Parsing aborted."

end Cause

/-- A fault of a text. -/
structure Fault where
  cause : Cause
  offset : Nat
  deriving DecidableEq, Repr

namespace Fault

/-- The wording of a fault, without its position. -/
def message (fault : Fault) : String :=
  "Syntax Error: " ++ fault.cause.message

/-- The position of a fault in its text. -/
def position (fault : Fault) (text : String) : Position :=
  .ofOffset text.toList fault.offset

end Fault

end SchemaDecl.Sdl
