/-!
# Tokens of the schema language

A text is read as punctuation, names, numbers and strings, each with the offset at which it starts.
The last token is followed by the end of the text, or by characters that form no token.
-/

namespace SchemaDecl.Sdl

/-- The punctuation marks. -/
inductive Mark where
  | bang
  | dollar
  | ampersand
  | parenLeft
  | parenRight
  | spread
  | colon
  | equals
  | atSign
  | bracketLeft
  | bracketRight
  | braceLeft
  | pipe
  | braceRight
  deriving DecidableEq, Repr

namespace Mark

/-- The text of a punctuation mark. -/
def text : Mark → String
  | bang => "!"
  | dollar => "$"
  | ampersand => "&"
  | parenLeft => "("
  | parenRight => ")"
  | spread => "..."
  | colon => ":"
  | equals => "="
  | atSign => "@"
  | bracketLeft => "["
  | bracketRight => "]"
  | braceLeft => "\x7b"
  | pipe => "|"
  | braceRight => "\x7d"

/-- The punctuation mark that is one given character. -/
def ofChar? (char : Char) : Option Mark :=
  match char with
  | '!' => some bang
  | '$' => some dollar
  | '&' => some ampersand
  | '(' => some parenLeft
  | ')' => some parenRight
  | ':' => some colon
  | '=' => some equals
  | '@' => some atSign
  | '[' => some bracketLeft
  | ']' => some bracketRight
  | '\x7b' => some braceLeft
  | '|' => some pipe
  | '\x7d' => some braceRight
  | _ => none

end Mark

/-- What a token is. -/
inductive Lexeme where
  | mark (mark : Mark)
  | name (text : String)
  | int (digits : String)
  | float (digits : String)
  | string (text : String)
  | blockString (text : String)
  deriving DecidableEq, Repr

namespace Lexeme

/-- A token as reports name it. -/
def describe : Lexeme → String
  | .mark sign => "'" ++ sign.text ++ "'"
  | name text => "Name '" ++ text ++ "'"
  | int digits => "Int '" ++ digits ++ "'"
  | float digits => "Float '" ++ digits ++ "'"
  | string text => "String '" ++ text ++ "'"
  | blockString text => "BlockString '" ++ text ++ "'"

/-- The text a token carries.  A punctuation mark carries none. -/
def content? : Lexeme → Option String
  | .mark _ => none
  | name text => some text
  | int digits => some digits
  | float digits => some digits
  | string text => some text
  | blockString text => some text

end Lexeme

/-- A token with the offset of its first character. -/
structure Token where
  lexeme : Lexeme
  offset : Nat
  deriving DecidableEq, Repr

/-- Why characters form no token. -/
inductive LexicalFault where
  | unexpectedCharacter (char : Char)
  | singleQuote
  | doubleDot
  | missingInteger (digits : String)
  | digitAfterZero (char : Char)
  /-- The character in the place of a digit, or none at the end of the text. -/
  | missingDigit (char : Option Char)
  | unterminatedString
  | invalidEscape (text : String)
  | invalidUnicodeEscape (text : String)
  deriving DecidableEq, Repr

/-- What follows the last token: the end of the text or a fault, at an offset. -/
structure Ending where
  fault : Option LexicalFault
  offset : Nat
  deriving DecidableEq, Repr

/-- The tokens of a text. -/
structure Tokens where
  items : List Token
  ending : Ending
  deriving DecidableEq, Repr

namespace Tokens

/-- The current token, or none at the end. -/
def head? (tokens : Tokens) : Option Lexeme :=
  tokens.items.head?.map Token.lexeme

/-- The offset of the current token. -/
def offset (tokens : Tokens) : Nat :=
  match tokens.items with
  | [] => tokens.ending.offset
  | token :: _ => token.offset

/-- Put a token in front. -/
def cons (token : Token) (tokens : Tokens) : Tokens :=
  { tokens with items := token :: tokens.items }

end Tokens

end SchemaDecl.Sdl
