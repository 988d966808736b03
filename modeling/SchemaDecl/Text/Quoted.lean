import SchemaDecl.Text.CodePoint
import SchemaDecl.Text.PrintTable

/-!
# Quoted texts in messages

Messages put texts between single quotes, or between double quotes if the text has single ones only.
A backslash and the chosen quote are written after a backslash.  Surrogates, and characters that do
not print, are written by their codes.
-/

namespace SchemaDecl.Text

/-- Whether a character prints. -/
def isPrintable (char : Char) : Bool :=
  if char.toNat < 0x80 then 0x20 ≤ char.toNat && char.toNat < 0x7f
  else !(unprintableRanges.any fun range => range.1 ≤ char.toNat && char.toNat ≤ range.2)

/-- A code in at least the given number of hexadecimal digits. -/
def codeDigits (width code : Nat) : List Char :=
  let digits := Nat.toDigits 16 code
  List.replicate (width - digits.length) '0' ++ digits

/-- The code of a character after a backslash and a letter for its size. -/
def codeEscape (code : Nat) : List Char :=
  if code < 0x100 then '\\' :: 'x' :: codeDigits 2 code
  else if code < 0x10000 then '\\' :: 'u' :: codeDigits 4 code
  else '\\' :: 'U' :: codeDigits 8 code

/-- A character between quotes of a kind. -/
def quotedChar (quote char : Char) : List Char :=
  if char = quote ∨ char = '\\' then ['\\', char]
  else if char = '\n' then ['\\', 'n']
  else if char = '\r' then ['\\', 'r']
  else if char = '\t' then ['\\', 't']
  else if isPrintable char then [char]
  else codeEscape char.toNat

/-- A code point between quotes of a kind. -/
def quotedPoint (quote : Char) : CodePoint → List Char
  | .character char => quotedChar quote char
  | point => codeEscape point.code

/-- The quote that is put around a text. -/
def quoteFor (text : List Char) : Char :=
  if text.contains '\'' && !text.contains '"' then '"' else '\''

/-- A text between quotes. -/
def quoted (text : CodeText) : String :=
  let quote := quoteFor text.replaced
  String.ofList (quote :: text.points.flatMap (quotedPoint quote) ++ [quote])

/-- A byte between quotes of a kind.  Only bytes of ASCII characters are written as such. -/
def quotedByte (quote : Char) (byte : UInt8) : List Char :=
  if byte < 0x80 then quotedChar quote (Char.ofNat byte.toNat) else codeEscape byte.toNat

/-- Bytes between quotes, with a letter before the first. -/
def quotedBytes (bytes : List UInt8) : String :=
  let quote := quoteFor (bytes.map fun byte => Char.ofNat byte.toNat)
  String.ofList ('b' :: quote :: bytes.flatMap (quotedByte quote) ++ [quote])

end SchemaDecl.Text
