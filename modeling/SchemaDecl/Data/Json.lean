import SchemaDecl.Data
import SchemaDecl.Text.Quoted

/-!
# Writing data as JSON

Data with text keys are written over several lines, with two blanks of indentation per level.  An
empty list or mapping stays on its line.  Characters beyond ASCII and surrogates are written as
escapes of UTF-16 units.
-/

namespace SchemaDecl.Data.Json

/-- Four lower-case hexadecimal digits. -/
def unit (code : Nat) : List Char :=
  let digits := Nat.toDigits 16 code
  ['\\', 'u'] ++ List.replicate (4 - digits.length) '0' ++ digits

/-- One character inside a quoted text. -/
def character (char : Char) : List Char :=
  match char with
  | '"' => ['\\', '"']
  | '\\' => ['\\', '\\']
  | '\n' => ['\\', 'n']
  | '\r' => ['\\', 'r']
  | '\t' => ['\\', 't']
  | '\x08' => ['\\', 'b']
  | '\x0c' => ['\\', 'f']
  | char =>
      let code := char.toNat
      if 0x20 ≤ code ∧ code < 0x7f then [char]
      else if code < 0x10000 then unit code
      else unit (0xd800 + (code - 0x10000) / 0x400) ++ unit (0xdc00 + (code - 0x10000) % 0x400)

/-- One code point inside a quoted text. -/
def point : CodePoint → List Char
  | .character char => character char
  | surrogate => unit surrogate.code

/-- A quoted text. -/
def quoted (text : CodeText) : String :=
  String.ofList ('"' :: text.points.flatMap point ++ ['"'])

/-- The blanks before a line. -/
def margin (level : Nat) : String :=
  String.ofList (List.replicate (2 * level) ' ')

/-- Lines between two brackets, or the brackets alone. -/
def block (level : Nat) (opening closing : String) (lines : List String) : String :=
  if lines = [] then opening ++ closing
  else
    opening ++ "\n" ++
      ",\n".intercalate (lines.map fun line => margin (level + 1) ++ line) ++
      "\n" ++ margin level ++ closing

/-- A key. -/
def key : Data → String
  | text value => quoted value
  | integer value => quoted (toString value)
  | real value => quoted value.text
  | boolean value => quoted (if value then "true" else "false")
  | moment value => quoted value.text
  | bytes content => quoted (Text.quotedBytes content)
  | _ => quoted "null"

mutual

/-- The text of data at a level of indentation. -/
def write (level : Nat) : Data → String
  | null => "null"
  | boolean value => if value then "true" else "false"
  | integer value => toString value
  | real value => value.text
  | text value => quoted value
  | bytes content => quoted (Text.quotedBytes content)
  | moment value => quoted value.text
  | list values => block level "[" "]" (writeElements (level + 1) values)
  | set values => block level "[" "]" (writeElements (level + 1) values)
  | pair first second => block level "[" "]" [write (level + 1) first, write (level + 1) second]
  | mapping entries => block level "\x7b" "\x7d" (writeEntries (level + 1) entries)

/-- The texts of the elements of a list. -/
def writeElements (level : Nat) : List Data → List String
  | [] => []
  | value :: rest => write level value :: writeElements level rest

/-- The texts of the entries of a mapping. -/
def writeEntries (level : Nat) : List (Data × Data) → List String
  | [] => []
  | entry :: rest => writeEntry level entry :: writeEntries level rest

/-- The text of an entry of a mapping. -/
def writeEntry (level : Nat) : Data × Data → String
  | (name, value) => key name ++ ": " ++ write level value

end

end SchemaDecl.Data.Json

namespace SchemaDecl

/-- The JSON text of data. -/
def Data.toJson (data : Data) : String :=
  Data.Json.write 0 data

end SchemaDecl
