import SchemaDecl.Data.Check
import SchemaDecl.Data.Json
import SchemaDecl.Markup.Literal

/-!
# Reading JSON

A JSON text is one value with blanks around it and between its signs.  Two escapes in a row that are
the halves of a pair of UTF-16 units are one character; any other half is a surrogate.  Of entries
with the same key, the last one counts, in the place of the first.  A value inside of another is
shorter than that, so the characters of the text are as many levels and parts as there can be.
-/

namespace SchemaDecl.Data.Json

/-- Whether a character may stand between signs. -/
def isSpace (char : Char) : Bool :=
  char == ' ' || char == '\t' || char == '\n' || char == '\r'

/-- A text without the blanks at its head. -/
def skip (text : List Char) : List Char :=
  text.dropWhile isSpace

/-! ## Texts -/

/-- The character that a letter after a backslash stands for. -/
def escape? (letter : Char) : Option Char :=
  [('"', '"'), ('\\', '\\'), ('/', '/'), ('b', '\x08'), ('f', '\x0c'), ('n', '\n'), ('r', '\r'),
   ('t', '\t')].lookup letter

/-- The code points up to a closing quote, each escape by itself, and what follows the quote. -/
def pointsFrom : List Char → Option (List CodePoint × List Char)
  | [] => none
  | '"' :: rest => some ([], rest)
  | '\\' :: 'u' :: first :: second :: third :: fourth :: rest => do
      let code ← Markup.code? 4 [first, second, third, fourth]
      let point ← CodePoint.ofCode? code
      let (points, rest) ← pointsFrom rest
      return (point :: points, rest)
  | '\\' :: letter :: rest => do
      let char ← escape? letter
      let (points, rest) ← pointsFrom rest
      return (.character char :: points, rest)
  | char :: rest => do
      if char.toNat < 0x20 then none
      let (points, rest) ← pointsFrom rest
      return (.character char :: points, rest)

/-- Put a code point before others.  With the second half of a pair after it, a first half becomes
the character of the pair. -/
def joinPoint (point : CodePoint) (joined : List CodePoint) : List CodePoint :=
  match point, joined with
  | .surrogate first, .surrogate second :: rest =>
      if first.val < 0x400 ∧ 0x400 ≤ second.val then
        .character (Char.ofNat (0x10000 + first * 0x400 + (second - 0x400))) :: rest
      else .surrogate first :: .surrogate second :: rest
  | point, joined => point :: joined

/-- Code points with a character in the place of each pair of halves. -/
def joinPoints (points : List CodePoint) : List CodePoint :=
  points.foldr joinPoint []

/-- The text up to a closing quote, and what follows the quote. -/
def quotedFrom (text : List Char) : Option (CodeText × List Char) := do
  let (points, rest) ← pointsFrom text
  return (⟨joinPoints points⟩, rest)

/-! ## Numbers -/

/-- The digits after a letter for an exponent and perhaps a sign, whether the sign is that of a
negative number, and what follows. -/
def exponentFrom? : List Char → Option (Bool × List Char × List Char)
  | letter :: rest =>
      let (negative, unsigned) := Markup.splitSign rest
      let digits := unsigned.takeWhile Char.isDigit
      if (letter = 'e' ∨ letter = 'E') ∧ digits ≠ [] then
        some (negative, digits, unsigned.drop digits.length)
      else none
  | [] => none

/-- The number at the head of a text, and what follows it.  Digits alone are an integer, unless
there are too many of them. -/
def numberFrom (negative : Bool) (text : List Char) : Option (Data × List Char) :=
  let whole :=
    if text.head? = some '0' then ['0'] else text.takeWhile Char.isDigit
  let afterWhole := text.drop whole.length
  let (fraction, afterFraction) :=
    match Markup.splitPoint afterWhole with
    | ([], _) => ([], afterWhole)
    | parts => parts
  if whole = [] then none
  else
    let mantissa := Markup.decimalValue (whole ++ fraction)
    match exponentFrom? afterFraction with
    | some (small, digits, rest) =>
        let size : Int := Markup.decimalValue digits
        let exponent := if small then -size else size
        some (.real (Real.ofDecimal negative mantissa (exponent - fraction.length)), rest)
    | none =>
        if fraction ≠ [] then
          some (.real (Real.ofDecimal negative mantissa (-(fraction.length : Int))), afterFraction)
        else if digitLimit < whole.length then none
        else some (.integer (if negative then -(mantissa : Int) else mantissa), afterWhole)

/-! ## Values -/

/-- The value in words or digits at the head of a text, and what follows it. -/
def plainFrom (chars : List Char) : Option (Data × List Char) :=
  match chars with
  | 'n' :: 'u' :: 'l' :: 'l' :: rest => some (.null, rest)
  | 't' :: 'r' :: 'u' :: 'e' :: rest => some (.boolean true, rest)
  | 'f' :: 'a' :: 'l' :: 's' :: 'e' :: rest => some (.boolean false, rest)
  | 'N' :: 'a' :: 'N' :: rest => some (.real .undefined, rest)
  | 'I' :: 'n' :: 'f' :: 'i' :: 'n' :: 'i' :: 't' :: 'y' :: rest =>
      some (.real (.infinite false), rest)
  | '-' :: 'I' :: 'n' :: 'f' :: 'i' :: 'n' :: 'i' :: 't' :: 'y' :: rest =>
      some (.real (.infinite true), rest)
  | '-' :: rest => numberFrom true rest
  | chars => numberFrom false chars

/-- The key at the head of a text, and what follows the colon after it. -/
def keyFrom : List Char → Option (CodeText × List Char)
  | '"' :: rest => do
      let (key, rest) ← quotedFrom rest
      match skip rest with
      | ':' :: rest => return (key, skip rest)
      | _ => none
  | _ => none

/-- Put an entry into a mapping; the value of a key that is there is replaced. -/
def put (entries : List (CodeText × Data)) (entry : CodeText × Data) : List (CodeText × Data) :=
  match entries with
  | [] => [entry]
  | first :: rest => if first.1 = entry.1 then entry :: rest else first :: put rest entry

/-- The mapping of entries in the order in which they are written. -/
def ofEntries (entries : List (CodeText × Data)) : Data :=
  .mapping ((entries.foldl put []).map fun entry => (.text entry.1, entry.2))

/-- Parts with commas between them up to a closing sign, of which there is at least one, and what
follows the sign, with room for a number of parts. -/
def partsFrom {α : Type} (part : List Char → Option (α × List Char)) (closing : Char) :
    Nat → List Char → Option (List α × List Char)
  | 0, _ => none
  | room + 1, chars => do
      let (first, rest) ← part chars
      match skip rest with
      | [] => none
      | sign :: rest =>
          if sign = closing then return ([first], rest)
          else if sign = ',' then do
            let (later, rest) ← partsFrom part closing room (skip rest)
            return (first :: later, rest)
          else none

/-- Parts with commas between them, if there are any, up to a closing sign, and what follows it. -/
def bracketedFrom {α : Type} (part : List Char → Option (α × List Char)) (closing : Char)
    (room : Nat) (chars : List Char) : Option (List α × List Char) :=
  match skip chars with
  | [] => none
  | sign :: rest =>
      if sign = closing then some ([], rest) else partsFrom part closing room (sign :: rest)

/-- The entry at the head of a text, given how to read its value, and what follows it. -/
def entryFrom (value : List Char → Option (Data × List Char)) (chars : List Char) :
    Option ((CodeText × Data) × List Char) := do
  let (key, rest) ← keyFrom chars
  let (value, rest) ← value rest
  return ((key, value), rest)

/-- The value at the head of a text, and what follows it, with room for a number of levels and of
parts at each level. -/
def valueFrom : Nat → List Char → Option (Data × List Char)
  | 0, _ => none
  | room + 1, chars =>
      match chars with
      | '"' :: rest => (quotedFrom rest).map fun read => (.text read.1, read.2)
      | '[' :: rest =>
          (bracketedFrom (valueFrom room) ']' room rest).map fun read => (.list read.1, read.2)
      | '\x7b' :: rest =>
          (bracketedFrom (entryFrom (valueFrom room)) '\x7d' room rest).map fun read =>
            (ofEntries read.1, read.2)
      | chars => plainFrom chars

end SchemaDecl.Data.Json

namespace SchemaDecl

/-- The data that a JSON text stands for. -/
def Data.ofJson? (text : String) : Option Data := do
  let chars := text.toList
  let (data, rest) ← Json.valueFrom chars.length (Json.skip chars)
  if Json.skip rest = [] then return data else none

end SchemaDecl
