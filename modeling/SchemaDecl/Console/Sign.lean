import SchemaDecl.Text.Word

/-!
# Signs of plain values

A plain value is written in signs: numbers, quoted texts, the names of constants, brackets, and a
few marks.  Blanks and comments stand between signs.  Line ends count unless a bracket is open.
-/

namespace SchemaDecl.Console

/-- A sign of a plain value. -/
inductive ValueSign where
  | opening (bracket : Char)
  | closing (bracket : Char)
  | comma
  | colon
  | plus
  | minus
  /-- A number without a sign. -/
  | number
  /-- A number that is imaginary. -/
  | imaginary
  /-- A quoted text. -/
  | text
  /-- Quoted bytes. -/
  | bytes
  /-- One of the three constants, or three points. -/
  | constant
  /-- The name of the sets. -/
  | setName
  | lineEnd
  deriving DecidableEq, Repr

namespace ValueSign

/-! ## Names -/

/-- Whether a character can be part of a name. -/
def isNameChar (char : Char) : Bool :=
  char.isAlphanum || char == '_' || 128 ≤ char.toNat

/-- The words for constants. -/
def constants : List (List Char) :=
  ["True".toList, "False".toList, "None".toList]

/-- The sign that a name is. -/
def ofName? (name : List Char) : Option ValueSign :=
  if constants.contains name then some constant
  else if name = "set".toList then some setName
  else none

/-! ## Numbers -/

/-- The number of characters of digits at the head of a text.  An underscore can stand between two
digits. -/
def digitsLength (isDigit : Char → Bool) : List Char → Nat
  | [] => 0
  | [char] => if isDigit char then 1 else 0
  | char :: next :: rest =>
      if !isDigit char then 0
      else if next = '_' ∧ rest.head?.any isDigit then 2 + digitsLength isDigit rest
      else 1 + digitsLength isDigit (next :: rest)

/-- Whether a character is a digit to a base, by the letter that marks the base. -/
def baseDigit? (letter : Char) : Option (Char → Bool) :=
  match letter.toLower with
  | 'x' => some fun char =>
      char.isDigit || ('a' ≤ char.toLower && char.toLower ≤ 'f')
  | 'o' => some fun char => '0' ≤ char && char ≤ '7'
  | 'b' => some fun char => char == '0' || char == '1'
  | _ => none

/-- The length of a number to another base than ten, if a text begins with one. -/
def basedLength? (text : List Char) : Option Nat :=
  match text with
  | '0' :: letter :: rest =>
      (baseDigit? letter).map fun isDigit =>
        let gap := if rest.head? = some '_' then 1 else 0
        let length := digitsLength isDigit (rest.drop gap)
        if length = 0 then 0 else 2 + gap + length
  | _ => none

/-- The number of characters of a point with the digits after it. -/
def fractionLength (text : List Char) : Nat :=
  if text.head? = some '.' then 1 + digitsLength Char.isDigit text.tail else 0

/-- The number of characters of an exponent. -/
def exponentLength (text : List Char) : Nat :=
  if text.head?.any fun char => char == 'e' || char == 'E' then
    let sign := if text.tail.head?.any fun char => char == '+' || char == '-' then 1 else 0
    let length := digitsLength Char.isDigit (text.drop (1 + sign))
    if length = 0 then 0 else 1 + sign + length
  else 0

/-- Whether digits are a whole number: one that starts with zero is zero. -/
def isWhole (digits : List Char) : Bool :=
  digits.head? != some '0' || digits.all fun char => char == '0' || char == '_'

/-- The number to the base ten that a text begins with, and its length. -/
def decimal? (text : List Char) : Option (ValueSign × Nat) :=
  let whole := digitsLength Char.isDigit text
  let fraction := fractionLength (text.drop whole)
  let exponent := exponentLength (text.drop (whole + fraction))
  let length := whole + fraction + exponent
  if text[length]?.any fun char => char == 'j' || char == 'J' then some (imaginary, length + 1)
  else if fraction + exponent = 0 ∧ !isWhole (text.take whole) then none
  else some (number, length)

/-- The number that a text begins with, and its length.  No name may follow at once. -/
def number? (text : List Char) : Option (ValueSign × Nat) :=
  let found :=
    match basedLength? text with
    | some length => if length = 0 then none else some (number, length)
    | none => decimal? text
  found.filter fun found => !(text[found.2]?.any isNameChar)

/-! ## Quoted texts -/

/-- The characters before the closing quotes, and the length of both.  A line ends a text between
single quotes, and a character after a backslash ends nothing. -/
def body? (quote : Char) (triple : Bool) : List Char → Option (List Char × Nat)
  | [] => none
  | ['\\'] => none
  | '\\' :: char :: rest =>
      (body? quote triple rest).map fun body => ('\\' :: char :: body.1, body.2 + 2)
  | char :: rest =>
      if triple then
        if char = quote ∧ rest.take 2 = [quote, quote] then some ([], 3)
        else (body? quote triple rest).map fun body => (char :: body.1, body.2 + 1)
      else if char = quote then some ([], 1)
      else if char = '\n' then none
      else (body? quote triple rest).map fun body => (char :: body.1, body.2 + 1)

/-- Whether a text begins with a number of digits to the base sixteen, and their value. -/
def code? (count : Nat) (text : List Char) : Option Nat :=
  let digits := text.take count
  if digits.length = count then
    digits.foldlM (fun code digit =>
      (baseDigit? 'x').bind fun isDigit =>
        if isDigit digit then
          some (code * 16 +
            if digit.isDigit then digit.toNat - '0'.toNat
            else digit.toLower.toNat - 'a'.toNat + 10)
        else none) 0
  else none

/-- Whether a text begins with the name of a character between braces. -/
def startsWithCharName (text : List Char) : Bool :=
  match text with
  | '\x7b' :: rest =>
      let name := rest.takeWhile (· != '\x7d')
      2 ≤ name.length && rest[name.length]? == some '\x7d' &&
        name.all fun char => char.isAlphanum || char == ' ' || char == '-'
  | _ => false

/-- Whether what follows a backslash stands for something. -/
def isEscape (inBytes : Bool) (text : List Char) : Bool :=
  match text with
  | 'x' :: rest => (code? 2 rest).isSome
  | 'u' :: rest => inBytes || (code? 4 rest).isSome
  | 'U' :: rest => inBytes || (code? 8 rest).any (· < 0x110000)
  | 'N' :: rest => inBytes || startsWithCharName rest
  | _ => true

/-- Whether all backslashes of a text stand before something that has a meaning. -/
def areEscapes (inBytes : Bool) : List Char → Bool
  | [] => true
  | '\\' :: char :: rest => isEscape inBytes (char :: rest) && areEscapes inBytes rest
  | _ :: rest => areEscapes inBytes rest

/-- The quoted text that a text begins with after a prefix, and its length. -/
def quoted? (startsWith : List Char) (text : List Char) : Option (ValueSign × Nat) := do
  let startsWith := startsWith.map Char.toLower
  let inBytes := startsWith.contains 'b'
  guard (["", "r", "u", "b", "br", "rb"].any fun known => known.toList == startsWith)
  let quote ← text.head?
  let triple := text.take 3 = [quote, quote, quote]
  let opening := if triple then 3 else 1
  let (body, length) ← body? quote triple (text.drop opening)
  guard (startsWith.contains 'r' || areEscapes inBytes body)
  guard (!inBytes || body.all (·.toNat < 128))
  return (if inBytes then bytes else .text, opening + length)

/-! ## Reading signs -/

/-- Whether a character is a quote. -/
def isQuote (char : Char) : Bool :=
  char == '\'' || char == '"'

/-- The sign that a single character is. -/
def ofChar? : Char → Option ValueSign
  | '(' => some (opening '(')
  | '[' => some (opening '[')
  | '\x7b' => some (opening '\x7b')
  | ')' => some (closing ')')
  | ']' => some (closing ']')
  | '\x7d' => some (closing '\x7d')
  | ',' => some comma
  | ':' => some colon
  | '+' => some plus
  | '-' => some minus
  | _ => none

/-- The sign that a text begins with, and its length. -/
def first? (text : List Char) : Option (ValueSign × Nat) := do
  let char ← text.head?
  if text.take 3 = ['.', '.', '.'] then return (constant, 3)
  else if char.isDigit ∨ char = '.' ∧ text.tail.head?.any Char.isDigit then number? text
  else if isQuote char then quoted? [] text
  else if isNameChar char then
    let name := text.takeWhile isNameChar
    let rest := text.drop name.length
    if rest.head?.any isQuote then
      (quoted? name rest).map fun found => (found.1, name.length + found.2)
    else (ofName? name).map fun sign => (sign, name.length)
  else (ofChar? char).map fun sign => (sign, 1)

/-- The number of brackets that can be open at once. -/
def bracketLimit : Nat := 200

/-- The number of open brackets after a sign, unless that is too high. -/
def depthAfter? (depth : Nat) : ValueSign → Option Nat
  | opening _ => if depth < bracketLimit then some (depth + 1) else none
  | closing _ => some (depth - 1)
  | _ => some depth

/-- A blank between signs. -/
def isGap (char : Char) : Bool :=
  char == ' ' || char == '\t' || char == '\x0c'

/-- Whether a line has no blanks at its head unless nothing but a comment follows them.  A form feed
undoes the blanks before it, and a line that a backslash continues passes its own blanks on. -/
def isFlush (indented passed : Bool) : List Char → Bool
  | [] => true
  | '\x0c' :: rest => isFlush false passed rest
  | '\\' :: '\n' :: rest => isFlush indented (passed || indented) rest
  | char :: rest =>
      if isGap char then isFlush true passed rest
      else char == '\n' || char == '#' || !(indented || passed)

/-- The signs of a text, given how many brackets are open.  The first `skip` characters have been
read. -/
def read? (depth skip : Nat) : List Char → Option (List ValueSign)
  | [] => some []
  | char :: rest =>
      match skip with
      | skip + 1 => read? depth skip rest
      | 0 =>
          if isGap char then read? depth 0 rest
          else if char = '#' then read? depth (rest.takeWhile (· != '\n')).length rest
          else if char = '\\' then if rest.head? = some '\n' then read? depth 1 rest else none
          else if char = '\n' then
            if depth ≠ 0 then read? depth 0 rest
            else if isFlush false false rest then (read? depth 0 rest).map (lineEnd :: ·)
            else none
          else do
            let (sign, length) ← first? (char :: rest)
            let depth ← depthAfter? depth sign
            return sign :: (← read? depth (length - 1) rest)

end ValueSign

end SchemaDecl.Console
