import SchemaDecl.Data
import SchemaDecl.Markup.Fault
import SchemaDecl.Markup.Form
import SchemaDecl.Markup.Scalar
import SchemaDecl.Text.Base64
import SchemaDecl.Text.Blank
import SchemaDecl.Text.Case
import SchemaDecl.Text.Digit

/-!
# Values of scalars

The text of a scalar is read as a value of a given kind.  Reading is more lenient than the forms by
which plain scalars are told apart, since a tag can ask for a kind that the text has not the form
of.  Underscores in numbers do not count, and digits of all scripts do.
-/

namespace SchemaDecl.Markup

/-- A sign at the head of a text, and what follows it. -/
def splitSign : List Char → Bool × List Char
  | '-' :: rest => (true, rest)
  | '+' :: rest => (false, rest)
  | text => (false, text)

/-- A sign at the head of code points, and what follows it. -/
def splitSignPoint : List CodePoint → Bool × List CodePoint
  | .character '-' :: rest => (true, rest)
  | .character '+' :: rest => (false, rest)
  | points => (false, points)

/-- A text without underscores. -/
def withoutUnderscores (text : CodeText) : List CodePoint :=
  text.points.filter (· != .character '_')

/-- A code point as a character of a number.  Digits of all scripts are those of ASCII, and blanks
beyond ASCII are spaces. -/
def numberChar (point : CodePoint) : Char :=
  let char := point.charOrReplacement
  if char.toNat < 0x80 then char
  else
    match Text.digitValue? char with
    | some value => Nat.digitChar value
    | none => if Text.isBlankChar char then ' ' else char

/-- Characters that may stand around a number. -/
def isNumberGap (char : Char) : Bool :=
  char == ' ' || ('\t' ≤ char && char ≤ '\r')

/-! ## Integers -/

/-- The value of a digit to a base up to sixteen. -/
def digitIn? (base : Nat) (digit : Char) : Option Nat :=
  (hexDigit? digit).filter (· < base)

/-- The natural number that digits stand for in a base. -/
def naturalIn (base : Nat) (digits : List Char) : Nat :=
  digits.foldl (fun number digit => number * base + (digitIn? base digit).getD 0) 0

/-- The letters by which digits in a base are marked. -/
def baseLetters (base : Nat) : List Char :=
  if base = 2 then ['b', 'B'] else if base = 8 then ['o', 'O']
  else if base = 16 then ['x', 'X'] else []

/-- Digits without the mark of a base. -/
def withoutMark (base : Nat) (digits : List Char) : List Char :=
  match digits with
  | '0' :: letter :: rest => if (baseLetters base).contains letter then rest else digits
  | _ => digits

/-- The integer that code points stand for in a base.  In base ten, too many digits are a fault
whatever comes after them. -/
def integerIn (base : Nat) (points : List CodePoint) : Except LiteralFault Int :=
  let (negative, text) := splitSign ((points.map numberChar).dropWhile isNumberGap)
  let text := withoutMark base text
  let digits := text.takeWhile fun char => (digitIn? base char).isSome
  if base = 10 ∧ LiteralFault.digitLimit < digits.length then .error (.manyDigits digits.length)
  else if digits = [] ∨ !(text.drop digits.length).all isNumberGap then
    .error (.integer base ⟨points⟩)
  else
    let value : Int := naturalIn base digits
    .ok (if negative then -value else value)

/-- The integer that sexagesimal places stand for. -/
def integerInSixties (places : List (List CodePoint)) : Except LiteralFault Int := do
  let values ← places.mapM (integerIn 10)
  return values.foldl (fun number value => number * 60 + value) 0

/-- The integer that code points without a sign stand for. -/
def readUnsigned (points : List CodePoint) : Except LiteralFault Int :=
  match points with
  | [] => .error .empty
  | [.character '0'] => .ok 0
  | .character '0' :: .character 'b' :: digits => integerIn 2 digits
  | .character '0' :: .character 'x' :: digits => integerIn 16 digits
  | .character '0' :: _ => integerIn 8 points
  | _ =>
      if points.contains (.character ':') then
        integerInSixties (points.splitOn (.character ':'))
      else integerIn 10 points

/-- The integer that a text stands for. -/
def readInteger (text : CodeText) : Except LiteralFault Int :=
  match withoutUnderscores text with
  | [] => .error .empty
  | first :: rest =>
      let (negative, size) := splitSignPoint (first :: rest)
      (fun value => if negative then -value else value) <$> readUnsigned size

/-! ## Numbers of double precision -/

/-- The exponent at the end of a decimal number, zero if there is none. -/
def exponent? (text : List Char) : Option Int :=
  match text with
  | [] => some 0
  | letter :: rest =>
      let (negative, digits) := splitSign rest
      if (letter = 'e' ∨ letter = 'E') ∧ digits ≠ [] ∧ digits.all Char.isDigit then
        some (if negative then -(decimalValue digits : Int) else decimalValue digits)
      else none

/-- The digits after a point at the head of a text, and what follows. -/
def splitPoint (text : List Char) : List Char × List Char :=
  match text with
  | '.' :: rest => (rest.takeWhile Char.isDigit, rest.dropWhile Char.isDigit)
  | _ => ([], text)

/-- The number in decimal digits, perhaps with a point and an exponent. -/
def decimal? (negative : Bool) (text : List Char) : Option Real := do
  let whole := text.takeWhile Char.isDigit
  let (fraction, rest) := splitPoint (text.drop whole.length)
  if whole = [] ∧ fraction = [] then none
  let exponent ← exponent? rest
  return Real.ofDecimal negative (decimalValue (whole ++ fraction))
    (exponent - fraction.length)

/-- A text without the characters around a number. -/
def withoutNumberGaps (text : List Char) : List Char :=
  ((text.dropWhile isNumberGap).reverse.dropWhile isNumberGap).reverse

/-- The number that code points in lower case stand for. -/
def realOf (points : List CodePoint) : Except LiteralFault Real :=
  let (negative, size) := splitSign (withoutNumberGaps (points.map numberChar))
  if size = "inf".toList ∨ size = "infinity".toList then .ok (.infinite negative)
  else if size = "nan".toList then .ok .undefined
  else
    match decimal? negative size with
    | some value => .ok value
    | none => .error (.real ⟨points⟩)

/-- Add sexagesimal places, the last one first, given the weight of the first of them. -/
def addSixties (weight : Nat) (sum : Real) : List Real → Except LiteralFault Real
  | [] => .ok sum
  | place :: places =>
      match Real.ofQuotient false weight 1 with
      | .infinite _ => .error .tooLarge
      | factor => addSixties (weight * 60) (sum.add (factor.scale place)) places

/-- The number that sexagesimal places stand for. -/
def realInSixties (places : List (List CodePoint)) : Except LiteralFault Real := do
  let values ← places.mapM realOf
  addSixties 1 (.zero false) values.reverse

/-- Code points in lower case, given the characters that come directly before them, backwards. -/
def loweredFrom (before : List Char) : List CodePoint → List CodePoint
  | [] => (Text.lowered before.reverse).map .character
  | .character char :: rest => loweredFrom (char :: before) rest
  | point :: rest => (Text.lowered before.reverse).map .character ++ point :: loweredFrom [] rest

/-- The sign of a number, and what follows it in lower case. -/
def splitReal (text : CodeText) : Bool × List CodePoint :=
  splitSignPoint (loweredFrom [] (withoutUnderscores text))

/-- Whether code points are some characters. -/
def areChars (points : List CodePoint) (chars : String) : Bool :=
  points == (CodeText.ofString chars).points

/-- Whether a text is the word for the undefined number, with or without a sign. -/
def isUndefinedWord (text : CodeText) : Bool :=
  areChars (splitReal text).2 ".nan"

/-- The number that code points in lower case without a sign stand for. -/
def readUnsignedReal (points : List CodePoint) : Except LiteralFault Real :=
  if areChars points ".inf" then .ok (.infinite false)
  else if areChars points ".nan" then .ok .undefined
  else if points.contains (.character ':') then
    realInSixties (points.splitOn (.character ':'))
  else realOf points

/-- The number that a text stands for. -/
def readReal (text : CodeText) : Except LiteralFault Real :=
  if withoutUnderscores text = [] then .error .empty
  else
    let (negative, size) := splitReal text
    (fun value => if negative then value.negate else value) <$> readUnsignedReal size

/-! ## Other kinds -/

/-- The words for the truth values in lower case. -/
def truthValues : List (List Char × Bool) :=
  [("yes", true), ("no", false), ("true", true), ("false", false), ("on", true),
   ("off", false)].map fun entry => (entry.1.toList, entry.2)

/-- The truth value that a word of letters of either case stands for. -/
def readTruth (text : CodeText) : Except LiteralFault Bool :=
  match truthValues.lookup (Text.lowered text.replaced) with
  | some value => .ok value
  | none => .error .truth

/-- The microseconds that the digits after a point stand for. -/
def microseconds (fraction : List Char) : Nat :=
  let digits := fraction.take 6
  decimalValue (digits ++ List.replicate (6 - digits.length) '0')

/-- The seconds by which a zone is ahead of universal time. -/
def zoneSeconds (zone : ZoneText) : Int :=
  let seconds : Nat := zone.hours * 3600 + zone.minutes * 60
  if zone.behind then -(seconds : Int) else seconds

/-- The moment that the parts of a text stand for. -/
def momentOf (moment : MomentText) : Except CalendarFault Moment :=
  match moment.time with
  | none => Moment.date <$> Date.ofParts moment.year moment.month moment.day
  | some time => do
      let offset ← match time.zone with
        | none => pure none
        | some zone => some <$> Moment.checkOffset (zoneSeconds zone)
      let day ← Date.ofParts moment.year moment.month moment.day
      let clock ← Time.ofParts time.hour time.minute time.second (microseconds time.fraction)
      return .time day clock offset

/-- The moment that a text stands for. -/
def readMoment (text : CodeText) : Except LiteralFault Moment :=
  match momentText? (withoutFinalBreak text.replaced) with
  | none => .error .moment
  | some moment => (momentOf moment).mapError .calendar

/-- The bytes that a text stands for. -/
def readBinary (text : CodeText) : Except MarkupFault (List UInt8) :=
  let chars := text.replaced
  if chars.all (·.toNat < 128) then
    match Text.Base64.decode chars with
    | some bytes => .ok bytes
    | none => .error .form
  else .error .form

end SchemaDecl.Markup
