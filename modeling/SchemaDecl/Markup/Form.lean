/-!
# Forms of plain scalars

A plain scalar can have the form of a truth value, of the absent value, of an integer in one of
several bases or in sexagesimal places, of a number with a point, or of a moment.  Underscores may
stand between digits.  An exponent needs a sign, so a number such as `1e5` is a text.
-/

namespace SchemaDecl.Markup

/-- Whether a text is not empty and all its characters satisfy a predicate. -/
def isRunOf (text : List Char) (holds : Char → Bool) : Bool :=
  !text.isEmpty && text.all holds

/-- Whether a text consists of a number of digits within bounds. -/
def isDigits (least most : Nat) (text : List Char) : Bool :=
  least ≤ text.length && text.length ≤ most && text.all Char.isDigit

/-- The natural number that decimal digits stand for. -/
def decimalValue (digits : List Char) : Nat :=
  digits.foldl (fun number digit => number * 10 + (digit.toNat - '0'.toNat)) 0

/-- A text without a sign at its head. -/
def withoutSign : List Char → List Char
  | '-' :: rest => rest
  | '+' :: rest => rest
  | text => text

/-! ## Words -/

/-- The spellings of the truth values. -/
def truthWords : List (List Char) :=
  ["yes", "Yes", "YES", "no", "No", "NO", "true", "True", "TRUE", "false", "False", "FALSE", "on",
   "On", "ON", "off", "Off", "OFF"].map String.toList

/-- The spellings of the absent value. -/
def nullWords : List (List Char) :=
  ["", "~", "null", "Null", "NULL"].map String.toList

/-- The spellings of the infinite number, without a sign. -/
def infinityWords : List (List Char) :=
  [".inf", ".Inf", ".INF"].map String.toList

/-- The spellings of the undefined number. -/
def undefinedWords : List (List Char) :=
  [".nan", ".NaN", ".NAN"].map String.toList

/-! ## Numbers -/

/-- A decimal digit or an underscore. -/
def isDecimal (char : Char) : Bool :=
  char.isDigit || char == '_'

/-- A digit to the base sixteen or an underscore. -/
def isHexadecimal (char : Char) : Bool :=
  isDecimal char || ('a' ≤ char.toLower && char.toLower ≤ 'f')

/-- A place of a sexagesimal number after the first: one or two digits up to 59. -/
def isSixty (text : List Char) : Bool :=
  match text with
  | [digit] => digit.isDigit
  | [tens, ones] => '0' ≤ tens && tens ≤ '5' && ones.isDigit
  | _ => false

/-- Whether a text starts with a digit and goes on with digits and underscores. -/
def isCount (text : List Char) : Bool :=
  text.head?.any Char.isDigit && text.all isDecimal

/-- Whether a text has one or more sexagesimal places after a first one. -/
def isPlaces (text : List Char) : Bool :=
  match text.splitOn ':' with
  | first :: place :: places => isCount first && isSixty place && places.all isSixty
  | _ => false

/-- Whether a text has the form of an integer. -/
def isInteger (text : List Char) : Bool :=
  match withoutSign text with
  | ['0'] => true
  | '0' :: 'b' :: digits => isRunOf digits ("01_".toList.contains ·)
  | '0' :: 'x' :: digits => isRunOf digits isHexadecimal
  | '0' :: digits => isRunOf digits ("01234567_".toList.contains ·)
  | text => isCount text || isPlaces text

/-- Whether a text is empty or an exponent, which must have a sign. -/
def isExponent : List Char → Bool
  | [] => true
  | letter :: sign :: digits =>
      (letter == 'e' || letter == 'E') && (sign == '-' || sign == '+') &&
        isRunOf digits Char.isDigit
  | _ => false

/-- Whether a text is a point with what follows it: digits, and perhaps an exponent. -/
def isFraction (text : List Char) : Bool :=
  match text with
  | '.' :: rest => isExponent (rest.dropWhile isDecimal)
  | _ => false

/-- Whether a text has the form of a number with a point. -/
def isReal (text : List Char) : Bool :=
  let size := withoutSign text
  let whole := size.takeWhile fun char => isDecimal char || char == ':'
  let rest := size.drop whole.length
  infinityWords.contains size || undefinedWords.contains text ||
    (text.head? == some '.' && isCount (text.tail.takeWhile isDecimal) && isFraction text) ||
    (isCount whole && isFraction rest) ||
    (isPlaces whole && rest.head? == some '.' && rest.tail.all isDecimal)

/-! ## Moments -/

/-- A blank or a tab. -/
def isGap (char : Char) : Bool :=
  char == ' ' || char == '\t'

/-- The distance of a zone from universal time in a text. -/
structure ZoneText where
  behind : Bool
  hours : Nat
  minutes : Nat

/-- The time of day in the text of a moment. -/
structure TimeText where
  hour : Nat
  minute : Nat
  second : Nat
  /-- The digits after the point. -/
  fraction : List Char
  zone : Option ZoneText

/-- The parts of the text of a moment. -/
structure MomentText where
  year : Nat
  month : Nat
  day : Nat
  time : Option TimeText

/-- The text of a date: the lengths of its three parts, and their values. -/
def dateText? (text : List Char) : Option (List Nat × Nat × Nat × Nat) :=
  match text.splitOn '-' with
  | [year, month, day] =>
      if isDigits 4 4 year && isDigits 1 2 month && isDigits 1 2 day then
        some ([year.length, month.length, day.length], decimalValue year, decimalValue month,
          decimalValue day)
      else none
  | _ => none

/-- The text of a zone: a letter, or a sign with hours and perhaps minutes. -/
def zoneText? (text : List Char) : Option ZoneText :=
  match text with
  | ['Z'] => some ⟨false, 0, 0⟩
  | sign :: rest =>
      if sign = '-' ∨ sign = '+' then
        match rest.splitOn ':' with
        | [hours] =>
            if isDigits 1 2 hours then some ⟨sign == '-', decimalValue hours, 0⟩ else none
        | [hours, minutes] =>
            if isDigits 1 2 hours && isDigits 2 2 minutes then
              some ⟨sign == '-', decimalValue hours, decimalValue minutes⟩
            else none
        | _ => none
      else none
  | [] => none

/-- The digits after a point at the head of a text, and what follows them. -/
def splitFraction (text : List Char) : List Char × List Char :=
  match text with
  | '.' :: rest => (rest.takeWhile Char.isDigit, rest.dropWhile Char.isDigit)
  | _ => ([], text)

/-- The text of a time of day, with an optional fraction and zone. -/
def timeText? (text : List Char) : Option TimeText := do
  let hours := text.takeWhile Char.isDigit
  let rest := text.drop hours.length
  let minutes := (rest.drop 1).take 2
  let seconds := (rest.drop 4).take 2
  if !(isDigits 1 2 hours && rest.head? == some ':' && isDigits 2 2 minutes &&
      rest[3]? == some ':' && isDigits 2 2 seconds) then none
  let (fraction, rest) := splitFraction (rest.drop 6)
  let zone ← if rest = [] then some none else some <$> zoneText? (rest.dropWhile isGap)
  return ⟨decimalValue hours, decimalValue minutes, decimalValue seconds, fraction, zone⟩

/-- What follows the date in the text of a moment: nothing, or a time after a letter or blanks. -/
def afterDate? (text : List Char) : Option (Option TimeText) :=
  match text with
  | [] => some none
  | mark :: rest =>
      if mark = 'T' ∨ mark = 't' then some <$> timeText? rest
      else if isGap mark then some <$> timeText? (rest.dropWhile isGap)
      else none

/-- The parts of the text of a moment, with the lengths of the parts of the date. -/
def measuredMoment? (text : List Char) : Option (List Nat × MomentText) := do
  let date := text.takeWhile fun char => char.isDigit || char == '-'
  let (lengths, year, month, day) ← dateText? date
  let time ← afterDate? (text.drop date.length)
  return (lengths, ⟨year, month, day, time⟩)

/-- The parts of the text of a moment. -/
def momentText? (text : List Char) : Option MomentText :=
  Prod.snd <$> measuredMoment? text

/-- Whether a plain text is a moment.  The month and the day of a date without a time need two
digits each. -/
def isMoment (text : List Char) : Bool :=
  match measuredMoment? text with
  | none => false
  | some (lengths, moment) => moment.time.isSome || lengths == [4, 2, 2]

/-- A text without the line feed at its end, if it has one. -/
def withoutFinalBreak (text : List Char) : List Char :=
  if text.getLast? = some '\n' then text.dropLast else text

end SchemaDecl.Markup
