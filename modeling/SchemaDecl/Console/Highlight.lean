import SchemaDecl.Console.Pattern
import SchemaDecl.Text.Digit
import SchemaDecl.Text.Word

/-!
# Highlights

The console gives a look of their own to parts of a text that stand out: brackets, numbers, quoted
texts, constants, paths, addresses and the like.  Each highlight is a range of characters.
-/

namespace SchemaDecl.Console.Highlight

open Pattern

/-! ## Kinds of characters -/

/-- A digit of ASCII. -/
def digit : Pattern :=
  one Char.isDigit

/-- A digit of any script. -/
def anyDigit : Pattern :=
  one fun char => (Text.digitValue? char).isSome

/-- Whether a character is a digit to the base sixteen, in either case. -/
def isHex (char : Char) : Bool :=
  char.isDigit || ('a' ≤ char.toLower && char.toLower ≤ 'f')

/-- A digit to the base sixteen. -/
def hex : Pattern :=
  one isHex

/-- A character of a word. -/
def letter : Pattern :=
  one Text.isWordChar

/-- A character of a word, or one of some others. -/
def letterOr (chars : String) : Pattern :=
  one fun char => Text.isWordChar char || chars.toList.contains char

/-- Any character of the same line. -/
def inLine : Pattern :=
  one (· != '\n')

/-! ## Kinds of places -/

/-- Whether a character is there and can be part of a word. -/
def isLetter (char : Option Char) : Bool :=
  char.any Text.isWordChar

/-- The beginning or the end of a word. -/
def edge : Pattern :=
  between fun before after => isLetter before != isLetter after

/-- A place that is no beginning and no end of a word. -/
def noEdge : Pattern :=
  between fun before after => isLetter before == isLetter after

/-- A place after no character of a word. -/
def afterNoLetter : Pattern :=
  between fun before _ => !isLetter before

/-- A place after no backslash. -/
def afterNoBackslash : Pattern :=
  between fun before _ => before != some '\\'

/-! ## What stands out -/

/-- Something between angle brackets. -/
def bracketed : Pattern :=
  all [marked (word "<"), marked (many (letterOr "-.:|")), marked (many (one fun _ => true)),
    marked (word ">")]

/-- A name with an equals sign, and the value after it. -/
def assignment : Pattern :=
  all [marked (upTo 1 50 letter), word "=",
    maybe (marked (all [maybe (word "\""), several letter, maybe (word "\"")]))]

/-- A bracket. -/
def bracket : Pattern :=
  marked (oneOf "][\x7b\x7d()")

/-- Groups of digits to the base sixteen with a sign after each but the last. -/
def hexGroups (count least most : Nat) (sign : String) : Pattern :=
  all [fixed count (all [upTo least most hex, word sign]), upTo least most hex]

/-- An address of a network. -/
def address : Pattern :=
  anyOf
    [marked (all [fixed 3 (all [upTo 1 3 digit, word "."]), upTo 1 3 digit]),
     marked
      (all [upTo 1 7 (all [upTo 1 4 hex, word ":", maybe (word ":")]), upTo 1 4 hex]),
     marked (anyOf [hexGroups 7 1 2 "-", hexGroups 7 1 2 ":", hexGroups 3 4 4 "."]),
     marked (anyOf [hexGroups 5 1 2 "-", hexGroups 5 1 2 ":", hexGroups 2 4 4 "."])]

/-- A universally unique identifier. -/
def identifier : Pattern :=
  marked
    (all [fixed 8 hex, word "-", fixed 4 hex, word "-", fixed 4 hex, word "-", fixed 4 hex,
      word "-", fixed 12 hex])

/-- A name before an opening parenthesis. -/
def call : Pattern :=
  all [marked (few (letterOr ".")), word "("]

/-- A word that stands for a constant. -/
def constant : Pattern :=
  anyOf (["True", "False", "None"].map fun name => all [edge, marked (word name), edge])

/-- The exponent of a number; of its digits all or as few as possible. -/
def exponent (eager : Bool) : Pattern :=
  all [word "e", maybe (oneOf "-+"), times 1 none eager anyDigit]

/-- The digits of a number, and those after its point. -/
def decimal : Pattern :=
  all [several digit, maybe (word "."), many digit]

/-- A number with an imaginary part. -/
def complex : Pattern :=
  marked
    (all [afterNoLetter, maybe (word "-"), decimal, maybe (exponent false),
      maybe (all [oneOf "-+", decimal, maybe (exponent true)]), word "j"])

/-- A number. -/
def number : Pattern :=
  marked
    (either
      (all [afterNoLetter, maybe (word "-"), decimal, maybe (exponent false), edge])
      (all [word "0x", many hex]))

/-- A path with the name at its end. -/
def path : Pattern :=
  all [marked (all [noEdge, many (all [word "/", several (letterOr "-._+")]), word "/"]),
    maybe (marked (many (letterOr "-._+")))]

/-- A text between quotes. -/
def quotedBy (quotes : String) : Pattern :=
  all [maybe (word "b"), word quotes, few inLine, afterNoBackslash, word quotes]

/-- A text between quotes of any kind. -/
def quoted : Pattern :=
  all [between fun before _ => !(isLetter before || before == some '\\'),
    marked (anyOf (["'''", "'", "\"\"\"", "\""].map quotedBy))]

/-- An address of a document. -/
def link : Pattern :=
  marked
    (all [anyOf (["file", "https", "http", "ws", "wss"].map word), word "://",
      many (one fun char => char.isAlphanum || "-$_+!`(),.?/;:&=%#~@".toList.contains char)])

/-- What stands out by itself. -/
def item : Pattern :=
  anyOf [address, identifier, call, constant, marked (word "..."), complex, number, path, quoted,
    link]

/-- The patterns of the highlights. -/
def patterns : List Pattern :=
  [bracketed, assignment, bracket, item]

end SchemaDecl.Console.Highlight

namespace SchemaDecl.Console

/-- The highlights of a text. -/
def highlights (text : List Char) : List Range :=
  Highlight.patterns.flatMap fun pattern => pattern.marks text

end SchemaDecl.Console
